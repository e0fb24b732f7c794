import BuildFleet.FileProgram
/-!
# Directories for the output of setups (`prepare_output_dir`)

Each creation with setup has a directory of its own among the temporary files.
-/
namespace BuildFleet.Setup

def outputDirPath (tempDir token : String) : String := Path.join tempDir ("gomote-" ++ token)

/-- Makes the directory that a token stands for (`prepare_output_dir`). -/
def makeOutputDir (tempDir token : String) : FileProgram (Except IoError String) :=
  let path := outputDirPath tempDir token
  .makeDirs path fun made => .done (made.map fun () => path)

end BuildFleet.Setup
