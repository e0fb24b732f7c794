import BuildFleet.FileSystem
import BuildFleet.Text.Blank
/-!
# Configuration (`GomoteConfig`)

The settings of the program, from its environment. A variable that is blank counts as not set.
-/
namespace BuildFleet

/-- The settings of the program (`GomoteConfig`). -/
structure Config where
  serverAddr : String
  coordinatorUrl : String
  /-- Where the builder catalog is served. -/
  buildersUrl : String
  /-- The group that instances are recorded in unless a new one is made. -/
  activeGroup : Option String
  groupDir : String
  /-- The program that pushes to instances and runs commands on them. -/
  bin : String
  /-- The source tree that is pushed; asked for when it is needed if it is not set. -/
  goroot : Option String
  deriving DecidableEq, Repr

namespace Config

/-- The directory for a user's settings (`user_config_dir`). -/
def userDir (lookup : String → Option String) (tempDir : String) : String :=
  match lookup "XDG_CONFIG_HOME", lookup "HOME" with
  | some dir, _ => dir
  | none, some home => Path.join home ".config"
  | none, none => tempDir

/-- The settings that an environment makes (`from_lookup`). -/
def ofEnvironment (environment : String → Option String) (tempDir : String) : Config :=
  let lookup (key : String) : Option String :=
    (environment key).filter fun value => !Text.isBlank value
  { serverAddr := (lookup "GOMOTE_SERVER_ADDR").getD "https://gomote.golang.org:443"
    coordinatorUrl := (lookup "GOMOTE_COORDINATOR_URL").getD "https://farmer.golang.org"
    buildersUrl :=
      (lookup "GOMOTE_BUILDERS_URL").getD "https://farmer.golang.org/builders?mode=json"
    activeGroup := lookup "GOMOTE_GROUP"
    groupDir := (lookup "GOMOTE_GROUP_DIR").getD
      (Path.join (Path.join (userDir lookup tempDir) "gomote") "groups")
    bin := (lookup "GOMOTE_BIN").getD "gomote"
    goroot := lookup "GOROOT" }

end Config

end BuildFleet
