/-!
# A file system

Directories and files without links, under a root. Paths are texts; the directories on the way to
a file must be there. `node?_put` and `node?_put_of_ne` say what putting something in its place does
and what it leaves alone.
-/
namespace BuildFleet

inductive IoError where
  | notFound
  | permissionDenied
  | alreadyExists
  | notADirectory
  | isADirectory
  | nameTooLong
  | nulInFileName
  | nulInArgument
  | other (text : String)
  deriving DecidableEq, Repr

def IoError.message : IoError → String
  | notFound => "No such file or directory (os error 2)"
  | permissionDenied => "Permission denied (os error 13)"
  | alreadyExists => "File exists (os error 17)"
  | notADirectory => "Not a directory (os error 20)"
  | isADirectory => "Is a directory (os error 21)"
  | nameTooLong => "File name too long (os error 36)"
  | nulInFileName => "file name contained an unexpected NUL byte"
  | nulInArgument => "nul byte found in provided data"
  | other text => text

/-! ## Paths -/

namespace Path

def isAbsolute (path : String) : Bool := path.toList.head? == some '/'

/-- A path below another; an absolute path stands for itself. -/
def join (base path : String) : String :=
  if isAbsolute path then path
  else if base.isEmpty || base.toList.getLast? == some '/' then base ++ path
  else base ++ "/" ++ path

/-- The pieces between slashes. -/
def pieces (held : List Char) : List Char → List String
  | [] => [String.ofList held.reverse]
  | c :: rest =>
    if c = '/' then String.ofList held.reverse :: pieces [] rest else pieces (c :: held) rest

/-- The names on a path, without the empty ones. -/
def names (path : String) : List String := (pieces [] path.toList).filter (· ≠ "")

/-- A path with a slash at its end leads to a directory. -/
def endsInSlash (path : String) : Bool := path.toList.getLast? == some '/'

end Path

/-- A place in the file system: the names that lead there from the root. -/
abbrev Location := List String

inductive Node where
  | directory
  | file (content : List UInt8)
  deriving DecidableEq, Repr

/-- The nodes by location, the latest first. The root is always a directory. -/
structure FileSystem where
  nodes : List (Location × Node)
  deriving Repr

namespace FileSystem

def empty : FileSystem := ⟨[]⟩

def find? (location : Location) : List (Location × Node) → Option Node
  | [] => none
  | (l, node) :: rest => if l = location then some node else find? location rest

def node? (fs : FileSystem) (location : Location) : Option Node :=
  if location = [] then some .directory else find? location fs.nodes

def put (fs : FileSystem) (location : Location) (node : Node) : FileSystem :=
  ⟨(location, node) :: fs.nodes.filter fun e => !decide (e.1 = location)⟩

theorem find?_filter_of_ne {l location : Location} (h : l ≠ location)
    (nodes : List (Location × Node)) :
    find? l (nodes.filter fun e => !decide (e.1 = location)) = find? l nodes := by
  induction nodes with
  | nil => rfl
  | cons e rest ih =>
    obtain ⟨l', node⟩ := e
    by_cases hl : l' = location
    · subst hl
      simp [find?, ih, Ne.symm h]
    · simp [find?, ih, hl]

theorem node?_put_of_ne {l location : Location} (h : l ≠ location) (fs : FileSystem)
    (node : Node) : (fs.put location node).node? l = fs.node? l := by
  simp [node?, put, find?, find?_filter_of_ne h, Ne.symm h]

theorem node?_put {location : Location} (h : location ≠ []) (fs : FileSystem) (node : Node) :
    (fs.put location node).node? location = some node := by
  simp [node?, put, find?, h]

/-! ## Following paths -/

def maxName : Nat := 255

def maxPath : Nat := 4095

/-- Follows names from a location. Each but the last must lead to a directory; the last may lead to
nothing. A single dot leads to the directory that it stands in, so there must be one. -/
def follow (fs : FileSystem) (location : Location) : List String → Except IoError Location
  | [] => .ok location
  | name :: names =>
    match fs.node? location with
    | none => .error .notFound
    | some (.file _) => .error .notADirectory
    | some .directory =>
      if name = "." then follow fs location names
      else if name = ".." then follow fs location.dropLast names
      else if maxName < name.utf8ByteSize then .error .nameTooLong
      else follow fs (location ++ [name]) names

/-- Why no file can have the path, whatever the files are. -/
def pathFault (path : String) : Option IoError :=
  if path.toList.contains '\x00' then some .nulInFileName
  else if path.isEmpty then some .notFound
  else if maxPath < path.utf8ByteSize then some .nameTooLong
  else none

/-- The location that a path leads to. With a slash at its end it leads to no file. -/
def locate (fs : FileSystem) (path : String) : Except IoError Location :=
  match pathFault path with
  | some fault => .error fault
  | none =>
    match fs.follow [] (Path.names path) with
    | .error e => .error e
    | .ok location =>
      match fs.node? location with
      | some (.file _) => if Path.endsInSlash path then .error .notADirectory else .ok location
      | _ => .ok location

/-- The location of a file that is to be written. A slash at the end of the path asks for a
directory, once the way there is known to be one. -/
def locateTarget (fs : FileSystem) (path : String) : Except IoError Location :=
  match pathFault path with
  | some fault => .error fault
  | none =>
    if Path.endsInSlash path then
      match fs.follow [] ((Path.names path).dropLast ++ ["."]) with
      | .error e => .error e
      | .ok _ => .error .isADirectory
    else fs.follow [] (Path.names path)

/-! ## Operations -/

def probe (fs : FileSystem) (path : String) : Except IoError Bool :=
  match fs.locate path with
  | .ok location => .ok (fs.node? location).isSome
  | .error .notFound => .ok false
  | .error e => .error e

def read (fs : FileSystem) (path : String) : Except IoError (List UInt8) :=
  match fs.locate path with
  | .error e => .error e
  | .ok location =>
    match fs.node? location with
    | none => .error .notFound
    | some .directory => .error .isADirectory
    | some (.file content) => .ok content

/-- Gives a file its content, and makes it if need be. -/
def write (fs : FileSystem) (path : String) (content : List UInt8) :
    Except IoError Unit × FileSystem :=
  match fs.locateTarget path with
  | .error e => (.error e, fs)
  | .ok location =>
    match fs.node? location with
    | some .directory => (.error .isADirectory, fs)
    | _ => (.ok (), fs.put location (.file content))

/-- Nothing but dots is left, and at least one. -/
def onlyDots (names : List String) : Bool := !names.isEmpty && names.all (· == ".")

/-- Makes the directories that are missing on the way, name by name. A name in front of final dots
must lead to a directory already. A file in the way has the place of a directory to be made, or it
is no directory to pass through: the latter as long as nothing was `made`, because then the whole
path is tried at once. -/
def makeFrom (fs : FileSystem) (location : Location) (made : Bool) :
    List String → Except IoError Unit × FileSystem
  | [] => (.ok (), fs)
  | name :: names =>
    if name = "." then makeFrom fs location made names
    else if name = ".." then makeFrom fs location.dropLast made names
    else if maxName < name.utf8ByteSize then (.error .nameTooLong, fs)
    else
      let next := location ++ [name]
      match fs.node? next with
      | some .directory => makeFrom fs next made names
      | some (.file _) =>
        (.error (if names.isEmpty || (made && !onlyDots names) then .alreadyExists
          else .notADirectory), fs)
      | none =>
        if onlyDots names then (.error .notFound, fs)
        else makeFrom (fs.put next .directory) next true names

/-- Makes a directory and those on the way to it, as far as they are missing. -/
def makeDirs (fs : FileSystem) (path : String) : Except IoError Unit × FileSystem :=
  if path.isEmpty then (.ok (), fs)
  else match pathFault path with
    | some fault => (.error fault, fs)
    | none => fs.makeFrom [] false (Path.names path)

/-- The names of what is in a directory, in the order of their bytes. -/
def list (fs : FileSystem) (path : String) : Except IoError (List String) :=
  match fs.locate path with
  | .error e => .error e
  | .ok location =>
    match fs.node? location with
    | none => .error .notFound
    | some (.file _) => .error .notADirectory
    | some .directory =>
      .ok <| (fs.nodes.filterMap fun e =>
        if e.1.dropLast = location then e.1.getLast? else none).mergeSort (· ≤ ·)

end FileSystem

end BuildFleet
