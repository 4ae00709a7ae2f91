import SurfaceHost.Files.Path

/-!
# The surroundings of a command

The disk, the platform and the environment that a command finds where it runs.
-/

namespace SurfaceHost

/-! ### Disks

A disk is a tree of directories and files.  Among the files are shared libraries,
known by the names that they export.
-/

/-- A shared library: the names of the functions that it exports. -/
structure Image where
  exports : List String
  deriving DecidableEq, Repr

/-- Something on a disk. -/
inductive Node where
  | directory (entries : List (String × Node))
  | file (text : String)
  | library (image : Image)

namespace Node

/-- What is below, given by all the names on the way. -/
def get? : Node → List String → Option Node
  | n, [] => some n
  | directory entries, name :: rest => do (← entries.lookup name).get? rest
  | _, _ :: _ => none

/-- Puts `new` below, instead of what was there, and makes the directories on the way.
Nothing is put below a file, and a directory stays when it is made again. -/
def install (new : Node) : Node → List String → Node
  | old, [] =>
    match new with
    | directory _ => old
    | _ => new
  | directory entries, name :: rest =>
    let old := (entries.lookup name).getD (directory [])
    directory ((name, install new old rest) :: entries.filter (·.1 ≠ name))
  | old, _ :: _ => old

end Node

/-- Why there is nothing to be had at a path. -/
inductive FileError where
  | missing
  | notDirectory
  | isDirectory
  | nameTooLong
  | invalid
  deriving DecidableEq, Repr

/-- The wording of a `FileError`. -/
def FileError.message : FileError → String
  | .missing => "no such file or directory"
  | .notDirectory => "not a directory"
  | .isDirectory => "is a directory"
  | .nameTooLong => "file name too long"
  | .invalid => "invalid argument"

/-- A tree of directories and files. -/
structure Disk where
  root : Node := .directory []

namespace Disk

/-- What is at a place, given by all the names from the root. -/
def get? (d : Disk) (place : List String) : Option Node :=
  d.root.get? place

/-- Puts something at a place and makes the directories above it. -/
def install (d : Disk) (place : List String) (node : Node) : Disk :=
  { root := node.install d.root place }

/-- How many bytes a name may have. -/
def maxName : Nat := 255

/-- How many bytes a path may have. -/
def maxPath : Nat := 4095

/-- Where one is on the way along a path. -/
structure Position where
  /-- The names from the root, last first. -/
  names : List String
  /-- What is there. -/
  node : Option Node
  /-- The directories above, nearest first. -/
  above : List Node

namespace Position

/-- The place where one is. -/
def place (p : Position) : List String :=
  p.names.reverse

/-- Whether one is at a directory. -/
def isDirectory (p : Position) : Bool :=
  match p.node with
  | some (.directory _) => true
  | _ => false

/-- Follows a name, which only leads on from a directory. -/
def follow (p : Position) (name : String) : Except FileError Position :=
  match p.node with
  | none => .error .missing
  | some (.directory entries) =>
    if name = "." then .ok p
    else if name = ".." then
      match p.above with
      | [] => .ok p
      | node :: above => .ok { names := p.names.tail, node := some node, above }
    else if maxName < name.utf8ByteSize then .error .nameTooLong
    else
      .ok
        { names := name :: p.names
          node := entries.lookup name
          above := .directory entries :: p.above }
  | some _ => .error .notDirectory

end Position

/-- Follows names from the root. -/
def walk (d : Disk) (names : List String) : Except FileError Position :=
  names.foldlM Position.follow { names := [], node := some d.root, above := [] }

/-- The names that lead from the root to where a path starts and those of the path
itself, if it can be followed at all. -/
def route (cwd path : String) : Except FileError (List String × List String) :=
  if path.contains '\x00' then .error .invalid
  else if path = "" then .error .missing
  else if maxPath < path.utf8ByteSize then .error .nameTooLong
  else .ok (if Path.isAbsolute path then [] else Path.names cwd, Path.names path)

/-- Where a path leads to from the working directory, whether or not there is something.
A slash at the end asks for a directory. -/
def locate (d : Disk) (cwd path : String) : Except FileError Position := do
  let (start, names) ← route cwd path
  d.walk (start ++ names ++ if path.endsWith "/" then ["."] else [])

/-- The place that a path leads to if a file is to be put there.  A slash at the end asks
for a directory, so the last name need not be looked at; the directory above it is. -/
def locateFile (d : Disk) (cwd path : String) : Except FileError (List String) := do
  let (start, names) ← route cwd path
  match names.getLast? with
  | some last =>
    if path.endsWith "/" ∧ last ≠ "." ∧ last ≠ ".." then
      let _ ← d.walk (start ++ names.dropLast ++ ["."])
      .error .isDirectory
    else
      let p ← d.walk (start ++ names)
      if p.isDirectory then .error .isDirectory else .ok p.place
  | none => .error .isDirectory

/-- What a path leads to. -/
def lookup (d : Disk) (cwd path : String) : Except FileError Node := do
  match (← d.locate cwd path).node with
  | some node => .ok node
  | none => .error .missing

/-- Whether a path leads to something. -/
def contains (d : Disk) (cwd path : String) : Bool :=
  match d.lookup cwd path with
  | .ok _ => true
  | .error _ => false

/-- A failed access to a file: what was tried, where, and why it failed. -/
structure AccessError where
  action : String
  path : String
  cause : FileError
  deriving DecidableEq, Repr

/-- The wording of an `AccessError`. -/
def AccessError.message (e : AccessError) : String :=
  e.action ++ " " ++ e.path ++ ": " ++ e.cause.message

/-- The text of a file; a library is no text. -/
def read (d : Disk) (cwd path : String) : Except AccessError String :=
  match d.lookup cwd path with
  | .ok (.file text) => .ok text
  | .ok (.library _) => .ok "\x00"
  | .ok (.directory _) => .error ⟨"read", path, .isDirectory⟩
  | .error e => .error ⟨"open", path, e⟩

/-- The disk after a text was written to a file, which need not exist yet. -/
def write (d : Disk) (cwd path text : String) : Except AccessError Disk :=
  match d.locateFile cwd path with
  | .ok place => .ok (d.install place (.file text))
  | .error e => .error ⟨"open", path, e⟩

end Disk

/-! ### Platforms -/

/-- An operating system, by its name. -/
structure Platform where
  name : String
  deriving DecidableEq, Repr

namespace Platform

/-- The platform that the program runs on. -/
def current : Platform := ⟨"linux"⟩

/-- Phones and tablets. -/
def isMobile (p : Platform) : Bool :=
  p.name = "ios" || p.name = "android"

/-- Desktop computers. -/
def isDesktop (p : Platform) : Bool :=
  p.name = "darwin" || p.name = "linux" || p.name = "windows"

/-- Whether input comes from fingers and not from a mouse. -/
def hasTouchInput (p : Platform) : Bool :=
  p.isMobile

end Platform

/-! ### Disk, directory and environment

What a command finds where it runs: a disk, a working directory, a few environment
variables and its own place on the disk.
-/

/-- The surroundings of a command; an environment variable that is not set counts as
empty. -/
structure World where
  disk : Disk := {}
  /-- The working directory, absolute and clean. -/
  cwd : String
  home : String := ""
  configHome : String := ""
  libraryPath : String := ""
  /-- The path of the running program. -/
  executable : String := "/usr/bin/glview"

namespace World

/-- Whether a path leads to something. -/
def has (w : World) (path : String) : Bool :=
  w.disk.contains w.cwd path

/-- The directory for the user's settings, if the environment tells one. -/
def userConfigDirectory? (w : World) : Option String :=
  if w.configHome ≠ "" then
    if Path.isAbsolute w.configHome then some w.configHome else none
  else if w.home ≠ "" then
    some (w.home ++ "/.config")
  else
    none

/-- Where an app keeps its data by default; empty if the environment does not tell. -/
def storagePath (w : World) (app : String) : String :=
  match w.userConfigDirectory? with
  | some directory => Path.join [directory, app]
  | none => ""

end World

end SurfaceHost
