import SurfaceHost.Files.World
import SurfaceHost.Settings.Basic
import SurfaceHost.Toml.Reader
import SurfaceHost.Toml.Shape

/-!
# Settings files

Reading and writing a settings file, and finding the nearest one: it is looked for in
the working directory and in every directory above.
-/

namespace SurfaceHost

namespace Settings

/-- The name of a settings file. -/
def fileName : String := "glview.toml"

/-- Why settings could not be read. -/
inductive LoadError where
  | unreadable (path : String) (cause : Disk.AccessError)
  | malformed (path : String)
  deriving DecidableEq, Repr

/-- The wording of a `LoadError`. -/
def LoadError.message : LoadError → String
  | .unreadable path cause => "failed to read " ++ path ++ ": " ++ cause.message
  | .malformed path => "failed to parse " ++ path

/-- The settings in a text, on top of the default ones. -/
def parse? (text : String) : Option Settings := do
  let statements ← Toml.read? text
  let d ← shape.read? default.toDatum statements
  some (ofDatum d).sanitize

/-- The settings in a file that may not be there. -/
def ofFile (path : String) (file : Except Disk.AccessError String) :
    Except LoadError Settings :=
  match file with
  | .error e => if e.cause = .missing then .ok default else .error (.unreadable path e)
  | .ok text =>
    match parse? text with
    | some s => .ok s
    | none => .error (.malformed path)

/-- Reads the settings at a path. -/
def load (w : World) (path : String) : Except LoadError Settings :=
  ofFile path (w.disk.read w.cwd path)

/-- The text of a settings file. -/
def text (s : Settings) : String :=
  Toml.written s.toDatum

/-- A settings file that could not be written. -/
structure SaveError where
  path : String
  cause : Disk.AccessError
  deriving DecidableEq, Repr

/-- The wording of a `SaveError`. -/
def SaveError.message (e : SaveError) : String :=
  "failed to write " ++ e.path ++ ": " ++ e.cause.message

/-- Writes the settings to a path. -/
def save (w : World) (path : String) (s : Settings) : Except SaveError World :=
  match w.disk.write w.cwd path s.text with
  | .ok disk => .ok { w with disk }
  | .error e => .error ⟨path, e⟩

/-! ### The nearest settings file -/

/-- A directory and those above it, each by its names from the root. -/
def ancestors (directory : List String) : List (List String) :=
  (List.range (directory.length + 1)).reverse.map directory.take

/-- Where a settings file is looked for, nearest first. -/
def candidates (cwd : String) : List String :=
  (ancestors (Path.names cwd)).map fun d => Path.render true (d ++ [fileName])

/-- The nearest settings file, on a disk where `has` tells what exists.  The search goes up
and ends at a directory that has none above it but itself. -/
def find? (has : String → Bool) (directory : String) : Option String :=
  let path := Path.join [directory, fileName]
  if has path then some path
  else
    let above := Path.directory directory
    if above = directory then none else find? has above
termination_by Path.height directory
decreasing_by
  apply Path.height_directory_lt
  assumption

/-- Reads the settings at a path; without one, those of the nearest settings file, or
the default ones if there is none. -/
def loadNearest (w : World) (path : String) : Except LoadError Settings :=
  if path ≠ "" then load w path
  else
    match find? w.has w.cwd with
    | some found => load w found
    | none => .ok default

end Settings

end SurfaceHost
