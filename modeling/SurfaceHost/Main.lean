import SurfaceHost.Command.Dispatch

/-!
# The program

Takes a picture of the part of the disk that a command may look at, carries out the
command, and shows what came of it.
-/

namespace SurfaceHost

namespace Program

/-- The strings between zero bytes, as far as they are text. -/
def stringsOf (bytes : ByteArray) : List String :=
  (bytes.toList.splitOn 0).filterMap fun s => String.fromUTF8? (Wire.pack s)

/-- What a file holds.  A file that begins like a shared library is taken for one that
exports every string in it. -/
def nodeOf (bytes : ByteArray) : Node :=
  if (bytes.extract 0 4).toList = [0x7f, 0x45, 0x4c, 0x46] then .library ⟨stringsOf bytes⟩
  else
    match String.fromUTF8? bytes with
    | some text => .file text
    | none => .file "\x00"

/-- Adds to the picture what is at a path. -/
def look (w : World) (path : String) : IO World := do
  let path := Path.absolute w.cwd path
  let real := System.mkFilePath [path]
  let place := Path.names path
  if ← real.isDir then
    return { w with disk := w.disk.install place (.directory []) }
  else if ← real.pathExists then
    try
      return { w with disk := w.disk.install place (nodeOf (← IO.FS.readBinFile real)) }
    catch _ =>
      return w
  else
    return w

/-- The paths that may stand in a word of the command line. -/
def pathsIn (word : String) : List String :=
  match word.splitOn "=" with
  | [] => []
  | [_] => [word]
  | _ :: rest => ["=".intercalate rest]

/-- The surroundings of the program. -/
def surroundings (words : List String) : IO World := do
  let cwd := (← IO.currentDir).toString
  let setting (name : String) : IO String := return (← IO.getEnv name).getD ""
  let w : World :=
    { disk := Disk.install {} (Path.names cwd) (.directory [])
      cwd
      home := ← setting "HOME"
      configHome := ← setting "XDG_CONFIG_HOME"
      libraryPath := ← setting "GLVIEW_LIB_PATH"
      executable := (← IO.appPath).toString }
  let given := (words.flatMap pathsIn ++ [w.libraryPath]).filter (· ≠ "")
  let libraries := given.filterMap (Library.filePath? w)
  let w ← (Settings.candidates cwd ++ Library.searchPaths w ++ given ++ libraries).foldlM look w
  -- A settings file may name a library too.
  let chosen :=
    match Flag.parse Command.Replay.flags words.tail with
    | .ok values => values.text "config"
    | .error _ => ""
  match Settings.loadNearest w chosen with
  | .ok s =>
    match Library.filePath? w s.library.path with
    | some path => if path = "" then return w else look w path
    | none => return w
  | .error _ => return w

/-- Writes the settings file, if a command has changed it. -/
def keep (before after : World) : IO Unit := do
  let place := Path.names (Path.join [after.cwd, Settings.fileName])
  let text? (w : World) : Option String :=
    match w.disk.get? place with
    | some (.file text) => some text
    | _ => none
  match text? after with
  | some text =>
    if text? before ≠ some text then
      IO.FS.writeFile (System.mkFilePath [Settings.fileName]) text
  | none => return

end Program

end SurfaceHost

open SurfaceHost in
/-- Carries out the command line. -/
def main (words : List String) : IO UInt32 := do
  let before ← Program.surroundings words
  let (after, outcome) := Command.run before words
  Program.keep before after
  (← IO.getStdout).putStr outcome.stdout
  (← IO.getStderr).putStr outcome.stderr
  return outcome.exitCode.toUInt32
