import SurfaceHost.Command.Outcome
import SurfaceHost.Command.Replay
import SurfaceHost.Files.World

/-!
# The command line

The commands that write a first settings file and look at an engine library, and the choice
of the command that the first word names.
-/

namespace SurfaceHost

namespace Command

/-! ### Writing a first settings file

The command `init` writes the default settings, with a storage path for the app, to
the working directory.
-/

namespace Init

def flags : List Flag :=
  [{ name := "force", kind := .switch, help := "Overwrite an existing glview.toml" },
    { name := "name", kind := .text, help := "App name used for the default storage directory" }]

/-- What is printed when the file is written. -/
def summary (storage : String) : String :=
  "  ✓ Created " ++ Settings.fileName ++ "\n"
    ++ (if storage = "" then "" else "  ✓ Storage path: " ++ storage ++ "\n")
    ++ "\nNext steps:\n"
    ++ "  1. Point [library] path at your engine build, or set GLVIEW_LIB_PATH\n"
    ++ "  2. glview check\n"

/-- Carries out the command. -/
def run (w : World) (words : List String) : World × Outcome :=
  match Flag.parse flags words with
  | .error e => (w, .failed (.flags e (Flag.usage "init" flags)))
  | .ok values =>
    if w.has Settings.fileName && !values.isOn "force" then (w, .failed .settingsExist)
    else
      let name := values.text "name"
      let app := if name = "" then Path.base w.cwd else name
      let storage := w.storagePath app
      match Settings.save w Settings.fileName { Settings.default with storage } with
      | .error e => (w, .failed (.save e))
      | .ok w => (w, { stdout := summary storage })

end Init

/-! ### Looking at an engine library

The command `check` lists the entry points of the engine library.
-/

namespace Check

def flags : List Flag :=
  [{ name := "config", kind := .text, help := "Path to glview.toml" },
    { name := "lib", kind := .text, help := "Path to the engine library (overrides config)" }]

/-- The line for an entry point that a library lacks. -/
def missingLine (name : String) : String :=
  if EntryPoint.isRequiredName name then "  ✗ " ++ name ++ "\n"
  else "  - " ++ name ++ " (optional)\n"

/-- Prints a report; a library that lacks something required is a failure. -/
def ofReport (r : Report) : Outcome :=
  let listing :=
    "Platform: " ++ Platform.current.name ++ "\nLibrary:  " ++ r.path ++ "\n\n"
      ++ String.join (r.resolved.map fun name => "  ✓ " ++ name ++ "\n")
      ++ String.join (r.missing.map missingLine)
      ++ "\n"
  if r.isComplete then
    { stdout := listing ++ "✓ " ++ toString r.resolved.length ++ " entry points resolved\n" }
  else
    { stdout := listing, failure := some .incomplete }

/-- Carries out the command. -/
def run (w : World) (words : List String) : Outcome :=
  match Flag.parse flags words with
  | .error e => .failed (.flags e (Flag.usage "check" flags))
  | .ok values =>
    match Settings.loadNearest w (values.text "config") with
    | .error e => .failed (.settings e)
    | .ok s =>
      let path := values.text "lib"
      let path := if path = "" then s.library.path else path
      match (Library.probe w { path, symbolPrefix := s.library.symbolPrefix }).2 with
      | .error e => .failed (.library e)
      | .ok r => ofReport r

end Check

/-! ### Picking a command

Picks the command that the first word names.
-/

def version : String := "0.1.0"

/-- What is printed when nobody knows what to do. -/
def usage : String :=
  "glview - GL surface view driver

Usage: glview <command> [options]

Commands:
  init            Write a default glview.toml
  check           Load the engine library and list its entry points
  replay          Play a scripted event sequence through a view
  version         Print version information
  help            Show this help message

Examples:
  glview init                          Create glview.toml in this directory
  glview check --lib ./libengine.so    Verify an engine build
  glview replay --script tap.toml      Replay input against the engine
  glview replay --script tap.toml --dry-run

Configuration:
  glview.toml is looked up in the working directory and its parents.
  GLVIEW_LIB_PATH overrides the library search path.
"

/-- Carries out a command line. -/
def run (w : World) : List String → World × Outcome
  | [] => (w, { stdout := usage, failure := some .noCommand })
  | name :: words =>
    match name with
    | "init" => Init.run w words
    | "check" => (w, Check.run w words)
    | "replay" => (w, (Replay.run w words).outcome)
    | "version" | "-v" | "--version" => (w, { stdout := "glview version " ++ version ++ "\n" })
    | "help" | "-h" | "--help" => (w, { stdout := usage })
    | _ => (w, { stdout := usage, failure := some (.unknownCommand name) })

end Command

end SurfaceHost
