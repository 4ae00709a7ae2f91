import SurfaceHost.Command.Outcome
import SurfaceHost.Engine.Backend

/-!
# Playing a script

The command `replay` plays a script on a view, either with an engine library behind it
or with an engine that only logs.
-/

namespace SurfaceHost

namespace Command

namespace Replay

def flags : List Flag :=
  [{ name := "config", kind := .text, help := "Path to glview.toml" },
    { name := "dry-run"
      kind := .switch
      help := "Log engine calls instead of loading the library" },
    { name := "script", kind := .text, help := "Replay script (TOML)" }]

/-- A play that has come to its end. -/
structure Played where
  view : View
  /-- Why it was stopped from outside, if it was. -/
  stopped : Option Script.StopReason
  /-- What the backend made of it. -/
  sights : List Backend.Sight

/-- Plays a script on a view with a backend behind it. -/
def play (v : View) (b : Backend) (s : Script) (cues : List Cue) (stop : Option Script.Stop) :
    Played :=
  let (view, stopped) := Script.play v cues s.settle stop
  { view, stopped, sights := (b.absorbAll view.trace.toList).2 }

/-- The lines of the log. -/
def Played.log (p : Played) (l : Log.Logger) : List String :=
  p.sights.filterMap fun
    | .log r => l.line? r
    | _ => none

/-- The calls that the library got. -/
def Played.native (p : Played) : List NativeCall :=
  p.sights.filterMap fun
    | .native c => some c
    | _ => none

/-- The failure of a play; a cancelled one is none. -/
def Played.failure (p : Played) : Option Failure :=
  match p.stopped with
  | none | some .cancelled => none
  | some reason => some (.stopped reason)

/-- What the command leaves behind, with the library that was called. -/
structure Result where
  outcome : Outcome
  library : Option String := none
  native : List NativeCall := []

/-- A command that only failed. -/
def Result.failed (f : Failure) : Result where
  outcome := .failed f

/-- The backend that is asked for, with the path of its library. -/
def backend (w : World) (s : Settings) (dryRun : Bool) :
    Except Library.EngineError (Option String × Backend) :=
  if dryRun then .ok (none, .logging)
  else do
    let (path, l) ← (Library.openEngine w s.library).2
    .ok (some path, .native l [])

/-- Plays a script that has been read. -/
def playAll (s : Settings) (l : Log.Logger) (script : Script) (cues : List Cue)
    (library : Option String) (b : Backend) : Result :=
  let p := play (.ofSettings s b.capabilities) b script cues none
  let failure := p.failure
  { outcome :=
      { stdout :=
          if failure.isNone then
            "✓ Replayed " ++ toString script.events.length ++ " events in "
              ++ toString p.view.surface.frames.toNat ++ " frames\n"
          else ""
        log := p.log l
        failure }
    library
    native := p.native }

/-- Carries out the command. -/
def run (w : World) (words : List String) : Result :=
  match Flag.parse flags words with
  | .error e => .failed (.flags e (Flag.usage "replay" flags))
  | .ok values =>
    let path := values.text "script"
    if path = "" then .failed .noScript
    else
      match Settings.loadNearest w (values.text "config") with
      | .error e => .failed (.settings e)
      | .ok s =>
        match Log.Logger.ofWords s.log.level s.log.format with
        | .error e => .failed (.logger e)
        | .ok l =>
          match Script.load w path with
          | .error e => .failed (.script e)
          | .ok (script, cues) =>
            match backend w s (values.isOn "dry-run") with
            | .error e => .failed (.engine e)
            | .ok (library, b) => playAll s l script cues library b

end Replay

end Command

end SurfaceHost
