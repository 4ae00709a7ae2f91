import SurfaceHost.Files.World
import SurfaceHost.Text.Quoted
import SurfaceHost.Toml.Reader
import SurfaceHost.Toml.Shape
import SurfaceHost.Touch.Motion

/-!
# Scripts

A script is a sequence of host events in a file.  An event is written with fields for
every kind of event; `Event.cue` picks those that its kind needs.
-/

namespace SurfaceHost

/-- An event as it is written. -/
structure Event where
  kind : String := ""
  width : Int64 := 0
  height : Int64 := 0
  action : String := ""
  x : Float32 := 0
  y : Float32 := 0
  pointer : Int64 := 0
  ms : Int64 := 0

/-- What an event means. -/
inductive Cue where
  | size (width height : Int64)
  | visible
  | hidden
  | paint
  | touch (phase : Phase) (x y : Float32) (pointer : Int64)
  | wait (d : Duration)

/-- Why an event means nothing. -/
inductive EventError where
  | unknownKind (kind : String)
  | unknownAction (action : String)
  deriving DecidableEq, Repr

/-- The wording of an `EventError`. -/
def EventError.message : EventError → String
  | .unknownKind kind => "unknown kind " ++ Text.quoted kind
  | .unknownAction action => "unknown touch action " ++ Text.quoted action

/-- What an event means. -/
def Event.cue (e : Event) : Except EventError Cue :=
  match e.kind with
  | "size" => .ok (.size e.width e.height)
  | "visible" => .ok .visible
  | "hidden" => .ok .hidden
  | "paint" => .ok .paint
  | "wait" => .ok (.wait (Duration.ofMilliseconds e.ms))
  | "touch" =>
    match Phase.named? e.action with
    | some phase => .ok (.touch phase e.x e.y e.pointer)
    | none => .error (.unknownAction e.action)
  | kind => .error (.unknownKind kind)

/-- A script as it is written. -/
structure Script where
  /-- How long to wait at the end for the backlog to be drained. -/
  settleMs : Int64 := 0
  events : List Event := []

namespace Script

/-- How long to wait at the end: two seconds, unless the script says otherwise. -/
def settle (s : Script) : Duration :=
  if s.settleMs > 0 then Duration.ofMilliseconds s.settleMs else 2000000000

/-- What a script file looks like. -/
def shape : Toml.Shape :=
  .record
    [("settle_ms", .integer),
      ("event",
        .list
          [("kind", .text),
            ("width", .integer),
            ("height", .integer),
            ("action", .text),
            ("x", .real),
            ("y", .real),
            ("pointer", .integer),
            ("ms", .integer)])]

/-- The event in a datum of that shape. -/
def eventOfDatum (d : Toml.Datum) : Event where
  kind := d.textAt ["kind"]
  width := d.integerAt ["width"]
  height := d.integerAt ["height"]
  action := d.textAt ["action"]
  x := d.realAt ["x"]
  y := d.realAt ["y"]
  pointer := d.integerAt ["pointer"]
  ms := d.integerAt ["ms"]

/-- The script in a text. -/
def parse? (text : String) : Option Script := do
  let statements ← Toml.read? text
  let d ← shape.read? shape.blank statements
  some
    { settleMs := d.integerAt ["settle_ms"]
      events := (d.itemsAt ["event"]).map eventOfDatum }

/-- Why a script cannot be played. -/
inductive LoadError where
  | unreadable (path : String) (cause : Disk.AccessError)
  | malformed (path : String)
  /-- The event with this number, counted from one, means nothing. -/
  | event (path : String) (number : Nat) (cause : EventError)
  deriving DecidableEq, Repr

/-- The wording of a `LoadError`. -/
def LoadError.message : LoadError → String
  | .unreadable path cause => "failed to read " ++ path ++ ": " ++ cause.message
  | .malformed path => "failed to parse " ++ path
  | .event path number cause => path ++ ": event " ++ toString number ++ ": " ++ cause.message

/-- What events mean, or the first that means nothing, with its number. -/
def cuesFrom (number : Nat) : List Event → Except (Nat × EventError) (List Cue)
  | [] => .ok []
  | e :: rest =>
    match e.cue with
    | .error cause => .error (number, cause)
    | .ok cue => (cue :: ·) <$> cuesFrom (number + 1) rest

/-- What the events of a script mean. -/
def cues (s : Script) : Except (Nat × EventError) (List Cue) :=
  cuesFrom 1 s.events

/-- The script in a file, with what its events mean. -/
def ofFile (path : String) (file : Except Disk.AccessError String) :
    Except LoadError (Script × List Cue) :=
  match file with
  | .error e => .error (.unreadable path e)
  | .ok text =>
    match parse? text with
    | none => .error (.malformed path)
    | some s =>
      match s.cues with
      | .ok cues => .ok (s, cues)
      | .error (number, cause) => .error (.event path number cause)

/-- Reads the script at a path. -/
def load (w : World) (path : String) : Except LoadError (Script × List Cue) :=
  ofFile path (w.disk.read w.cwd path)

end Script

end SurfaceHost
