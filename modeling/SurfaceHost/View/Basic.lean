import SurfaceHost.Backlog.Basic
import SurfaceHost.Engine.Basic
import SurfaceHost.Fling
import SurfaceHost.Log.Record
import SurfaceHost.Settings.Basic
import SurfaceHost.Surface.Basic
import SurfaceHost.Touch.Motion
import SurfaceHost.Touch.Gesture

/-!
# Views

A view connects a host window to an engine.  Whatever the host does is turned into
jobs, which wait in a backlog until the next frame is drawn; only then is the engine
called.  The first pointer down is the primary one: it alone acts as the mouse and
makes gestures.
-/

namespace SurfaceHost

/-- An event of the host's window system. -/
inductive HostEvent where
  /-- A change between life stages: 0 dead, 1 alive, 2 visible, 3 focused. -/
  | lifecycle (before after : UInt32)
  | size (width height : Int64)
  | paint
  /-- A finger; it is never cancelled. -/
  | touch (phase : Phase) (x y : Float32) (pointer : Int64)
  /-- Anything else, by the name of its type. -/
  | other (typeName : String)

/-- What a finger does, by the window system's code: only a begin and an end are told
apart from a move. -/
def Phase.ofTouchCode : Int → Phase
  | 0 => .down
  | 2 => .up
  | _ => .move

/-- The life stage from which on a window can be seen. -/
def HostEvent.visible : UInt32 := 2

/-- What a host does with a view, and what tasks on the render thread may do too. -/
inductive HostStep where
  /-- Reports a motion; without a time it happens now. -/
  | touch (phase : Phase) (x y : Float32) (pointer : Int64) (time : Option Instant)
  | send (e : HostEvent)
  /-- Has a task run on the render thread before the next frame. -/
  | post (label : String) (body : List HostStep)
  /-- Posts no task at all. -/
  | postNone
  /-- Fails with a label. -/
  | fail (label : String)
  /-- Lets time pass; a negative time is none. -/
  | advance (ns : Int)
  /-- Only looks. -/
  | look

/-- Work for the render thread. -/
inductive Job where
  | call (c : Call)
  | stopFling
  | startFling (start : Point) (vx vy : Float32) (limit : Int64)
  /-- Lifts contacts; the flag marks the primary one. -/
  | release (contacts : List (Contact × Bool))
  /-- A task of the host. -/
  | task (label : String) (body : List HostStep)

/-- What comes out of a view. -/
inductive Output where
  /-- The engine is called. -/
  | call (c : Call)
  | log (r : Log.Record)
  /-- A task of the host begins. -/
  | task (label : String)

/-- A view between two steps. -/
structure View where
  capabilities : Capabilities
  /-- Where the engine may keep its data. -/
  storage : String
  /-- How far a fling may go on each axis. -/
  flingLimit : Int64
  detector : Detector
  scroller : Scroller
  surface : Surface := {}
  backlog : Backlog Job := {}
  contacts : Contacts := []
  /-- The pointer that acts as the mouse, while it is down. -/
  primary : Int64 := -1
  /-- The time on the clock of the alarms. -/
  now : Instant := 0
  /-- How much faster the clock of events and flings runs. -/
  clockRate : Int := 1
  /-- Everything that has come out so far. -/
  trace : Array Output := #[]

namespace View

/-- The limits between gestures on a display of the configured density. -/
def thresholds (i : InputSettings) : Thresholds :=
  let density := if i.density ≤ 0 then 1 else i.density
  { slop := i.touchSlop * density
    minFling := i.minFlingVelocity * density
    maxFling := i.maxFlingVelocity * density
    longPress := Duration.ofMilliseconds i.longPressMs }

/-- How far a fling may go. -/
def flingLimitOf (i : InputSettings) : Int64 :=
  if i.maxFlingDistance ≤ 0 then Settings.default.input.maxFlingDistance else i.maxFlingDistance

/-- A view on a fresh surface. -/
def ofSettings (s : Settings) (capabilities : Capabilities) : View where
  capabilities
  storage := s.storage
  flingLimit := flingLimitOf s.input
  detector := { thresholds := thresholds s.input }
  scroller := Scroller.ofDensity s.input.density

/-- The time on the clock of events and flings. -/
def eventTime (v : View) : Instant :=
  v.now * v.clockRate

/-- How many jobs are waiting. -/
def pending (v : View) : Nat :=
  v.backlog.size

/-- Adds to what has come out. -/
def emit (v : View) (o : Output) : View :=
  { v with trace := v.trace.push o }

/-- Adds a job and asks for a frame. -/
def enqueue (v : View) (j : Job) : View :=
  { v with backlog := v.backlog.push j, surface := v.surface.receive .request }

/-! ### Input -/

/-- Turns a gesture into jobs. -/
def deliver (v : View) : Option Gesture → View
  | none => v
  | some (.down _) => v.enqueue .stopFling
  | some (.scroll down _ dx dy) =>
    v.enqueue (.call (.scroll (Word.truncate32 down.x) (Word.truncate32 down.y) dx dy))
  | some (.fling down _ vx vy) =>
    let start : Point := ⟨Word.truncate32 down.x, Word.truncate32 down.y⟩
    (v.emit (.log (.debug "fling" [("vx", .real vx.toFloat), ("vy", .real vy.toFloat)]))).enqueue
      (.startFling start vx vy v.flingLimit)
  | some (.longPress down) =>
    if v.capabilities.longPress then
      v.enqueue (.call (.longPress (Word.truncate32 down.x) (Word.truncate32 down.y)))
    else
      v

/-- Lets the detector see a motion of the primary pointer. -/
def detect (v : View) (e : Motion) : View :=
  let (detector, gesture) := v.detector.touch v.now e
  { v with detector }.deliver gesture

/-- Adds a call for a single pointer, if the engine takes such calls. -/
def enqueuePointer (v : View) (c : Call) : View :=
  if v.capabilities.pointer then v.enqueue (.call c) else v

/-- A pointer goes down.  It is the primary one if no other is down. -/
def touchDown (v : View) (e : Motion) : View :=
  let primary := if v.contacts.isEmpty then e.pointer else v.primary
  let v := { v with primary, contacts := v.contacts.insert ⟨e.pointer, e.x, e.y⟩ }
  let call := Call.pointerDown e.x e.y e.pointer
  if e.pointer = primary then
    ((v.enqueue (.call (.mouseDown (Word.truncate32 e.x) (Word.truncate32 e.y)))).enqueuePointer
      call).detect e
  else
    v.enqueuePointer call

/-- A pointer moves, which counts only while it is down. -/
def touchMove (v : View) (e : Motion) : View :=
  if v.contacts.contains e.pointer then
    let v := { v with contacts := v.contacts.insert ⟨e.pointer, e.x, e.y⟩ }
    let call := Call.pointerMove e.x e.y e.pointer
    if e.pointer = v.primary then
      ((v.enqueue (.call (.mouseMove (Word.truncate32 e.x) (Word.truncate32 e.y)))).enqueuePointer
        call).detect e
    else
      v.enqueuePointer call
  else
    v

/-- A pointer goes up, which counts only while it is down.  The detector learns of it
before anything is queued, so that no long press can follow the release. -/
def touchUp (v : View) (e : Motion) : View :=
  if v.contacts.contains e.pointer then
    let isPrimary := e.pointer = v.primary
    let v := { v with contacts := v.contacts.erase e.pointer }
    let call := Call.pointerUp e.x e.y e.pointer
    if isPrimary then
      ((({ v with primary := -1 }.detect e).enqueue
        (.call (.mouseUp (Word.truncate32 e.x) (Word.truncate32 e.y))))).enqueuePointer call
    else
      v.enqueuePointer call
  else
    v

/-- Every pointer that is down is lifted where it was. -/
def touchCancel (v : View) (e : Motion) : View :=
  let released := v.contacts.map fun c => (c, c.pointer == v.primary)
  let v := { v with contacts := [], primary := -1 }.detect e
  if released.isEmpty then v else v.enqueue (.release released)

/-- Takes in one motion. -/
def touch (v : View) (e : Motion) : View :=
  match e.phase with
  | .down => v.touchDown e
  | .move => v.touchMove e
  | .up => v.touchUp e
  | .cancel => v.touchCancel e
  | .unknown => v

/-- Reports something to the surface. -/
def signal (v : View) (s : Signal) : View :=
  { v with surface := v.surface.receive s }

/-- Takes in one event of the window system. -/
def send (v : View) : HostEvent → View
  | .lifecycle before after =>
    if before < HostEvent.visible ∧ HostEvent.visible ≤ after then
      (v.emit (.log (.debug "surface visible"))).signal .created
    else if HostEvent.visible ≤ before ∧ after < HostEvent.visible then
      (v.emit (.log (.debug "surface hidden"))).signal .destroyed
    else
      v
  | .size width height => v.signal (.resized width height)
  | .paint => v.signal .request
  | .touch phase x y pointer => v.touch { phase, x, y, pointer, time := v.eventTime }
  | .other typeName => v.emit (.log (.debug "ignoring event" [("type", .text typeName)]))

/-- Lets time pass; an alarm that becomes due goes off. -/
def advance (v : View) (ns : Int) : View :=
  let now := v.now + max ns 0
  let (detector, gesture) := v.detector.advance now
  { v with now, detector }.deliver gesture

/-- Carries out one step of the host, or tells how it fails. -/
def perform (v : View) : HostStep → View × Option String
  | .touch phase x y pointer time =>
    (v.touch { phase, x, y, pointer, time := time.getD v.now }, none)
  | .send e => (v.send e, none)
  | .post label body => (v.enqueue (.task label body), none)
  | .postNone | .look => (v, none)
  | .fail label => (v, some label)
  | .advance ns => (v.advance ns, none)

/-- Carries out steps up to the first failure. -/
def performAll (v : View) : List HostStep → View × Option String
  | [] => (v, none)
  | s :: rest =>
    match v.perform s with
    | (v, none) => v.performAll rest
    | (v, some label) => (v, some label)

end View

end SurfaceHost
