/-!
# Surfaces

A drawing surface that is drawn on demand, and a session that drives one step by step.
-/

namespace SurfaceHost

/-! ### Signals and turns

A drawing surface that is drawn on demand.  The host reports what happens to it
(`Signal`), which leaves a render request waiting; a loop consumes one request per
turn, takes a snapshot of what was reported, and asks the renderer for at most one
frame (`Turn`).
-/

/-- What the host reports to a surface. -/
inductive Signal where
  /-- A frame is wanted. -/
  | request
  /-- The platform's drawing target is ready. -/
  | created
  /-- The platform's drawing target went away. -/
  | destroyed
  /-- The drawing target has a new size in pixels. -/
  | resized (width height : Int64)
  deriving DecidableEq, Repr

/-- The render loop of a surface.  A running loop knows whether there is something
to draw on, and forgets it when it stops. -/
inductive Loop where
  | stopped
  | running (ready : Bool)
  deriving DecidableEq, Repr

/-- What the renderer is asked for, in the order of the constructors. -/
inductive Callback where
  | created
  | changed (width height : Int64)
  | draw
  deriving DecidableEq, Repr

/-- What one turn of the loop amounts to. -/
inductive Turn where
  /-- There is nothing to draw on. -/
  | skip
  /-- A frame is due, after a creation and after a change of size if there was one. -/
  | draw (created : Bool) (size : Option (Int64 × Int64))
  deriving DecidableEq, Repr

/-- The callbacks of a turn. -/
def Turn.callbacks : Turn → List Callback
  | .skip => []
  | .draw created size =>
    (if created then [.created] else [])
      ++ (size.map fun (w, h) => Callback.changed w h).toList
      ++ [.draw]

/-- The state of a surface between two turns of its loop. -/
structure Surface where
  /-- A render request is waiting. -/
  requested : Bool := false
  /-- A creation was reported and no turn has seen it. -/
  created : Bool := false
  /-- A loss was reported and no turn has seen it. -/
  lost : Bool := false
  /-- The size has changed since the renderer was last told. -/
  sizeChanged : Bool := false
  width : Int64 := 0
  height : Int64 := 0
  loop : Loop := .stopped
  /-- How many frames were drawn to the end, modulo 2^64. -/
  frames : UInt64 := 0
  deriving DecidableEq, Repr

namespace Surface

/-- Only one loop can serve a surface at a time. -/
inductive StartError where
  | alreadyRunning
  deriving DecidableEq, Repr

/-- The wording of a `StartError`. -/
def StartError.message : StartError → String
  | .alreadyRunning => "glview: surface render loop already running"

/-- Records what the host reports; every report also asks for a frame. -/
def receive (s : Surface) : Signal → Surface
  | .request => { s with requested := true }
  | .created => { s with created := true, requested := true }
  | .destroyed => { s with created := false, lost := true, requested := true }
  | .resized width height =>
    if width = s.width ∧ height = s.height then
      { s with requested := true }
    else
      { s with width, height, sizeChanged := true, requested := true }

/-- Whether the loop is running. -/
def isRunning (s : Surface) : Bool :=
  match s.loop with
  | .stopped => false
  | .running _ => true

/-- Starts the loop with nothing to draw on yet. -/
def start (s : Surface) : Except StartError Surface :=
  match s.loop with
  | .stopped => .ok { s with loop := .running false }
  | .running _ => .error .alreadyRunning

/-- Stops the loop; a waiting request stays waiting. -/
def stop (s : Surface) : Surface :=
  { s with loop := .stopped }

/-- Takes up a waiting request: the surface after the loop's snapshot, and what is
due in this turn.  There is no turn without a running loop and a request. -/
def beginTurn? (s : Surface) : Option (Surface × Turn) :=
  match s.loop, s.requested with
  | .running wasReady, true =>
    let ready := s.created || (wasReady && !s.lost)
    let sizeChanged := if s.created then decide (s.width > 0 ∨ s.height > 0) else s.sizeChanged
    let s' :=
      { s with
        requested := false
        created := false
        lost := false
        sizeChanged := sizeChanged && !ready
        loop := .running ready }
    let turn :=
      if ready then
        .draw s.created (if sizeChanged then some (s.width, s.height) else none)
      else
        .skip
    some (s', turn)
  | _, _ => none

/-- Counts a frame that was drawn to the end. -/
def finishFrame (s : Surface) : Surface :=
  { s with frames := s.frames + 1 }

/-! ### A surface in use

A session drives a surface step by step: the host reports signals, the loop is
started and stopped, and turns are taken.  What the renderer itself does while it
draws its next frame can be planned ahead, a failure included.
-/

/-- One step of a session. -/
inductive Step where
  | signal (s : Signal)
  /-- Plans what the renderer does inside its next frame, instead of an unused plan. -/
  | onDraw (body : List Step)
  /-- Fails with a label. -/
  | fail (label : String)
  /-- Starts the loop. -/
  | start
  /-- Takes one turn of the loop. -/
  | frame
  /-- Stops the loop. -/
  | stop
  /-- Only looks. -/
  | look

/-- A surface, its renderer's plan, and what the current step has led to. -/
structure Session where
  surface : Surface := {}
  /-- What the renderer will do inside its next frame. -/
  plan : Option (List Step) := none
  /-- The callbacks of this step. -/
  callbacks : List Callback := []
  /-- The loop had nothing to do in this step. -/
  idle : Bool := false
  /-- The loop could not be started in this step. -/
  refused : Option StartError := none
  /-- The failure that ended this step. -/
  failure : Option String := none

namespace Session

/-- What a renderer does inside a frame, up to the first failure.  The loop is busy
with this very frame, so it can be neither turned nor stopped from here. -/
def inside (t : Session) : List Step → Session
  | [] => t
  | .signal s :: rest => inside { t with surface := t.surface.receive s } rest
  | .onDraw body :: rest => inside { t with plan := some body } rest
  | .fail label :: _ => { t with failure := some label }
  | .start :: rest => inside { t with refused := some .alreadyRunning } rest
  | .frame :: rest | .stop :: rest | .look :: rest => inside t rest

/-- Draws a frame: the renderer carries out its plan, and a frame that fails ends the
loop and is not counted. -/
def draw (t : Session) : Session :=
  let t' := inside { t with plan := none } (t.plan.getD [])
  match t'.failure with
  | some _ => { t' with surface := t'.surface.stop }
  | none => { t' with surface := t'.surface.finishFrame }

/-- One turn of the loop, if there is something for it to do. -/
def turn (t : Session) : Session :=
  match t.surface.beginTurn? with
  | none => { t with idle := true }
  | some (surface, .skip) => { t with surface }
  | some (surface, turn@(.draw ..)) => draw { t with surface, callbacks := turn.callbacks }

/-- Carries out one step. -/
def step (t : Session) (s : Step) : Session :=
  let t := { t with callbacks := [], idle := false, refused := none, failure := none }
  match s with
  | .signal s => { t with surface := t.surface.receive s }
  | .onDraw body => { t with plan := some body }
  | .fail label => { t with failure := some label }
  | .start =>
    match t.surface.start with
    | .ok surface => { t with surface }
    | .error e => { t with refused := some e }
  | .frame => turn t
  | .stop =>
    if t.surface.isRunning then { t with surface := t.surface.stop } else { t with idle := true }
  | .look => t

end Session

end Surface

end SurfaceHost
