import SurfaceHost.View.Load

/-!
# Frames and sessions

One turn of a view's render loop, and a session that drives a view step by step.
-/

namespace SurfaceHost

namespace View

/-! ### Frames

One turn of a view's render loop: the engine is set up and resized if need be, the
waiting jobs are run in order, jobs that come in meanwhile included, a fling moves
on, and the engine draws.  A job that fails ends the turn and the loop; the jobs
behind it stay in the backlog.
-/

/-- Calls the engine. -/
def callEngine (v : View) (c : Call) : View :=
  v.emit (.call c)

/-- Lifts contacts one by one. -/
def releaseAll (v : View) : List (Contact × Bool) → View
  | [] => v
  | (c, isPrimary) :: rest =>
    let v :=
      if isPrimary then v.callEngine (.mouseUp (Word.truncate32 c.x) (Word.truncate32 c.y)) else v
    let v :=
      if v.capabilities.pointer then v.callEngine (.pointerUp c.x c.y c.pointer) else v
    v.releaseAll rest

/-- Runs a job, or tells how it fails. -/
def run (v : View) : Job → View × Option String
  | .call c => (v.callEngine c, none)
  | .stopFling => ({ v with scroller := v.scroller.forceFinished true }, none)
  | .startFling start vx vy limit =>
    ({ v with
        scroller := v.scroller.fling v.eventTime start vx vy ⟨0, limit⟩ ⟨0, limit⟩ }, none)
  | .release contacts => (v.releaseAll contacts, none)
  | .task label body => (v.emit (.task label)).performAll body

theorem backlog_releaseAll (v : View) (cs : List (Contact × Bool)) :
  (v.releaseAll cs).backlog = v.backlog
  := by
  induction cs generalizing v with
  | nil => rfl
  | cons c rest ih =>
    simp only [releaseAll]
    rw [ih]
    split <;> split <;> rfl

/-- A job that has run leaves less load than it was. -/
theorem load_run_lt (v : View) (j : Job) :
  (v.run j).1.load < v.load + j.load
  := by
  cases j with
  | task label body =>
    have h := load_performAll_le (v.emit (.task label)) body
    have he : (v.emit (.task label)).load = v.load := rfl
    simp only [run, Job.load]
    omega
  | release contacts =>
    simp [run, Job.load, load, backlog_releaseAll]
  | _ => simp [run, Job.load, load, callEngine, emit]

/-- Runs the waiting jobs until none is left or one fails.  The result tells how many
have run in full, with `count` as a start, or how it failed. -/
def drain (v : View) (count : Nat) : View × Except String Nat :=
  match _taken : v.backlog.pop? with
  | none => (v, .ok count)
  | some (j, rest) =>
    match _ran : { v with backlog := rest }.run j with
    | (w, none) => w.drain (count + 1)
    | (w, some label) => (w, .error label)
termination_by v.load
decreasing_by
  have h₁ := Backlog.load_of_pop? _taken
  have h₂ := load_run_lt { v with backlog := rest } j
  rw [_ran] at h₂
  simp only [load] at h₁ h₂ ⊢
  omega

/-- Moves a fling on and has the engine draw.  Another frame is asked for as long as
the fling goes on. -/
def animate (v : View) : View :=
  let (scroller, more) := v.scroller.compute v.eventTime
  let v := { v with scroller }
  if more then
    let v :=
      if v.capabilities.kinetic then
        v.callEngine (.kinetic scroller.current.x scroller.current.y)
      else v
    (v.callEngine .redraw).signal .request
  else
    v.callEngine .redraw

/-- Draws a frame, or tells how it fails. -/
def draw (v : View) : View × Option String :=
  match v.drain 0 with
  | (v, .error label) => (v, some label)
  | (v, .ok count) =>
    let v :=
      if 0 < count then
        v.emit (.log (.debug "drained" [("actions", .number (Int64.ofNat count))]))
      else v
    (v.animate, none)

/-- Carries out a callback that comes before drawing. -/
def prepare (v : View) : Callback → View
  | .created =>
    (v.emit (.log (.info "surface created" [("storage", .text v.storage)]))).callEngine
      (.init v.storage)
  | .changed width height =>
    (v.emit
      (.log
        (.info "surface changed"
          [("width", .number width), ("height", .number height)]))).callEngine
      (.resize width height)
  | .draw => v

/-- What one turn of the loop came to. -/
inductive TurnResult where
  /-- There was no turn to take. -/
  | idle
  /-- There was nothing to draw on. -/
  | skipped
  | drawn
  | failed (label : String)
  deriving DecidableEq, Repr

/-- One turn of the loop.  A frame that fails ends the loop and is not counted. -/
def turn (v : View) : View × TurnResult :=
  match v.surface.beginTurn? with
  | none => (v, .idle)
  | some (surface, .skip) => ({ v with surface }, .skipped)
  | some (surface, t@(.draw ..)) =>
    match (t.callbacks.foldl prepare { v with surface }).draw with
    | (v, none) => ({ v with surface := v.surface.finishFrame }, .drawn)
    | (v, some label) => ({ v with surface := v.surface.stop }, .failed label)

/-! ### A view in use

A session drives a view step by step: the host acts, the loop is started and stopped,
and turns are taken.
-/

/-- One step of a session. -/
inductive Step where
  | host (s : HostStep)
  /-- Starts the loop. -/
  | start
  /-- Takes one turn of the loop. -/
  | frame
  /-- Stops the loop. -/
  | stop

/-- What a step came to, besides the view itself. -/
structure StepResult where
  /-- The loop had nothing to do. -/
  idle : Bool := false
  /-- The loop could not be started. -/
  refused : Option Surface.StartError := none
  failure : Option String := none

/-- Carries out one step. -/
def step (v : View) : Step → View × StepResult
  | .host s =>
    let (v, failure) := v.perform s
    (v, { failure })
  | .start =>
    match v.surface.start with
    | .ok surface => ({ v with surface }, {})
    | .error e => (v, { refused := some e })
  | .frame =>
    match v.turn with
    | (v, .idle) => (v, { idle := true })
    | (v, .skipped) | (v, .drawn) => (v, {})
    | (v, .failed label) => (v, { failure := some label })
  | .stop =>
    if v.surface.isRunning then ({ v with surface := v.surface.stop }, {})
    else (v, { idle := true })

end View

end SurfaceHost
