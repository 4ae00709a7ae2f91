import SurfaceHost.Proofs.View.Run

/-!
# Views whose engine acts

The engine of a view need not only listen: from within a call it may do to the view whatever
a host can do, and it may fail.  `Hosted` is a view with what its engine will do in its next
calls.  Its turns are those of the view, with every call to the engine carried out in full.
An engine that does nothing leaves the turns of the view as they are (`turn_of_silent`).
-/

namespace SurfaceHost

/-- A view and what its engine does to it. -/
structure Hosted where
  view : View
  /-- The steps that the engine takes from within its next calls, one list for each; from
  then on it only listens. -/
  plan : List (List HostStep) := []

namespace Hosted

/-- Calls the engine, which does what it has planned. -/
def call (h : Hosted) (c : Call) : Hosted × Option String :=
  match h.plan with
  | [] => ({ h with view := h.view.callEngine c }, none)
  | body :: plan =>
    let (view, failure) := (h.view.callEngine c).performAll body
    ({ view, plan }, failure)

/-- Makes calls up to the first one that fails. -/
def callAll (h : Hosted) : List Call → Hosted × Option String
  | [] => (h, none)
  | c :: rest =>
    match h.call c with
    | (h, none) => h.callAll rest
    | (h, some label) => (h, some label)

/-- Runs a job, or tells how it fails. -/
def run (h : Hosted) (j : Job) : Hosted × Option String :=
  match j with
  | .call _ | .release _ => h.callAll (j.calls h.view.capabilities)
  | .stopFling | .startFling _ _ _ _ | .task _ _ =>
    let (view, failure) := h.view.run j
    ({ h with view }, failure)

/-- The jobs that wait, oldest first. -/
def jobs (h : Hosted) : List Job :=
  h.view.backlog.toList

/-- What is left in the view when a job has been taken. -/
def setBacklog (h : Hosted) (backlog : Backlog Job) : Hosted :=
  { h with view := { h.view with backlog } }

/-- The load of what is waiting and of what the engine may still add to it. -/
def load (h : Hosted) : Nat :=
  h.view.load + Backlog.total bodyLoad h.plan

theorem load_call_le (h : Hosted) (c : Call) :
  (h.call c).1.load ≤ h.load
  := by
  obtain ⟨view, plan⟩ := h
  cases plan with
  | nil => exact Nat.le_refl _
  | cons body plan =>
    have hbody := (view.callEngine c).load_performAll_le body
    have hview : (view.callEngine c).load = view.load := rfl
    simp only [call, load, Backlog.total_cons]
    omega

theorem load_callAll_le (h : Hosted) (cs : List Call) :
  (h.callAll cs).1.load ≤ h.load
  := by
  induction cs generalizing h with
  | nil => exact Nat.le_refl _
  | cons c rest ih =>
    have hfirst := h.load_call_le c
    rw [callAll]
    split
    · rename_i g hg
      rw [hg] at hfirst
      exact Nat.le_trans (ih g) hfirst
    · rename_i g label hg
      rw [hg] at hfirst
      exact hfirst

/-- A job that has run leaves less load than it was. -/
theorem load_run_lt (h : Hosted) (j : Job) :
  (h.run j).1.load < h.load + j.load
  := by
  have hview := h.view.load_run_lt j
  cases j with
  | call c =>
    have hcalls := h.load_callAll_le (Job.calls h.view.capabilities (.call c))
    simp only [run, Job.load]
    omega
  | release contacts =>
    have hcalls := h.load_callAll_le (Job.calls h.view.capabilities (.release contacts))
    simp only [run, Job.load]
    omega
  | stopFling | startFling | task =>
    simp only [run, load]
    omega

/-- Runs the waiting jobs until none is left or one fails, as a view does. -/
def drain (h : Hosted) (count : Nat) : Hosted × Except String Nat :=
  match _taken : h.view.backlog.pop? with
  | none => (h, .ok count)
  | some (j, rest) =>
    match _ran : (h.setBacklog rest).run j with
    | (g, none) => g.drain (count + 1)
    | (g, some label) => (g, .error label)
termination_by h.load
decreasing_by
  have h₁ := Backlog.load_of_pop? _taken
  have h₂ := (h.setBacklog rest).load_run_lt j
  rw [_ran] at h₂
  simp only [load, View.load, setBacklog] at h₁ h₂ ⊢
  omega

/-- Moves a fling on and has the engine draw. -/
def animate (h : Hosted) : Hosted × Option String :=
  let (scroller, more) := h.view.scroller.compute h.view.eventTime
  let kinetic : List Call :=
    if more && h.view.capabilities.kinetic then
      [.kinetic scroller.current.x scroller.current.y]
    else []
  match { h with view := { h.view with scroller } }.callAll (kinetic ++ [Call.redraw]) with
  | (h, none) => (if more then { h with view := h.view.signal .request } else h, none)
  | (h, some label) => (h, some label)

/-- Draws a frame, or tells how it fails. -/
def draw (h : Hosted) : Hosted × Option String :=
  match h.drain 0 with
  | (h, .error label) => (h, some label)
  | (h, .ok count) =>
    if 0 < count then
      { h with
        view := h.view.emit
          (.log (.debug "drained" [("actions", .number (Int64.ofNat count))])) }.animate
    else h.animate

/-- Carries out the callbacks before a frame, up to the first one that fails. -/
def prepareAll (h : Hosted) : List Callback → Hosted × Option String
  | [] => (h, none)
  | .created :: rest =>
    match { h with
        view := h.view.emit
          (.log (.info "surface created" [("storage", .text h.view.storage)])) }.call
      (.init h.view.storage) with
    | (h, none) => h.prepareAll rest
    | (h, some label) => (h, some label)
  | .changed width height :: rest =>
    match { h with
        view := h.view.emit
          (.log
            (.info "surface changed"
              [("width", .number width), ("height", .number height)])) }.call
      (.resize width height) with
    | (h, none) => h.prepareAll rest
    | (h, some label) => (h, some label)
  | .draw :: rest => h.prepareAll rest

/-- Changes the surface of the view. -/
def setSurface (h : Hosted) (surface : Surface) : Hosted :=
  { h with view := { h.view with surface } }

/-- How the view stands when the next turn begins to run the waiting jobs, if it comes to
that. -/
def drainStart? (h : Hosted) : Option Hosted :=
  match h.view.surface.beginTurn? with
  | none | some (_, .skip) => none
  | some (surface, t@(.draw ..)) =>
    match (h.setSurface surface).prepareAll t.callbacks with
    | (h, none) => some h
    | (_, some _) => none

/-- One turn of the loop.  A frame that fails ends the loop and is not counted. -/
def turn (h : Hosted) : Hosted × View.TurnResult :=
  match h.view.surface.beginTurn? with
  | none => (h, .idle)
  | some (surface, .skip) => (h.setSurface surface, .skipped)
  | some (surface, t@(.draw ..)) =>
    match (h.setSurface surface).prepareAll t.callbacks with
    | (h, some label) => (h.setSurface h.view.surface.stop, .failed label)
    | (h, none) =>
      match h.draw with
      | (h, none) => (h.setSurface h.view.surface.finishFrame, .drawn)
      | (h, some label) => (h.setSurface h.view.surface.stop, .failed label)

/-- Carries out one act. -/
def act (h : Hosted) : View.Act → Hosted
  | .step .frame => h.turn.1
  | .step (.host s) => { h with view := h.view.act (.step (.host s)) }
  | .step .start => { h with view := h.view.act (.step .start) }
  | .step .stop => { h with view := h.view.act (.step .stop) }
  | .alarm generation => { h with view := h.view.act (.alarm generation) }

/-- The view and its engine after a run. -/
def after (h : Hosted) (acts : List View.Act) : Hosted :=
  acts.foldl act h

/-! ### An engine that only listens -/

section silent

variable (v : View)

theorem callAll_of_silent (cs : List Call) :
  callAll ⟨v, []⟩ cs = (⟨cs.foldl View.callEngine v, []⟩, none)
  := by
  induction cs generalizing v with
  | nil => rfl
  | cons c rest ih => apply ih (v.callEngine c)

theorem run_of_silent (j : Job) :
  run ⟨v, []⟩ j = (⟨(v.run j).1, []⟩, (v.run j).2)
  := by
  cases j with
  | call c => apply callAll_of_silent
  | release contacts =>
    simp only [run, Job.calls, callAll_of_silent, View.foldl_releaseCalls]
    rfl
  | stopFling | startFling | task => rfl

theorem drain_of_silent (count : Nat) :
  drain ⟨v, []⟩ count = (⟨(v.drain count).1, []⟩, (v.drain count).2)
  := by
  fun_induction View.drain v count with
  | case1 v count hpop =>
    rw [drain]
    split
    · rfl
    · rename_i h
      rw [hpop] at h
      cases h
  | case2 v count j rest hpop w hrun ih =>
    have hsilent := run_of_silent { v with backlog := rest } j
    rw [hrun] at hsilent
    rw [drain]
    split
    · rename_i h
      rw [hpop] at h
      cases h
    · rename_i j' rest' h
      obtain ⟨rfl, rfl⟩ := Prod.mk.inj (Option.some.inj (hpop.symm.trans h))
      split
      · rename_i g hg
        obtain ⟨rfl, -⟩ := Prod.mk.inj (hsilent.symm.trans hg)
        apply ih
      · rename_i g label hg
        cases hsilent.symm.trans hg
  | case3 v count j rest hpop w label hrun =>
    have hsilent := run_of_silent { v with backlog := rest } j
    rw [hrun] at hsilent
    rw [drain]
    split
    · rename_i h
      rw [hpop] at h
      cases h
    · rename_i j' rest' h
      obtain ⟨rfl, rfl⟩ := Prod.mk.inj (Option.some.inj (hpop.symm.trans h))
      split
      · rename_i g hg
        cases hsilent.symm.trans hg
      · rename_i g label' hg
        cases hsilent.symm.trans hg
        rfl

theorem animate_of_silent :
  animate ⟨v, []⟩ = (⟨v.animate, []⟩, none)
  := by
  simp only [animate, View.animate, callAll_of_silent]
  cases (v.scroller.compute v.eventTime).2 with
  | true => cases v.capabilities.kinetic <;> rfl
  | false => rfl

theorem draw_of_silent :
  draw ⟨v, []⟩ = (⟨v.draw.1, []⟩, v.draw.2)
  := by
  rw [draw, View.draw, drain_of_silent]
  rcases v.drain 0 with ⟨w, label | count⟩
  · rfl
  · simp only
    split
    · apply animate_of_silent
    · apply animate_of_silent

theorem prepareAll_of_silent (cs : List Callback) :
  prepareAll ⟨v, []⟩ cs = (⟨cs.foldl View.prepare v, []⟩, none)
  := by
  induction cs generalizing v with
  | nil => rfl
  | cons c rest ih =>
    cases c with
    | created => apply ih (v.prepare .created)
    | changed width height => apply ih (v.prepare (.changed width height))
    | draw => apply ih v

/-- With an engine that only listens, a turn is one of the view. -/
theorem turn_of_silent :
  turn ⟨v, []⟩ = (⟨v.turn.1, []⟩, v.turn.2)
  := by
  rw [turn, View.turn]
  rcases v.surface.beginTurn? with _ | ⟨surface, _ | ⟨created, size⟩⟩
  · rfl
  · rfl
  · simp only [setSurface, prepareAll_of_silent, draw_of_silent]
    rcases List.foldl View.prepare _ _ |>.draw with ⟨w, _ | label⟩
    · rfl
    · rfl

theorem act_of_silent (a : View.Act) :
  act ⟨v, []⟩ a = ⟨v.act a, []⟩
  := by
  cases a with
  | alarm generation => rfl
  | step st =>
    cases st with
    | frame => rw [act, turn_of_silent, View.act, View.step_frame]
    | host | start | stop => rfl

/-- With an engine that only listens, a run is one of the view. -/
theorem after_of_silent (acts : List View.Act) :
  after ⟨v, []⟩ acts = ⟨v.after acts, []⟩
  := by
  induction acts generalizing v with
  | nil => rfl
  | cons a rest ih =>
    rw [after, List.foldl_cons, act_of_silent]
    apply ih

end silent

end Hosted

end SurfaceHost
