import SurfaceHost.Proofs.Alarms
import SurfaceHost.Proofs.View.Run

/-!
# A view and its threads

Between any two of the steps in which a view takes in a motion, an alarm may go off, and the
render thread may run a job.

`Shared` is a view with what the thread of the motions has still to do.  Done without an
interruption, the steps of a motion come to `View.touch` (`Shared.exists_undisturbed`), and an
alarm that goes off comes to `View.fire` (`Shared.view_ring`).
-/

namespace SurfaceHost

/-! ### Steps of all threads -/

/-- A view that several threads use. -/
structure Shared where
  view : View
  /-- The alarms that are still to go off. -/
  alarms : List Alarm := []
  disarms : Nat := 0
  /-- What is left to do for the present motion. -/
  todo : List Errand := []
  /-- The jobs that the render thread has taken. -/
  taken : List Job := []

namespace Shared

/-- What a thread does while no other one does anything. -/
inductive Move where
  /-- The next motion comes in, once the last one is done with. -/
  | begin (e : Motion)
  /-- The next step of the present motion. -/
  | goOn
  /-- The alarm at a place goes off, be it stopped or not, and its report is delivered. -/
  | ring (i : Nat)
  /-- The render thread runs the oldest job. -/
  | take
  | wait (ns : Nat)

/-- The detector of the view and its alarms. -/
def watch (m : Shared) : Watch :=
  { detector := m.view.detector, alarms := m.alarms, disarms := m.disarms }

/-- Puts a detector and alarms in place. -/
def setWatch (m : Shared) (w : Watch) : Shared :=
  { m with
    view := { m.view with detector := w.detector }, alarms := w.alarms, disarms := w.disarms }

/-- All jobs in the order in which they were added. -/
def jobs (m : Shared) : List Job :=
  m.taken ++ m.view.backlog.toList

/-- The next step of the present motion. -/
def goOn (m : Shared) : Shared :=
  match m.todo with
  | [] => m
  | .enqueue j :: rest => { m with view := m.view.enqueue j, todo := rest }
  | .detect e :: rest =>
    let (w, g) := m.watch.touch m.view.now e
    { m.setWatch w with todo := .report g :: rest }
  | .report g :: rest => { m with view := m.view.deliver g, todo := rest }

def step (m : Shared) : Move → Shared
  | .begin e =>
    match m.todo with
    | [] => { m with view := (m.view.begin e).1, todo := (m.view.begin e).2 }
    | _ :: _ => m
  | .goOn => m.goOn
  | .ring i =>
    let (w, g) := m.watch.ring i
    { m.setWatch w with view := (m.setWatch w).view.deliver g }
  | .take =>
    match m.view.backlog.pop? with
    | some (j, rest) =>
      { m with view := ({ m.view with backlog := rest }.run j).1, taken := m.taken ++ [j] }
    | none => m
  | .wait ns => { m with view := { m.view with now := m.view.now + ns } }

/-- A view after some moves of its threads. -/
def after (m : Shared) (moves : List Move) : Shared :=
  moves.foldl step m

theorem after_append (m : Shared) (front back : List Move) :
  m.after (front ++ back) = (m.after front).after back
  := List.foldl_append

theorem after_append_singleton (m : Shared) (moves : List Move) (a : Move) :
  m.after (moves ++ [a]) = (m.after moves).step a
  := after_append m moves [a]

/-- An alarm that goes off does to the view what its generation does. -/
theorem view_ring {m : Shared} {i : Nat} {a : Alarm} (h : m.alarms[i]? = some a) :
  (m.step (.ring i)).view = m.view.fire a.generation
  := by
  have hring : m.watch.ring i = _ := Watch.ring_of_some h
  simp only [step, hring]
  rfl

/-- One thing that is left can be done without an interruption. -/
theorem exists_carryOut {m : Shared} {d : Errand} {rest : List Errand} (h : m.todo = d :: rest) :
  ∃ moves, (∀ a ∈ moves, a = .goOn) ∧ (m.after moves).todo = rest
    ∧ (m.after moves).view = m.view.carryOut d
  := by
  cases d with
  | enqueue j =>
    have hstep : m.goOn = { m with view := m.view.enqueue j, todo := rest } := by rw [goOn, h]
    use [.goOn], by simp
    rw [show m.after [.goOn] = m.goOn from rfl, hstep]
    exact ⟨rfl, rfl⟩
  | detect e =>
    -- The detector is asked in one step, and its report is delivered in the next.
    have hstep : m.goOn.goOn =
        { m.setWatch (m.watch.touch m.view.now e).1 with
          view := (m.setWatch (m.watch.touch m.view.now e).1).view.deliver
            (m.watch.touch m.view.now e).2
          todo := rest } := by
      simp only [goOn, h]
    use [.goOn, .goOn], by simp
    rw [show m.after [.goOn, .goOn] = m.goOn.goOn from rfl, hstep]
    exact ⟨rfl, rfl⟩
  | report g =>
    have hstep : m.goOn = { m with view := m.view.deliver g, todo := rest } := by rw [goOn, h]
    use [.goOn], by simp
    rw [show m.after [.goOn] = m.goOn from rfl, hstep]
    exact ⟨rfl, rfl⟩

/-- All that is left can be done without an interruption. -/
theorem exists_goOn (todo : List Errand) (m : Shared) (h : m.todo = todo) :
  ∃ moves, (∀ a ∈ moves, a = .goOn) ∧ (m.after moves).todo = []
    ∧ (m.after moves).view = todo.foldl View.carryOut m.view
  := by
  induction todo generalizing m with
  | nil => exact ⟨[], by simp, h, rfl⟩
  | cons d rest ih =>
    obtain ⟨first, hfirst, htodo, hview⟩ := exists_carryOut h
    obtain ⟨moves, hmoves, hdone, hviews⟩ := ih (m.after first) htodo
    use first ++ moves
    rw [after_append, List.foldl_cons, ← hview]
    exact ⟨List.forall_mem_append.mpr ⟨hfirst, hmoves⟩, hdone, hviews⟩

/-- Without an interruption, a motion does what it does to a view that is not shared. -/
theorem exists_undisturbed (m : Shared) (h : m.todo = []) (e : Motion) :
  ∃ moves, (∀ a ∈ moves, a = .goOn) ∧ (m.after (.begin e :: moves)).todo = []
    ∧ (m.after (.begin e :: moves)).view = m.view.touch e
  := by
  have hstep : m.step (.begin e) =
      { m with view := (m.view.begin e).1, todo := (m.view.begin e).2 } := by rw [step, h]
  obtain ⟨moves, hmoves, htodo, hview⟩ :=
    exists_goOn (m.view.begin e).2 (m.step (.begin e)) (by rw [hstep])
  refine ⟨moves, hmoves, htodo, ?_⟩
  rw [show m.after (.begin e :: moves) = (m.step (.begin e)).after moves from rfl, hview, hstep]
  apply View.foldl_begin

end Shared

end SurfaceHost
