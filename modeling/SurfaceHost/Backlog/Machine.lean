import SurfaceHost.Backlog.Basic

/-!
# Tasks that use their own backlog

A task waiting in a backlog may itself add tasks, take tasks or drain the backlog
while it runs, and it may fail.  `Machine` runs such tasks one small step at a
time: its stack holds the bodies and the drains that are under way, and `weight`
goes down with every step, so that every run ends.
-/

namespace SurfaceHost

namespace Backlog

/-- What can be done to a backlog of tasks, from outside or from within a task. -/
inductive Op where
  /-- Adds a task whose body performs the given operations. -/
  | enqueue (label : String) (body : List Op)
  /-- Adds no task at all. -/
  | enqueueNone
  /-- Adds `count` tasks with empty bodies, labelled `label0`, `label1`, … -/
  | enqueueMany (label : String) (count : Nat)
  /-- Takes and runs the oldest task. -/
  | pop
  /-- Takes and runs up to `count` tasks. -/
  | popMany (count : Nat)
  /-- Takes and runs tasks until none is left. -/
  | drain
  /-- Looks at the length. -/
  | length
  /-- Fails, which ends everything under way. -/
  | fail (label : String)

/-- A labelled piece of work. -/
structure Task where
  label : String
  body : List Op := []

/-- Something under way in a `Machine`. -/
inductive Frame where
  /-- Operations still to be performed. -/
  | body (ops : List Op)
  /-- A drain that has taken `count` tasks so far. -/
  | drain (count : Nat)
  /-- A run of takings with `left` to go, after `count` of them. -/
  | take (left count : Nat)

/-- A backlog of tasks together with what is under way. -/
structure Machine where
  backlog : Backlog Task := {}
  /-- Whether additions ask for a render pass. -/
  notifies : Bool := true
  /-- How many render passes were asked for. -/
  requests : Nat := 0
  /-- The labels of the tasks begun, in order. -/
  ran : Array String := #[]
  /-- What is under way, innermost first. -/
  stack : List Frame := []
  /-- How many tasks the last finished drain or run of takings took. -/
  taken : Option Nat := none
  /-- The label of the failure that ended the last operation. -/
  failure : Option String := none

mutual

/-- A bound on the steps an operation can cause. -/
def Op.weight : Op → Nat
  | .enqueue _ body => bodyWeight body + 3
  | .enqueueMany _ count => 2 * count + 1
  | .pop => 3
  | .popMany count => count + 2
  | .drain => 2
  | .enqueueNone | .length | .fail _ => 1

/-- The weight of a list of operations. -/
def bodyWeight : List Op → Nat
  | [] => 0
  | op :: ops => op.weight + bodyWeight ops

end

/-- The weight of a waiting task. -/
def Task.weight (t : Task) : Nat :=
  bodyWeight t.body + 2

/-- The weight of something under way. -/
def Frame.weight : Frame → Nat
  | .body ops => bodyWeight ops + 1
  | .drain _ => 1
  | .take left _ => left + 1

namespace Machine

/-- A bound on the steps that are left. -/
def weight (m : Machine) : Nat :=
  total Frame.weight m.stack + total Task.weight m.backlog.toList

/-- Adds a task and asks for a render pass. -/
def add (m : Machine) (t : Task) : Machine :=
  { m with
    backlog := m.backlog.push t
    requests := if m.notifies then m.requests + 1 else m.requests }

/-- Begins a task that was taken from the backlog. -/
def enter (m : Machine) (t : Task) (rest : Backlog Task) (stack : List Frame) : Machine :=
  { m with backlog := rest, ran := m.ran.push t.label, stack := .body t.body :: stack }

/-- Performs the first of the operations under way, with `stack` what comes after it. -/
def perform (m : Machine) (op : Op) (stack : List Frame) : Machine :=
  match op with
  | .enqueue label body => { m with stack := stack }.add { label, body }
  | .enqueueNone => { m with stack := stack }
  | .enqueueMany label count =>
    (List.range count).foldl (fun m i => m.add { label := label ++ toString i })
      { m with stack := stack }
  | .pop => { m with stack := .take 1 0 :: stack }
  | .popMany count => { m with stack := .take count 0 :: stack }
  | .drain => { m with stack := .drain 0 :: stack }
  | .length => { m with stack := stack }
  | .fail label => { m with stack := [], failure := some label }

/-- Begins the oldest task, with `frame` to go on with after it.  If there is none, what
is under way is over, after it took `count` tasks. -/
def takeOldest (m : Machine) (frame : Frame) (count : Nat) (stack : List Frame) : Machine :=
  -- The backlog leaves the machine for as long as it is changed, so that nothing is copied.
  let backlog := m.backlog
  let m := { m with backlog := .empty }
  match backlog.pop? with
  | some (t, rest) => m.enter t rest (frame :: stack)
  | none => { m with backlog := backlog, stack := stack, taken := some count }

/-- One step of what is under way, if anything is. -/
def step (m : Machine) : Machine :=
  match m.stack with
  | [] => m
  | .body [] :: stack => { m with stack := stack }
  | .body (op :: ops) :: stack => m.perform op (.body ops :: stack)
  | .drain count :: stack => m.takeOldest (.drain (count + 1)) count stack
  | .take 0 count :: stack => { m with stack := stack, taken := some count }
  | .take (left + 1) count :: stack => m.takeOldest (.take left (count + 1)) count stack

/-! ### Every run ends -/

/-- The weight of everything that waits in a backlog. -/
private def waiting (b : Backlog Task) : Nat :=
  total Task.weight b.toList

private theorem waiting_push_le (b : Backlog Task) (t : Task) :
  waiting (b.push t) ≤ waiting b + t.weight
  := by
  obtain h | h := toList_push_cases b t <;> simp [waiting, h]

private theorem waiting_of_pop? {b rest : Backlog Task} {t : Task}
    (h : b.pop? = some (t, rest)) :
  waiting b = t.weight + waiting rest
  := by
  simp [waiting, toList_of_pop?_eq_some h]

private theorem weight_eq (m : Machine) :
  m.weight = total Frame.weight m.stack + waiting m.backlog
  := rfl

private theorem weight_add_le (m : Machine) (t : Task) :
  (m.add t).weight ≤ m.weight + t.weight
  := by
  have := waiting_push_le m.backlog t
  simp only [weight_eq, add]
  omega

private theorem weight_addMany_le (f : Nat → String) (is : List Nat) (m : Machine) :
  (is.foldl (fun m i => m.add { label := f i }) m).weight ≤ m.weight + 2 * is.length
  := by
  induction is generalizing m with
  | nil => simp
  | cons i is ih =>
    have h₁ := ih (m.add { label := f i })
    have h₂ := weight_add_le m { label := f i }
    simp only [Task.weight, bodyWeight] at h₂
    simp only [List.foldl_cons, List.length_cons]
    omega

private theorem weight_perform_lt (m : Machine) (op : Op) (stack : List Frame) :
  (m.perform op stack).weight
    < total Frame.weight stack + op.weight + waiting m.backlog
  := by
  cases op with
  | enqueue label body =>
    have := weight_add_le { m with stack := stack } { label, body }
    simp only [weight_eq, Task.weight] at this
    simp only [perform, weight_eq, Op.weight]
    omega
  | enqueueMany label count =>
    have := weight_addMany_le (fun i => label ++ toString i) (List.range count)
      { m with stack := stack }
    simp only [weight_eq, List.length_range] at this
    simp only [perform, weight_eq, Op.weight]
    omega
  | _ => simp [perform, weight_eq, Op.weight, Frame.weight] <;> omega

private theorem weight_takeOldest_lt (m : Machine) (frame : Frame) (count : Nat)
    (stack : List Frame) :
  (m.takeOldest frame count stack).weight
    < total Frame.weight stack + frame.weight + waiting m.backlog
  := by
  have hf : 0 < frame.weight := by cases frame <;> simp [Frame.weight]
  simp only [takeOldest]
  split
  · rename_i hp
    have := waiting_of_pop? hp
    simp only [weight_eq, enter, this, total_cons, Frame.weight, Task.weight]
    omega
  · simp only [weight_eq]
    omega

/-- Every step lowers the weight. -/
theorem weight_step_lt {m : Machine} (h : m.stack ≠ []) :
  m.step.weight < m.weight
  := by
  unfold step
  split
  · contradiction
  · rename_i hs
    simp [weight_eq, hs, Frame.weight]
  · rename_i op ops stack hs
    have := weight_perform_lt m op (.body ops :: stack)
    simp only [weight_eq, hs, total_cons, Frame.weight, bodyWeight] at this ⊢
    omega
  · rename_i count stack hs
    have := weight_takeOldest_lt m (.drain (count + 1)) count stack
    simp only [weight_eq, hs, total_cons, Frame.weight] at this ⊢
    omega
  · rename_i hs
    simp [weight_eq, hs, Frame.weight]
  · rename_i left count stack hs
    have := weight_takeOldest_lt m (.take left (count + 1)) count stack
    simp only [weight_eq, hs, total_cons, Frame.weight] at this ⊢
    omega

/-- Goes on until nothing is under way. -/
def run (m : Machine) : Machine :=
  if _h : m.stack = [] then m else m.step.run
termination_by m.weight
decreasing_by exact weight_step_lt ‹_›

/-- Performs one operation from outside and everything that follows from it. -/
def execute (m : Machine) (op : Op) : Machine :=
  run { m with stack := [.body [op]], ran := #[], taken := none, failure := none }

end Machine

end Backlog

end SurfaceHost
