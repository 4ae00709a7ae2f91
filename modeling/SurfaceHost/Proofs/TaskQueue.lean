import Mathlib.Logic.Function.Iterate
import SurfaceHost.Backlog.Machine
import SurfaceHost.Proofs.Backlog

/-!
# Tasks in a plain queue

`Fifo` runs tasks from a plain list: adding puts a task at the end, taking removes the first
one.  It keeps all tasks that were ever added and removed, and every drain under way keeps
those that it has taken itself.

The machine with its row of slots does the same, step by step and however deep drains and
takings are nested in tasks.  So tasks are removed in the order in which they were added, each
of them once unless it is still waiting, and a drain that returns leaves nothing behind and
counts what it has taken itself.
-/

namespace SurfaceHost

namespace Backlog

/-! ### The plain queue -/

/-- Something under way in a `Fifo`.  Drains and takings know the tasks that they have taken
themselves. -/
inductive Activity where
  /-- Operations still to be performed. -/
  | body (ops : List Op)
  | drain (own : List Task)
  /-- A run of takings with `left` to go. -/
  | take (left : Nat) (own : List Task)

/-- What a machine has under way in place of an activity. -/
def Activity.frame : Activity → Frame
  | .body ops => .body ops
  | .drain own => .drain own.length
  | .take left own => .take left own.length

/-- The tasks that an activity has taken itself. -/
def Activity.own : Activity → List Task
  | .body _ => []
  | .drain own => own
  | .take _ own => own

/-- A plain list of waiting tasks together with what is under way. -/
structure Fifo where
  waiting : List Task := []
  /-- All tasks that were ever added. -/
  added : List Task := []
  /-- All tasks that were ever removed. -/
  removed : List Task := []
  /-- The tasks begun by the present operation. -/
  ran : List Task := []
  stack : List Activity := []
  /-- The tasks that the last finished drain or run of takings took. -/
  returned : Option (List Task) := none
  failure : Option String := none

namespace Fifo

/-- Adds tasks at the end. -/
def add (f : Fifo) (tasks : List Task) : Fifo :=
  { f with waiting := f.waiting ++ tasks, added := f.added ++ tasks }

/-- Performs the first of the operations under way, with `stack` what comes after it. -/
def perform (f : Fifo) (op : Op) (stack : List Activity) : Fifo :=
  match op with
  | .enqueue label body => { f with stack }.add [{ label, body }]
  | .enqueueMany label count =>
    { f with stack }.add ((List.range count).map fun i => { label := label ++ toString i })
  | .enqueueNone | .length => { f with stack }
  | .pop => { f with stack := .take 1 [] :: stack }
  | .popMany count => { f with stack := .take count [] :: stack }
  | .drain => { f with stack := .drain [] :: stack }
  | .fail label => { f with stack := [], failure := some label }

/-- Removes the first task and begins it, with `activity` to go on with after it.  If there
is none, the activity is over. -/
def takeFirst (f : Fifo) (activity : List Task → Activity) (own : List Task)
    (stack : List Activity) : Fifo :=
  match f.waiting with
  | t :: rest =>
    { f with
      waiting := rest
      removed := f.removed ++ [t]
      ran := f.ran ++ [t]
      stack := .body t.body :: activity (own ++ [t]) :: stack }
  | [] => { f with stack, returned := some own }

/-- One step of what is under way, if anything is. -/
def step (f : Fifo) : Fifo :=
  match f.stack with
  | [] => f
  | .body [] :: stack => { f with stack }
  | .body (op :: ops) :: stack => f.perform op (.body ops :: stack)
  | .drain own :: stack => f.takeFirst .drain own stack
  | .take 0 own :: stack => { f with stack, returned := some own }
  | .take (left + 1) own :: stack => f.takeFirst (.take left) own stack

/-- Begins an operation from outside. -/
def begin (f : Fifo) (op : Op) : Fifo :=
  { f with stack := [.body [op]], ran := [], returned := none, failure := none }

/-- A bound on the steps that are left. -/
def weight (f : Fifo) : Nat :=
  total Frame.weight (f.stack.map Activity.frame) + total Task.weight f.waiting

/-- Performs one operation from outside and everything that follows from it. -/
def execute (f : Fifo) (op : Op) : Fifo :=
  step^[(f.begin op).weight] (f.begin op)

end Fifo

/-! ### Runs of a machine -/

namespace Machine

/-- Begins an operation from outside. -/
def begin (m : Machine) (op : Op) : Machine :=
  { m with stack := [.body [op]], ran := #[], taken := none, failure := none }

/-- Without anything under way, steps change nothing. -/
theorem iterate_step_of_idle {m : Machine} (h : m.stack = []) (n : Nat) :
  step^[n] m = m
  := by
  apply Function.iterate_fixed
  rw [step, h]

/-- Going on until nothing is under way takes at most as many steps as the weight. -/
theorem run_eq_iterate {m : Machine} {n : Nat} (h : m.weight ≤ n) :
  m.run = step^[n] m
  := by
  induction n generalizing m with
  | zero =>
    have hidle : m.stack = [] := by
      by_contra hstack
      have := weight_step_lt hstack
      omega
    rw [run, dif_pos hidle, iterate_step_of_idle hidle]
  | succ n ih =>
    rw [run]
    split
    · rename_i hidle
      rw [iterate_step_of_idle hidle]
    · rename_i hstack
      have hlt := weight_step_lt hstack
      rw [Function.iterate_succ_apply]
      apply ih
      omega

theorem execute_eq_iterate (m : Machine) (op : Op) :
  m.execute op = step^[(m.begin op).weight] (m.begin op)
  := run_eq_iterate (Nat.le_refl _)

end Machine

/-! ### The machine and the plain queue -/

/-- A machine does the same as a plain queue: its backlog holds the waiting tasks, it has the
same under way, and it tells of each drain how many tasks it took itself. -/
structure Refines (m : Machine) (f : Fifo) : Prop where
  inOrder : m.backlog.InOrder
  trimmed : m.backlog.Trimmed
  waiting : m.backlog.toList = f.waiting
  stack : m.stack = f.stack.map Activity.frame
  ran : m.ran.toList = f.ran.map Task.label
  taken : m.taken = f.returned.map List.length
  failure : m.failure = f.failure

namespace Refines

variable {m : Machine} {f : Fifo}

theorem new (notifies : Bool) :
  Refines { notifies } {}
  := by
  constructor
  case inOrder => apply inOrder_empty
  case trimmed => apply trimmed_empty
  all_goals rfl

/-- The stack may be changed on both sides. -/
theorem setStack (h : Refines m f) (stack : List Activity) :
  Refines { m with stack := stack.map Activity.frame } { f with stack }
  := by
  constructor
  case inOrder => apply h.inOrder
  case trimmed => apply h.trimmed
  case waiting => apply h.waiting
  case stack => rfl
  case ran => apply h.ran
  case taken => apply h.taken
  case failure => apply h.failure

theorem add (h : Refines m f) (t : Task) :
  Refines (m.add t) (f.add [t])
  := by
  constructor
  case inOrder => apply h.inOrder.push
  case trimmed => apply h.trimmed.push
  case waiting =>
    rw [Fifo.add, ← h.waiting]
    apply h.inOrder.toList_push
  case stack => apply h.stack
  case ran => apply h.ran
  case taken => apply h.taken
  case failure => apply h.failure

theorem addMany (h : Refines m f) (task : Nat → Task) (is : List Nat) :
  Refines (is.foldl (fun m i => m.add (task i)) m) (f.add (is.map task))
  := by
  induction is generalizing m f with
  | nil => simpa [Fifo.add] using h
  | cons i is ih => simpa [Fifo.add] using ih (h.add (task i))

theorem perform (h : Refines m f) (op : Op) (stack : List Activity) :
  Refines (m.perform op (stack.map Activity.frame)) (f.perform op stack)
  := by
  cases op with
  | enqueue label body => apply (h.setStack stack).add
  | enqueueMany label count =>
    apply (h.setStack stack).addMany (fun i => { label := label ++ toString i })
  | enqueueNone | length => apply h.setStack stack
  | pop => apply h.setStack (.take 1 [] :: stack)
  | popMany count => apply h.setStack (.take count [] :: stack)
  | drain => apply h.setStack (.drain [] :: stack)
  | fail label => exact { h.setStack [] with failure := rfl }

/-- What is over leaves the stack, and tells what it took. -/
theorem giveBack (h : Refines m f) (own : List Task) (stack : List Activity) :
  Refines { m with stack := stack.map Activity.frame, taken := some own.length }
    { f with stack, returned := some own }
  := { h.setStack stack with taken := rfl }

theorem takeFirst (h : Refines m f) {activity : List Task → Activity} {frame : Frame}
    {own : List Task} (stack : List Activity)
    (hframe : ∀ t, (activity (own ++ [t])).frame = frame) :
  Refines (m.takeOldest frame own.length (stack.map Activity.frame))
    (f.takeFirst activity own stack)
  := by
  rw [Machine.takeOldest, Fifo.takeFirst]
  cases hpop : m.backlog.pop? with
  | none =>
    have hnil : f.waiting = [] := by
      rw [← h.waiting]
      apply h.inOrder.pop?_eq_none_iff.mp hpop
    have hover := h.giveBack own stack
    rw [hnil] at hover ⊢
    apply hover
  | some taken =>
    obtain ⟨t, rest⟩ := taken
    have hwaiting : f.waiting = t :: rest.toList := by
      rw [← h.waiting]
      apply toList_of_pop?_eq_some hpop
    rw [hwaiting]
    constructor
    case inOrder => apply h.inOrder.pop? hpop
    case trimmed => apply h.inOrder.trimmed_of_pop? hpop
    case waiting => rfl
    case stack =>
      simp only [Machine.enter, List.map_cons, hframe]
      rfl
    case ran => simp [Machine.enter, h.ran]
    case taken => apply h.taken
    case failure => apply h.failure

/-- A step of the machine is a step of the plain queue. -/
theorem step (h : Refines m f) :
  Refines m.step f.step
  := by
  rw [Machine.step, Fifo.step, h.stack]
  match f.stack with
  | [] => apply h
  | .body [] :: stack => apply h.setStack stack
  | .body (op :: ops) :: stack => apply h.perform op (.body ops :: stack)
  | .drain own :: stack =>
    apply h.takeFirst stack
    intro t
    rw [Activity.frame, List.length_append, List.length_singleton]
  | .take 0 own :: stack => apply h.giveBack own stack
  | .take (left + 1) own :: stack =>
    apply h.takeFirst stack
    intro t
    rw [Activity.frame, List.length_append, List.length_singleton]

theorem iterate (h : Refines m f) (n : Nat) :
  Refines (Machine.step^[n] m) (Fifo.step^[n] f)
  := by
  induction n generalizing m f with
  | zero => apply h
  | succ n ih => apply ih h.step

theorem begin (h : Refines m f) (op : Op) :
  Refines (m.begin op) (f.begin op)
  := by
  constructor
  case inOrder => apply h.inOrder
  case trimmed => apply h.trimmed
  case waiting => apply h.waiting
  all_goals rfl

theorem weight_eq (h : Refines m f) :
  m.weight = f.weight
  := by
  rw [Machine.weight, Fifo.weight, h.stack, h.waiting]

theorem execute (h : Refines m f) (op : Op) :
  Refines (m.execute op) (f.execute op)
  := by
  rw [Machine.execute_eq_iterate, Fifo.execute, (h.begin op).weight_eq]
  apply (h.begin op).iterate

theorem executeAll (h : Refines m f) (ops : List Op) :
  Refines (ops.foldl Machine.execute m) (ops.foldl Fifo.execute f)
  := by
  induction ops generalizing m f with
  | nil => apply h
  | cons op ops ih => apply ih (h.execute op)

end Refines

/-! ### What a plain queue keeps -/

namespace Fifo

/-- Everything that was added has been removed in that order or is waiting.  What an activity
has taken itself was removed during the present operation. -/
structure Accounted (f : Fifo) : Prop where
  added_eq : f.added = f.removed ++ f.waiting
  ran_suffix : f.ran <:+ f.removed
  own_sublist : ∀ a ∈ f.stack, a.own.Sublist f.ran

variable {f : Fifo}

theorem accounted_new :
  Accounted {}
  := by
  constructor
  · rfl
  · apply List.suffix_rfl
  · nofun

/-- Activities may begin and end. -/
theorem Accounted.setStack (h : f.Accounted) {stack : List Activity}
    (hstack : ∀ a ∈ stack, a.own.Sublist f.ran) :
  Accounted { f with stack }
  := ⟨h.added_eq, h.ran_suffix, hstack⟩

theorem Accounted.add (h : f.Accounted) (tasks : List Task) :
  (f.add tasks).Accounted
  := by
  constructor
  · rw [Fifo.add, h.added_eq, List.append_assoc]
  · apply h.ran_suffix
  · apply h.own_sublist

theorem Accounted.perform (h : f.Accounted) (op : Op) {stack : List Activity}
    (hstack : ∀ a ∈ stack, a.own.Sublist f.ran) :
  (f.perform op stack).Accounted
  := by
  have hbegin {a : Activity} (ha : a.own = []) : Accounted { f with stack := a :: stack } := by
    apply h.setStack
    apply List.forall_mem_cons.mpr ⟨_, hstack⟩
    rw [ha]
    apply List.nil_sublist
  cases op with
  | enqueue | enqueueMany => apply (h.setStack hstack).add
  | enqueueNone | length => apply h.setStack hstack
  | pop | popMany | drain => apply hbegin rfl
  | fail label => exact ⟨h.added_eq, h.ran_suffix, nofun⟩

theorem Accounted.takeFirst (h : f.Accounted) {activity : List Task → Activity}
    (hactivity : ∀ own, (activity own).own = own) {own : List Task} {stack : List Activity}
    (hown : own.Sublist f.ran) (hstack : ∀ a ∈ stack, a.own.Sublist f.ran) :
  (f.takeFirst activity own stack).Accounted
  := by
  rw [Fifo.takeFirst]
  split
  · rename_i t rest hwaiting
    constructor
    · rw [h.added_eq, hwaiting]
      simp
    · obtain ⟨before, hbefore⟩ := h.ran_suffix
      use before
      rw [← List.append_assoc, hbefore]
    · have hmore : f.ran.Sublist (f.ran ++ [t]) := List.sublist_append_left _ _
      rintro a (_ | ⟨_, _ | ⟨_, ha⟩⟩)
      · apply List.nil_sublist
      · rw [hactivity]
        apply hown.append (List.Sublist.refl [t])
      · apply (hstack a ha).trans hmore
  · exact ⟨h.added_eq, h.ran_suffix, hstack⟩

theorem Accounted.step (h : f.Accounted) :
  f.step.Accounted
  := by
  have hown := h.own_sublist
  rw [Fifo.step]
  split
  · apply h
  · rename_i stack hf
    rw [hf] at hown
    apply h.setStack (List.forall_mem_cons.mp hown).2
  · rename_i op ops stack hf
    rw [hf] at hown
    apply h.perform
    rintro a (_ | ⟨_, ha⟩)
    · apply List.nil_sublist
    · apply hown a (List.mem_cons_of_mem _ ha)
  · rename_i own stack hf
    rw [hf] at hown
    obtain ⟨hself, hstack⟩ := List.forall_mem_cons.mp hown
    apply h.takeFirst (fun _ => rfl) hself hstack
  · rename_i own stack hf
    rw [hf] at hown
    exact ⟨h.added_eq, h.ran_suffix, (List.forall_mem_cons.mp hown).2⟩
  · rename_i left own stack hf
    rw [hf] at hown
    obtain ⟨hself, hstack⟩ := List.forall_mem_cons.mp hown
    apply h.takeFirst (fun _ => rfl) hself hstack

theorem Accounted.iterate (h : f.Accounted) (n : Nat) :
  (Fifo.step^[n] f).Accounted
  := by
  induction n generalizing f with
  | zero => apply h
  | succ n ih => apply ih h.step

theorem Accounted.begin (h : f.Accounted) (op : Op) :
  (f.begin op).Accounted
  := by
  constructor
  · apply h.added_eq
  · apply List.nil_suffix
  · rintro a (_ | ⟨_, ha⟩)
    · apply List.nil_sublist
    · cases ha

theorem Accounted.executeAll (h : f.Accounted) (ops : List Op) :
  (ops.foldl Fifo.execute f).Accounted
  := by
  induction ops generalizing f with
  | nil => apply h
  | cons op ops ih => apply ih ((h.begin op).iterate _)

/-- A drain that is over has found nothing waiting. -/
theorem step_of_drain {own : List Task} {stack : List Activity}
    (hstack : f.stack = .drain own :: stack) (hover : f.step.stack.length = stack.length) :
  f.waiting = [] ∧ f.step.waiting = [] ∧ f.step.returned = some own
  := by
  rw [Fifo.step, hstack] at hover ⊢
  simp only [Fifo.takeFirst] at hover ⊢
  split at hover
  · simp only [List.length_cons] at hover
    omega
  · rename_i hnil
    rw [hnil]
    exact ⟨rfl, rfl, rfl⟩

end Fifo

/-- In a backlog in order, taking the oldest entry takes the first of the contents. -/
theorem InOrder.pop?_eq {α : Type} {b : Backlog α} (h : b.InOrder) :
  b.pop?.map (fun taken => (taken.1, taken.2.toList)) =
    b.toList.head?.map (fun a => (a, b.toList.tail))
  := by
  cases hpop : b.pop? with
  | none =>
    rw [h.pop?_eq_none_iff.mp hpop]
    rfl
  | some taken =>
    rw [toList_of_pop?_eq_some hpop]
    rfl

/-- At every point of every operation, after any operations before it, the machine does what
a plain queue does, and taking from its backlog, adding to it and its size are those of the
waiting tasks.  All tasks ever added are those removed so far, in that order, and then those
waiting.  A drain that returns leaves no task waiting and tells how many it took itself.  The
slots before the head are empty and all others full; there are no empty ones if nothing is
waiting, and from 256 on they are fewer than half. -/
theorem machine_refines_queue (notifies : Bool) (ops : List Op) (op : Op) (n : Nat) :
  let before := ops.foldl Machine.execute { notifies }
  let m := Machine.step^[n] (before.begin op)
  let f := Fifo.step^[n] ((ops.foldl Fifo.execute {}).begin op)
  Refines before (ops.foldl Fifo.execute {})
    ∧ Refines m f
    ∧ m.backlog.pop?.map (fun taken => (taken.1, taken.2.toList)) =
        f.waiting.head?.map (fun t => (t, f.waiting.tail))
    ∧ (∀ t, (m.backlog.push t).toList = f.waiting ++ [t])
    ∧ m.backlog.size = f.waiting.length
    ∧ f.added = f.removed ++ f.waiting
    ∧ (∀ own stack, f.stack = .drain own :: stack → m.step.stack.length = stack.length →
        m.step.backlog.toList = [] ∧ m.step.taken = some own.length ∧ own.Sublist f.ran)
    ∧ m.backlog.head ≤ m.backlog.slots.size
    ∧ (∀ i < m.backlog.head, m.backlog.slots[i]? = some none)
    ∧ (∀ i < m.backlog.slots.size, m.backlog.head ≤ i → ∃ t, m.backlog.slots[i]? = some (some t))
    ∧ (m.backlog.head = 0 ∨ m.backlog.head < m.backlog.slots.size)
    ∧ (m.backlog.head < 256 ∨ 2 * m.backlog.head < m.backlog.slots.size)
  := by
  intro before m f
  have hbefore : Refines before (ops.foldl Fifo.execute {}) := (Refines.new notifies).executeAll ops
  have h : Refines m f := (hbefore.begin op).iterate n
  have hf : f.Accounted := ((Fifo.accounted_new.executeAll ops).begin op).iterate n
  refine ⟨hbefore, h, ?_, ?_, ?_, hf.added_eq, ?_, h.inOrder.head_le, ?_, ?_,
    h.trimmed.head_cases, h.trimmed.slack_cases⟩
  · rw [← h.waiting]
    apply h.inOrder.pop?_eq
  · intro t
    rw [← h.waiting]
    apply h.inOrder.toList_push
  · rw [← h.waiting]
    apply h.inOrder.size_eq
  · intro own stack hstack hover
    rw [h.step.stack, List.length_map] at hover
    obtain ⟨-, hwaiting, hreturned⟩ := Fifo.step_of_drain hstack hover
    refine ⟨?_, ?_, ?_⟩
    · rw [h.step.waiting, hwaiting]
    · rw [h.step.taken, hreturned]
      rfl
    · apply hf.own_sublist (.drain own)
      rw [hstack]
      apply List.mem_cons_self
  · intro i hi
    apply h.inOrder.getElem?_of_lt hi
  · intro i hi hle
    rw [h.inOrder.getElem?_of_le hle]
    have hlt : i - m.backlog.head < m.backlog.toList.length := by
      rw [← h.inOrder.size_eq, Backlog.size]
      omega
    rw [List.getElem?_eq_getElem hlt]
    exact ⟨_, rfl⟩

/-- A drain whose first task drains the others takes one task itself. -/
theorem machine_refines_queue_nested_drain :
  let ops : List Op := [.enqueue "a" [.drain], .enqueue "b" [], .enqueue "c" []]
  let m := Machine.step^[9] ((ops.foldl Machine.execute { notifies := true }).begin .drain)
  m.ran.toList = ["a", "b", "c"] ∧ m.step.backlog.toList = [] ∧ m.step.taken = some 1
  := by
  intro ops m
  obtain ⟨-, h, -, -, -, -, hdrain, -⟩ := machine_refines_queue true ops .drain 9
  have hstack : (Fifo.step^[9] ((ops.foldl Fifo.execute {}).begin .drain)).stack =
      [.drain [⟨"a", [.drain]⟩], .body []] := rfl
  have hover : m.step.stack.length = 1 := by
    rw [h.step.stack]
    rfl
  obtain ⟨hnil, htaken, -⟩ := hdrain _ _ hstack hover
  exact ⟨h.ran, hnil, htaken⟩

end Backlog

end SurfaceHost
