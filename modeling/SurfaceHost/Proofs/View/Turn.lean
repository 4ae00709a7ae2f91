import SurfaceHost.Proofs.View.Input
import SurfaceHost.View.Frame

/-!
# Turns and the input side

A turn of the render loop moves calls from the waiting jobs to the engine.  It adds calls
of its own, none of which is an input call, so a view shows the same input side before
and after, unless tasks of the host were waiting.  A turn without tasks that draws makes
exactly the waiting calls, between the set-up of the surface and the drawing of the frame.
-/

namespace SurfaceHost

/-- The calls with which a callback prepares a frame. -/
def Callback.calls (storage : String) : Callback → List Call
  | .created => [.init storage]
  | .changed width height => [.resize width height]
  | .draw => []

namespace View

variable {v : View} {s : InputSide} {bodies : List (List HostStep)}

/-! ### Running a job -/

@[simp]
theorem received_callEngine (v : View) (c : Call) :
  (v.callEngine c).received = v.received ++ [c]
  := received_emit v (.call c)

/-- Lifting contacts changes nothing but the trace. -/
theorem releaseAll_eq (v : View) (l : List (Contact × Bool)) :
  v.releaseAll l = { v with trace := (v.releaseAll l).trace }
  := by
  induction l generalizing v with
  | nil => rfl
  | cons d rest ih =>
    obtain ⟨d, isPrimary⟩ := d
    simp only [releaseAll]
    rw [ih]
    split <;> split <;> rfl

/-- Contacts are lifted by one call after the other. -/
theorem foldl_releaseCalls (v : View) (l : List (Contact × Bool)) :
  (v.capabilities.releaseCalls l).foldl callEngine v = v.releaseAll l
  := by
  have hkeep (u : View) (c : Call) : (u.callEngine c).capabilities = u.capabilities := rfl
  induction l generalizing v with
  | nil => rfl
  | cons d rest ih =>
    obtain ⟨d, isPrimary⟩ := d
    simp only [Capabilities.releaseCalls, releaseAll, List.foldl_append]
    rw [← ih]
    cases isPrimary with
    | true => cases hc : v.capabilities.pointer <;> simp [hc, hkeep]
    | false => cases hc : v.capabilities.pointer <;> simp [hc, hkeep]

theorem received_foldl_callEngine (v : View) (cs : List Call) :
  (cs.foldl callEngine v).received = v.received ++ cs
  := by
  induction cs generalizing v with
  | nil => exact (List.append_nil _).symm
  | cons c rest ih =>
    rw [List.foldl_cons, ih, received_callEngine, List.append_assoc]
    rfl

theorem received_releaseAll (v : View) (l : List (Contact × Bool)) :
  (v.releaseAll l).received = v.received ++ v.capabilities.releaseCalls l
  := by
  rw [← foldl_releaseCalls, received_foldl_callEngine]

/-- A job that is no task succeeds, and changes nothing but the scroller and the trace. -/
theorem run_eq (v : View) {j : Job} (hj : j.body? = none) :
  v.run j = ({ v with scroller := (v.run j).1.scroller, trace := (v.run j).1.trace }, none)
  := by
  cases j with
  | release contacts =>
    simp only [run]
    rw [releaseAll_eq]
  | task label body => simp [Job.body?] at hj
  | call | stopFling | startFling => rfl

/-- A job that is no task makes its calls. -/
theorem received_run (v : View) {j : Job} (hj : j.body? = none) :
  (v.run j).1.received = v.received ++ j.calls v.capabilities
  := by
  cases j with
  | call c => apply received_callEngine
  | release contacts => apply received_releaseAll
  | task label body => simp [Job.body?] at hj
  | stopFling | startFling =>
    rw [Job.calls, List.append_nil]
    rfl

/-- The waiting calls are those of the oldest job and then those behind it. -/
theorem queued_of_pop? {j : Job} {rest : Backlog Job} (hpop : v.backlog.pop? = some (j, rest)) :
  v.queued = j.calls v.capabilities ++ queued { v with backlog := rest }
  := by
  rw [queued, Backlog.toList_of_pop?_eq_some hpop, List.flatMap_cons]
  rfl

/-- The waiting tasks are the oldest job, if it is one, and those behind it. -/
theorem tasks_of_pop? {j : Job} {rest : Backlog Job} (hpop : v.backlog.pop? = some (j, rest)) :
  v.tasks = j.body?.toList ++ tasks { v with backlog := rest }
  := by
  rw [tasks, Backlog.toList_of_pop?_eq_some hpop, List.filterMap_cons]
  cases j.body? <;> rfl

theorem body?_eq_none_of_pop? {j : Job} {rest : Backlog Job} (h : v.tasks = [])
    (hpop : v.backlog.pop? = some (j, rest)) :
  j.body? = none
  := by
  have htasks := tasks_of_pop? hpop
  rw [h] at htasks
  cases hbody : j.body? with
  | none => rfl
  | some body => simp [hbody] at htasks

/-- A task that is taken up leaves the input side as it is. -/
theorem Shows.takeTask {label : String} {body : List HostStep} {rest : Backlog Job}
    (h : v.Shows s bodies) (hpop : v.backlog.pop? = some (.task label body, rest)) :
  ∃ bodies', bodies = body :: bodies'
    ∧ (View.emit { v with backlog := rest } (.task label)).Shows s bodies'
  := by
  have hqueued : v.queued = queued { v with backlog := rest } := queued_of_pop? hpop
  have htasks : bodies = body :: tasks { v with backlog := rest } := by
    rw [← h.tasks_eq, tasks_of_pop? hpop]
    rfl
  use tasks { v with backlog := rest }, htasks
  have hrest : Shows { v with backlog := rest } s (tasks { v with backlog := rest }) := by
    constructor
    · apply h.inOrder.pop? hpop
    · rw [← h.input_eq, input, input, hqueued]
      rfl
    · rfl
    · rw [← hqueued]
      apply h.queued_isInput
  apply hrest.emit
  simp [Output.call?]

/-- Any other job that is run moves its calls from the waiting ones to the engine. -/
theorem Shows.runJob {j : Job} {rest : Backlog Job} (h : v.Shows s bodies)
    (hpop : v.backlog.pop? = some (j, rest)) (hj : j.body? = none) :
  (View.run { v with backlog := rest } j).1.Shows s bodies
  := by
  have hqueued := queued_of_pop? hpop
  have htasks := tasks_of_pop? hpop
  have hreceived := received_run { v with backlog := rest } hj
  have hcalls : (j.calls v.capabilities).filter Call.isInput = j.calls v.capabilities := by
    apply List.filter_eq_self.mpr
    intro c hc
    apply h.queued_isInput
    rw [hqueued]
    apply List.mem_append_left _ hc
  rw [run_eq _ hj] at hreceived ⊢
  constructor
  · apply h.inOrder.pop? hpop
  · rw [← h.input_eq, input, input, hreceived, hqueued, List.filter_append]
    simp only [hcalls, List.append_assoc]
    rfl
  · rw [← h.tasks_eq, htasks, hj]
    rfl
  · intro c hc
    apply h.queued_isInput
    rw [hqueued]
    apply List.mem_append_right _ hc

/-! ### What comes before and after the jobs -/

theorem Shows.prepare (h : v.Shows s bodies) (c : Callback) :
  (v.prepare c).Shows s bodies
  := by
  cases c with
  | created => apply (h.log _).callEngine rfl
  | changed width height => apply (h.log _).callEngine rfl
  | draw => apply h

theorem Shows.prepareAll (h : v.Shows s bodies) (cs : List Callback) :
  (cs.foldl View.prepare v).Shows s bodies
  := by
  induction cs generalizing v with
  | nil => apply h
  | cons c rest ih => apply ih (h.prepare c)

theorem received_prepare (v : View) (c : Callback) :
  (v.prepare c).received = v.received ++ c.calls v.storage
  := by
  cases c with
  | created => rw [prepare, received_callEngine, received_log, Callback.calls]
  | changed width height => rw [prepare, received_callEngine, received_log, Callback.calls]
  | draw => rw [prepare, Callback.calls, List.append_nil]

theorem storage_prepare (v : View) (c : Callback) :
  (v.prepare c).storage = v.storage
  := by
  cases c <;> rfl

theorem queued_prepare (v : View) (c : Callback) :
  (v.prepare c).queued = v.queued
  := by
  cases c <;> rfl

/-- The callbacks before a frame make their calls, and leave the jobs waiting. -/
theorem prepareAll_eq (v : View) (cs : List Callback) :
  (cs.foldl prepare v).received = v.received ++ cs.flatMap (Callback.calls v.storage)
    ∧ (cs.foldl prepare v).queued = v.queued
  := by
  induction cs generalizing v with
  | nil => simp
  | cons c rest ih =>
    obtain ⟨hreceived, hqueued⟩ := ih (v.prepare c)
    rw [List.foldl_cons, hreceived, hqueued]
    simp [received_prepare, storage_prepare, queued_prepare]

theorem Shows.animate (h : v.Shows s bodies) :
  v.animate.Shows s bodies
  := by
  simp only [View.animate]
  have h₁ := h.setScroller (v.scroller.compute v.eventTime).1
  split
  · apply Shows.setSurface
    apply Shows.callEngine _ rfl
    split
    · apply h₁.callEngine rfl
    · apply h₁
  · apply h₁.callEngine rfl

/-- After the jobs, the engine is told where a fling is, if there is one, and draws. -/
theorem received_animate (v : View) :
  ∃ fling : Option Point,
    v.animate.received
      = v.received ++ (fling.toList.map fun p => Call.kinetic p.x p.y) ++ [.redraw]
  := by
  simp only [View.animate]
  split
  · split
    · use some (v.scroller.compute v.eventTime).1.current
      apply (received_callEngine _ .redraw).trans
      rw [received_callEngine]
      rfl
    · use none
      apply (received_callEngine _ .redraw).trans
      rw [Option.toList_none, List.map_nil, List.append_nil]
      rfl
  · use none
    apply (received_callEngine _ .redraw).trans
    rw [Option.toList_none, List.map_nil, List.append_nil]
    rfl

theorem queued_animate (v : View) :
  v.animate.queued = v.queued
  := by
  simp only [View.animate]
  split
  · split <;> rfl
  · rfl

/-! ### Turns without tasks -/

/-- Without tasks, draining makes all waiting calls in their order and succeeds. -/
theorem Shows.drain (h : v.Shows s []) (count : Nat) :
  ∃ w n, v.drain count = (w, .ok n) ∧ w.Shows s []
    ∧ w.received = v.received ++ v.queued ∧ w.queued = []
  := by
  fun_induction View.drain v count with
  | case1 v count hpop =>
    have hnil : v.backlog.toList = [] := h.inOrder.pop?_eq_none_iff.mp hpop
    have hqueued : v.queued = [] := by rw [queued, hnil, List.flatMap_nil]
    use v, count, rfl, h
    rw [hqueued, List.append_nil]
    trivial
  | case2 v count j rest hpop w hrun ih =>
    have hj := body?_eq_none_of_pop? h.tasks_eq hpop
    have hshows := h.runJob hpop hj
    have hreceived := received_run { v with backlog := rest } hj
    have hqueued : w.queued = queued { v with backlog := rest } := by
      rw [run_eq _ hj] at hrun
      obtain rfl := congrArg Prod.fst hrun
      rfl
    rw [hrun] at hshows hreceived
    obtain ⟨w', n, hdrain, hshows', hreceived', hempty⟩ := ih hshows
    use w', n, hdrain, hshows'
    constructor
    · rw [hreceived', hreceived, hqueued, queued_of_pop? hpop, List.append_assoc]
      rfl
    · apply hempty
  | case3 v count j rest hpop w label hrun =>
    have hj := body?_eq_none_of_pop? h.tasks_eq hpop
    rw [run_eq _ hj] at hrun
    simp at hrun

/-- Without tasks, a frame is always drawn: all waiting calls are made in their order,
then a fling moves on, and then the engine draws. -/
theorem Shows.draw (h : v.Shows s []) :
  ∃ w, v.draw = (w, none) ∧ w.Shows s [] ∧ w.queued = []
    ∧ ∃ fling : Option Point,
      w.received = v.received ++ v.queued
        ++ (fling.toList.map fun p => Call.kinetic p.x p.y) ++ [.redraw]
  := by
  obtain ⟨w, n, hdrain, hshows, hreceived, hqueued⟩ := h.drain 0
  simp only [View.draw, hdrain]
  split
  · obtain ⟨fling, hfling⟩ := received_animate
      (w.emit (.log (.debug "drained" [("actions", .number (Int64.ofNat n))])))
    refine ⟨_, rfl, (hshows.log _).animate, ?_, fling, ?_⟩
    · rw [queued_animate]
      apply hqueued
    · rw [hfling, received_log, hreceived]
  · obtain ⟨fling, hfling⟩ := received_animate w
    refine ⟨_, rfl, hshows.animate, ?_, fling, ?_⟩
    · rw [queued_animate]
      apply hqueued
    · rw [hfling, hreceived]

/-- The calls of a turn that draws: the engine is set up and resized if need be, and gets
the waiting calls; then a fling moves on, and the engine draws. -/
def FrameCalls (v : View) (made : List Call) : Prop :=
  ∃ (created : Bool) (size : Option (Int64 × Int64)) (fling : Option Point),
    made = (if created then [Call.init v.storage] else [])
      ++ (size.toList.map fun (width, height) => Call.resize width height)
      ++ v.queued
      ++ (fling.toList.map fun p => Call.kinetic p.x p.y)
      ++ [.redraw]

/-- A turn without tasks draws and makes the calls of a frame, or it makes none; the input
side stays as it is. -/
theorem Shows.turn (h : v.Shows s []) :
  v.turn.1.Shows s []
    ∧ (v.turn.2 = .drawn ∧ v.turn.1.queued = []
          ∧ (∃ made, v.FrameCalls made ∧ v.turn.1.received = v.received ++ made)
        ∨ v.turn.2 ≠ .drawn ∧ v.turn.1.received = v.received ∧ v.turn.1.queued = v.queued)
  := by
  rw [View.turn]
  split
  · use h
    right
    simp
  · use h.setSurface _
    right
    simp only [ne_eq, reduceCtorEq, not_false_eq_true, true_and]
    exact ⟨rfl, rfl⟩
  · rename_i surface created size _
    have h₁ := (h.setSurface surface).prepareAll (Turn.draw created size).callbacks
    obtain ⟨hreceived, hqueued⟩ :=
      prepareAll_eq { v with surface } (Turn.draw created size).callbacks
    obtain ⟨w, hdraw, hshows, hempty, fling, hfling⟩ := h₁.draw
    rw [hdraw]
    use hshows.setSurface _
    left
    use rfl, hempty
    rw [hreceived, hqueued] at hfling
    refine ⟨_, ⟨created, size, fling, rfl⟩, ?_⟩
    apply hfling.trans
    cases created <;> cases size <;> simp [Turn.callbacks, Callback.calls] <;> rfl

theorem Shows.turn_of_drawn (h : v.Shows s []) (hdrawn : v.turn.2 = .drawn) :
  v.turn.1.queued = [] ∧ ∃ made, v.FrameCalls made ∧ v.turn.1.received = v.received ++ made
  := by
  obtain ⟨-, ⟨-, hcalls⟩ | ⟨hne, -⟩⟩ := h.turn
  · apply hcalls
  · exact absurd hdrawn hne

theorem Shows.turn_of_not_drawn (h : v.Shows s []) (hdrawn : v.turn.2 ≠ .drawn) :
  v.turn.1.received = v.received ∧ v.turn.1.queued = v.queued
  := by
  obtain ⟨-, ⟨heq, -⟩ | ⟨-, hsame⟩⟩ := h.turn
  · exact absurd heq hdrawn
  · apply hsame

end View

end SurfaceHost
