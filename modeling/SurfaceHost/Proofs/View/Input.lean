import SurfaceHost.Proofs.Backlog
import SurfaceHost.Proofs.View.Elementary

/-!
# What a view shows of its input side

The calls of a view are those that the engine has received, followed by those of the
jobs that are still waiting.  Restricted to input calls they are the calls of an input
side, which the view is said to show.  Whatever the host does to the view, the view then
shows what the same step makes of the input side: it does not matter that the calls are
made only later.
-/

namespace SurfaceHost

/-- The calls that a job will make, tasks of the host apart. -/
def Job.calls (capabilities : Capabilities) : Job → List Call
  | .call c => [c]
  | .release contacts => capabilities.releaseCalls contacts
  | .stopFling | .startFling _ _ _ _ | .task _ _ => []

/-- The steps of a job that is a task of the host. -/
def Job.body? : Job → Option (List HostStep)
  | .task _ body => some body
  | .call _ | .release _ | .stopFling | .startFling _ _ _ _ => none

/-- The call that an output is. -/
def Output.call? : Output → Option Call
  | .call c => some c
  | .log _ | .task _ => none

/-- The tasks that a step posts. -/
def HostStep.posted : HostStep → List (List HostStep)
  | .post _ body => [body]
  | .touch _ _ _ _ _ | .send _ | .postNone | .fail _ | .advance _ | .look => []

theorem Capabilities.isInput_of_mem_releaseCalls (c : Capabilities) {l : List (Contact × Bool)}
    {call : Call} (h : call ∈ c.releaseCalls l) :
  call.isInput = true
  := by
  induction l with
  | nil => simp [releaseCalls] at h
  | cons d rest ih =>
    obtain ⟨d, isPrimary⟩ := d
    simp only [releaseCalls, List.mem_append] at h
    rcases h with (h | h) | h
    · split at h
      · obtain rfl := List.mem_singleton.mp h
        rfl
      · simp at h
    · split at h
      · obtain rfl := List.mem_singleton.mp h
        rfl
      · simp at h
    · apply ih h

namespace View

/-- The calls that the engine has received. -/
def received (v : View) : List Call :=
  v.trace.toList.filterMap Output.call?

/-- The calls of the jobs that are waiting. -/
def queued (v : View) : List Call :=
  v.backlog.toList.flatMap (Job.calls v.capabilities)

/-- The calls received, followed by those still waiting. -/
def calls (v : View) : List Call :=
  v.received ++ v.queued

/-- The tasks that are waiting. -/
def tasks (v : View) : List (List HostStep) :=
  v.backlog.toList.filterMap Job.body?

/-- The input side of a view. -/
def input (v : View) : InputSide where
  capabilities := v.capabilities
  detector := v.detector
  contacts := v.contacts
  primary := v.primary
  now := v.now
  clockRate := v.clockRate
  calls := v.received.filter Call.isInput ++ v.queued

/-- A view shows an input side while tasks are waiting. -/
structure Shows (v : View) (s : InputSide) (bodies : List (List HostStep)) : Prop where
  inOrder : v.backlog.InOrder
  input_eq : v.input = s
  tasks_eq : v.tasks = bodies
  queued_isInput : ∀ c ∈ v.queued, c.isInput = true

variable {v : View} {s : InputSide} {bodies : List (List HostStep)}

/-- The calls of the input side are the input calls of the view. -/
theorem Shows.calls_eq (h : v.Shows s bodies) :
  s.calls = v.calls.filter Call.isInput
  := by
  rw [← h.input_eq, calls, List.filter_append, List.filter_eq_self.mpr h.queued_isInput]
  rfl

theorem Shows.capabilities_eq (h : v.Shows s bodies) :
  v.capabilities = s.capabilities
  := congrArg InputSide.capabilities h.input_eq

theorem Shows.contacts_eq (h : v.Shows s bodies) :
  v.contacts = s.contacts
  := congrArg InputSide.contacts h.input_eq

/-! ### What the render side does -/

theorem received_emit (v : View) (o : Output) :
  (v.emit o).received = v.received ++ o.call?.toList
  := by
  simp only [received, emit, Array.toList_push, List.filterMap_append, List.filterMap_cons,
    List.filterMap_nil]
  cases o.call? <;> rfl

/-- An output that is no input call leaves the input side as it is. -/
theorem Shows.emit (h : v.Shows s bodies) {o : Output} (ho : ∀ c ∈ o.call?, c.isInput = false) :
  (v.emit o).Shows s bodies
  := by
  have hreceived : (v.emit o).received.filter Call.isInput = v.received.filter Call.isInput := by
    rw [received_emit, List.filter_append]
    cases hcall : o.call? with
    | none => simp
    | some c => simp [ho c (by simp [hcall])]
  constructor
  · apply h.inOrder
  · rw [← h.input_eq, input, hreceived]
    rfl
  · apply h.tasks_eq
  · apply h.queued_isInput

theorem Shows.log (h : v.Shows s bodies) (r : Log.Record) :
  (v.emit (.log r)).Shows s bodies
  := h.emit (by simp [Output.call?])

theorem Shows.callEngine (h : v.Shows s bodies) {c : Call} (hc : c.isInput = false) :
  (v.emit (.call c)).Shows s bodies
  := by
  apply h.emit
  rintro _ ⟨⟩
  apply hc

theorem Shows.setSurface (h : v.Shows s bodies) (surface : Surface) :
  Shows { v with surface } s bodies
  := ⟨h.inOrder, h.input_eq, h.tasks_eq, h.queued_isInput⟩

theorem Shows.setScroller (h : v.Shows s bodies) (scroller : Scroller) :
  Shows { v with scroller } s bodies
  := ⟨h.inOrder, h.input_eq, h.tasks_eq, h.queued_isInput⟩

/-! ### What the host does -/

/-- A job that is added adds its calls to the input side, and itself if it is a task. -/
theorem Shows.enqueue (h : v.Shows s bodies) {j : Job}
    (hj : ∀ c ∈ j.calls s.capabilities, c.isInput = true) :
  (v.enqueue j).Shows (s.add (j.calls s.capabilities)) (bodies ++ j.body?.toList)
  := by
  obtain ⟨hord, rfl, rfl, hqueued⟩ := h
  have hlist : (v.enqueue j).backlog.toList = v.backlog.toList ++ [j] := hord.toList_push j
  have hcalls : (v.enqueue j).queued = v.queued ++ j.calls v.capabilities := by
    rw [queued, hlist, List.flatMap_append]
    simp [queued, View.enqueue]
  constructor
  · apply hord.push j
  · rw [input, hcalls, ← List.append_assoc]
    rfl
  · rw [tasks, hlist, List.filterMap_append]
    cases hbody : j.body? <;> simp [tasks, hbody]
  · rw [hcalls]
    intro c hc
    rcases List.mem_append.mp hc with hc | hc
    · apply hqueued c hc
    · apply hj c hc

theorem Shows.enqueue_call (h : v.Shows s bodies) (c : Call) (hc : c.isInput = true) :
  (v.enqueue (.call c)).Shows (s.add [c]) bodies
  := by
  have h' := h.enqueue (j := .call c) (by simpa [Job.calls] using hc)
  simpa [Job.calls, Job.body?] using h'

/-- A job that makes no calls and is no task does not show. -/
theorem Shows.enqueue_quiet (h : v.Shows s bodies) {j : Job} (hcalls : j.calls s.capabilities = [])
    (hbody : j.body? = none) :
  (v.enqueue j).Shows s bodies
  := by
  have h' := h.enqueue (j := j) (by simp [hcalls])
  simpa [hcalls, hbody, InputSide.add] using h'

theorem Shows.enqueuePointer (h : v.Shows s bodies) (c : Call) (hc : c.isInput = true) :
  (v.enqueuePointer c).Shows (s.add (if s.capabilities.pointer then [c] else [])) bodies
  := by
  rw [View.enqueuePointer, h.capabilities_eq]
  split
  · apply h.enqueue_call c hc
  · rw [InputSide.add_nil]
    apply h

/-- A gesture that is delivered adds the calls that report it. -/
theorem Shows.deliver (h : v.Shows s bodies) (g : Option Gesture) :
  (v.deliver g).Shows (s.add (s.capabilities.gestureCalls g)) bodies
  := by
  cases g with
  | none =>
    rw [Capabilities.gestureCalls, InputSide.add_nil]
    apply h
  | some g =>
    cases g with
    | down e =>
      rw [Capabilities.gestureCalls, InputSide.add_nil]
      apply h.enqueue_quiet rfl rfl
    | scroll down current dx dy => apply h.enqueue_call _ rfl
    | fling down up vx vy =>
      rw [Capabilities.gestureCalls, InputSide.add_nil]
      exact (h.log _).enqueue_quiet rfl rfl
    | longPress down =>
      simp only [View.deliver, Capabilities.gestureCalls, h.capabilities_eq]
      split
      · apply h.enqueue_call _ rfl
      · rw [InputSide.add_nil]
        apply h

theorem Shows.detect (h : v.Shows s bodies) (e : Motion) :
  (v.detect e).Shows (s.detect e) bodies
  := by
  obtain ⟨hord, rfl, htasks, hqueued⟩ := h
  have h' : Shows { v with detector := (v.detector.touch v.now e).1 }
      { v.input with detector := (v.detector.touch v.now e).1 } bodies :=
    ⟨hord, rfl, htasks, hqueued⟩
  apply h'.deliver (v.detector.touch v.now e).2

/-- Other contacts and another primary pointer are shown as such. -/
theorem Shows.setContacts (h : v.Shows s bodies) (contacts : Contacts) (primary : Int64) :
  Shows { v with contacts, primary } { s with contacts, primary } bodies
  := by
  obtain ⟨hord, rfl, htasks, hqueued⟩ := h
  exact ⟨hord, rfl, htasks, hqueued⟩

theorem Shows.touchDown (h : v.Shows s bodies) {e : Motion} (he : e.phase = .down) :
  (v.touchDown e).Shows (s.touch e) bodies
  := by
  obtain rfl := h.input_eq
  have hprimary : (if v.contacts.isEmpty then e.pointer else v.primary) = v.input.primaryFor e := by
    simp [InputSide.primaryFor, he, List.isEmpty_iff, input]
  have hcounts : v.input.counts e = true := by simp [InputSide.counts, he]
  have h₁ := h.setContacts (v.contacts.insert ⟨e.pointer, e.x, e.y⟩) (v.input.primaryFor e)
  simp only [View.touchDown, hprimary]
  split
  · rename_i hp
    have h₂ := (h₁.enqueue_call (.mouseDown (Word.truncate32 e.x) (Word.truncate32 e.y)) rfl)
    convert (h₂.enqueuePointer (.pointerDown e.x e.y e.pointer) rfl).detect e using 1
    rw [InputSide.touch_of_primary hcounts hp]
    simp [InputSide.detect, InputSide.add, Contacts.follow, Motion.mouseCalls,
      Motion.pointerCalls, he, input]
  · rename_i hp
    convert h₁.enqueuePointer (.pointerDown e.x e.y e.pointer) rfl using 1
    rw [InputSide.touch_of_secondary hcounts hp]
    simp only [Contacts.follow, Motion.pointerCalls, he]
    rfl

theorem Shows.touchMove (h : v.Shows s bodies) {e : Motion} (he : e.phase = .move) :
  (v.touchMove e).Shows (s.touch e) bodies
  := by
  obtain rfl := h.input_eq
  have hprimary : v.input.primaryFor e = v.primary :=
    InputSide.primaryFor_of_ne_down (by simp [he])
  have hcounts : v.input.counts e = v.contacts.contains e.pointer := by
    simp [InputSide.counts, he, input]
  have h₁ := h.setContacts (v.contacts.insert ⟨e.pointer, e.x, e.y⟩) v.primary
  rw [View.touchMove]
  split
  · rename_i hdown
    rw [hdown] at hcounts
    simp only
    split
    · rename_i hp
      have h₂ := (h₁.enqueue_call (.mouseMove (Word.truncate32 e.x) (Word.truncate32 e.y)) rfl)
      convert (h₂.enqueuePointer (.pointerMove e.x e.y e.pointer) rfl).detect e using 1
      rw [InputSide.touch_of_primary hcounts (hp.trans hprimary.symm), hprimary]
      simp [InputSide.detect, InputSide.add, Contacts.follow, Motion.mouseCalls,
        Motion.pointerCalls, he, input]
    · rename_i hp
      convert h₁.enqueuePointer (.pointerMove e.x e.y e.pointer) rfl using 1
      rw [InputSide.touch_of_secondary hcounts (hprimary ▸ hp), hprimary]
      simp only [Contacts.follow, Motion.pointerCalls, he]
      rfl
  · rename_i hdown
    rw [InputSide.touch_of_not_counts (by simp [he]) (by simpa [hcounts] using hdown)]
    apply h

theorem Shows.touchUp (h : v.Shows s bodies) {e : Motion} (he : e.phase = .up) :
  (v.touchUp e).Shows (s.touch e) bodies
  := by
  obtain rfl := h.input_eq
  have hprimary : v.input.primaryFor e = v.primary :=
    InputSide.primaryFor_of_ne_down (by simp [he])
  have hcounts : v.input.counts e = v.contacts.contains e.pointer := by
    simp [InputSide.counts, he, input]
  rw [View.touchUp]
  split
  · rename_i hdown
    rw [hdown] at hcounts
    simp only
    split
    · rename_i hp
      have h₁ := h.setContacts (v.contacts.erase e.pointer) (-1)
      have h₂ := (h₁.detect e).enqueue_call (.mouseUp (Word.truncate32 e.x) (Word.truncate32 e.y)) rfl
      convert h₂.enqueuePointer (.pointerUp e.x e.y e.pointer) rfl using 1
      rw [InputSide.touch_of_primary hcounts (hp.trans hprimary.symm), hprimary]
      -- The detector is asked before the mouse goes up, but it has nothing to report.
      have hquiet := v.capabilities.gestureCalls_touch v.detector v.now (.inl he)
      simp [InputSide.detect, InputSide.add, Contacts.follow, Motion.mouseCalls,
        Motion.pointerCalls, he, input, hquiet]
    · rename_i hp
      have h₁ := h.setContacts (v.contacts.erase e.pointer) v.primary
      convert h₁.enqueuePointer (.pointerUp e.x e.y e.pointer) rfl using 1
      rw [InputSide.touch_of_secondary hcounts (hprimary ▸ hp), hprimary]
      simp only [Contacts.follow, Motion.pointerCalls, he]
      rfl
  · rename_i hdown
    rw [InputSide.touch_of_not_counts (by simp [he]) (by simpa [hcounts] using hdown)]
    apply h

theorem Shows.touchCancel (h : v.Shows s bodies) {e : Motion} (he : e.phase = .cancel) :
  (v.touchCancel e).Shows (s.touch e) bodies
  := by
  obtain rfl := h.input_eq
  have hquiet := v.capabilities.gestureCalls_touch v.detector v.now (.inr he)
  have h₁ := (h.setContacts [] (-1)).detect e
  rw [InputSide.touch_of_cancel he]
  simp only [View.touchCancel]
  split
  · rename_i hnone
    convert h₁ using 1
    simp [InputSide.cancel, InputSide.detect, InputSide.add, input, hquiet,
      List.isEmpty_iff.mp hnone, Capabilities.releaseCalls]
  · have h₂ := h₁.enqueue
      (j := .release (v.contacts.map fun c => (c, c.pointer == v.primary)))
      (fun c hc => Capabilities.isInput_of_mem_releaseCalls _ hc)
    convert h₂ using 1
    · simp [InputSide.cancel, InputSide.detect, InputSide.add, input, hquiet, Job.calls]
    · simp [Job.body?]

/-- A view shows what a motion makes of its input side. -/
theorem Shows.touch (h : v.Shows s bodies) (e : Motion) :
  (v.touch e).Shows (s.touch e) bodies
  := by
  rw [View.touch]
  split
  · rename_i he
    apply h.touchDown he
  · rename_i he
    apply h.touchMove he
  · rename_i he
    apply h.touchUp he
  · rename_i he
    apply h.touchCancel he
  · rename_i he
    rw [InputSide.touch_of_not_counts (by simp [he]) (by simp [InputSide.counts, he])]
    apply h

theorem Shows.fire (h : v.Shows s bodies) (generation : UInt64) :
  (v.fire generation).Shows (s.fire generation) bodies
  := by
  obtain ⟨hord, rfl, htasks, hqueued⟩ := h
  have h' : Shows { v with detector := (v.detector.fire generation).1 }
      { v.input with detector := (v.detector.fire generation).1 } bodies :=
    ⟨hord, rfl, htasks, hqueued⟩
  apply h'.deliver (v.detector.fire generation).2

theorem Shows.advance (h : v.Shows s bodies) (ns : Int) :
  (v.advance ns).Shows (s.advance ns) bodies
  := by
  obtain ⟨hord, rfl, htasks, hqueued⟩ := h
  rw [advance_eq_fire]
  by_cases hdue : v.detector.alarm.any (· ≤ v.now + max ns 0)
  · have h' : Shows
        { v with now := v.now + max ns 0, detector := { v.detector with alarm := none } }
        { v.input with
          now := v.now + max ns 0
          detector := { v.detector with alarm := none } } bodies :=
      ⟨hord, rfl, htasks, hqueued⟩
    rw [if_pos hdue, InputSide.advance_of_due hdue]
    apply h'.fire v.detector.generation
  · rw [if_neg hdue, InputSide.advance_of_not_due hdue]
    exact ⟨hord, rfl, htasks, hqueued⟩

/-- A view shows what a step of the host makes of its input side, and the task that it
posts waits behind all others. -/
theorem Shows.perform (h : v.Shows s bodies) (st : HostStep) :
  (v.perform st).1.Shows (s.perform st) (bodies ++ st.posted)
  := by
  cases st with
  | touch phase x y pointer time =>
    rw [HostStep.posted, List.append_nil, InputSide.perform]
    obtain rfl := h.input_eq
    apply h.touch
  | send e =>
    rw [HostStep.posted, List.append_nil]
    cases e with
    | lifecycle before after =>
      simp only [View.perform, View.send, InputSide.perform]
      split
      · apply (h.log _).setSurface
      · split
        · apply (h.log _).setSurface
        · apply h
    | size width height => apply h.setSurface
    | paint => apply h.setSurface
    | touch phase x y pointer =>
      obtain rfl := h.input_eq
      apply h.touch
    | other typeName => apply h.log
  | post label body =>
    have h' := h.enqueue (j := .task label body) (by simp [Job.calls])
    rw [Job.calls, InputSide.add_nil] at h'
    apply h'
  | advance ns =>
    rw [HostStep.posted, List.append_nil]
    apply h.advance
  | postNone | fail | look =>
    rw [HostStep.posted, List.append_nil]
    apply h

/-! ### The engine is not called meanwhile -/

@[simp]
theorem received_enqueue (v : View) (j : Job) :
  (v.enqueue j).received = v.received
  := rfl

@[simp]
theorem received_log (v : View) (r : Log.Record) :
  (v.emit (.log r)).received = v.received
  := by
  rw [received_emit]
  apply List.append_nil

theorem received_deliver (v : View) (g : Option Gesture) :
  (v.deliver g).received = v.received
  := by
  obtain heq | ⟨u, j, hu, -, heq⟩ := v.deliver_cases g
  · rw [heq]
  · rw [heq, received_enqueue]
    rcases hu with rfl | ⟨r, rfl⟩
    · rfl
    · apply received_log

theorem Elementary.received_eq {v w : View} (h : v.Elementary w) :
  w.received = v.received
  := by
  cases h with
  | detect e => exact received_deliver _ _
  | fire generation => exact received_deliver _ _
  | log hr => apply received_log
  | place | enqueue | wait | signal => rfl

/-- Nothing that the host does calls the engine. -/
theorem Reaches.received_eq {v w : View} (h : v.Reaches w) :
  w.received = v.received
  := h.keeps (P := fun u => u.received = v.received)
    (fun hstep hu => hstep.received_eq.trans hu) rfl

/-- Without a call to the engine, the input calls that are added wait behind the others. -/
theorem Shows.queued_append {w : View} {t : InputSide} {bodies' : List (List HostStep)}
    (h : v.Shows s bodies) (hw : w.Shows t bodies') (hreceived : w.received = v.received)
    {added : List Call} (hcalls : t.calls = s.calls ++ added) :
  w.queued = v.queued ++ added
  := by
  obtain rfl := h.input_eq
  obtain rfl := hw.input_eq
  simp only [input, hreceived, List.append_assoc] at hcalls
  apply List.append_cancel_left hcalls

end View

end SurfaceHost
