import Mathlib.Tactic.Common
import SurfaceHost.Surface.Basic

/-!
# Histories of a surface

A history holds everything that has happened around a surface, in order: what the host
and the renderer reported to it, the starts and stops of its loop, and what its turns
did.  The renderer may report from within every callback, and its frame may fail.  What
a surface remembers can be read off its history: the pending creation (`created_iff`),
whether the next turn draws (`target_iff`), and the number of frames (`frames_eq`).
-/

namespace SurfaceHost

universe u

/-! ### Since -/

section Since

variable {α : Type u} {p q : α → Prop} {l k : List α} {a : α}

/-- Some letter of a sequence is one of `p`, and none after it is one of `q`. -/
def Since (p q : α → Prop) (l : List α) : Prop :=
  ∃ front a back, l = front ++ a :: back ∧ p a ∧ ∀ b ∈ back, ¬ q b

theorem not_since_nil :
  ¬ Since p q []
  := by
  rintro ⟨front, a, back, h, -⟩
  simp at h

/-- Where a letter can stand in a sequence with a last letter. -/
theorem append_singleton_eq_append_cons_iff {front back : List α} {b : α} :
  l ++ [a] = front ++ b :: back ↔
    (l = front ∧ a = b ∧ back = []) ∨ ∃ back', back = back' ++ [a] ∧ l = front ++ b :: back'
  := by
  constructor
  · intro h
    rcases List.eq_nil_or_concat back with rfl | ⟨back', c, rfl⟩
    · left
      simpa using List.append_inj' h rfl
    · right
      rw [List.concat_eq_append, ← List.cons_append, ← List.append_assoc] at h
      obtain ⟨hl, hc⟩ := List.append_inj' h rfl
      obtain rfl := List.head_eq_of_cons_eq hc
      exact ⟨back', List.concat_eq_append, hl⟩
  · rintro (⟨rfl, rfl, rfl⟩ | ⟨back', rfl, rfl⟩)
    · rfl
    · simp

/-- A last letter is one of `p`, or it is none of `q` and there was one of `p` before. -/
theorem since_append_singleton :
  Since p q (l ++ [a]) ↔ p a ∨ Since p q l ∧ ¬ q a
  := by
  constructor
  · rintro ⟨front, b, back, h, hb, hback⟩
    rcases append_singleton_eq_append_cons_iff.mp h with ⟨-, rfl, -⟩ | ⟨back', rfl, rfl⟩
    · exact .inl hb
    · right
      obtain ⟨hback', ha⟩ := List.forall_mem_append.mp hback
      exact ⟨⟨front, b, back', rfl, hb, hback'⟩, ha a (List.mem_singleton_self a)⟩
  · rintro (ha | ⟨⟨front, b, back, rfl, hb, hback⟩, ha⟩)
    · exact ⟨l, a, [], rfl, ha, by simp⟩
    · refine ⟨front, b, back ++ [a], by simp, hb, ?_⟩
      exact List.forall_mem_append.mpr ⟨hback, by simpa using ha⟩

/-- What holds since a letter goes on as long as nothing ends it. -/
theorem Since.append (h : Since p q l) (hk : ∀ b ∈ k, ¬ q b) :
  Since p q (l ++ k)
  := by
  obtain ⟨front, a, back, rfl, ha, hback⟩ := h
  exact ⟨front, a, back ++ k, by simp, ha, List.forall_mem_append.mpr ⟨hback, hk⟩⟩

/-- A new letter is enough, if nothing that is new ends it. -/
theorem since_append_of_mem (ha : a ∈ k) (hp : p a) (hk : ∀ b ∈ k, ¬ q b) :
  Since p q (l ++ k)
  := by
  obtain ⟨front, back, rfl⟩ := List.append_of_mem ha
  refine ⟨l ++ front, a, back, by simp, hp, ?_⟩
  intro b hb
  apply hk b
  simp [hb]

/-- Of two letters that end each other, only one can be the last. -/
theorem Since.not_swap (h : Since p q l) (hpq : ∀ a, p a → ¬ q a) :
  ¬ Since q p l
  := by
  obtain ⟨front, a, back, rfl, ha, hback⟩ := h
  rintro ⟨front', a', back', heq, ha', hback'⟩
  rcases List.append_eq_append_iff.mp heq with ⟨mid, rfl, hmid⟩ | ⟨mid, rfl, hmid⟩
  · -- The second letter comes at the place of the first one, or after it.
    cases mid with
    | nil =>
      obtain ⟨rfl, -⟩ := List.cons.inj hmid
      apply hpq _ ha ha'
    | cons b mid =>
      obtain ⟨rfl, rfl⟩ := List.cons.inj hmid
      apply hback a' _ ha'
      simp
  · cases mid with
    | nil =>
      obtain ⟨rfl, -⟩ := List.cons.inj hmid
      apply hpq _ ha ha'
    | cons b mid =>
      obtain ⟨rfl, rfl⟩ := List.cons.inj hmid
      apply hback' a _ ha
      simp

end Since

namespace Surface

/-! ### What can happen -/

/-- Something that happened around a surface. -/
inductive Event where
  /-- Something was reported, by the host or from within a callback. -/
  | signal (s : Signal)
  | started
  | stopped
  /-- A turn consumed a request and took its snapshot. -/
  | snapshot
  /-- The renderer was called. -/
  | callback (c : Callback)
  /-- A frame was drawn to the end. -/
  | finished
  /-- A frame failed, which ended the loop. -/
  | failed
  deriving DecidableEq, Repr

/-- The callback that an event is. -/
def Event.callback? : Event → Option Callback
  | .callback c => some c
  | .signal _ | .started | .stopped | .snapshot | .finished | .failed => none

/-- The callbacks among some events. -/
def callbacks (es : List Event) : List Callback :=
  es.filterMap Event.callback?

@[simp]
theorem callbacks_nil :
  callbacks [] = []
  := rfl

@[simp]
theorem callbacks_cons (e : Event) (es : List Event) :
  callbacks (e :: es) = e.callback?.toList ++ callbacks es
  := by
  cases e <;> rfl

@[simp]
theorem callbacks_append (es fs : List Event) :
  callbacks (es ++ fs) = callbacks es ++ callbacks fs
  := List.filterMap_append

/-- What a renderer does in one turn: what it reports from within each callback, and
whether its frame then fails. -/
structure Reaction where
  reports : Callback → List Signal := fun _ => []
  fails : Bool := false

/-- What may be done to a surface. -/
inductive Act where
  | signal (s : Signal)
  | start
  | stop
  | turn (r : Reaction)

/-- The callbacks of a turn, each followed by what is reported from within it. -/
def Reaction.events (r : Reaction) (cs : List Callback) : List Event :=
  cs.flatMap fun c => .callback c :: (r.reports c).map .signal

/-- One turn of the loop, if there is one to take, and what happens in it. -/
def turn (s : Surface) (r : Reaction) : Surface × List Event :=
  match s.beginTurn? with
  | none => (s, [])
  | some (s', .skip) => (s', [.snapshot])
  | some (s', t@(.draw ..)) =>
    let drawn := (t.callbacks.flatMap r.reports).foldl receive s'
    if r.fails then
      (drawn.stop, .snapshot :: r.events t.callbacks ++ [.failed])
    else
      (drawn.finishFrame, .snapshot :: r.events t.callbacks ++ [.finished])

/-- Carries out one act, and tells what happens. -/
def act (s : Surface) : Act → Surface × List Event
  | .signal x => (s.receive x, [.signal x])
  | .start =>
    match s.start with
    | .ok s' => (s', [.started])
    | .error _ => (s, [])
  | .stop => if s.isRunning then (s.stop, [.stopped]) else (s, [])
  | .turn r => s.turn r

/-- A surface and all that has happened around it. -/
structure History where
  surface : Surface := {}
  events : List Event := []

namespace History

/-- The history after one more act. -/
def act (h : History) (a : Act) : History where
  surface := (h.surface.act a).1
  events := h.events ++ (h.surface.act a).2

/-- The history after some more acts. -/
def after (h : History) (acts : List Act) : History :=
  acts.foldl act h

end History

/-! ### Reports -/

section receive

variable (s : Surface) (x : Signal)

@[simp]
theorem requested_receive :
  (s.receive x).requested = true
  := by
  cases x with
  | resized width height =>
    simp only [receive]
    split <;> rfl
  | request | created | destroyed => rfl

@[simp]
theorem loop_receive :
  (s.receive x).loop = s.loop
  := by
  cases x with
  | resized width height =>
    simp only [receive]
    split <;> rfl
  | request | created | destroyed => rfl

@[simp]
theorem frames_receive :
  (s.receive x).frames = s.frames
  := by
  cases x with
  | resized width height =>
    simp only [receive]
    split <;> rfl
  | request | created | destroyed => rfl

theorem created_receive :
  (s.receive x).created = (decide (x = .created) || s.created && decide (x ≠ .destroyed))
  := by
  cases x with
  | resized width height =>
    simp only [receive]
    split <;> simp
  | request | created | destroyed => simp [receive]

theorem lost_receive :
  (s.receive x).lost = (decide (x = .destroyed) || s.lost)
  := by
  cases x with
  | resized width height =>
    simp only [receive]
    split <;> simp
  | request | created | destroyed => simp [receive]

/-- A surface has the size that was reported last. -/
theorem size_receive :
  ((s.receive x).width, (s.receive x).height) =
    match x with
    | .resized width height => (width, height)
    | .request | .created | .destroyed => (s.width, s.height)
  := by
  cases x with
  | resized width height =>
    simp only [receive]
    split
    · rename_i heq
      rw [heq.1, heq.2]
    · rfl
  | request | created | destroyed => rfl

/-- A size that is still not due was not changed. -/
theorem size_of_receive (h : (s.receive x).sizeChanged = false) :
  s.sizeChanged = false ∧ (s.receive x).width = s.width ∧ (s.receive x).height = s.height
  := by
  cases x with
  | resized width height =>
    simp only [receive] at h ⊢
    split
    · rename_i heq
      rw [if_pos heq] at h
      exact ⟨h, rfl, rfl⟩
    · rename_i hne
      simp [if_neg hne] at h
  | request | created | destroyed => exact ⟨h, rfl, rfl⟩

@[simp]
theorem isRunning_receive :
  (s.receive x).isRunning = s.isRunning
  := by
  simp [isRunning]

end receive

/-! ### One turn -/

/-- Whether the next turn finds something to draw on. -/
def hasTarget (s : Surface) : Bool :=
  match s.loop with
  | .stopped => false
  | .running ready => s.created || (ready && !s.lost)

/-- Whether a turn that draws has a size to tell. -/
def sizeDue (s : Surface) : Bool :=
  if s.created then decide (s.width > 0 ∨ s.height > 0) else s.sizeChanged

/-- The turn that is due when there is something to draw on. -/
def due (s : Surface) : Turn :=
  .draw s.created (if s.sizeDue then some (s.width, s.height) else none)

/-- A surface of which a turn has taken its snapshot: what was pending is cleared. -/
def taken (s : Surface) : Surface :=
  { s with
    requested := false
    created := false
    lost := false
    sizeChanged := s.sizeDue && !s.hasTarget
    loop := .running s.hasTarget }

/-- There is a turn to take if the loop is running and a request is waiting, and it draws
if there is something to draw on. -/
theorem beginTurn?_eq (s : Surface) :
  s.beginTurn? =
    if s.isRunning = true ∧ s.requested = true then
      some (s.taken, if s.hasTarget then s.due else .skip)
    else
      none
  := by
  unfold beginTurn? isRunning
  cases hloop : s.loop with
  | stopped => simp
  | running ready =>
    cases hrequested : s.requested with
    | false => simp
    | true => simp [taken, due, hasTarget, sizeDue, hloop]

theorem isRunning_of_hasTarget {s : Surface} (h : s.hasTarget = true) :
  s.isRunning = true
  := by
  cases hloop : s.loop <;> simp_all [hasTarget, isRunning]

theorem turn_of_idle {s : Surface} (h : ¬ (s.isRunning = true ∧ s.requested = true))
    (r : Reaction) :
  s.turn r = (s, [])
  := by
  rw [turn, beginTurn?_eq, if_neg h]

theorem turn_of_skip {s : Surface} (hrunning : s.isRunning = true) (hrequested : s.requested = true)
    (htarget : s.hasTarget = false) (r : Reaction) :
  s.turn r = (s.taken, [.snapshot])
  := by
  simp [turn, beginTurn?_eq, hrunning, hrequested, htarget]

/-- A surface whose renderer has reacted to the callbacks of the turn that is due. -/
def drawn (s : Surface) (r : Reaction) : Surface :=
  (s.due.callbacks.flatMap r.reports).foldl receive s.taken

theorem turn_of_draw {s : Surface} (hrequested : s.requested = true) (htarget : s.hasTarget = true)
    (r : Reaction) :
  s.turn r =
    if r.fails then
      ((s.drawn r).stop, .snapshot :: r.events s.due.callbacks ++ [.failed])
    else
      ((s.drawn r).finishFrame, .snapshot :: r.events s.due.callbacks ++ [.finished])
  := by
  rw [turn, beginTurn?_eq, if_pos ⟨isRunning_of_hasTarget htarget, hrequested⟩, if_pos htarget]
  rfl

@[simp]
theorem Reaction.callbacks_events (r : Reaction) (cs : List Callback) :
  callbacks (r.events cs) = cs
  := by
  induction cs with
  | nil => rfl
  | cons c cs ih =>
    have hreports : callbacks ((r.reports c).map .signal) = [] := by
      simp [callbacks, Event.callback?]
    rw [events, List.flatMap_cons, callbacks_append, ← events, ih, callbacks_cons, hreports]
    rfl

theorem Reaction.callback_mem_events (r : Reaction) {cs : List Callback} {c : Callback}
    (h : c ∈ cs) :
  .callback c ∈ r.events cs
  := List.mem_flatMap.mpr ⟨c, h, List.mem_cons_self⟩

theorem Reaction.mem_events {r : Reaction} {cs : List Callback} {e : Event}
    (h : e ∈ r.events cs) :
  (∃ c, e = .callback c) ∨ ∃ x, e = .signal x
  := by
  simp only [events, List.mem_flatMap, List.mem_cons, List.mem_map] at h
  obtain ⟨c, -, rfl | ⟨x, -, rfl⟩⟩ := h
  · exact .inl ⟨c, rfl⟩
  · exact .inr ⟨x, rfl⟩

/-- The three kinds of turns. -/
theorem turn_cases (s : Surface) :
  ¬ (s.isRunning = true ∧ s.requested = true)
    ∨ s.isRunning = true ∧ s.requested = true ∧ s.hasTarget = false
    ∨ s.requested = true ∧ s.hasTarget = true
  := by
  by_cases h : s.isRunning = true ∧ s.requested = true
  · cases htarget : s.hasTarget with
    | false => exact .inr (.inl ⟨h.1, h.2, rfl⟩)
    | true => exact .inr (.inr ⟨h.2, rfl⟩)
  · exact .inl h

/-- The renderer is called in a turn that finds something to draw on, and in no other. -/
theorem callbacks_turn (s : Surface) (r : Reaction) :
  callbacks (s.turn r).2 =
    if s.requested = true ∧ s.hasTarget = true then s.due.callbacks else []
  := by
  obtain h | ⟨hrunning, hrequested, htarget⟩ | ⟨hrequested, htarget⟩ := s.turn_cases
  · have hnot : ¬ (s.requested = true ∧ s.hasTarget = true) :=
      fun h' => h ⟨isRunning_of_hasTarget h'.2, h'.1⟩
    rw [turn_of_idle h, if_neg hnot]
    rfl
  · rw [turn_of_skip hrunning hrequested htarget, if_neg (by simp [htarget])]
    rfl
  · rw [if_pos ⟨hrequested, htarget⟩, turn_of_draw hrequested htarget]
    split <;> simp [Event.callback?]

/-- A turn takes a snapshot exactly if there is a turn to take. -/
theorem snapshot_mem_turn_iff (s : Surface) (r : Reaction) :
  .snapshot ∈ (s.turn r).2 ↔ s.isRunning = true ∧ s.requested = true
  := by
  obtain h | ⟨hrunning, hrequested, htarget⟩ | ⟨hrequested, htarget⟩ := s.turn_cases
  · simp [turn_of_idle h, h]
  · simp [turn_of_skip hrunning hrequested htarget, hrunning, hrequested]
  · rw [turn_of_draw hrequested htarget]
    split <;> simp [isRunning_of_hasTarget htarget, hrequested]

/-! ### What a surface remembers -/

/-- The last creation was not followed by a loss, and no loop was started after a turn
had seen it. -/
def Target (es : List Event) : Prop :=
  ∃ front back, es = front ++ .signal .created :: back ∧ .signal .destroyed ∉ back
    ∧ ¬ [Event.snapshot, Event.started].Sublist back

/-- A creation was reported, and neither a loss nor a turn came after it. -/
def Fresh (es : List Event) : Prop :=
  Since (· = .signal .created) (fun e => e = .signal .destroyed ∨ e = .snapshot) es

theorem Target.since {es : List Event} (h : Target es) :
  Since (· = .signal .created) (· = .signal .destroyed) es
  := by
  obtain ⟨front, back, rfl, hback, -⟩ := h
  refine ⟨front, _, back, rfl, rfl, ?_⟩
  rintro b hb rfl
  apply hback hb

/-- A loop is started after a turn if that was so before, or if it is started now and
there was a turn. -/
theorem restarted_append_singleton (back : List Event) (e : Event) :
  [Event.snapshot, Event.started].Sublist (back ++ [e]) ↔
    [Event.snapshot, Event.started].Sublist back ∨ e = .started ∧ .snapshot ∈ back
  := by
  have hreverse (l : List Event) :
      [Event.snapshot, Event.started].Sublist l ↔
        [Event.started, Event.snapshot].Sublist l.reverse := List.reverse_sublist.symm
  rw [hreverse, hreverse back]
  simp [List.sublist_cons_iff, eq_comm]

/-- A last event other than a creation adds to the events after the last creation. -/
theorem target_append_singleton {es : List Event} {e : Event} (he : e ≠ .signal .created) :
  Target (es ++ [e]) ↔
    ∃ front back, es = front ++ .signal .created :: back
      ∧ (.signal .destroyed ∉ back ∧ e ≠ .signal .destroyed)
      ∧ ¬ ([Event.snapshot, Event.started].Sublist back ∨ e = .started ∧ .snapshot ∈ back)
  := by
  constructor
  · rintro ⟨front, back, h, hdestroyed, hrestarted⟩
    rcases append_singleton_eq_append_cons_iff.mp h with ⟨-, h, -⟩ | ⟨back', rfl, rfl⟩
    · exact absurd h he
    · rw [restarted_append_singleton] at hrestarted
      refine ⟨front, back', rfl, ?_, hrestarted⟩
      simpa [eq_comm] using hdestroyed
  · rintro ⟨front, back, rfl, hdestroyed, hrestarted⟩
    refine ⟨front, back ++ [e], by simp, ?_, ?_⟩
    · simpa [eq_comm] using hdestroyed
    · rwa [restarted_append_singleton]

theorem target_created (es : List Event) :
  Target (es ++ [.signal .created])
  := ⟨es, [], rfl, by simp, by simp⟩

theorem not_target_destroyed (es : List Event) :
  ¬ Target (es ++ [.signal .destroyed])
  := by
  rw [target_append_singleton (by simp)]
  simp

/-- A loop that is started only knows of a creation that no turn has seen. -/
theorem target_started (es : List Event) :
  Target (es ++ [.started]) ↔ Fresh es
  := by
  rw [target_append_singleton (by simp)]
  constructor
  · rintro ⟨front, back, rfl, ⟨hdestroyed, -⟩, hseen⟩
    refine ⟨front, _, back, rfl, rfl, ?_⟩
    rintro b hb (rfl | rfl)
    · apply hdestroyed hb
    · apply hseen (.inr ⟨rfl, hb⟩)
  · rintro ⟨front, _, back, rfl, rfl, hback⟩
    have hdestroyed : .signal .destroyed ∉ back := fun h => hback _ h (.inl rfl)
    have hseen : .snapshot ∉ back := fun h => hback _ h (.inr rfl)
    refine ⟨front, back, rfl, ⟨hdestroyed, by simp⟩, ?_⟩
    rintro (h | ⟨-, h⟩)
    · apply hseen (h.subset List.mem_cons_self)
    · apply hseen h

/-- No other event makes a difference. -/
theorem target_other {es : List Event} {e : Event} (hcreated : e ≠ .signal .created)
    (hdestroyed : e ≠ .signal .destroyed) (hstarted : e ≠ .started) :
  Target (es ++ [e]) ↔ Target es
  := by
  rw [target_append_singleton hcreated]
  simp [Target, hdestroyed, hstarted]

theorem fresh_append_singleton {es : List Event} {e : Event} :
  Fresh (es ++ [e]) ↔
    e = .signal .created ∨ Fresh es ∧ ¬ (e = .signal .destroyed ∨ e = .snapshot)
  := since_append_singleton

/-- The size after an event. -/
def sizeAfter (size : Int64 × Int64) : Event → Int64 × Int64
  | .signal (.resized width height) => (width, height)
  | .signal .request | .signal .created | .signal .destroyed => size
  | .started | .stopped | .snapshot | .callback _ | .finished | .failed => size

/-- The size that was reported last. -/
def reportedSize (es : List Event) : Int64 × Int64 :=
  es.foldl sizeAfter (0, 0)

theorem reportedSize_append_singleton (es : List Event) (e : Event) :
  reportedSize (es ++ [e]) = sizeAfter (reportedSize es) e
  := by
  simp [reportedSize]

/-- What a surface remembers of its history. -/
structure Remembers (s : Surface) (es : List Event) : Prop where
  created_iff : s.created = true ↔ Fresh es
  target_iff : s.isRunning = true → (s.hasTarget = true ↔ Target es)
  size_eq : (s.width, s.height) = reportedSize es
  frames_eq : s.frames = UInt64.ofNat (es.count .finished)

namespace Remembers

variable {s : Surface} {es : List Event}

theorem new :
  Remembers {} []
  := by
  constructor
  · simp [Fresh, not_since_nil]
  · simp [isRunning]
  · rfl
  · rfl

theorem signal (h : s.Remembers es) (x : Signal) :
  (s.receive x).Remembers (es ++ [.signal x])
  := by
  constructor
  · rw [created_receive, fresh_append_singleton]
    simp [h.created_iff]
  · rw [isRunning_receive]
    intro hrunning
    have htarget := h.target_iff hrunning
    cases x with
    | created =>
      have : (s.receive .created).hasTarget = true := by
        cases hloop : s.loop <;> simp_all [hasTarget, isRunning, created_receive]
      simp [this, target_created]
    | destroyed =>
      have : (s.receive .destroyed).hasTarget = false := by
        cases hloop : s.loop <;> simp [hasTarget, hloop, created_receive, lost_receive]
      simp [this, not_target_destroyed]
    | request | resized =>
      rw [target_other (by simp) (by simp) (by simp), ← htarget]
      simp [hasTarget, created_receive, lost_receive]
  · rw [reportedSize_append_singleton, ← h.size_eq, size_receive]
    cases x <;> rfl
  · rw [frames_receive, h.frames_eq]
    simp

theorem reports (h : s.Remembers es) (xs : List Signal) :
  (xs.foldl receive s).Remembers (es ++ xs.map .signal)
  := by
  induction xs generalizing s es with
  | nil => simpa using h
  | cons x xs ih => simpa using ih (h.signal x)

/-- A surface does not change with an event that is not about it. -/
theorem callback (h : s.Remembers es) (c : Callback) :
  s.Remembers (es ++ [.callback c])
  := by
  constructor
  · simp [fresh_append_singleton, h.created_iff]
  · intro hrunning
    rw [target_other (by simp) (by simp) (by simp), h.target_iff hrunning]
  · simp [reportedSize_append_singleton, sizeAfter, h.size_eq]
  · simp [h.frames_eq]

theorem finishFrame (h : s.Remembers es) :
  s.finishFrame.Remembers (es ++ [.finished])
  := by
  constructor
  · simp [fresh_append_singleton, ← h.created_iff, Surface.finishFrame]
  · intro hrunning
    rw [target_other (by simp) (by simp) (by simp)]
    apply h.target_iff hrunning
  · simp [reportedSize_append_singleton, sizeAfter, ← h.size_eq, Surface.finishFrame]
  · simp [Surface.finishFrame, h.frames_eq, UInt64.ofNat_add]

/-- A loop that ends, in either way, leaves everything else as it is. -/
theorem stop (h : s.Remembers es) {e : Event} (he : e = .stopped ∨ e = .failed) :
  s.stop.Remembers (es ++ [e])
  := by
  constructor
  · rcases he with rfl | rfl <;> simp [fresh_append_singleton, ← h.created_iff, Surface.stop]
  · simp [isRunning, Surface.stop]
  · rcases he with rfl | rfl <;>
      simp [reportedSize_append_singleton, sizeAfter, ← h.size_eq, Surface.stop]
  · rcases he with rfl | rfl <;> simp [Surface.stop, h.frames_eq]

theorem start (h : s.Remembers es) {s' : Surface} (hs : s.start = .ok s') :
  s'.Remembers (es ++ [.started])
  := by
  unfold Surface.start at hs
  split at hs
  · obtain rfl := Except.ok.inj hs
    constructor
    · simp [fresh_append_singleton, h.created_iff]
    · intro _
      simp [target_started, hasTarget, h.created_iff]
    · simp [reportedSize_append_singleton, sizeAfter, h.size_eq]
    · simp [h.frames_eq]
  · cases hs

/-- The snapshot of a turn forgets what was pending, and keeps whether there is
something to draw on. -/
theorem snapshot (h : s.Remembers es) (hrunning : s.isRunning = true) :
  s.taken.Remembers (es ++ [.snapshot])
  := by
  constructor
  · simp [fresh_append_singleton, taken]
  · intro _
    rw [target_other (by simp) (by simp) (by simp), ← h.target_iff hrunning]
    rw [hasTarget, taken]
    simp
  · simp [reportedSize_append_singleton, sizeAfter, ← h.size_eq, taken]
  · simp [h.frames_eq, taken]

/-- Callbacks change a surface only by what is reported from within them. -/
theorem reaction (h : s.Remembers es) (r : Reaction) (cs : List Callback) :
  ((cs.flatMap r.reports).foldl receive s).Remembers (es ++ r.events cs)
  := by
  induction cs generalizing s es with
  | nil => simpa [Reaction.events] using h
  | cons c cs ih =>
    have h' := ih ((h.callback c).reports (r.reports c))
    simpa [Reaction.events] using h'

theorem turn (h : s.Remembers es) (r : Reaction) :
  (s.turn r).1.Remembers (es ++ (s.turn r).2)
  := by
  obtain hidle | ⟨hrunning, hrequested, htarget⟩ | ⟨hrequested, htarget⟩ := s.turn_cases
  · simpa [turn_of_idle hidle] using h
  · rw [turn_of_skip hrunning hrequested htarget]
    apply h.snapshot hrunning
  · have hdrawn : (s.drawn r).Remembers (es ++ [.snapshot] ++ r.events s.due.callbacks) :=
      (h.snapshot (isRunning_of_hasTarget htarget)).reaction r s.due.callbacks
    rw [turn_of_draw hrequested htarget]
    split
    · simpa using hdrawn.stop (.inr rfl)
    · simpa using hdrawn.finishFrame

theorem act (h : s.Remembers es) (a : Act) :
  (s.act a).1.Remembers (es ++ (s.act a).2)
  := by
  cases a with
  | signal x => apply h.signal
  | start =>
    simp only [Surface.act]
    split
    · rename_i hs
      apply h.start hs
    · simpa using h
  | stop =>
    simp only [Surface.act]
    split
    · apply h.stop (.inl rfl)
    · simpa using h
  | turn r => apply h.turn

end Remembers

namespace History

/-- What every act keeps true of a surface and its history stays true. -/
theorem after_of_act {P : Surface → List Event → Prop}
    (hact : ∀ {s es} (a : Act), P s es → P (s.act a).1 (es ++ (s.act a).2)) {h : History}
    (hP : P h.surface h.events) (acts : List Act) :
  P (h.after acts).surface (h.after acts).events
  := by
  induction acts generalizing h with
  | nil => apply hP
  | cons a acts ih =>
    apply ih (h := h.act a)
    apply hact a hP

/-- A new surface remembers its history in whatever way it is used. -/
theorem remembers_after (acts : List Act) :
  (({} : History).after acts).surface.Remembers (({} : History).after acts).events
  := after_of_act (fun a h => h.act a) .new acts

end History

/-! ### Sessions -/

namespace Step

/-- What is reported up to the first failure. -/
def reports : List Step → List Signal
  | [] => []
  | .signal x :: rest => x :: reports rest
  | .fail _ :: _ => []
  | .onDraw _ :: rest | .start :: rest | .frame :: rest | .stop :: rest | .look :: rest =>
    reports rest

/-- Whether there is a failure. -/
def fails : List Step → Bool
  | [] => false
  | .fail _ :: _ => true
  | .signal _ :: rest | .onDraw _ :: rest | .start :: rest | .frame :: rest | .stop :: rest
  | .look :: rest => fails rest

end Step

namespace Session

theorem inside_eq (t : Session) (body : List Step) :
  (t.inside body).surface = (Step.reports body).foldl receive t.surface
    ∧ (t.inside body).failure.isSome = (Step.fails body || t.failure.isSome)
    ∧ (t.inside body).callbacks = t.callbacks
  := by
  induction body generalizing t with
  | nil => simp [inside, Step.reports, Step.fails]
  | cons st rest ih =>
    cases st <;> simp [inside, Step.reports, Step.fails, ih]

/-- What the renderer of a session does in the next turn. -/
def reaction (t : Session) : Reaction where
  reports c := if c = .draw then Step.reports (t.plan.getD []) else []
  fails := Step.fails (t.plan.getD [])

/-- A frame in a session carries out the plan, and ends the loop if that fails. -/
theorem draw_eq (t : Session) (hfailure : t.failure = none) :
  t.draw.surface =
      (let drawn := (Step.reports (t.plan.getD [])).foldl receive t.surface
      if t.reaction.fails then drawn.stop else drawn.finishFrame)
    ∧ t.draw.callbacks = t.callbacks
  := by
  obtain ⟨hsurface, hisSome, hcallbacks⟩ := inside_eq { t with plan := none } (t.plan.getD [])
  have hfails : (inside { t with plan := none } (t.plan.getD [])).failure.isSome =
      t.reaction.fails := by
    rw [hisSome, hfailure]
    simp [reaction]
  simp only [draw]
  split
  · rename_i label hlabel
    rw [hlabel, Option.isSome_some] at hfails
    simp [← hfails, hsurface, hcallbacks]
  · rename_i hnone
    rw [hnone, Option.isSome_none] at hfails
    simp [← hfails, hsurface, hcallbacks]

/-- The turn of a session is a turn of its surface. -/
theorem turn_eq (t : Session) (hcallbacks : t.callbacks = []) (hfailure : t.failure = none) :
  t.turn.surface = (t.surface.turn t.reaction).1
    ∧ t.turn.callbacks = Surface.callbacks (t.surface.turn t.reaction).2
  := by
  rw [callbacks_turn]
  obtain h | ⟨hrunning, hrequested, htarget⟩ | ⟨hrequested, htarget⟩ := t.surface.turn_cases
  · have hnot : ¬ (t.surface.requested = true ∧ t.surface.hasTarget = true) :=
      fun h' => h ⟨isRunning_of_hasTarget h'.2, h'.1⟩
    rw [turn_of_idle h, if_neg hnot, turn, beginTurn?_eq, if_neg h]
    exact ⟨rfl, hcallbacks⟩
  · rw [turn_of_skip hrunning hrequested htarget, turn, beginTurn?_eq]
    simp [hrunning, hrequested, htarget, hcallbacks]
  · have hreports : t.surface.due.callbacks.flatMap t.reaction.reports =
        Step.reports (t.plan.getD []) := by
      cases hcreated : t.surface.created <;> cases hsize : t.surface.sizeDue <;>
        simp [due, Turn.callbacks, reaction, hcreated, hsize]
    obtain ⟨hsurface, hdrawn⟩ := draw_eq
      { t with surface := t.surface.taken, callbacks := t.surface.due.callbacks } hfailure
    rw [if_pos ⟨hrequested, htarget⟩, turn_of_draw hrequested htarget, turn, beginTurn?_eq,
      if_pos ⟨isRunning_of_hasTarget htarget, hrequested⟩, if_pos htarget, drawn, hreports]
    refine ⟨hsurface.trans ?_, hdrawn⟩
    rw [apply_ite Prod.fst]
    rfl

/-- The acts that a step of a session comes to. -/
def acts (t : Session) : Step → List Act
  | .signal x => [.signal x]
  | .start => [.start]
  | .frame => [.turn t.reaction]
  | .stop => [.stop]
  | .onDraw _ | .fail _ | .look => []

/-- Whatever is done in a session is done to its surface, with the same callbacks. -/
theorem step_eq_after (t : Session) (st : Step) (es : List Event) :
  let h := History.after ⟨t.surface, es⟩ (t.acts st)
  (t.step st).surface = h.surface
    ∧ Surface.callbacks h.events = Surface.callbacks es ++ (t.step st).callbacks
  := by
  cases st with
  | signal x => simp [acts, step, History.after, History.act, Surface.act, Event.callback?]
  | start =>
    cases hstart : t.surface.start <;>
      simp [acts, step, History.after, History.act, Surface.act, hstart, Event.callback?]
  | frame =>
    obtain ⟨hsurface, hcallbacks⟩ := turn_eq
      { t with callbacks := [], idle := false, refused := none, failure := none } rfl rfl
    refine ⟨hsurface, ?_⟩
    simp only [step, hcallbacks]
    apply callbacks_append
  | stop =>
    cases hrunning : t.surface.isRunning <;>
      simp [acts, step, History.after, History.act, Surface.act, hrunning, Event.callback?]
  | onDraw | fail | look => simp [acts, step, History.after]

/-- The callbacks of a whole session. -/
def seen (t : Session) : List Step → List Callback
  | [] => []
  | st :: rest => (t.step st).callbacks ++ (t.step st).seen rest

/-- Every session is a history of its surface, with the same callbacks. -/
theorem exists_acts (t : Session) (steps : List Step) (es : List Event) :
  ∃ acts,
    let h := History.after ⟨t.surface, es⟩ acts
    (steps.foldl step t).surface = h.surface
      ∧ Surface.callbacks h.events = Surface.callbacks es ++ t.seen steps
  := by
  induction steps generalizing t es with
  | nil => exact ⟨[], rfl, by simp [seen, History.after]⟩
  | cons st rest ih =>
    obtain ⟨hsurface, hcallbacks⟩ := t.step_eq_after st es
    obtain ⟨acts, hacts⟩ := ih (t.step st) (History.after ⟨t.surface, es⟩ (t.acts st)).events
    refine ⟨t.acts st ++ acts, ?_⟩
    rw [hsurface] at hacts
    rw [History.after, List.foldl_append]
    refine ⟨hacts.1, hacts.2.trans ?_⟩
    rw [hcallbacks, seen, List.append_assoc]

end Session

end Surface

end SurfaceHost
