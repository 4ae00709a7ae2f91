import Mathlib.Data.List.Induction
import SurfaceHost.Proofs.Surface.History
import SurfaceHost.Proofs.View.Threads

/-!
# Long presses stay within their press

A long press is added by an alarm, at any moment between two steps of the thread that takes
in the motions.  Nevertheless the mouse was pressed where the press began and has not been
released since, in the order of the jobs.  The reason is the order of the steps: a down is
shown to the detector after the mouse was pressed, and a release before the mouse is released.
`Errand.Fits` says this of the steps that are left.
-/

namespace SurfaceHost

namespace Job

/-- Whether a job releases the mouse. -/
def lifts : Job → Bool
  | .call (.mouseUp _ _) | .release _ => true
  | _ => false

/-- Whether a job is a long press. -/
def isLongPress : Job → Bool
  | .call (.longPress _ _) => true
  | _ => false

theorem isLongPress_iff {j : Job} :
  j.isLongPress = true ↔ ∃ x y, j = .call (.longPress x y)
  := by
  constructor
  · intro h
    unfold isLongPress at h
    split at h
    · exact ⟨_, _, rfl⟩
    · cases h
  · rintro ⟨x, y, rfl⟩
    rfl

end Job

/-- The mouse was pressed at a point, and has not been released since. -/
def PressedAt (x y : Int64) (jobs : List Job) : Prop :=
  Since (· = .call (.mouseDown x y)) (·.lifts = true) jobs

/-- The mouse was pressed where a motion happened, and has not been released since. -/
def Motion.Held (e : Motion) (jobs : List Job) : Prop :=
  PressedAt (Word.truncate32 e.x) (Word.truncate32 e.y) jobs

theorem PressedAt.append_singleton {x y : Int64} {jobs : List Job} (h : PressedAt x y jobs)
    {j : Job} (hj : j.lifts = false) :
  PressedAt x y (jobs ++ [j])
  := by
  apply since_append_singleton.mpr
  right
  exact ⟨h, by simp [hj]⟩

theorem pressedAt_mouseDown (x y : Int64) (jobs : List Job) :
  PressedAt x y (jobs ++ [.call (.mouseDown x y)])
  := by
  apply since_append_singleton.mpr
  left
  rfl

/-! ### The steps that are left -/

namespace Errand

/-- The steps that are left press the mouse before they show a down, and release it only when
the detector has no press.  Here `held` tells of which motions the mouse is held, and `closed`
whether the detector has no press. -/
def Fits (held : Motion → Prop) (closed : Prop) : List Errand → Prop
  | [] => True
  | .enqueue j :: rest =>
    j.body? = none ∧ j.isLongPress = false ∧ (j.lifts = true → closed)
      ∧ Fits
        (fun e => j = .call (.mouseDown (Word.truncate32 e.x) (Word.truncate32 e.y))
          ∨ held e ∧ j.lifts = false)
        closed rest
  | .detect e :: rest =>
    (e.phase = .down → held e)
      ∧ Fits held (e.phase = .up ∨ e.phase = .cancel ∨ closed ∧ e.phase ≠ .down) rest
  | .report g :: rest => (∀ down, g ≠ some (.longPress down)) ∧ Fits held closed rest

theorem Fits.mono {held held' : Motion → Prop} {closed closed' : Prop} {todo : List Errand}
    (h : Fits held closed todo) (hheld : ∀ e, held e → held' e) (hclosed : closed → closed') :
  Fits held' closed' todo
  := by
  induction todo generalizing held held' closed closed' with
  | nil => trivial
  | cons d rest ih =>
    cases d with
    | enqueue j =>
      obtain ⟨hbody, hlong, hlifts, hrest⟩ := h
      refine ⟨hbody, hlong, hclosed ∘ hlifts, ih hrest ?_ hclosed⟩
      rintro e (hdown | ⟨he, hj⟩)
      · exact .inl hdown
      · exact .inr ⟨hheld e he, hj⟩
    | detect e =>
      obtain ⟨hdown, hrest⟩ := h
      refine ⟨hheld e ∘ hdown, ih hrest hheld ?_⟩
      rintro (hup | hcancel | ⟨hc, he⟩)
      · exact .inl hup
      · exact .inr (.inl hcancel)
      · exact .inr (.inr ⟨hclosed hc, he⟩)
    | report g =>
      obtain ⟨hlong, hrest⟩ := h
      exact ⟨hlong, ih hrest hheld hclosed⟩

variable {held : Motion → Prop} {closed : Prop}

/-- A call that neither presses nor releases the mouse may come anywhere. -/
theorem fits_pointerErrands_append (v : View) {c : Call} (hlong : (Job.call c).isLongPress = false)
    (hlifts : (Job.call c).lifts = false) {rest : List Errand} (h : Fits held closed rest) :
  Fits held closed (v.pointerErrands c ++ rest)
  := by
  rw [View.pointerErrands]
  split
  · refine ⟨rfl, hlong, by simp [hlifts], h.mono ?_ id⟩
    intro e he
    exact .inr ⟨he, hlifts⟩
  · apply h

theorem fits_pointerErrands (v : View) {c : Call} (hlong : (Job.call c).isLongPress = false)
    (hlifts : (Job.call c).lifts = false) :
  Fits held closed (v.pointerErrands c)
  := by
  rw [← List.append_nil (v.pointerErrands c)]
  apply fits_pointerErrands_append v hlong hlifts
  trivial

/-- The steps of every motion fit, whatever was before. -/
theorem fits_begin (v : View) (e : Motion) :
  Fits held closed (v.begin e).2
  := by
  rw [View.begin]
  cases he : e.phase with
  | down =>
    simp only
    generalize (if v.contacts.isEmpty then e.pointer else v.primary) = primary
    split
    · refine ⟨rfl, rfl, by simp [Job.lifts], ?_⟩
      apply fits_pointerErrands_append v rfl rfl
      refine ⟨?_, trivial⟩
      intro _
      left
      rfl
    · apply fits_pointerErrands v rfl rfl
  | move =>
    simp only
    split
    · simp only
      split
      · refine ⟨rfl, rfl, by simp [Job.lifts], ?_⟩
        apply fits_pointerErrands_append v rfl rfl
        exact ⟨by simp [he], trivial⟩
      · apply fits_pointerErrands v rfl rfl
    · trivial
  | up =>
    simp only
    split
    · split
      · refine ⟨by simp [he], rfl, rfl, fun _ => .inl he, ?_⟩
        apply fits_pointerErrands v rfl rfl
      · apply fits_pointerErrands v rfl rfl
    · trivial
  | cancel =>
    refine ⟨by simp [he], ?_⟩
    split
    · trivial
    · exact ⟨rfl, rfl, fun _ => .inr (.inl he), trivial⟩
  | unknown => trivial

end Errand

/-! ### Jobs, the press and the steps that are left -/

/-- Every long press is within a press, the mouse is held for the press of the detector, and
the steps that are left fit. -/
structure Within (jobs : List Job) (outline : Option (Motion × Stage)) (todo : List Errand) :
    Prop where
  longPress : ∀ front x y back, jobs = front ++ .call (.longPress x y) :: back →
    PressedAt x y front
  press : ∀ down stage, outline = some (down, stage) → down.Held jobs
  fits : Errand.Fits (Motion.Held · jobs) (outline = none) todo

namespace Within

variable {jobs : List Job} {outline outline' : Option (Motion × Stage)} {todo : List Errand}

/-- A new job leaves long presses within theirs, if it is itself no long press or within one. -/
theorem longPress_append_singleton (h : Within jobs outline todo) {j : Job}
    (hj : ∀ x y, j = .call (.longPress x y) → PressedAt x y jobs) :
  ∀ front x y back, jobs ++ [j] = front ++ .call (.longPress x y) :: back → PressedAt x y front
  := by
  intro front x y back heq
  rcases append_singleton_eq_append_cons_iff.mp heq with ⟨rfl, hlong, -⟩ | ⟨back', rfl, hjobs⟩
  · apply hj x y hlong
  · apply h.longPress front x y back' hjobs

/-- A job that releases nothing may be added at any moment. -/
theorem add (h : Within jobs outline todo) {j : Job} (hlifts : j.lifts = false)
    (hj : ∀ x y, j = .call (.longPress x y) → PressedAt x y jobs) :
  Within (jobs ++ [j]) outline todo
  := by
  constructor
  · apply h.longPress_append_singleton hj
  · intro down stage houtline
    apply (h.press down stage houtline).append_singleton hlifts
  · apply h.fits.mono _ id
    intro e he
    apply PressedAt.append_singleton he hlifts

/-- The next job of the present motion is added. -/
theorem enqueue {j : Job} (h : Within jobs outline (.enqueue j :: todo)) :
  Within (jobs ++ [j]) outline todo
  := by
  obtain ⟨-, hlong, hlifts, hrest⟩ := h.fits
  constructor
  · apply h.longPress_append_singleton
    rintro x y rfl
    cases hlong
  · intro down stage houtline
    cases hj : j.lifts with
    | false => apply (h.press down stage houtline).append_singleton hj
    | true =>
      rw [hlifts hj] at houtline
      cases houtline
  · apply hrest.mono _ id
    rintro e (rfl | ⟨he, hj⟩)
    · apply pressedAt_mouseDown
    · apply PressedAt.append_singleton he hj

/-- The detector is shown the present motion. -/
theorem detect {d d' : Detector} {e : Motion} {g : Option Gesture}
    (h : Within jobs d.outline (.detect e :: todo)) (htakes : d.Takes e d' g) :
  Within jobs d'.outline (.report g :: todo)
  := by
  obtain ⟨hdown, hrest⟩ := h.fits
  constructor
  · apply h.longPress
  · intro down stage houtline
    obtain ⟨he, rfl⟩ | ⟨stage', hbefore⟩ := htakes.outline_cases houtline
    · apply hdown he
    · apply h.press down stage' hbefore
  · refine ⟨htakes.ne_longPress, hrest.mono (fun _ => id) ?_⟩
    rintro (hup | hcancel | ⟨hclosed, he⟩)
    · apply (htakes.of_lift (.inl hup)).1
    · apply (htakes.of_lift (.inr hcancel)).1
    · apply (htakes.of_no_press hclosed he).1

/-- A press may become long. -/
theorem hold {down : Motion} {stage : Stage} (h : Within jobs (some (down, stage)) todo)
    (stage' : Stage) :
  Within jobs (some (down, stage')) todo
  := by
  constructor
  · apply h.longPress
  · rintro _ _ ⟨⟩
    apply h.press down stage rfl
  · apply h.fits.mono (fun _ => id)
    simp

end Within

namespace View

/-- The job that a gesture is turned into. -/
def jobFor (v : View) : Option Gesture → Option Job
  | none => none
  | some (.down _) => some .stopFling
  | some (.scroll down _ dx dy) =>
    some (.call (.scroll (Word.truncate32 down.x) (Word.truncate32 down.y) dx dy))
  | some (.fling down _ vx vy) =>
    some (.startFling ⟨Word.truncate32 down.x, Word.truncate32 down.y⟩ vx vy v.flingLimit)
  | some (.longPress down) =>
    if v.capabilities.longPress then
      some (.call (.longPress (Word.truncate32 down.x) (Word.truncate32 down.y)))
    else none

theorem deliver_eq (v : View) (g : Option Gesture) :
  (v.deliver g).backlog = v.backlog.offer (v.jobFor g) ∧ (v.deliver g).detector = v.detector
  := by
  rcases g with _ | _ | _ | _ | down
  · exact ⟨rfl, rfl⟩
  · exact ⟨rfl, rfl⟩
  · exact ⟨rfl, rfl⟩
  · exact ⟨rfl, rfl⟩
  · simp only [deliver, jobFor]
    split
    · exact ⟨rfl, rfl⟩
    · exact ⟨rfl, rfl⟩

/-- A gesture is turned into a job that releases nothing, and into a long press only if it is
one. -/
theorem of_mem_jobFor {v : View} {g : Option Gesture} {j : Job} (h : j ∈ v.jobFor g) :
  j.body? = none ∧ j.lifts = false ∧ ∀ x y, j = .call (.longPress x y) →
    ∃ down, g = some (.longPress down) ∧ x = Word.truncate32 down.x ∧ y = Word.truncate32 down.y
  := by
  rcases g with _ | _ | _ | _ | down
  · cases h
  · obtain rfl := Option.some.inj h
    exact ⟨rfl, rfl, by simp⟩
  · obtain rfl := Option.some.inj h
    exact ⟨rfl, rfl, by simp⟩
  · obtain rfl := Option.some.inj h
    exact ⟨rfl, rfl, by simp⟩
  · simp only [jobFor] at h
    split at h
    · obtain rfl := Option.some.inj h
      refine ⟨rfl, rfl, ?_⟩
      rintro x y ⟨⟩
      exact ⟨down, rfl, rfl, rfl⟩
    · cases h

end View

/-! ### Runs of all threads -/

namespace Shared

/-- The jobs that wait are a queue without tasks, and long presses stay within theirs. -/
structure Sound (m : Shared) : Prop where
  inOrder : m.view.backlog.InOrder
  plain : ∀ j ∈ m.view.backlog.toList, j.body? = none
  within : Within m.jobs m.view.detector.outline m.todo

variable {m : Shared}

/-- What is kept does not depend on more of a view than its backlog and its detector. -/
theorem Sound.congr (h : m.Sound) {m' : Shared} (hbacklog : m'.view.backlog = m.view.backlog)
    (htaken : m'.taken = m.taken)
    (hwithin : Within m.jobs m.view.detector.outline m.todo →
      Within m.jobs m'.view.detector.outline m'.todo) :
  m'.Sound
  := by
  have hjobs : m'.jobs = m.jobs := by rw [jobs, jobs, hbacklog, htaken]
  constructor
  · rw [hbacklog]
    apply h.inOrder
  · rw [hbacklog]
    apply h.plain
  · rw [hjobs]
    apply hwithin h.within

/-- A job is added. -/
theorem Sound.push (h : m.Sound) {j : Job} (hbody : j.body? = none) {m' : Shared}
    (hbacklog : m'.view.backlog = m.view.backlog.push j) (htaken : m'.taken = m.taken)
    (hwithin : Within (m.jobs ++ [j]) m'.view.detector.outline m'.todo) :
  m'.Sound
  := by
  have hlist : m'.view.backlog.toList = m.view.backlog.toList ++ [j] := by
    rw [hbacklog, h.inOrder.toList_push]
  have hjobs : m'.jobs = m.jobs ++ [j] := by
    rw [jobs, jobs, hlist, htaken, List.append_assoc]
  constructor
  · rw [hbacklog]
    apply h.inOrder.push
  · rw [hlist]
    intro k hk
    rcases List.mem_append.mp hk with hk | hk
    · apply h.plain k hk
    · obtain rfl := List.mem_singleton.mp hk
      apply hbody
  · rw [hjobs]
    apply hwithin

/-- A report is delivered; if it is a long press, the mouse is held for it. -/
theorem Sound.deliver (h : m.Sound) {g : Option Gesture}
    (hg : ∀ down, g = some (.longPress down) → down.Held m.jobs) :
  Sound { m with view := m.view.deliver g }
  := by
  obtain ⟨hbacklog, hdetector⟩ := m.view.deliver_eq g
  cases hjob : m.view.jobFor g with
  | none =>
    rw [hjob] at hbacklog
    apply h.congr
    · apply hbacklog
    · rfl
    · rw [hdetector]
      apply id
  | some j =>
    rw [hjob] at hbacklog
    obtain ⟨hbody, hlifts, hlong⟩ := View.of_mem_jobFor hjob
    apply h.push hbody
    · apply hbacklog
    · rfl
    · rw [hdetector]
      apply h.within.add hlifts
      intro x y hj
      obtain ⟨down, hdown, rfl, rfl⟩ := hlong x y hj
      apply hg down hdown

theorem Sound.goOn (h : m.Sound) :
  m.goOn.Sound
  := by
  have hwithin := h.within
  rw [Shared.goOn]
  split
  · apply h
  · rename_i j rest htodo
    rw [htodo] at hwithin
    apply h.push hwithin.fits.1
    · rfl
    · rfl
    · apply hwithin.enqueue
  · rename_i e rest htodo
    rw [htodo] at hwithin
    apply h.congr
    · rfl
    · rfl
    · intro _
      apply hwithin.detect (m.view.detector.takes_touch m.view.now e)
  · rename_i g rest htodo
    rw [htodo] at hwithin
    obtain ⟨hlong, hrest⟩ := hwithin.fits
    have hdone : Sound { m with todo := rest } := by
      apply h.congr
      · rfl
      · rfl
      · intro _
        exact ⟨hwithin.longPress, hwithin.press, hrest⟩
    apply hdone.deliver
    intro down hdown
    exact absurd hdown (hlong down)

/-- An alarm goes off, of whatever generation it is. -/
theorem Sound.ring (h : m.Sound) (i : Nat) :
  (m.step (.ring i)).Sound
  := by
  cases halarm : m.alarms[i]? with
  | none =>
    have hring : m.watch.ring i = (m.watch, none) := Watch.ring_of_none halarm
    simp only [step, hring]
    apply h
  | some a =>
    have hring : m.watch.ring i = _ := Watch.ring_of_some halarm
    simp only [step, hring]
    obtain hsame | ⟨down, stage, houtline, -, -, hheld, -, hlong⟩ :=
      m.view.detector.fire_cases a.generation
    · have hfire : m.watch.detector.fire a.generation = (m.view.detector, none) := hsame
      rw [hfire]
      apply h.congr
      · rfl
      · rfl
      · apply id
    · have hfire : (m.watch.detector.fire a.generation).2 = some (.longPress down) := hlong
      apply Sound.deliver
      · apply h.congr
        · rfl
        · rfl
        · intro hwithin
          rw [houtline] at hwithin
          have hlonger := hwithin.hold .held
          rw [← hheld] at hlonger
          apply hlonger
      · rw [hfire]
        rintro _ ⟨⟩
        apply h.within.press down stage houtline

theorem Sound.step (h : m.Sound) (a : Move) :
  (m.step a).Sound
  := by
  cases a with
  | begin e =>
    rw [Shared.step]
    split
    · apply h.congr
      · rw [View.begin_eq]
      · rfl
      · intro hwithin
        rw [View.begin_eq]
        exact ⟨hwithin.longPress, hwithin.press, Errand.fits_begin m.view e⟩
    · apply h
  | goOn => apply h.goOn
  | ring i => apply h.ring
  | take =>
    rw [Shared.step]
    split
    · rename_i j rest hpop
      have hlist := Backlog.toList_of_pop?_eq_some hpop
      have hbody : j.body? = none := h.plain j (by simp [hlist])
      rw [View.run_eq _ hbody]
      constructor
      · apply h.inOrder.pop? hpop
      · intro k hk
        apply h.plain k
        rw [hlist]
        apply List.mem_cons_of_mem j hk
      · have hjobs : m.taken ++ [j] ++ rest.toList = m.jobs := by
          rw [jobs, hlist, List.append_assoc]
          rfl
        rw [jobs, hjobs]
        apply h.within
    · apply h
  | wait ns =>
    apply h.congr
    · rfl
    · rfl
    · apply id

/-- A new view that no thread has used yet. -/
def new (settings : Settings) (capabilities : Capabilities) (surface : Surface)
    (clockRate : Int) : Shared :=
  { view := View.new settings capabilities surface clockRate }

variable {settings : Settings} {capabilities : Capabilities} {surface : Surface} {clockRate : Int}

theorem sound_new :
  (new settings capabilities surface clockRate).Sound
  := by
  constructor
  · apply Backlog.inOrder_empty
  · intro j hj
    cases hj
  · constructor
    · intro front x y back h
      have hlength := congrArg List.length h
      simp [new, jobs, View.new, View.ofSettings, Backlog.toList] at hlength
    · intro down stage houtline
      cases houtline
    · trivial

theorem sound_after (moves : List Move) :
  ((new settings capabilities surface clockRate).after moves).Sound
  := by
  induction moves using List.reverseRecOn with
  | nil => apply sound_new
  | append_singleton moves a ih =>
    rw [after_append_singleton]
    apply ih.step

/-- The detector and its alarms change only by a motion or by an alarm that goes off. -/
theorem Sound.watch_step (h : m.Sound) (a : Move) :
  (m.step a).watch = m.watch ∨ (∃ now e, (m.step a).watch = (m.watch.touch now e).1)
    ∨ ∃ i, (m.step a).watch = (m.watch.ring i).1
  := by
  cases a with
  | begin e =>
    left
    rw [Shared.step]
    split
    · simp only [watch]
      rw [View.begin_eq]
    · rfl
  | goOn =>
    simp only [Shared.step, Shared.goOn]
    split
    · left
      rfl
    · left
      rfl
    · right
      left
      exact ⟨_, _, rfl⟩
    · left
      simp only [watch, (View.deliver_eq _ _).2]
  | ring i =>
    right
    right
    use i
    simp only [Shared.step, watch, (View.deliver_eq _ _).2]
    rfl
  | take =>
    left
    rw [Shared.step]
    split
    · rename_i j rest hpop
      have hlist := Backlog.toList_of_pop?_eq_some hpop
      rw [View.run_eq _ (h.plain j (by simp [hlist]))]
      rfl
    · rfl
  | wait ns =>
    left
    rfl

theorem Sound.disarms_le_step (h : m.Sound) (a : Move) :
  m.disarms ≤ (m.step a).disarms
  := by
  change m.watch.disarms ≤ (m.step a).watch.disarms
  obtain hsame | ⟨now, e, htouch⟩ | ⟨i, hring⟩ := h.watch_step a
  · apply Nat.le_of_eq
    rw [hsame]
  · rw [htouch]
    apply Watch.disarms_le_touch
  · apply Nat.le_of_eq
    rw [hring, Watch.disarms_ring]

/-- As long as the generations have not come round, the alarms are in order. -/
theorem orderly_after (moves : List Move)
    (hlt : ((new settings capabilities surface clockRate).after moves).disarms < UInt64.size) :
  ((new settings capabilities surface clockRate).after moves).watch.Orderly
  := by
  induction moves using List.reverseRecOn with
  | nil => apply Watch.orderly_new
  | append_singleton moves a ih =>
    rw [after_append_singleton] at hlt ⊢
    have hsound : ((new settings capabilities surface clockRate).after moves).Sound :=
      sound_after moves
    have horderly := ih (Nat.lt_of_le_of_lt (hsound.disarms_le_step a) hlt)
    change ((_ : Shared).step a).watch.disarms < UInt64.size at hlt
    obtain hsame | ⟨now, e, htouch⟩ | ⟨i, hring⟩ := hsound.watch_step a
    · rw [hsame]
      apply horderly
    · rw [htouch] at hlt ⊢
      apply horderly.touch hlt
    · rw [hring]
      apply horderly.ring

/-- An alarm adds nothing, or a long press where the press began that has set it. -/
theorem jobs_ring (h : m.Sound) (horderly : m.watch.Orderly) {i : Nat} {a : Alarm}
    (ha : m.alarms[i]? = some a) :
  (m.step (.ring i)).jobs = m.jobs
    ∨ (m.step (.ring i)).jobs
      = m.jobs ++ [.call (.longPress (Word.truncate32 a.down.x) (Word.truncate32 a.down.y))]
  := by
  have hbacklog : (m.step (.ring i)).view.backlog
      = m.view.backlog.offer (m.view.jobFor (m.watch.ring i).2) := by
    simp only [Shared.step, (View.deliver_eq _ _).1]
    rfl
  have hjobs : (m.step (.ring i)).jobs = m.taken ++ (m.step (.ring i)).view.backlog.toList := rfl
  rw [hjobs, hbacklog]
  obtain ⟨-, hnone⟩ | ⟨b, hb, -, -, -, -, hlong⟩ := horderly.ring_cases i
  · left
    rw [hnone]
    rfl
  · obtain rfl : a = b := Option.some.inj (ha.symm.trans hb)
    rw [hlong, View.jobFor]
    split
    · right
      rw [Backlog.offer, h.inOrder.toList_push, jobs, List.append_assoc]
    · left
      rfl

/-- Whatever the threads do, the mouse was pressed where a long press is, and has not been
released between them.  An alarm makes no press long but the one that has set it. -/
theorem longPress_within_press (settings : Settings) (capabilities : Capabilities)
    (surface : Surface) (clockRate : Int) (moves : List Move) :
  let m := (new settings capabilities surface clockRate).after moves
  (∀ front x y back, m.jobs = front ++ .call (.longPress x y) :: back →
      ∃ before between, front = before ++ .call (.mouseDown x y) :: between
        ∧ ∀ j ∈ between, j.lifts = false)
    ∧ (m.disarms < UInt64.size → ∀ i a, m.alarms[i]? = some a →
      (m.step (.ring i)).jobs = m.jobs
        ∨ (m.step (.ring i)).jobs
          = m.jobs ++ [.call (.longPress (Word.truncate32 a.down.x) (Word.truncate32 a.down.y))])
  := by
  intro m
  have hsound : m.Sound := sound_after moves
  constructor
  · intro front x y back hjobs
    obtain ⟨before, _, between, hfront, rfl, hbetween⟩ :=
      hsound.within.longPress front x y back hjobs
    use before, between, hfront
    intro j hj
    apply Bool.eq_false_iff.mpr (hbetween j hj)
  · intro hlt i a ha
    apply jobs_ring hsound (orderly_after moves hlt) ha

/-- The alarm goes off when the contact is already lifted, but the detector has not yet been
shown the release. -/
theorem longPress_within_press_before_release :
  let down : Motion := { phase := .down, x := 10, y := 20, pointer := 4, time := 0 }
  let up : Motion := { phase := .up, x := 11, y := 20, pointer := 4, time := 600 }
  let start : List Move := [.begin down, .goOn, .goOn, .goOn, .goOn, .begin up]
  let moves : List Move := start ++ [.ring 0, .take, .goOn, .goOn, .goOn, .goOn]
  let early := (new Settings.default Capabilities.all {} 1).after start
  let late := (new Settings.default Capabilities.all {} 1).after moves
  (late.jobs.map Job.isLongPress = [false, false, false, true, false, false]
      ∧ late.jobs.map Job.lifts = [false, false, false, false, true, false]
      ∧ ∃ front x y back, late.jobs = front ++ .call (.longPress x y) :: back
        ∧ ∃ before between, front = before ++ .call (.mouseDown x y) :: between
          ∧ ∀ j ∈ between, j.lifts = false)
    ∧ early.disarms < UInt64.size
    ∧ ∃ a, early.alarms[0]? = some a
      ∧ ((early.step (.ring 0)).jobs = early.jobs
        ∨ (early.step (.ring 0)).jobs
          = early.jobs
            ++ [.call (.longPress (Word.truncate32 a.down.x) (Word.truncate32 a.down.y))])
  := by
  intro down up start moves early late
  have hlongs : late.jobs.map Job.isLongPress = [false, false, false, true, false, false] := by
    decide +kernel
  have hlifts : late.jobs.map Job.lifts = [false, false, false, false, true, false] := by
    decide +kernel
  have hdisarms : early.disarms < UInt64.size := by decide +kernel
  have hlength : early.alarms.length = 1 := by decide +kernel
  obtain ⟨hwithin, -⟩ := longPress_within_press Settings.default Capabilities.all {} 1 moves
  obtain ⟨-, hring⟩ := longPress_within_press Settings.default Capabilities.all {} 1 start
  have hmem : true ∈ late.jobs.map Job.isLongPress := by simp [hlongs]
  obtain ⟨j, hj, hlong⟩ := List.mem_map.mp hmem
  obtain ⟨x, y, rfl⟩ := Job.isLongPress_iff.mp hlong
  obtain ⟨front, back, hjobs⟩ := List.append_of_mem hj
  obtain ⟨a, ha⟩ := List.length_eq_one_iff.mp hlength
  have halarm : early.alarms[0]? = some a := by simp [ha]
  exact ⟨⟨hlongs, hlifts, front, x, y, back, hjobs, hwithin front x y back hjobs⟩, hdisarms, a,
    halarm, hring hdisarms 0 a halarm⟩

end Shared

end SurfaceHost
