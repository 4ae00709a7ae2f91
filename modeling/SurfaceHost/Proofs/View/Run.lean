import SurfaceHost.Proofs.View.Turn
import SurfaceHost.View.Frame

/-!
# Runs of a view

A run is a sequence of acts: steps of a session, and alarms that go off at any time, late
ones included.  As long as no tasks are posted, a view shows at every point of a run what
the acts make of its input side, in which frames leave no trace (`Shows.after`).  With
tasks, whatever motions, alarms and time keep true of an input side stays true of the one
that a view shows (`Holds.after`).
-/

namespace SurfaceHost

/-! ### The pointers that are used -/

mutual

/-- The pointers in the motions of a step, also in those of the tasks that it posts. -/
def HostStep.pointers : HostStep → List Int64
  | .touch _ _ _ pointer _ | .send (.touch _ _ _ pointer) => [pointer]
  | .post _ body => bodyPointers body
  | .send (.lifecycle _ _) | .send (.size _ _) | .send .paint | .send (.other _) => []
  | .postNone | .fail _ | .advance _ | .look => []

/-- The pointers in the motions of a task. -/
def bodyPointers : List HostStep → List Int64
  | [] => []
  | s :: rest => s.pointers ++ bodyPointers rest

end

namespace View

/-- A new view on a surface that may have been used before, with a clock of events that
runs at its own rate. -/
def new (settings : Settings) (capabilities : Capabilities) (surface : Surface)
    (clockRate : Int) : View :=
  { ofSettings settings capabilities with surface, clockRate }

/-- What may happen to a view. -/
inductive Act where
  | step (s : Step)
  /-- The alarm of a generation goes off, in time or late. -/
  | alarm (generation : UInt64)

namespace Act

/-- Whether an act comes from outside: the loop and its turns do not. -/
def isEvent : Act → Bool
  | .step (.host _) | .alarm _ => true
  | .step .start | .step .frame | .step .stop => false

/-- Whether an act posts no task. -/
def isPlain : Act → Bool
  | .step (.host (.post _ _)) => false
  | .step _ | .alarm _ => true

/-- Only events can post tasks, so runs with the same events post the same tasks. -/
theorem isPlain_of_filter_eq {acts others : List Act} (hplain : ∀ a ∈ acts, a.isPlain = true)
    (hevents : others.filter isEvent = acts.filter isEvent) :
  ∀ a ∈ others, a.isPlain = true
  := by
  intro a ha
  cases hevent : a.isEvent with
  | true =>
    have hmem : a ∈ acts.filter isEvent := hevents ▸ List.mem_filter.mpr ⟨ha, hevent⟩
    apply hplain a (List.mem_filter.mp hmem).1
  | false =>
    cases a with
    | alarm generation => rfl
    | step st =>
      cases st with
      | host st => simp [isEvent] at hevent
      | start | frame | stop => rfl

/-- The pointers in the motions of an act. -/
def pointers : Act → List Int64
  | .step (.host s) => s.pointers
  | .step .start | .step .frame | .step .stop | .alarm _ => []

end Act

/-- Carries out one act. -/
def act (v : View) : Act → View
  | .step s => (v.step s).1
  | .alarm generation => v.fire generation

/-- The view after a run. -/
def after (v : View) (acts : List Act) : View :=
  acts.foldl act v

@[simp]
theorem after_nil (v : View) :
  v.after [] = v
  := rfl

@[simp]
theorem after_cons (v : View) (a : Act) (acts : List Act) :
  v.after (a :: acts) = (v.act a).after acts
  := rfl

end View

namespace InputSide

/-- What an act makes of an input side: the loop and its turns nothing. -/
def act (s : InputSide) : View.Act → InputSide
  | .step (.host st) => s.perform st
  | .step .start | .step .frame | .step .stop => s
  | .alarm generation => s.fire generation

/-- The input side after a run. -/
def after (s : InputSide) (acts : List View.Act) : InputSide :=
  acts.foldl act s

/-- Only what comes from outside matters to an input side. -/
theorem after_filter_isEvent (s : InputSide) (acts : List View.Act) :
  s.after (acts.filter View.Act.isEvent) = s.after acts
  := by
  induction acts generalizing s with
  | nil => rfl
  | cons a rest ih =>
    cases hevent : a.isEvent with
    | true =>
      rw [List.filter_cons_of_pos hevent]
      apply ih
    | false =>
      have hquiet : s.act a = s := by
        cases a with
        | alarm generation => simp [View.Act.isEvent] at hevent
        | step st =>
          cases st with
          | host st => simp [View.Act.isEvent] at hevent
          | start | frame | stop => rfl
      rw [List.filter_cons_of_neg (by simp [hevent]), ih]
      exact (congrArg (·.after rest) hquiet).symm

end InputSide

namespace View

variable {v : View} {s : InputSide} {bodies : List (List HostStep)}

/-! ### Runs without tasks -/

theorem shows_new (settings : Settings) (capabilities : Capabilities) (surface : Surface)
    (clockRate : Int) :
  (new settings capabilities surface clockRate).Shows
    (new settings capabilities surface clockRate).input []
  := by
  constructor
  · apply Backlog.inOrder_empty
  · rfl
  · rfl
  · intro c hc
    simp [queued, new, ofSettings, Backlog.toList] at hc

theorem step_frame (v : View) :
  (v.step .frame).1 = v.turn.1
  := by
  simp only [step]
  split <;> simp_all

/-- Starting and stopping the loop changes at most the surface. -/
theorem step_loop_eq (v : View) {st : Step} (hst : st = .start ∨ st = .stop) :
  ∃ surface, (v.step st).1 = { v with surface }
  := by
  rcases hst with rfl | rfl
  · simp only [step]
    split
    · exact ⟨_, rfl⟩
    · exact ⟨v.surface, rfl⟩
  · simp only [step]
    split
    · exact ⟨_, rfl⟩
    · exact ⟨v.surface, rfl⟩

theorem Shows.stepLoop (h : v.Shows s bodies) {st : Step} (hst : st = .start ∨ st = .stop) :
  (v.step st).1.Shows s bodies
  := by
  obtain ⟨surface, heq⟩ := v.step_loop_eq hst
  rw [heq]
  apply h.setSurface

/-- A view shows what an act without tasks makes of its input side. -/
theorem Shows.act (h : v.Shows s []) {a : Act} (ha : a.isPlain = true) :
  (v.act a).Shows (s.act a) []
  := by
  cases a with
  | alarm generation => apply h.fire
  | step st =>
    cases st with
    | host st =>
      have h' := h.perform st
      cases st with
      | post label body => simp [Act.isPlain] at ha
      | touch | send | postNone | fail | advance | look => apply h'
    | start => apply h.stepLoop (.inl rfl)
    | stop => apply h.stepLoop (.inr rfl)
    | frame =>
      rw [View.act, step_frame]
      apply h.turn.1

/-- At every point of a run without tasks, a view shows what the acts make of its input
side. -/
theorem Shows.after (h : v.Shows s []) {acts : List Act} (ha : ∀ a ∈ acts, a.isPlain = true) :
  (v.after acts).Shows (s.after acts) []
  := by
  induction acts generalizing v s with
  | nil => apply h
  | cons a rest ih =>
    apply ih (h.act (ha a List.mem_cons_self))
    intro b hb
    apply ha b (List.mem_cons_of_mem a hb)

/-- The input side of a view without tasks depends on nothing but the acts. -/
theorem input_after_new (settings : Settings) (capabilities : Capabilities) (surface : Surface)
    (clockRate : Int) (acts : List Act) (ha : ∀ a ∈ acts, a.isPlain = true) :
  ((new settings capabilities surface clockRate).after acts).input =
    (new settings capabilities surface clockRate).input.after acts
  := ((shows_new settings capabilities surface clockRate).after ha).input_eq

end View

/-! ### What stays true in every run -/

/-- A property of input sides that motions of the pointers `ok`, alarms and the passing of
time keep true. -/
structure InputSide.Kept (ok : Int64 → Prop) (P : InputSide → Prop) : Prop where
  touch : ∀ {s : InputSide} {e : Motion}, ok e.pointer → P s → P (s.touch e)
  fire : ∀ {s : InputSide} (generation : UInt64), P s → P (s.fire generation)
  wait : ∀ {s : InputSide} (now : Instant) (alarm : Option Instant), P s →
    P { s with now, detector := { s.detector with alarm } }

theorem InputSide.Kept.perform {ok : Int64 → Prop} {P : InputSide → Prop} (hkept : Kept ok P)
    {s : InputSide} (hP : P s) {st : HostStep} (hok : ∀ p ∈ st.pointers, ok p) :
  P (s.perform st)
  := by
  cases st with
  | touch phase x y pointer time => apply hkept.touch (hok pointer List.mem_cons_self) hP
  | send e =>
    cases e with
    | touch phase x y pointer => apply hkept.touch (hok pointer List.mem_cons_self) hP
    | lifecycle | size | paint | other => apply hP
  | advance ns =>
    rw [InputSide.perform]
    by_cases hdue : s.detector.alarm.any (· ≤ s.now + max ns 0)
    · rw [advance_of_due hdue]
      apply hkept.fire
      apply hkept.wait _ _ hP
    · rw [advance_of_not_due hdue]
      apply hkept.wait _ s.detector.alarm hP
  | post | postNone | fail | look => apply hP

theorem HostStep.pointers_of_mem_posted {st : HostStep} {body : List HostStep}
    (h : body ∈ st.posted) :
  bodyPointers body = st.pointers
  := by
  cases st with
  | post label body' =>
    obtain rfl := List.mem_singleton.mp h
    rw [HostStep.pointers]
  | touch | send | postNone | fail | advance | look => simp [HostStep.posted] at h

namespace View

variable {v : View} {ok : Int64 → Prop} {P : InputSide → Prop}

/-- A view shows an input side with a property, and its tasks use only the pointers `ok`. -/
def Holds (ok : Int64 → Prop) (P : InputSide → Prop) (v : View) : Prop :=
  ∃ s bodies, v.Shows s bodies ∧ P s ∧ ∀ body ∈ bodies, ∀ p ∈ bodyPointers body, ok p

/-- A change that does not show keeps a property. -/
theorem Holds.of_shows {w : View} (h : v.Holds ok P)
    (hshows : ∀ {s bodies}, v.Shows s bodies → w.Shows s bodies) :
  w.Holds ok P
  := by
  obtain ⟨s, bodies, hv, hP, hok⟩ := h
  exact ⟨s, bodies, hshows hv, hP, hok⟩

section

variable (hkept : InputSide.Kept ok P)

include hkept

theorem Holds.perform (h : v.Holds ok P) {st : HostStep} (hok : ∀ p ∈ st.pointers, ok p) :
  (v.perform st).1.Holds ok P
  := by
  obtain ⟨s, bodies, hshows, hP, hbodies⟩ := h
  use s.perform st, bodies ++ st.posted, hshows.perform st, hkept.perform hP hok
  intro body hbody
  rcases List.mem_append.mp hbody with hbody | hbody
  · apply hbodies body hbody
  · rw [HostStep.pointers_of_mem_posted hbody]
    apply hok

theorem Holds.performAll (h : v.Holds ok P) {body : List HostStep}
    (hok : ∀ p ∈ bodyPointers body, ok p) :
  (v.performAll body).1.Holds ok P
  := by
  induction body generalizing v with
  | nil => apply h
  | cons st rest ih =>
    rw [bodyPointers] at hok
    have hst : (v.perform st).1.Holds ok P := by
      apply h.perform hkept
      intro p hp
      apply hok p (List.mem_append_left _ hp)
    simp only [View.performAll]
    split
    · rename_i w hw
      rw [hw] at hst
      apply ih hst
      intro p hp
      apply hok p (List.mem_append_right _ hp)
    · rename_i w label hw
      rw [hw] at hst
      apply hst

/-- Running the oldest job, a task or not, keeps a property. -/
theorem Holds.runJob (h : v.Holds ok P) {j : Job} {rest : Backlog Job}
    (hpop : v.backlog.pop? = some (j, rest)) :
  (View.run { v with backlog := rest } j).1.Holds ok P
  := by
  obtain ⟨s, bodies, hshows, hP, hbodies⟩ := h
  cases j with
  | task label body =>
    obtain ⟨bodies', rfl, hshows'⟩ := hshows.takeTask hpop
    apply Holds.performAll hkept
    · use s, bodies', hshows', hP
      intro body' hbody'
      apply hbodies body' (List.mem_cons_of_mem _ hbody')
    · apply hbodies body List.mem_cons_self
  | call | release | stopFling | startFling =>
    exact ⟨s, bodies, hshows.runJob hpop rfl, hP, hbodies⟩

theorem Holds.drain (h : v.Holds ok P) (count : Nat) :
  (v.drain count).1.Holds ok P
  := by
  fun_induction View.drain v count with
  | case1 v count hpop => apply h
  | case2 v count j rest hpop w hrun ih =>
    have hw := h.runJob hkept hpop
    rw [hrun] at hw
    apply ih hw
  | case3 v count j rest hpop w label hrun =>
    have hw := h.runJob hkept hpop
    rw [hrun] at hw
    apply hw

theorem Holds.draw (h : v.Holds ok P) :
  v.draw.1.Holds ok P
  := by
  have hdrain := h.drain hkept 0
  rw [View.draw]
  split
  · rename_i w label hw
    rw [hw] at hdrain
    apply hdrain
  · rename_i w n hw
    rw [hw] at hdrain
    simp only
    split
    · apply hdrain.of_shows
      intro s bodies hshows
      apply (hshows.log _).animate
    · apply hdrain.of_shows
      intro s bodies hshows
      apply hshows.animate

theorem Holds.turn (h : v.Holds ok P) :
  v.turn.1.Holds ok P
  := by
  rw [View.turn]
  split
  · apply h
  · apply h.of_shows
    intro s bodies hshows
    apply hshows.setSurface
  · rename_i surface created size _
    have hprepared : ((Turn.draw created size).callbacks.foldl View.prepare
        { v with surface }).Holds ok P := by
      apply h.of_shows
      intro s bodies hshows
      apply (hshows.setSurface surface).prepareAll
    have hdraw := hprepared.draw hkept
    split
    · rename_i w hw
      rw [hw] at hdraw
      apply hdraw.of_shows
      intro s bodies hshows
      apply hshows.setSurface
    · rename_i w label hw
      rw [hw] at hdraw
      apply hdraw.of_shows
      intro s bodies hshows
      apply hshows.setSurface

theorem Holds.act (h : v.Holds ok P) {a : Act} (hok : ∀ p ∈ a.pointers, ok p) :
  (v.act a).Holds ok P
  := by
  cases a with
  | alarm generation =>
    obtain ⟨s, bodies, hshows, hP, hbodies⟩ := h
    exact ⟨s.fire generation, bodies, hshows.fire generation, hkept.fire generation hP, hbodies⟩
  | step st =>
    cases st with
    | host st => apply h.perform hkept hok
    | start =>
      apply h.of_shows
      intro s bodies hshows
      apply hshows.stepLoop (.inl rfl)
    | stop =>
      apply h.of_shows
      intro s bodies hshows
      apply hshows.stepLoop (.inr rfl)
    | frame =>
      rw [View.act, step_frame]
      apply h.turn hkept

/-- What motions of the pointers `ok`, alarms and time keep true of an input side stays
true in every run that uses no other pointers, tasks and failures included. -/
theorem Holds.after (h : v.Holds ok P) {acts : List Act}
    (hok : ∀ a ∈ acts, ∀ p ∈ a.pointers, ok p) :
  (v.after acts).Holds ok P
  := by
  induction acts generalizing v with
  | nil => apply h
  | cons a rest ih =>
    apply ih (h.act hkept (hok a List.mem_cons_self))
    intro b hb
    apply hok b (List.mem_cons_of_mem a hb)

/-- What is kept and true at first is true at every point of a run. -/
theorem holds_after_new (settings : Settings) (capabilities : Capabilities) (surface : Surface)
    (clockRate : Int) (hnew : P (new settings capabilities surface clockRate).input)
    {acts : List Act} (hok : ∀ a ∈ acts, ∀ p ∈ a.pointers, ok p) :
  ((new settings capabilities surface clockRate).after acts).Holds ok P
  := by
  apply Holds.after hkept _ hok
  use (new settings capabilities surface clockRate).input, [], shows_new _ _ _ _, hnew
  intro body hbody
  simp at hbody

end

end View

end SurfaceHost
