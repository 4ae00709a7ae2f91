import SurfaceHost.Proofs.View.Run

/-!
# Lasting properties

An incident is an act, a jump of the clock, forwards or backwards, or another way to round
what the scroller computes.  A property of views is lasting if the elementary steps of a host,
single jobs and the parts of a frame keep it.  It is then kept by whole runs of incidents,
tasks and failures included (`Lasting.undergoAll`).

`drained?` is the view in the midst of the next frame, when its jobs have run and the fling is
about to move on.
-/

namespace SurfaceHost

namespace View

/-- What may happen to a view, the clock and the rounding of numbers included. -/
inductive Incident where
  | act (a : Act)
  /-- The clock is set, forwards or backwards. -/
  | clock (now : Instant)
  /-- From now on the scroller rounds in another way. -/
  | rounding (r : Rounding)

/-- The pointers in the motions of an incident. -/
def Incident.pointers : Incident → List Int64
  | .act a => a.pointers
  | .clock _ | .rounding _ => []

/-- Lets an incident happen. -/
def undergo (v : View) : Incident → View
  | .act a => v.act a
  | .clock now => { v with now }
  | .rounding rounding => { v with scroller := { v.scroller with rounding } }

/-- The view after a run of incidents. -/
def undergoAll (v : View) (is : List Incident) : View :=
  is.foldl undergo v

/-- How the view stands when the next turn has run all jobs and the fling moves on, if it
comes to that. -/
def drained? (v : View) : Option View :=
  match v.surface.beginTurn? with
  | none | some (_, .skip) => none
  | some (surface, t@(.draw ..)) =>
    match (t.callbacks.foldl prepare { v with surface }).drain 0 with
    | (w, .ok _) => some w
    | (_, .error _) => none

/-- A drain that succeeds leaves nothing waiting. -/
theorem pop?_of_drain {v w : View} {count n : Nat} (h : v.drain count = (w, .ok n)) :
  w.backlog.pop? = none
  := by
  fun_induction View.drain v count with
  | case1 v count hpop =>
    obtain ⟨rfl, -⟩ := Prod.mk.inj h
    apply hpop
  | case2 v count j rest hpop w' hrun ih => apply ih h
  | case3 v count j rest hpop w' label hrun => cases (Prod.mk.inj h).2

theorem pop?_of_drained? {v w : View} (h : v.drained? = some w) :
  w.backlog.pop? = none
  := by
  rw [drained?] at h
  split at h
  · cases h
  · cases h
  · split at h
    · rename_i w' n hdrain
      obtain rfl := Option.some.inj h
      apply pop?_of_drain hdrain
    · cases h

/-- From where its jobs have run, a turn moves the fling on and counts the frame.  Before that
it may only tell how many jobs there were. -/
theorem turn_of_drained? {v w : View} (h : v.drained? = some w) :
  ∃ u, (u = w ∨ ∃ n, u = w.emit (.log (.debug "drained" [("actions", .number n)])))
    ∧ v.turn = ({ u.animate with surface := u.animate.surface.finishFrame }, .drawn)
  := by
  rw [drained?] at h
  split at h
  · cases h
  · cases h
  · rename_i surface created size hbegin
    split at h
    · rename_i w' n hdrain
      obtain rfl := Option.some.inj h
      by_cases hn : 0 < n
      · refine ⟨_, .inr ⟨Int64.ofNat n, rfl⟩, ?_⟩
        simp only [turn, hbegin, draw, hdrain, if_pos hn]
      · refine ⟨_, .inl rfl, ?_⟩
        simp only [turn, hbegin, draw, hdrain, if_neg hn]
    · cases h

/-! ### Lasting properties -/

/-- A property that the elementary steps of a host, single jobs and the parts of a frame
keep. -/
structure Lasting (P : View → Prop) : Prop where
  elementary : ∀ {v w : View}, v.Elementary w → P v → P w
  /-- A task is taken up; its steps are elementary ones. -/
  take : ∀ {v : View} {label : String} {body : List HostStep} {rest : Backlog Job},
    v.backlog.pop? = some (.task label body, rest) → P v →
      P (View.emit { v with backlog := rest } (.task label))
  job : ∀ {v : View} {j : Job} {rest : Backlog Job}, v.backlog.pop? = some (j, rest) →
    j.body? = none → P v → P (View.run { v with backlog := rest } j).1
  prepare : ∀ {v : View} (c : Callback), P v → P (v.prepare c)
  animate : ∀ {v : View}, P v → P v.animate
  surface : ∀ {v : View} (surface : Surface), P v → P { v with surface }
  rounding : ∀ {v : View} (rounding : Rounding), P v →
    P { v with scroller := { v.scroller with rounding } }

namespace Lasting

variable {P : View → Prop} (hP : Lasting P) {v : View}

include hP

theorem reaches {w : View} (h : v.Reaches w) (hv : P v) :
  P w
  := h.keeps hP.elementary hv

theorem runJob {j : Job} {rest : Backlog Job} (hpop : v.backlog.pop? = some (j, rest))
    (hv : P v) :
  P (View.run { v with backlog := rest } j).1
  := by
  cases j with
  | task label body => apply hP.reaches (reaches_performAll _ body) (hP.take hpop hv)
  | call | release | stopFling | startFling => apply hP.job hpop rfl hv

theorem drain (hv : P v) (count : Nat) :
  P (v.drain count).1
  := by
  fun_induction View.drain v count with
  | case1 v count hpop => apply hv
  | case2 v count j rest hpop w hrun ih =>
    have hw := hP.runJob hpop hv
    rw [hrun] at hw
    apply ih hw
  | case3 v count j rest hpop w label hrun =>
    have hw := hP.runJob hpop hv
    rw [hrun] at hw
    apply hw

theorem prepareAll (hv : P v) (cs : List Callback) :
  P (cs.foldl View.prepare v)
  := by
  induction cs generalizing v with
  | nil => apply hv
  | cons c rest ih => apply ih (hP.prepare c hv)

theorem drained? (hv : P v) {w : View} (h : v.drained? = some w) :
  P w
  := by
  rw [View.drained?] at h
  split at h
  · cases h
  · cases h
  · rename_i surface created size hbegin
    have hdrain := hP.drain
      (hP.prepareAll (hP.surface surface hv) (Turn.draw created size).callbacks) 0
    split at h
    · rename_i w' n hw'
      obtain rfl := Option.some.inj h
      rw [hw'] at hdrain
      apply hdrain
    · cases h

theorem draw (hv : P v) :
  P v.draw.1
  := by
  have hdrain := hP.drain hv 0
  rw [View.draw]
  split
  · rename_i w label hw
    rw [hw] at hdrain
    apply hdrain
  · rename_i w n hw
    rw [hw] at hdrain
    simp only
    split
    · apply hP.animate
      apply hP.elementary (.log (by simp [Log.Record.debug])) hdrain
    · apply hP.animate hdrain

theorem turn (hv : P v) :
  P v.turn.1
  := by
  rw [View.turn]
  split
  · apply hv
  · apply hP.surface _ hv
  · rename_i surface created size hbegin
    have hdraw := hP.draw
      (hP.prepareAll (hP.surface surface hv) (Turn.draw created size).callbacks)
    split
    · rename_i w hw
      rw [hw] at hdraw
      apply hP.surface _ hdraw
    · rename_i w label hw
      rw [hw] at hdraw
      apply hP.surface _ hdraw

theorem act (hv : P v) (a : Act) :
  P (v.act a)
  := by
  have hloop {st : Step} (hst : st = .start ∨ st = .stop) : P (v.step st).1 := by
    obtain ⟨surface, heq⟩ := v.step_loop_eq hst
    rw [heq]
    apply hP.surface surface hv
  cases a with
  | alarm generation => apply hP.elementary (.fire generation) hv
  | step st =>
    cases st with
    | host st => apply hP.reaches (v.reaches_perform st) hv
    | start => apply hloop (.inl rfl)
    | stop => apply hloop (.inr rfl)
    | frame =>
      rw [View.act, step_frame]
      apply hP.turn hv

theorem undergo (hv : P v) (i : Incident) :
  P (v.undergo i)
  := by
  cases i with
  | act a => apply hP.act hv
  | clock now => apply hP.elementary (.wait now v.detector.alarm) hv
  | rounding r => apply hP.rounding r hv

/-- A lasting property is kept by every run. -/
theorem undergoAll (hv : P v) (is : List Incident) :
  P (v.undergoAll is)
  := by
  induction is generalizing v with
  | nil => apply hv
  | cons i rest ih => apply ih (hP.undergo hv i)

end Lasting

/-! ### The input side -/

section

variable {v : View} {ok : Int64 → Prop} {P : InputSide → Prop}

/-- What is kept of an input side is kept when the clock jumps, too. -/
theorem Holds.undergo (hkept : InputSide.Kept ok P) (h : v.Holds ok P) {i : Incident}
    (hok : ∀ p ∈ i.pointers, ok p) :
  (v.undergo i).Holds ok P
  := by
  cases i with
  | act a => apply h.act hkept hok
  | clock now =>
    obtain ⟨s, bodies, ⟨hord, rfl, htasks, hqueued⟩, hs, hbodies⟩ := h
    exact ⟨{ v.input with now }, bodies, ⟨hord, rfl, htasks, hqueued⟩,
      hkept.wait now v.detector.alarm hs, hbodies⟩
  | rounding r =>
    apply h.of_shows
    intro s bodies hshows
    apply hshows.setScroller

theorem Holds.undergoAll (hkept : InputSide.Kept ok P) (h : v.Holds ok P) {is : List Incident}
    (hok : ∀ i ∈ is, ∀ p ∈ i.pointers, ok p) :
  (v.undergoAll is).Holds ok P
  := by
  induction is generalizing v with
  | nil => apply h
  | cons i rest ih =>
    apply ih (h.undergo hkept (hok i List.mem_cons_self))
    intro j hj
    apply hok j (List.mem_cons_of_mem i hj)

theorem Holds.drained? (hkept : InputSide.Kept ok P) (h : v.Holds ok P) {w : View}
    (hw : v.drained? = some w) :
  w.Holds ok P
  := by
  rw [View.drained?] at hw
  split at hw
  · cases hw
  · cases hw
  · rename_i surface created size hbegin
    have hprepared : ((Turn.draw created size).callbacks.foldl View.prepare
        { v with surface }).Holds ok P := by
      apply h.of_shows
      intro s bodies hshows
      apply (hshows.setSurface surface).prepareAll
    have hdrain := hprepared.drain hkept 0
    split at hw
    · rename_i w' n hw'
      obtain rfl := Option.some.inj hw
      rw [hw'] at hdrain
      apply hdrain
    · cases hw

end

end View

end SurfaceHost
