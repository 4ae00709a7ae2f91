import SurfaceHost.Proofs.Alarms
import SurfaceHost.Proofs.FailedJobs
import SurfaceHost.Proofs.FlingBounds
import SurfaceHost.Proofs.MouseButton
import SurfaceHost.Proofs.View.Lasting

/-!
# Kinetic scrolling

A fling is started and stopped by jobs, and moves on at the end of each frame.  The order of
the jobs is that of the gestures, so while the detector has a press, the last of those jobs
stops the fling (`Tame.rest`); and once a fling is over, nothing moves until a gesture adds a
job that starts another one (`Calm`).
-/

namespace SurfaceHost

/-- Whether a call tells where a fling has got to. -/
def Call.isKinetic : Call → Bool
  | .kinetic _ _ => true
  | .init _ | .resize _ _ | .redraw => false
  | .mouseDown _ _ | .mouseUp _ _ | .mouseMove _ _ | .scroll _ _ _ _ => false
  | .pointerDown _ _ _ | .pointerUp _ _ _ | .pointerMove _ _ _ | .longPress _ _ => false

theorem Call.isKinetic_of_isFrame {c : Call} (hc : c.isFrame = false) :
  c.isKinetic = false
  := by
  cases c with
  | kinetic => cases hc
  | init | resize | redraw | mouseDown | mouseUp | mouseMove | scroll => rfl
  | pointerDown | pointerUp | pointerMove | longPress => rfl

/-- Whether an output tells that a fling was recognised. -/
def Output.isFling : Output → Bool
  | .log r => r.message == "fling"
  | .call _ | .task _ => false

/-- Whether no fling is running after a job, if none was before. -/
def Job.rests (before : Bool) : Job → Bool
  | .stopFling => true
  | .startFling _ _ _ _ => false
  | .call _ | .release _ | .task _ _ => before

/-- The same for the job that a gesture is turned into. -/
def Gesture.rests (before : Bool) : Option Gesture → Bool
  | some (.down _) => true
  | some (.fling _ _ _ _) => false
  | none | some (.scroll _ _ _ _) | some (.longPress _) => before

theorem Job.rests_of_isOrdinary {j : Job} (hj : j.isOrdinary = true) (before : Bool) :
  j.rests before = before
  := by
  cases j with
  | call | release | task => rfl
  | stopFling | startFling => cases hj

theorem Job.foldl_rests_mono {jobs : List Job} {a b : Bool} (hab : a = true → b = true)
    (h : jobs.foldl rests a = true) :
  jobs.foldl rests b = true
  := by
  induction jobs generalizing a b with
  | nil => apply hab h
  | cons j rest ih =>
    apply ih _ h
    cases j with
    | call | release | task => apply hab
    | stopFling | startFling => exact id

theorem Detector.isSome_outline (d : Detector) :
  d.outline.isSome = d.press.isSome
  := by
  rw [outline, Option.isSome_map]

namespace View

variable {v w : View} {limit : Int64}

/-- The calls so far that told where a fling had got to. -/
def kinetics (v : View) : List Call :=
  v.received.filter Call.isKinetic

/-- How many flings have been recognised so far. -/
def flings (v : View) : Nat :=
  (v.trace.toList.filter Output.isFling).length

/-- Whether no fling is running once all waiting jobs have run. -/
def willRest (v : View) : Bool :=
  v.backlog.toList.foldl Job.rests v.scroller.finished

theorem flings_emit (v : View) (o : Output) :
  (v.emit o).flings = v.flings + if o.isFling then 1 else 0
  := by
  simp only [flings, emit, Array.toList_push, List.filter_append, List.length_append]
  cases h : o.isFling <;> simp [h]

theorem flings_callEngine (v : View) (c : Call) :
  (v.callEngine c).flings = v.flings
  := flings_emit v (.call c)

theorem flings_releaseAll (v : View) (l : List (Contact × Bool)) :
  (v.releaseAll l).flings = v.flings
  := by
  induction l generalizing v with
  | nil => rfl
  | cons d rest ih =>
    obtain ⟨d, isPrimary⟩ := d
    simp only [releaseAll]
    rw [ih]
    split
    · split
      · rw [flings_callEngine, flings_callEngine]
      · apply flings_callEngine
    · split
      · apply flings_callEngine
      · rfl

/-- Calls that do not belong to a frame tell of no fling. -/
theorem Undrawn.kinetics_eq (h : v.Undrawn w) :
  w.kinetics = v.kinetics
  := by
  obtain ⟨made, hmade, hframe⟩ := h
  have hnone : made.filter Call.isKinetic = [] := by
    apply List.filter_eq_nil_iff.mpr
    intro c hc
    simp [Call.isKinetic_of_isFrame (hframe c hc)]
  rw [kinetics, hmade, List.filter_append, hnone, List.append_nil]
  rfl

/-! ### Single steps -/

theorem scroller_run (v : View) {j : Job} (hj : j.body? = none) :
  (v.run j).1.scroller =
    match j with
    | .stopFling => v.scroller.forceFinished true
    | .startFling start vx vy limit =>
      v.scroller.fling v.eventTime start vx vy ⟨0, limit⟩ ⟨0, limit⟩
    | .call _ | .release _ | .task _ _ => v.scroller
  := by
  cases j with
  | release contacts =>
    simp only [run]
    rw [releaseAll_eq]
  | task label body => cases hj
  | call | stopFling | startFling => rfl

/-- A job that is no task and whose calls are input calls does not draw. -/
theorem undrawn_run {j : Job} (hinput : ∀ c ∈ j.calls v.capabilities, c.isInput = true)
    (hj : j.body? = none) :
  v.Undrawn (v.run j).1
  := by
  use j.calls v.capabilities, v.received_run hj
  intro c hc
  apply Call.isFrame_of_isInput (hinput c hc)

/-- A job that waits in a view tells of no fling when it is run. -/
theorem Fit.kinetics_job (h : v.Fit) {j : Job} {rest : Backlog Job}
    (hpop : v.backlog.pop? = some (j, rest)) (hj : j.body? = none) :
  (View.run { v with backlog := rest } j).1.kinetics = v.kinetics
  := by
  apply (undrawn_run _ hj).kinetics_eq
  apply h.isInput_of_pop? hpop

theorem flings_run (v : View) {j : Job} (hj : j.body? = none) :
  (v.run j).1.flings = v.flings
  := by
  cases j with
  | call c => apply flings_emit
  | release contacts => apply flings_releaseAll
  | task label body => cases hj
  | stopFling | startFling => rfl

/-- At the end of a frame the fling moves on, and another frame is asked for if it was still
running. -/
theorem animate_eq (v : View) :
  v.animate =
    { v with
      scroller := (v.scroller.compute v.eventTime).1
      surface :=
        if (v.scroller.compute v.eventTime).2 then v.surface.receive .request else v.surface
      trace := v.animate.trace }
  := by
  simp only [animate]
  split
  · split
    · rfl
    · rfl
  · rfl

/-- The engine is told where the fling is, if it was still running and the engine cares. -/
theorem kinetics_animate (v : View) :
  v.animate.kinetics = v.kinetics ++
    if (v.scroller.compute v.eventTime).2 && v.capabilities.kinetic then
      [.kinetic (v.scroller.compute v.eventTime).1.current.x
        (v.scroller.compute v.eventTime).1.current.y]
    else []
  := by
  have hcall (v : View) (c : Call) :
      (v.callEngine c).kinetics = v.kinetics ++ [c].filter Call.isKinetic := by
    rw [kinetics, received_callEngine, List.filter_append]
    rfl
  have hredraw (v : View) : (v.callEngine .redraw).kinetics = v.kinetics := by
    rw [hcall]
    apply List.append_nil
  simp only [animate]
  cases hmore : (v.scroller.compute v.eventTime).2 with
  | true =>
    cases hkinetic : v.capabilities.kinetic with
    | true =>
      apply (hredraw _).trans
      apply hcall
    | false =>
      apply (hredraw _).trans
      rw [Bool.and_false]
      exact (List.append_nil _).symm
  | false =>
    apply (hredraw _).trans
    exact (List.append_nil _).symm

theorem flings_animate (v : View) :
  v.animate.flings = v.flings
  := by
  simp only [animate]
  split
  · apply (flings_callEngine _ .redraw).trans
    split
    · apply flings_callEngine
    · rfl
  · apply flings_callEngine

theorem prepare_eq (v : View) (c : Callback) :
  v.prepare c = { v with trace := (v.prepare c).trace } ∧ v.Undrawn (v.prepare c)
    ∧ (v.prepare c).flings = v.flings
  := by
  have hundrawn (hcalls : ∀ d ∈ c.calls v.storage, d.isFrame = false) : v.Undrawn (v.prepare c) :=
    ⟨c.calls v.storage, received_prepare v c, hcalls⟩
  cases c with
  | created =>
    refine ⟨rfl, hundrawn (by simp [Callback.calls, Call.isFrame]), ?_⟩
    rw [prepare, flings_callEngine, flings_emit]
    rfl
  | changed width height =>
    refine ⟨rfl, hundrawn (by simp [Callback.calls, Call.isFrame]), ?_⟩
    rw [prepare, flings_callEngine, flings_emit]
    rfl
  | draw => exact ⟨rfl, .refl v, rfl⟩

theorem Fit.willRest_enqueue (h : v.Fit) (j : Job) :
  (v.enqueue j).willRest = j.rests v.willRest
  := by
  have hlist : (v.enqueue j).backlog.toList = v.backlog.toList ++ [j] := h.inOrder.toList_push j
  rw [willRest, hlist, List.foldl_append]
  rfl

/-- A job that is added stands behind the others. -/
theorem Fit.of_mem_enqueue (h : v.Fit) {j k : Job} (hk : k ∈ (v.enqueue j).backlog.toList) :
  k ∈ v.backlog.toList ∨ k = j
  := by
  have hlist : (v.enqueue j).backlog.toList = v.backlog.toList ++ [j] := h.inOrder.toList_push j
  rw [hlist] at hk
  rcases List.mem_append.mp hk with hk | hk
  · exact .inl hk
  · exact .inr (List.mem_singleton.mp hk)

theorem Fit.enqueue (h : v.Fit) {j : Job} (hj : ∀ c, j = .call c → c.isInput = true) :
  (v.enqueue j).Fit
  := (h.grows (v.grows_enqueue hj)).1

/-! ### Flings stay in their square and stop at a press -/

/-- All flings of a view, those to come included, stay in the square from 0 to a limit. -/
structure Bounded (limit : Int64) (v : View) : Prop extends Fit v where
  flingLimit_eq : v.flingLimit = limit
  starts : ∀ start vx vy l, Job.startFling start vx vy l ∈ v.backlog.toList → l = limit
  scroller : v.scroller.finished = false → v.scroller.Within limit
  kinetic : ∀ x y, Call.kinetic x y ∈ v.kinetics → Point.Within limit ⟨x, y⟩

/-- Moreover, while the detector has a press, the jobs leave no fling running. -/
structure Tame (limit : Int64) (v : View) : Prop extends Bounded limit v where
  rest : v.detector.press.isSome = true → v.willRest = true

theorem Bounded.enqueue (h : v.Bounded limit) {j : Job}
    (hcall : ∀ c, j = .call c → c.isInput = true)
    (hstart : ∀ start vx vy l, j = .startFling start vx vy l → l = limit)
    (hrest : v.detector.press.isSome = true → j.rests v.willRest = true) :
  (v.enqueue j).Tame limit
  := by
  refine ⟨⟨h.toFit.enqueue hcall, h.flingLimit_eq, ?_, h.scroller, h.kinetic⟩, ?_⟩
  · intro start vx vy l hl
    rcases h.toFit.of_mem_enqueue hl with hl | hl
    · apply h.starts start vx vy l hl
    · apply hstart start vx vy l hl.symm
  · rw [h.toFit.willRest_enqueue]
    apply hrest

theorem Bounded.log (h : v.Bounded limit) (r : Log.Record) :
  (v.emit (.log r)).Bounded limit
  := by
  refine ⟨⟨h.inOrder, h.calls⟩, h.flingLimit_eq, h.starts, h.scroller, ?_⟩
  rw [kinetics, received_log]
  apply h.kinetic

/-- A gesture is turned into a job that stays within the limit; it may start a fling only when
the press is over. -/
theorem Bounded.deliver (h : v.Bounded limit) {g : Option Gesture}
    (hrest : v.detector.press.isSome = true → Gesture.rests v.willRest g = true) :
  (v.deliver g).Tame limit
  := by
  rcases g with _ | _ | ⟨down, current, dx, dy⟩ | ⟨down, up, vx, vy⟩ | down
  · exact ⟨h, hrest⟩
  · apply h.enqueue (j := .stopFling) _ _ hrest
    · rintro _ ⟨⟩
    · rintro _ _ _ _ ⟨⟩
  · apply h.enqueue (j := .call (.scroll _ _ dx dy)) _ _ hrest
    · rintro _ ⟨⟩
      rfl
    · rintro _ _ _ _ ⟨⟩
  · apply (h.log _).enqueue (j := .startFling _ vx vy v.flingLimit) _ _ hrest
    · rintro _ ⟨⟩
    · rintro _ _ _ _ ⟨⟩
      apply h.flingLimit_eq
  · rw [View.deliver]
    split
    · apply h.enqueue (j := .call (.longPress _ _)) _ _ hrest
      · rintro _ ⟨⟩
        rfl
      · rintro _ _ _ _ ⟨⟩
    · exact ⟨h, hrest⟩

theorem Bounded.setDetector (h : v.Bounded limit) (detector : Detector) :
  Bounded limit { v with detector }
  := ⟨⟨h.inOrder, h.calls⟩, h.flingLimit_eq, h.starts, h.scroller, h.kinetic⟩

theorem Tame.detect (h : v.Tame limit) (e : Motion) :
  (v.detect e).Tame limit
  := by
  have htakes := v.detector.takes_touch v.now e
  have hrest : v.detector.outline.isSome = true → v.willRest = true := by
    rw [Detector.isSome_outline]
    apply h.rest
  rw [View.detect]
  generalize v.detector.touch v.now e = report at htakes ⊢
  obtain ⟨d, g⟩ := report
  apply (h.toBounded.setDetector d).deliver
  intro hpress
  rw [← Detector.isSome_outline] at hpress
  change d.outline.isSome = true at hpress
  cases htakes with
  | down phase outline generation => rfl
  | scroll phase before free outline generation =>
    apply hrest
    rw [before]
    rfl
  | still phase outline generation lifted =>
    apply hrest
    rw [← outline, hpress]
  | lift phase outline generation =>
    rw [outline] at hpress
    cases hpress
  | fling phase before outline generation =>
    rw [outline] at hpress
    cases hpress

theorem Tame.fire (h : v.Tame limit) (generation : UInt64) :
  (v.fire generation).Tame limit
  := by
  rw [View.fire]
  apply (h.toBounded.setDetector _).deliver
  intro hpress
  rcases v.detector.fire_cases generation with heq | ⟨down, stage, houtline, -, -, -, -, hg⟩
  · rw [heq] at hpress ⊢
    apply h.rest hpress
  · rw [hg]
    apply h.rest
    rw [← Detector.isSome_outline, houtline]
    rfl

/-- Only the trace changes, by calls that do not belong to a frame. -/
theorem Tame.undrawn (h : v.Tame limit) {trace : Array Output}
    (hundrawn : v.Undrawn { v with trace }) :
  Tame limit { v with trace }
  := by
  refine ⟨⟨⟨h.inOrder, h.calls⟩, h.flingLimit_eq, h.starts, h.scroller, ?_⟩, h.rest⟩
  rw [hundrawn.kinetics_eq]
  apply h.kinetic

theorem Tame.elementary (h : v.Tame limit) (hstep : v.Elementary w) :
  w.Tame limit
  := by
  cases hstep with
  | place | wait | signal =>
    exact ⟨⟨⟨h.inOrder, h.calls⟩, h.flingLimit_eq, h.starts, h.scroller, h.kinetic⟩, h.rest⟩
  | enqueue hj =>
    apply h.toBounded.enqueue
    · rintro c rfl
      apply hj
    · rintro start vx vy l rfl
      cases hj
    · rw [Job.rests_of_isOrdinary hj]
      apply h.rest
  | detect e => apply h.detect
  | fire generation => apply h.fire
  | log hr => exact ⟨h.toBounded.log _, h.rest⟩

/-- A job that is run leaves the fling as the order of jobs says, or resting earlier. -/
theorem Tame.job (h : v.Tame limit) (hlimit : 0 ≤ limit) {j : Job} {rest : Backlog Job}
    (hpop : v.backlog.pop? = some (j, rest)) (hj : j.body? = none) :
  (View.run { v with backlog := rest } j).1.Tame limit
  := by
  have hlist := Backlog.toList_of_pop?_eq_some hpop
  have hfit := h.toFit.pop? hpop
  have hkinetics := h.toFit.kinetics_job hpop hj
  have hscroller := scroller_run { v with backlog := rest } hj
  have hdone : j.rests v.scroller.finished = true →
      (View.run { v with backlog := rest } j).1.scroller.finished = true := by
    rw [hscroller]
    cases j with
    | call | release | task => exact id
    | stopFling => exact id
    | startFling start vx vy l =>
      intro hrests
      cases hrests
  have hwithin : (View.run { v with backlog := rest } j).1.scroller.finished = false →
      (View.run { v with backlog := rest } j).1.scroller.Within limit := by
    rw [hscroller]
    cases j with
    | call | release | task => apply h.scroller
    | stopFling =>
      intro hrunning
      cases hrunning
    | startFling start vx vy l =>
      have hl : l = limit := by
        apply h.starts start vx vy l
        rw [hlist]
        apply List.mem_cons_self
      rw [hl]
      apply Scroller.within_fling hlimit
  rw [run_eq _ hj] at hkinetics hdone hwithin ⊢
  refine ⟨⟨⟨hfit.inOrder, hfit.calls⟩, h.flingLimit_eq, ?_, hwithin, ?_⟩, ?_⟩
  · intro start vx vy l hl
    apply h.starts start vx vy l (Backlog.mem_of_pop? hpop hl)
  · rw [hkinetics]
    apply h.kinetic
  · intro hpress
    have hrest := h.rest hpress
    rw [willRest, hlist, List.foldl_cons] at hrest
    apply Job.foldl_rests_mono hdone hrest

theorem Tame.animate (h : v.Tame limit) (hlimit : 0 ≤ limit) :
  v.animate.Tame limit
  := by
  have hdone : v.scroller.finished = true →
      (v.scroller.compute v.eventTime).1.finished = true := by
    intro hfinished
    rw [Scroller.compute_of_finished hfinished]
    apply hfinished
  have hwithin : (v.scroller.compute v.eventTime).1.finished = false →
      (v.scroller.compute v.eventTime).1.Within limit := by
    intro hrunning
    cases hfinished : v.scroller.finished with
    | true =>
      rw [hdone hfinished] at hrunning
      cases hrunning
    | false => exact ((h.scroller hfinished).compute hlimit hfinished _).2.1
  have hkinetic : ∀ x y, Call.kinetic x y ∈ v.animate.kinetics → Point.Within limit ⟨x, y⟩ := by
    intro x y hxy
    rw [kinetics_animate] at hxy
    rcases List.mem_append.mp hxy with hxy | hxy
    · apply h.kinetic x y hxy
    · cases hfinished : v.scroller.finished with
      | true =>
        rw [Scroller.compute_of_finished hfinished] at hxy
        cases hxy
      | false =>
        split at hxy
        · obtain ⟨rfl, rfl⟩ := Call.kinetic.inj (List.mem_singleton.mp hxy)
          exact ((h.scroller hfinished).compute hlimit hfinished _).2.2
        · cases hxy
  rw [animate_eq] at hkinetic ⊢
  refine ⟨⟨⟨h.inOrder, h.calls⟩, h.flingLimit_eq, h.starts, hwithin, hkinetic⟩, ?_⟩
  intro hpress
  apply Job.foldl_rests_mono hdone (h.rest hpress)

theorem lasting_tame (hlimit : 0 ≤ limit) :
  Lasting (Tame limit)
  := by
  constructor
  · intro v w hstep h
    apply h.elementary hstep
  · intro v label body rest hpop h
    have hfit := h.toFit.pop? hpop
    have hrest : Tame limit { v with backlog := rest } := by
      refine ⟨⟨hfit, h.flingLimit_eq, ?_, h.scroller, h.kinetic⟩, ?_⟩
      · intro start vx vy l hl
        apply h.starts start vx vy l (Backlog.mem_of_pop? hpop hl)
      · intro hpress
        have hwill := h.rest hpress
        rw [willRest, Backlog.toList_of_pop?_eq_some hpop] at hwill
        apply hwill
    apply hrest.undrawn
    use [], ?_, by simp
    exact received_emit _ _
  · intro v j rest hpop hj h
    apply h.job hlimit hpop hj
  · intro v c h
    obtain ⟨heq, hundrawn, -⟩ := v.prepare_eq c
    rw [heq] at hundrawn ⊢
    apply h.undrawn hundrawn
  · intro v h
    apply h.animate hlimit
  · intro v surface h
    exact ⟨⟨⟨h.inOrder, h.calls⟩, h.flingLimit_eq, h.starts, h.scroller, h.kinetic⟩, h.rest⟩
  · intro v rounding h
    refine ⟨⟨⟨h.inOrder, h.calls⟩, h.flingLimit_eq, h.starts, ?_, h.kinetic⟩, h.rest⟩
    intro hfinished
    obtain ⟨hx, hy, hfinal⟩ := h.scroller hfinished
    exact ⟨hx, hy, hfinal⟩

/-! ### Nothing moves without a fling -/

/-- As long as no more than `n` flings were recognised, no fling is running, none is about to
start, and the engine has heard of flings only in the calls `made`. -/
structure Calm (n : Nat) (made : List Call) (v : View) : Prop extends Fit v where
  le_flings : n ≤ v.flings
  finished : v.flings = n → v.scroller.finished = true
  starts : v.flings = n → ∀ start vx vy l, Job.startFling start vx vy l ∉ v.backlog.toList
  kinetics_eq : v.flings = n → v.kinetics = made

section Calm

variable {n : Nat} {made : List Call}

/-- Once another fling was recognised, nothing is asked for. -/
theorem Fit.calm (hfit : v.Fit) (hlt : n < v.flings) :
  v.Calm n made
  := by
  refine ⟨hfit, Nat.le_of_lt hlt, ?_, ?_, ?_⟩
  all_goals
    intro heq
    omega

theorem Calm.enqueue (h : v.Calm n made) {j : Job} (hcall : ∀ c, j = .call c → c.isInput = true)
    (hstart : ∀ start vx vy l, j ≠ .startFling start vx vy l) :
  (v.enqueue j).Calm n made
  := by
  refine ⟨h.toFit.enqueue hcall, h.le_flings, h.finished, ?_, h.kinetics_eq⟩
  intro heq start vx vy l hl
  rcases h.toFit.of_mem_enqueue hl with hl | hl
  · apply h.starts heq start vx vy l hl
  · apply hstart start vx vy l hl.symm

/-- Only a gesture that is a fling starts one, and it is counted. -/
theorem Calm.deliver (h : v.Calm n made) (g : Option Gesture) :
  (v.deliver g).Calm n made
  := by
  rcases g with _ | _ | _ | ⟨down, up, vx, vy⟩ | down
  · apply h
  · apply h.enqueue
    · rintro _ ⟨⟩
    · rintro _ _ _ _ ⟨⟩
  · apply h.enqueue
    · rintro _ ⟨⟩
      rfl
    · rintro _ _ _ _ ⟨⟩
  · have hfit := (h.toFit.grows (v.grows_deliver (some (.fling down up vx vy)))).1
    apply hfit.calm
    have hle := h.le_flings
    have hflings : (v.deliver (some (.fling down up vx vy))).flings = v.flings + 1 :=
      flings_emit v _
    omega
  · rw [View.deliver]
    split
    · apply h.enqueue
      · rintro _ ⟨⟩
        rfl
      · rintro _ _ _ _ ⟨⟩
    · apply h

/-- Only the trace changes, by calls that do not belong to a frame and by no fling. -/
theorem Calm.undrawn (h : v.Calm n made) {trace : Array Output}
    (hundrawn : v.Undrawn { v with trace }) (hflings : flings { v with trace } = v.flings) :
  Calm n made { v with trace }
  := by
  refine ⟨⟨h.inOrder, h.calls⟩, ?_, ?_, ?_, ?_⟩
  · rw [hflings]
    apply h.le_flings
  · rw [hflings]
    apply h.finished
  · rw [hflings]
    apply h.starts
  · rw [hflings, hundrawn.kinetics_eq]
    apply h.kinetics_eq

theorem Calm.elementary (h : v.Calm n made) (hstep : v.Elementary w) :
  w.Calm n made
  := by
  have hdetector (detector : Detector) : Calm n made { v with detector } :=
    ⟨⟨h.inOrder, h.calls⟩, h.le_flings, h.finished, h.starts, h.kinetics_eq⟩
  cases hstep with
  | place | wait | signal =>
    exact ⟨⟨h.inOrder, h.calls⟩, h.le_flings, h.finished, h.starts, h.kinetics_eq⟩
  | enqueue hj =>
    apply h.enqueue
    · rintro c rfl
      apply hj
    · rintro start vx vy l rfl
      cases hj
  | detect e => apply (hdetector _).deliver
  | fire generation => apply (hdetector _).deliver
  | log hr =>
    apply h.undrawn
    · use [], ?_, by simp
      exact (received_log v _).trans (List.append_nil _).symm
    · apply (flings_emit v _).trans
      rw [Output.isFling, if_neg (by simpa using hr), Nat.add_zero]

theorem Calm.job (h : v.Calm n made) {j : Job} {rest : Backlog Job}
    (hpop : v.backlog.pop? = some (j, rest)) (hj : j.body? = none) :
  (View.run { v with backlog := rest } j).1.Calm n made
  := by
  have hfit := h.toFit.pop? hpop
  have hkinetics := h.toFit.kinetics_job hpop hj
  have hflings : (View.run { v with backlog := rest } j).1.flings = v.flings := flings_run _ hj
  have hfinished : v.flings = n →
      (View.run { v with backlog := rest } j).1.scroller.finished = true := by
    intro heq
    rw [scroller_run _ hj]
    cases j with
    | call | release | task => apply h.finished heq
    | stopFling => rfl
    | startFling start vx vy l =>
      apply absurd _ (h.starts heq start vx vy l)
      rw [Backlog.toList_of_pop?_eq_some hpop]
      apply List.mem_cons_self
  rw [← hflings] at hfinished
  rw [run_eq _ hj] at hkinetics hflings hfinished ⊢
  refine ⟨⟨hfit.inOrder, hfit.calls⟩, ?_, hfinished, ?_, ?_⟩
  · rw [hflings]
    apply h.le_flings
  · rw [hflings]
    intro heq start vx vy l hl
    apply h.starts heq start vx vy l (Backlog.mem_of_pop? hpop hl)
  · rw [hflings, hkinetics]
    apply h.kinetics_eq

theorem Calm.animate (h : v.Calm n made) :
  v.animate.Calm n made
  := by
  have hflings := v.flings_animate
  have hfinished : v.flings = n → (v.scroller.compute v.eventTime).1.finished = true := by
    intro heq
    rw [Scroller.compute_of_finished (h.finished heq)]
    apply h.finished heq
  have hkinetics : v.flings = n → v.animate.kinetics = made := by
    intro heq
    rw [kinetics_animate, Scroller.compute_of_finished (h.finished heq)]
    exact (List.append_nil _).trans (h.kinetics_eq heq)
  rw [animate_eq] at hflings hkinetics ⊢
  refine ⟨⟨h.inOrder, h.calls⟩, ?_, ?_, ?_, ?_⟩
  · rw [hflings]
    apply h.le_flings
  · rw [hflings]
    apply hfinished
  · rw [hflings]
    apply h.starts
  · rw [hflings]
    apply hkinetics

theorem lasting_calm (n : Nat) (made : List Call) :
  Lasting (Calm n made)
  := by
  constructor
  · intro v w hstep h
    apply h.elementary hstep
  · intro v label body rest hpop h
    have hfit := h.toFit.pop? hpop
    have hrest : Calm n made { v with backlog := rest } := by
      refine ⟨hfit, h.le_flings, h.finished, ?_, h.kinetics_eq⟩
      intro heq start vx vy l hl
      apply h.starts heq start vx vy l (Backlog.mem_of_pop? hpop hl)
    apply hrest.undrawn
    · use [], received_emit _ _, by simp
    · apply flings_emit
  · intro v j rest hpop hj h
    apply h.job hpop hj
  · intro v c h
    obtain ⟨heq, hundrawn, hflings⟩ := v.prepare_eq c
    rw [heq] at hundrawn hflings ⊢
    apply h.undrawn hundrawn hflings
  · intro v h
    apply h.animate
  · intro v surface h
    exact ⟨⟨h.inOrder, h.calls⟩, h.le_flings, h.finished, h.starts, h.kinetics_eq⟩
  · intro v rounding h
    exact ⟨⟨h.inOrder, h.calls⟩, h.le_flings, h.finished, h.starts, h.kinetics_eq⟩

end Calm

/-! ### Frames -/

/-- Up to where its jobs have run, a turn does not draw. -/
theorem Fit.undrawn_drained? (hfit : v.Fit) (h : v.drained? = some w) :
  v.Undrawn w
  := by
  rw [drained?] at h
  split at h
  · cases h
  · cases h
  · rename_i surface created size hbegin
    obtain ⟨hgrows, hprepared⟩ :=
      Hosted.grows_prepareAll ⟨{ v with surface }, []⟩ (Turn.draw created size).callbacks
    rw [Hosted.prepareAll_of_silent] at hgrows hprepared
    obtain ⟨hfit', -⟩ := Fit.grows (v := { v with surface }) ⟨hfit.inOrder, hfit.calls⟩ hgrows
    obtain ⟨-, -, hdrain⟩ := Hosted.undrawn_drain (h := ⟨_, []⟩) hfit' 0
    rw [Hosted.drain_of_silent] at hdrain
    split at h
    · rename_i w' n hw'
      obtain rfl := Option.some.inj h
      rw [hw'] at hdrain
      apply hprepared.trans hdrain
    · cases h

/-- What a turn does to the fling, once its jobs have run. -/
theorem turn_drawn_eq (h : v.drained? = some w) :
  v.turn.1.backlog = w.backlog ∧ v.turn.1.scroller = (w.scroller.compute w.eventTime).1
    ∧ v.turn.1.surface =
      (if (w.scroller.compute w.eventTime).2 then w.surface.receive .request
        else w.surface).finishFrame
    ∧ v.turn.1.kinetics = w.animate.kinetics
  := by
  obtain ⟨u, hu, hturn⟩ := turn_of_drained? h
  have hbacklog := congrArg backlog u.animate_eq
  have hscroller := congrArg scroller u.animate_eq
  have hsurface := congrArg surface u.animate_eq
  rw [hturn]
  simp only [hbacklog, hscroller, hsurface]
  rcases hu with rfl | ⟨n, rfl⟩
  · exact ⟨rfl, rfl, rfl, rfl⟩
  · refine ⟨rfl, rfl, rfl, ?_⟩
    apply (kinetics_animate _).trans
    rw [kinetics_animate, kinetics, received_log]
    rfl

theorem tame_new (settings : Settings) (capabilities : Capabilities) (surface : Surface)
    (clockRate : Int) :
  (new settings capabilities surface clockRate).Tame (flingLimitOf settings.input)
  := by
  refine ⟨⟨fit_new _ _ _ _, rfl, ?_, ?_, ?_⟩, ?_⟩
  · intro start vx vy l hl
    cases hl
  · intro hrunning
    cases hrunning
  · intro x y hxy
    cases hxy
  · intro hpress
    cases hpress

theorem flingLimitOf_nonneg (i : InputSettings) :
  0 ≤ flingLimitOf i
  := by
  rw [flingLimitOf]
  split
  · decide
  · rename_i h
    rw [Int64.le_iff_toInt_le] at h ⊢
    omega

/-- In every run that does not use the pointer `-1`, whatever the clock does and however the
scroller rounds, the engine is told only of places in the square from 0 to the limit that the
settings give.  A frame whose jobs have run tells the engine of a fling exactly if it was still
running.  It does not if the primary pointer is then down.  Once the time of the fling is up,
no later frame does until another fling is recognised.  And the frame asks for another one
exactly if the fling was still running. -/
theorem kinetic_calls_disciplined (settings : Settings) (capabilities : Capabilities)
    (surface : Surface) (clockRate : Int) (is : List Incident)
    (hpointers : ∀ i ∈ is, ∀ p ∈ i.pointers, p ≠ -1) :
  let v := (new settings capabilities surface clockRate).undergoAll is
  let limit :=
    if 0 < settings.input.maxFlingDistance then settings.input.maxFlingDistance
    else Settings.default.input.maxFlingDistance
  (∀ x y, Call.kinetic x y ∈ v.received → (0 ≤ x ∧ x ≤ limit) ∧ 0 ≤ y ∧ y ≤ limit)
    ∧ ∀ w, v.drained? = some w →
      let moved := (w.scroller.compute w.eventTime).1
      let more := (w.scroller.compute w.eventTime).2
      v.turn.1.kinetics = v.kinetics ++
          (if more && w.capabilities.kinetic then [.kinetic moved.current.x moved.current.y]
            else [])
        ∧ (w.contacts.contains w.primary = true → v.turn.1.kinetics = v.kinetics)
        ∧ ((∀ begun, w.scroller.flight.begun = some begun →
              begun + w.scroller.duration.toInt ≤ w.eventTime) →
            ∀ later, (v.turn.1.undergoAll later).flings = v.turn.1.flings →
              (v.turn.1.undergoAll later).kinetics = v.turn.1.kinetics)
        ∧ v.turn.1.surface =
            (if more then w.surface.receive .request else w.surface).finishFrame
  := by
  intro v limit
  have hlimit : limit = flingLimitOf settings.input := by
    by_cases hpos : 0 < settings.input.maxFlingDistance
    · rw [flingLimitOf, if_neg (by simpa using hpos)]
      exact if_pos hpos
    · rw [flingLimitOf, if_pos (by simpa using hpos)]
      exact if_neg hpos
  rw [hlimit]
  have hlasting := lasting_tame (flingLimitOf_nonneg settings.input)
  have htame : v.Tame (flingLimitOf settings.input) :=
    hlasting.undergoAll (tame_new _ _ _ _) is
  have hagrees : v.Holds (fun p => p ≠ -1) InputSide.Agrees := by
    apply Holds.undergoAll InputSide.kept_agrees _ hpointers
    refine ⟨_, [], shows_new settings capabilities surface clockRate, ?_, by simp⟩
    exact ⟨Contacts.ascending_nil, rfl, trivial, rfl, rfl⟩
  constructor
  · intro x y hxy
    apply htame.kinetic x y
    apply List.mem_filter.mpr ⟨hxy, rfl⟩
  · intro w hw moved more
    obtain ⟨hbacklog, hscroller, hsurface, hkinetics⟩ := turn_drawn_eq hw
    have hwtame := hlasting.drained? htame hw
    have hempty : w.backlog.toList = [] :=
      hwtame.inOrder.pop?_eq_none_iff.mp (pop?_of_drained? hw)
    have hcalls : v.turn.1.kinetics = v.kinetics ++
        (if more && w.capabilities.kinetic then [.kinetic moved.current.x moved.current.y]
          else []) := by
      rw [hkinetics, kinetics_animate, (htame.toFit.undrawn_drained? hw).kinetics_eq]
    refine ⟨hcalls, ?_, ?_, hsurface⟩
    · intro hdown
      obtain ⟨s, bodies, hshows, hs, -⟩ := hagrees.drained? InputSide.kept_agrees hw
      obtain rfl := hshows.input_eq
      have hrest := hwtame.rest (hs.press.trans hdown)
      rw [willRest, hempty] at hrest
      have hmore : more = false :=
        congrArg Prod.snd (Scroller.compute_of_finished hrest w.eventTime)
      rw [hcalls, hmore]
      apply List.append_nil
    · intro hup later hflings
      have hcalm : v.turn.1.Calm v.turn.1.flings v.turn.1.kinetics := by
        refine ⟨(hlasting.turn htame).toFit, Nat.le_refl _, fun _ => ?_, fun _ => ?_,
          fun _ => rfl⟩
        · rw [hscroller]
          apply Scroller.finished_compute_of_time_up hup
        · rw [hbacklog, hempty]
          simp
      exact ((lasting_calm _ _).undergoAll hcalm later).kinetics_eq hflings

/-- A press scrolls after the clock has gone back, beside a second pointer, and is drawn.  The
scroller rounds everything to one number. -/
theorem kinetic_calls_disciplined_pressed :
  let is : List Incident :=
    [.rounding ⟨fun _ => -7, fun _ => -1⟩, .act (.step .start),
      .act (.step (.host (.send (.lifecycle 1 2)))),
      .act (.step (.host (.touch .down 10 20 3 none))),
      .act (.step (.host (.touch .down 30 40 5 none))), .clock (-5),
      .act (.step (.host (.touch .move 100 20 3 none)))]
  let v := (new .default .all {} 1).undergoAll is
  (∀ i ∈ is, ∀ p ∈ i.pointers, p ≠ -1)
    ∧ ∃ w, v.drained? = some w ∧ w.contacts.contains w.primary = true
      ∧ v.turn.1.kinetics = v.kinetics
  := by
  intro is v
  have hpointers : ∀ i ∈ is, ∀ p ∈ i.pointers, p ≠ -1 := by
    simp [is, Incident.pointers, Act.pointers, HostStep.pointers]
  have hdown : (v.drained?.map fun w => w.contacts.contains w.primary) = some true := by
    decide +kernel
  obtain ⟨w, hw, hcontains⟩ := Option.map_eq_some_iff.mp hdown
  obtain ⟨-, hframe⟩ := kinetic_calls_disciplined .default .all {} 1 is hpointers
  obtain ⟨-, hquiet, -⟩ := hframe w hw
  exact ⟨hpointers, w, hw, hcontains, hquiet hcontains⟩

end View

end SurfaceHost
