import Mathlib.Data.List.Induction
import SurfaceHost.Proofs.Alarms

/-!
# The grammar of gestures

What a detector reports falls into presses, each of which begins with its down.  After that
a press is reported to be long, or to scroll and perhaps to end in a fling, and never both;
and it is reported with the down that began it.  Nothing is reported between the end of a
press and the next down.  This holds for all thresholds, whatever the motions are and however
late the alarms go off, as long as the generations have not come round.
-/

namespace SurfaceHost

/-- Some scrolls of the press that began with a down. -/
def Scrolls (down : Motion) (told : List Gesture) : Prop :=
  told ≠ [] ∧ ∀ g ∈ told, ∃ current dx dy, g = .scroll down current dx dy

/-- What may be reported of a press after the down that it began with. -/
inductive Course (down : Motion) : List Gesture → Prop where
  | short : Course down []
  | long : Course down [.longPress down]
  | scrolled {told : List Gesture} (scrolls : Scrolls down told) : Course down told
  | flung {told : List Gesture} (scrolls : Scrolls down told) (up : Motion) (vx vy : Float32) :
    Course down (told ++ [.fling down up vx vy])

/-- What has been reported of a press that is in a stage. -/
def Stage.Tells (stage : Stage) (down : Motion) (told : List Gesture) : Prop :=
  match stage with
  | .waiting => told = []
  | .scrolling => Scrolls down told
  | .held => told = [.longPress down]

/-- The reports of presses one after the other, each with its down first. -/
def reports (presses : List (Motion × List Gesture)) : List Gesture :=
  presses.flatMap fun p => .down p.1 :: p.2

@[simp]
theorem reports_append (front back : List (Motion × List Gesture)) :
  reports (front ++ back) = reports front ++ reports back
  := List.flatMap_append

@[simp]
theorem reports_singleton (p : Motion × List Gesture) :
  reports [p] = .down p.1 :: p.2
  := List.flatMap_singleton _ _

/-- A press that is not long goes on with a scroll. -/
theorem Stage.Tells.scroll {stage : Stage} {down : Motion} {told : List Gesture}
    (h : stage.Tells down told) (hfree : stage ≠ .held) (current : Motion) (dx dy : Float32) :
  Scrolls down (told ++ [.scroll down current dx dy])
  := by
  constructor
  · simp
  · intro g hg
    rcases List.mem_append.mp hg with hg | hg
    · cases stage with
      | waiting =>
        obtain rfl := h
        cases hg
      | scrolling => apply h.2 g hg
      | held => contradiction
    · obtain rfl := List.mem_singleton.mp hg
      exact ⟨current, dx, dy, rfl⟩

/-! ### One motion, one alarm -/

namespace Detector

variable {d d' : Detector} {e : Motion} {g : Option Gesture}

/-- All presses took an allowed course, and the last one is under way if the detector has a
press. -/
structure Accounts (presses : List (Motion × List Gesture)) (d : Detector) : Prop where
  courses : ∀ p ∈ presses, Course p.1 p.2
  underway : ∀ down stage, d.outline = some (down, stage) →
    ∃ front told, presses = front ++ [(down, told)] ∧ stage.Tells down told

variable {presses : List (Motion × List Gesture)}

theorem Accounts.of_outline_eq (h : Accounts presses d) (houtline : d'.outline = d.outline) :
  Accounts presses d'
  := by
  constructor
  · apply h.courses
  · rw [houtline]
    apply h.underway

theorem Accounts.of_no_press (h : Accounts presses d) (houtline : d'.outline = none) :
  Accounts presses d'
  := by
  constructor
  · apply h.courses
  · rw [houtline]
    intro down stage hsome
    cases hsome

/-- A press that begins is the last one. -/
theorem Accounts.begin (h : Accounts presses d) {down : Motion}
    (houtline : d'.outline = some (down, .waiting)) :
  Accounts (presses ++ [(down, [])]) d'
  := by
  constructor
  · intro p hp
    rcases List.mem_append.mp hp with hp | hp
    · apply h.courses p hp
    · obtain rfl := List.mem_singleton.mp hp
      apply Course.short
  · intro down' stage hsome
    obtain ⟨rfl, rfl⟩ := Prod.mk.inj (Option.some.inj (houtline.symm.trans hsome))
    exact ⟨presses, [], rfl, rfl⟩

/-- A report belongs to the last press. -/
theorem Accounts.report {front : List (Motion × List Gesture)} {down : Motion}
    {told : List Gesture} (h : Accounts (front ++ [(down, told)]) d) {x : Gesture}
    (hcourse : Course down (told ++ [x]))
    (houtline : ∀ down' stage, d'.outline = some (down', stage) →
      down' = down ∧ stage.Tells down (told ++ [x])) :
  Accounts (front ++ [(down, told ++ [x])]) d'
  := by
  constructor
  · intro p hp
    rcases List.mem_append.mp hp with hp | hp
    · apply h.courses p (List.mem_append_left _ hp)
    · obtain rfl := List.mem_singleton.mp hp
      apply hcourse
  · intro down' stage hsome
    obtain ⟨rfl, htells⟩ := houtline down' stage hsome
    exact ⟨front, told ++ [x], rfl, htells⟩

/-- A motion is put down to the last press, or it begins one. -/
theorem Accounts.takes (h : Accounts presses d) (htakes : d.Takes e d' g) :
  ∃ after, reports after = reports presses ++ g.toList
    ∧ after.map Prod.fst = presses.map Prod.fst ++ (if e.phase = .down then [e] else [])
    ∧ Accounts after d'
  := by
  cases htakes with
  | down phase outline =>
    use presses ++ [(e, [])]
    refine ⟨by simp, by simp [phase], h.begin outline⟩
  | @scroll down stage dx dy phase before free outline =>
    obtain ⟨front, told, rfl, htells⟩ := h.underway down stage before
    have hscrolls := htells.scroll free e dx dy
    use front ++ [(down, told ++ [.scroll down e dx dy])]
    refine ⟨by simp, by simp [phase], h.report (.scrolled hscrolls) ?_⟩
    intro down' stage' hsome
    obtain ⟨rfl, rfl⟩ := Prod.mk.inj (Option.some.inj (outline.symm.trans hsome))
    exact ⟨rfl, hscrolls⟩
  | still phase outline =>
    use presses
    exact ⟨by simp, by simp [phase], h.of_outline_eq outline⟩
  | lift phase outline =>
    have hdown : e.phase ≠ .down := by
      rcases phase with phase | phase <;> simp [phase]
    use presses
    exact ⟨by simp, by simp [hdown], h.of_no_press outline⟩
  | @fling down vx vy phase before outline =>
    obtain ⟨front, told, rfl, htells⟩ := h.underway down .scrolling before
    use front ++ [(down, told ++ [.fling down e vx vy])]
    refine ⟨by simp, by simp [phase], h.report (.flung htells e vx vy) ?_⟩
    intro down' stage hsome
    rw [outline] at hsome
    cases hsome

end Detector

/-! ### Motions and alarms in any order -/

namespace Watch

/-- What can happen to a watch. -/
inductive Move where
  | touch (now : Instant) (e : Motion)
  /-- The alarm at a place goes off, be it stopped or not. -/
  | ring (i : Nat)

/-- One move, with what is reported of it. -/
def step (w : Watch) : Move → Watch × Option Gesture
  | .touch now e => w.touch now e
  | .ring i => w.ring i

/-- The watch after some moves. -/
def after (w : Watch) (moves : List Move) : Watch :=
  moves.foldl (fun w m => (w.step m).1) w

/-- All that is reported during some moves. -/
def gestures (w : Watch) : List Move → List Gesture
  | [] => []
  | m :: rest => (w.step m).2.toList ++ (w.step m).1.gestures rest

/-- The downs among some moves. -/
def downs (moves : List Move) : List Motion :=
  moves.flatMap fun
    | .touch _ e => if e.phase = .down then [e] else []
    | .ring _ => []

theorem after_append_singleton (w : Watch) (moves : List Move) (m : Move) :
  w.after (moves ++ [m]) = ((w.after moves).step m).1
  := List.foldl_append

theorem gestures_append (w : Watch) (front back : List Move) :
  w.gestures (front ++ back) = w.gestures front ++ (w.after front).gestures back
  := by
  induction front generalizing w with
  | nil => rfl
  | cons m front ih =>
    simp only [List.cons_append, gestures, ih, List.append_assoc]
    rfl

theorem gestures_append_singleton (w : Watch) (moves : List Move) (m : Move) :
  w.gestures (moves ++ [m]) = w.gestures moves ++ ((w.after moves).step m).2.toList
  := by
  rw [gestures_append]
  simp [gestures]

theorem downs_append (front back : List Move) :
  downs (front ++ back) = downs front ++ downs back
  := List.flatMap_append

theorem disarms_le_step (w : Watch) (m : Move) :
  w.disarms ≤ (w.step m).1.disarms
  := by
  cases m with
  | touch now e => apply disarms_le_touch
  | ring i => apply Nat.le_of_eq (disarms_ring w i).symm

variable {w : Watch} {presses : List (Motion × List Gesture)}

theorem Orderly.step (h : w.Orderly) {m : Move} (hlt : (w.step m).1.disarms < UInt64.size) :
  (w.step m).1.Orderly
  := by
  cases m with
  | touch now e => apply h.touch hlt
  | ring i => apply h.ring

/-- Every move is put down to the last press, or it begins one. -/
theorem Orderly.accounts_step (h : w.Orderly) (hpresses : Detector.Accounts presses w.detector)
    (m : Move) :
  ∃ after, reports after = reports presses ++ (w.step m).2.toList
    ∧ after.map Prod.fst = presses.map Prod.fst ++ downs [m]
    ∧ Detector.Accounts after (w.step m).1.detector
  := by
  cases m with
  | touch now e =>
    obtain ⟨after, hreports, hdowns, hafter⟩ :=
      hpresses.takes (w.detector.takes_touch now e)
    use after, hreports
    refine ⟨?_, hafter⟩
    rw [hdowns]
    simp [downs]
  | ring i =>
    obtain ⟨hdetector, hnone⟩ | ⟨a, -, -, hwaiting, hheld, -, hlong⟩ := h.ring_cases i
    · use presses
      refine ⟨?_, by simp [downs], ?_⟩
      · rw [Watch.step, hnone]
        simp
      · rw [Watch.step, hdetector]
        apply hpresses
    · obtain ⟨front, told, rfl, htells⟩ := hpresses.underway a.down .waiting hwaiting
      -- Nothing has been reported of a press that waits.
      obtain rfl : told = [] := htells
      use front ++ [(a.down, [] ++ [.longPress a.down])]
      refine ⟨?_, by simp [downs], ?_⟩
      · rw [Watch.step, hlong]
        simp
      · apply hpresses.report .long
        intro down stage hsome
        obtain ⟨rfl, rfl⟩ := Prod.mk.inj (Option.some.inj (hheld.symm.trans hsome))
        exact ⟨rfl, rfl⟩

/-- All that a new detector reports is put down to presses. -/
theorem accounts_after (thresholds : Thresholds) (moves : List Move)
    (h : ((new thresholds).after moves).disarms < UInt64.size) :
  ((new thresholds).after moves).Orderly
    ∧ ∃ presses, reports presses = (new thresholds).gestures moves
      ∧ presses.map Prod.fst = downs moves
      ∧ Detector.Accounts presses ((new thresholds).after moves).detector
  := by
  induction moves using List.reverseRecOn with
  | nil =>
    use orderly_new thresholds, [], rfl, rfl
    constructor
    · intro p hp
      cases hp
    · intro down stage hsome
      cases hsome
  | append_singleton moves m ih =>
    rw [after_append_singleton] at h ⊢
    obtain ⟨horderly, presses, hreports, hdowns, hpresses⟩ :=
      ih (Nat.lt_of_le_of_lt (disarms_le_step _ m) h)
    obtain ⟨after, hreports', hdowns', hafter⟩ := horderly.accounts_step hpresses m
    refine ⟨horderly.step h, after, ?_, ?_, hafter⟩
    · rw [hreports', hreports, gestures_append_singleton]
    · rw [hdowns', hdowns, downs_append]

/-- Without a press, nothing is reported until the next down. -/
theorem gestures_of_no_press (h : w.detector.outline = none) {moves : List Move}
    (hdowns : downs moves = []) :
  w.gestures moves = []
  := by
  induction moves generalizing w with
  | nil => rfl
  | cons m moves ih =>
    obtain ⟨hm, hmoves⟩ := List.append_eq_nil_iff.mp ((downs_append [m] moves).symm.trans hdowns)
    obtain ⟨houtline, hnone⟩ : (w.step m).1.detector.outline = none ∧ (w.step m).2 = none := by
      cases m with
      | touch now e =>
        apply (w.detector.takes_touch now e).of_no_press h
        intro he
        simp [downs, he] at hm
      | ring i =>
        rw [step]
        cases halarm : w.alarms[i]? with
        | none =>
          rw [ring_of_none halarm]
          exact ⟨h, rfl⟩
        | some a =>
          rw [ring_of_some halarm, Detector.fire_of_no_press h]
          exact ⟨h, rfl⟩
    rw [gestures, hnone, ih houtline hmoves]
    rfl

/-- Gestures come in presses, one for every down.  After an up or a cancel nothing is
reported until the next down, but for the fling that the up itself makes. -/
theorem gestures_in_presses (thresholds : Thresholds) (moves : List Move)
    (h : ((new thresholds).after moves).disarms < UInt64.size) :
  (∃ presses : List (Motion × List Gesture),
      (new thresholds).gestures moves = presses.flatMap (fun p => .down p.1 :: p.2)
        ∧ presses.map Prod.fst = downs moves
        ∧ ∀ p ∈ presses, Course p.1 p.2)
    ∧ ∀ front now e quiet back, moves = front ++ .touch now e :: quiet ++ back →
      e.phase = .up ∨ e.phase = .cancel → downs quiet = [] →
        ((new thresholds).after front).gestures (.touch now e :: quiet) = []
          ∨ e.phase = .up ∧ ∃ down vx vy,
            ((new thresholds).after front).gestures (.touch now e :: quiet)
              = [.fling down e vx vy]
  := by
  constructor
  · obtain ⟨-, presses, hreports, hdowns, hpresses⟩ := accounts_after thresholds moves h
    exact ⟨presses, hreports.symm, hdowns, hpresses.courses⟩
  · intro front now e quiet back _ he hquiet
    obtain ⟨houtline, hfling⟩ :=
      (((new thresholds).after front).detector.takes_touch now e).of_lift he
    rw [gestures, step, gestures_of_no_press houtline hquiet, List.append_nil]
    cases hgesture : (((new thresholds).after front).touch now e).2 with
    | none =>
      left
      rfl
    | some g =>
      obtain ⟨hup, down, vx, vy, rfl⟩ := hfling g hgesture
      right
      exact ⟨hup, down, vx, vy, rfl⟩

/-- The alarm of a press that has ended goes off during the next one, before the alarm of
that; and the pointer is still seen to move after it was lifted. -/
theorem gestures_in_presses_late_alarm :
  let motion (phase : Phase) (x : Float32) (time : Instant) : Motion :=
    { phase, x, y := 20, pointer := 4, time }
  let thresholds : Thresholds :=
    { slop := 8, minFling := 50, maxFling := 8000, longPress := 500 }
  let front : List Move :=
    [.touch 0 (motion .down 10 0), .touch 9 (motion .up 10 9), .touch 20 (motion .down 30 20),
      .ring 0, .ring 0]
  let lifted : List Move := [.touch 600 (motion .up 30 600), .touch 601 (motion .move 90 601)]
  ((new thresholds).after (front ++ lifted)).disarms < UInt64.size
    ∧ (new thresholds).gestures (front ++ lifted)
      = [.down (motion .down 10 0), .down (motion .down 30 20), .longPress (motion .down 30 20)]
    ∧ (∃ presses : List (Motion × List Gesture),
      (new thresholds).gestures (front ++ lifted) = presses.flatMap (fun p => .down p.1 :: p.2)
        ∧ presses.map Prod.fst = [motion .down 10 0, motion .down 30 20]
        ∧ ∀ p ∈ presses, Course p.1 p.2)
    ∧ (((new thresholds).after front).gestures lifted = []
      ∨ ∃ down vx vy, ((new thresholds).after front).gestures lifted
        = [.fling down (motion .up 30 600) vx vy])
  := by
  intro motion thresholds front lifted
  have hdisarms : ((new thresholds).after (front ++ lifted)).disarms < UInt64.size := by
    decide +kernel
  obtain ⟨hpresses, hlifted⟩ := gestures_in_presses thresholds (front ++ lifted) hdisarms
  refine ⟨hdisarms, rfl, hpresses, ?_⟩
  obtain hnone | ⟨-, hfling⟩ :=
    hlifted front 600 (motion .up 30 600) [.touch 601 (motion .move 90 601)] []
      (by simp [lifted]) (.inl rfl) rfl
  · left
    apply hnone
  · right
    apply hfling

end Watch

end SurfaceHost
