import Mathlib.Tactic.Common
import SurfaceHost.Touch.Gesture

/-!
# Alarms

A press sets an alarm, which makes it a long press when it goes off.  An alarm that was
stopped may go off all the same, after the press has ended or another one has begun, but it
goes off only once.  A detector tells such an alarm by its generation.

`Watch` is a detector together with the alarms that are still to go off.  As long as the
generations have not come round, the alarm of the present one was set by the present press,
and it is gone once that press is long (`Watch.Orderly`).
-/

namespace SurfaceHost

/-- Whether a motion is not farther from a down than the slop. -/
def Motion.isNear (slop : Float32) (e down : Motion) : Bool :=
  let dx := e.x - down.x
  let dy := e.y - down.y
  dx * dx + dy * dy ≤ slop * slop

namespace Detector

theorem withinSlop_eq (d : Detector) (p : Press) (e : Motion) :
  d.withinSlop p e = e.isNear d.thresholds.slop p.down
  := rfl

/-- Where the press of a detector began, and what has become of it. -/
def outline (d : Detector) : Option (Motion × Stage) :=
  d.press.map fun p => (p.down, p.stage)

/-- What a motion does to a detector, with what is reported of it. -/
inductive Takes (d : Detector) (e : Motion) (d' : Detector) : Option Gesture → Prop where
  | down (phase : e.phase = .down) (outline : d'.outline = some (e, .waiting))
      (generation : d'.generation = d.generation + 1) :
    Takes d e d' (some (.down e))
  /-- Only the first scroll of a press stops its alarm. -/
  | scroll {down : Motion} {stage : Stage} {dx dy : Float32} (phase : e.phase = .move)
      (before : d.outline = some (down, stage)) (free : stage ≠ .held)
      (outline : d'.outline = some (down, .scrolling))
      (generation : d'.generation = d.generation ∨ d'.generation = d.generation + 1) :
    Takes d e d' (some (.scroll down e dx dy))
  | still (phase : e.phase ≠ .down) (outline : d'.outline = d.outline)
      (generation : d'.generation = d.generation)
      (lifted : e.phase = .up ∨ e.phase = .cancel → d.outline = none) :
    Takes d e d' none
  | lift (phase : e.phase = .up ∨ e.phase = .cancel) (outline : d'.outline = none)
      (generation : d'.generation = d.generation + 1) :
    Takes d e d' none
  | fling {down : Motion} {vx vy : Float32} (phase : e.phase = .up)
      (before : d.outline = some (down, .scrolling)) (outline : d'.outline = none)
      (generation : d'.generation = d.generation + 1) :
    Takes d e d' (some (.fling down e vx vy))

theorem outline_of_press {d : Detector} {p : Press} (h : d.press = some p) :
  d.outline = some (p.down, p.stage)
  := by
  rw [outline, h]
  rfl

theorem exists_press_of_outline {d : Detector} {down : Motion} {stage : Stage}
    (h : d.outline = some (down, stage)) :
  ∃ p, d.press = some p ∧ p.down = down ∧ p.stage = stage
  := by
  obtain ⟨p, hp, heq⟩ := Option.map_eq_some_iff.mp h
  obtain ⟨hdown, hstage⟩ := Prod.mk.inj heq
  exact ⟨p, hp, hdown, hstage⟩

section

variable {d : Detector} {p : Press} {e : Motion}

/-- A press that waits goes on waiting within the slop. -/
theorem touchMove_of_near (hstage : p.stage = .waiting)
    (hnear : e.isNear d.thresholds.slop p.down = true) :
  d.touchMove p e = ({ d with press := some { p with track := p.track.add e } }, none)
  := by
  rw [← withinSlop_eq] at hnear
  simp only [touchMove, hstage, if_pos hnear]

/-- A press that waits becomes a scroll out of the slop. -/
theorem touchMove_of_far (hstage : p.stage = .waiting)
    (hfar : e.isNear d.thresholds.slop p.down = false) :
  d.touchMove p e =
    ({ d.disarm with
        press := some
          { p with
            track := p.track.add e
            lastX := e.x
            lastY := e.y
            stage := .scrolling } },
      some (.scroll p.down e (p.lastX - e.x) (p.lastY - e.y)))
  := by
  rw [← withinSlop_eq, ← Bool.not_eq_true] at hfar
  simp only [touchMove, hstage, if_neg hfar]

end

theorem takes_touchMove {d : Detector} {p : Press} (hp : d.press = some p) {e : Motion}
    (he : e.phase = .move) :
  d.Takes e (d.touchMove p e).1 (d.touchMove p e).2
  := by
  have houtline := outline_of_press hp
  have hstill {d' : Detector} (hd' : d'.outline = d.outline)
      (hgeneration : d'.generation = d.generation) : d.Takes e d' none := by
    apply Takes.still _ hd' hgeneration
    · simp [he]
    · simp [he]
  rw [touchMove]
  split
  · apply hstill rfl rfl
  · rename_i hstage
    split
    · apply hstill
      · rw [houtline]
        rfl
      · rfl
    · apply Takes.scroll he houtline
      · simp [hstage]
      · rfl
      · right
        rfl
  · rename_i hstage
    split
    · apply hstill
      · rw [houtline]
        rfl
      · rfl
    · apply Takes.scroll he houtline
      · simp [hstage]
      · rfl
      · left
        rfl

theorem takes_up {d : Detector} {p : Press} (hp : d.press = some p) {e : Motion}
    (he : e.phase = .up) :
  d.Takes e { d.disarm with press := none } (d.fling? p e)
  := by
  rw [fling?]
  split
  · rename_i hstage
    split
    rename_i vx vy hvelocity
    split
    · apply Takes.fling he _ rfl rfl
      rw [outline_of_press hp, hstage]
    · apply Takes.lift (.inl he) rfl rfl
  · apply Takes.lift (.inl he) rfl rfl
  · apply Takes.lift (.inl he) rfl rfl

/-- Every motion does one of the things that a detector can do. -/
theorem takes_touch (d : Detector) (now : Instant) (e : Motion) :
  d.Takes e (d.touch now e).1 (d.touch now e).2
  := by
  have hstill (hdown : e.phase ≠ .down)
      (hlifted : e.phase = .up ∨ e.phase = .cancel → d.outline = none) : d.Takes e d none :=
    Takes.still hdown rfl rfl hlifted
  rw [touch]
  split
  · rename_i he
    apply Takes.down he rfl rfl
  · rename_i p he hp
    apply takes_touchMove hp he
  · rename_i p he hp
    apply takes_up hp he
  · rename_i he
    apply Takes.lift (.inr he) rfl rfl
  · rename_i he hp
    apply hstill
    · simp [he]
    · simp [he]
  · rename_i he hp
    apply hstill
    · simp [he]
    · intro _
      rw [outline, hp]
      rfl
  · rename_i he
    apply hstill
    · simp [he]
    · simp [he]

section

variable {d d' : Detector} {e : Motion} {g : Option Gesture}

theorem Takes.generation_cases (h : d.Takes e d' g) :
  d'.generation = d.generation ∨ d'.generation = d.generation + 1
  := by
  cases h with
  | down _ _ generation => exact .inr generation
  | scroll _ _ _ _ generation => exact generation
  | still _ _ generation _ => exact .inl generation
  | lift _ _ generation => exact .inr generation
  | fling _ _ _ generation => exact .inr generation

/-- A down begins a press and another generation. -/
theorem Takes.of_down (h : d.Takes e d' g) (he : e.phase = .down) :
  d'.outline = some (e, .waiting) ∧ d'.generation = d.generation + 1 ∧ g = some (.down e)
  := by
  cases h with
  | down _ outline generation => exact ⟨outline, generation, rfl⟩
  | scroll phase => simp [he] at phase
  | still phase => contradiction
  | lift phase => simp [he] at phase
  | fling phase => simp [he] at phase

/-- A press that does not scroll was there before and is in the same generation, unless it
has just begun. -/
theorem Takes.outline_of_ne_down (h : d.Takes e d' g) (he : e.phase ≠ .down) {down : Motion}
    {stage : Stage} (hstage : stage ≠ .scrolling) (houtline : d'.outline = some (down, stage)) :
  d.outline = some (down, stage) ∧ d'.generation = d.generation
  := by
  cases h with
  | down phase => contradiction
  | scroll _ _ _ outline =>
    obtain ⟨-, rfl⟩ := Prod.mk.inj (Option.some.inj (outline.symm.trans houtline))
    contradiction
  | still _ outline generation => exact ⟨outline.symm.trans houtline, generation⟩
  | lift _ outline =>
    rw [outline] at houtline
    cases houtline
  | fling _ _ outline =>
    rw [outline] at houtline
    cases houtline

/-- Without a press, only a down is reported, and only a down begins one. -/
theorem Takes.of_no_press (h : d.Takes e d' g) (hnone : d.outline = none)
    (he : e.phase ≠ .down) :
  d'.outline = none ∧ g = none
  := by
  cases h with
  | down phase => contradiction
  | scroll _ before =>
    rw [hnone] at before
    cases before
  | still _ outline => exact ⟨outline.trans hnone, rfl⟩
  | lift _ outline => exact ⟨outline, rfl⟩
  | fling _ before =>
    rw [hnone] at before
    cases before

/-- An up or a cancel ends the press, and only an up may be reported, as a fling. -/
theorem Takes.of_lift (h : d.Takes e d' g) (he : e.phase = .up ∨ e.phase = .cancel) :
  d'.outline = none
    ∧ ∀ x ∈ g, e.phase = .up ∧ ∃ down vx vy, x = .fling down e vx vy
  := by
  cases h with
  | down phase => simp [phase] at he
  | scroll phase => simp [phase] at he
  | still _ outline _ lifted => exact ⟨outline.trans (lifted he), by simp⟩
  | lift _ outline => exact ⟨outline, by simp⟩
  | @fling down vx vy phase _ outline =>
    use outline
    rintro _ ⟨⟩
    exact ⟨phase, down, vx, vy, rfl⟩

/-- A press has just begun, or it was there before. -/
theorem Takes.outline_cases (h : d.Takes e d' g) {down : Motion} {stage : Stage}
    (houtline : d'.outline = some (down, stage)) :
  (e.phase = .down ∧ e = down) ∨ ∃ stage', d.outline = some (down, stage')
  := by
  cases h with
  | down phase outline =>
    left
    exact ⟨phase, (Prod.mk.inj (Option.some.inj (outline.symm.trans houtline))).1⟩
  | @scroll down' stage' _ _ _ before _ outline =>
    right
    obtain ⟨rfl, -⟩ := Prod.mk.inj (Option.some.inj (outline.symm.trans houtline))
    exact ⟨stage', before⟩
  | still _ outline =>
    right
    exact ⟨stage, outline.symm.trans houtline⟩
  | lift _ outline =>
    rw [outline] at houtline
    cases houtline
  | fling _ _ outline =>
    rw [outline] at houtline
    cases houtline

/-- Only an alarm makes a press long. -/
theorem Takes.ne_longPress (h : d.Takes e d' g) (down : Motion) :
  g ≠ some (.longPress down)
  := by
  cases h <;> simp

end

/-- An alarm does nothing, or it makes the press of its own generation long. -/
theorem fire_cases (d : Detector) (generation : UInt64) :
  d.fire generation = (d, none)
    ∨ ∃ down stage, d.outline = some (down, stage) ∧ stage ≠ .scrolling
      ∧ generation = d.generation
      ∧ (d.fire generation).1.outline = some (down, .held)
      ∧ (d.fire generation).1.generation = d.generation
      ∧ (d.fire generation).2 = some (.longPress down)
  := by
  rw [fire]
  split
  · rename_i p hp
    split
    · left
      rfl
    · rename_i hfire
      obtain ⟨hgeneration, hstage⟩ := not_or.mp hfire
      right
      use p.down, p.stage, outline_of_press hp, hstage, not_not.mp hgeneration
      exact ⟨rfl, rfl, rfl⟩
  · left
    rfl

theorem thresholds_touchMove (d : Detector) (p : Press) (e : Motion) :
  (d.touchMove p e).1.thresholds = d.thresholds
  := by
  rw [touchMove]
  split
  · rfl
  · split <;> rfl
  · split <;> rfl

@[simp]
theorem thresholds_touch (d : Detector) (now : Instant) (e : Motion) :
  (d.touch now e).1.thresholds = d.thresholds
  := by
  rw [touch]
  split
  · rfl
  · apply thresholds_touchMove
  · rfl
  · rfl
  · rfl
  · rfl
  · rfl

@[simp]
theorem thresholds_fire (d : Detector) (generation : UInt64) :
  (d.fire generation).1.thresholds = d.thresholds
  := by
  rw [fire]
  split
  · split <;> rfl
  · rfl

@[simp]
theorem thresholds_advance (d : Detector) (now : Instant) :
  (d.advance now).1.thresholds = d.thresholds
  := by
  rw [advance]
  split
  · split
    · apply thresholds_fire
    · rfl
  · rfl

theorem fire_of_no_press {d : Detector} (h : d.outline = none) (generation : UInt64) :
  d.fire generation = (d, none)
  := by
  obtain hsame | ⟨down, stage, houtline, -⟩ := d.fire_cases generation
  · apply hsame
  · rw [h] at houtline
    cases houtline

end Detector

/-! ### A detector and its alarms -/

/-- An alarm that a down has set. -/
structure Alarm where
  generation : UInt64
  down : Motion

/-- A detector with the alarms that are still to go off. -/
structure Watch where
  detector : Detector
  alarms : List Alarm := []
  /-- How many times the generation has gone up. -/
  disarms : Nat := 0

namespace Watch

/-- A detector that has seen nothing yet. -/
def new (thresholds : Thresholds) : Watch :=
  { detector := { thresholds } }

/-- Lets the detector see a motion, and keeps the alarm if one is set. -/
def touch (w : Watch) (now : Instant) (e : Motion) : Watch × Option Gesture :=
  let (detector, gesture) := w.detector.touch now e
  ({ detector
     alarms :=
       if e.phase = .down ∧ detector.alarm.isSome then w.alarms ++ [⟨detector.generation, e⟩]
       else w.alarms
     disarms :=
       if detector.generation = w.detector.generation then w.disarms else w.disarms + 1 },
    gesture)

/-- The alarm at a place goes off, if there is one. -/
def ring (w : Watch) (i : Nat) : Watch × Option Gesture :=
  match w.alarms[i]? with
  | some a =>
    let (detector, gesture) := w.detector.fire a.generation
    ({ w with detector, alarms := w.alarms.eraseIdx i }, gesture)
  | none => (w, none)

/-- The generation has not come round.  No two alarms are of the same one, and none is of a
later one than the present.  An alarm of the present one was set by the present press, if
that still waits, and there is none if it is long. -/
structure Orderly (w : Watch) : Prop where
  generation : w.detector.generation.toNat = w.disarms
  past : ∀ a ∈ w.alarms, a.generation.toNat ≤ w.disarms
  distinct : w.alarms.Pairwise fun a b => a.generation ≠ b.generation
  own : ∀ down, w.detector.outline = some (down, .waiting) →
    ∀ a ∈ w.alarms, a.generation = w.detector.generation → a.down = down
  gone : ∀ down, w.detector.outline = some (down, .held) →
    ∀ a ∈ w.alarms, a.generation ≠ w.detector.generation

variable {w : Watch} {now : Instant} {e : Motion}

theorem orderly_new (thresholds : Thresholds) :
  (new thresholds).Orderly
  := by
  constructor
  · rfl
  · intro a ha
    cases ha
  · apply List.Pairwise.nil
  · intro down hwaiting
    cases hwaiting
  · intro down hheld
    cases hheld

@[simp]
theorem detector_touch (w : Watch) (now : Instant) (e : Motion) :
  (w.touch now e).1.detector = (w.detector.touch now e).1
  := rfl

theorem disarms_le_touch (w : Watch) (now : Instant) (e : Motion) :
  w.disarms ≤ (w.touch now e).1.disarms
  := by
  simp only [touch]
  split
  · apply Nat.le_refl
  · apply Nat.le_succ

theorem ring_of_some {i : Nat} {a : Alarm} (h : w.alarms[i]? = some a) :
  w.ring i =
    ({ w with
        detector := (w.detector.fire a.generation).1
        alarms := w.alarms.eraseIdx i },
      (w.detector.fire a.generation).2)
  := by
  rw [ring, h]

theorem ring_of_none {i : Nat} (h : w.alarms[i]? = none) :
  w.ring i = (w, none)
  := by
  rw [ring, h]

theorem disarms_ring (w : Watch) (i : Nat) :
  (w.ring i).1.disarms = w.disarms
  := by
  rw [ring]
  split
  · rfl
  · rfl

/-- A generation that goes up is counted. -/
theorem disarms_touch_of_succ
    (h : (w.touch now e).1.detector.generation = w.detector.generation + 1) :
  (w.touch now e).1.disarms = w.disarms + 1
  := by
  have hne : w.detector.generation + 1 ≠ w.detector.generation := by simp
  simp only [touch] at h ⊢
  rw [h, if_neg hne]

theorem disarms_touch_of_eq
    (h : (w.touch now e).1.detector.generation = w.detector.generation) :
  (w.touch now e).1.disarms = w.disarms
  := if_pos h

theorem alarms_touch_of_ne_down (h : e.phase ≠ .down) :
  (w.touch now e).1.alarms = w.alarms
  := by
  simp only [touch]
  rw [if_neg]
  rintro ⟨he, -⟩
  contradiction

theorem Orderly.generation_touch (h : w.Orderly)
    (hlt : (w.touch now e).1.disarms < UInt64.size) :
  (w.touch now e).1.detector.generation.toNat = (w.touch now e).1.disarms
  := by
  rcases (w.detector.takes_touch now e).generation_cases with heq | hsucc
  · rw [disarms_touch_of_eq heq, ← h.generation]
    apply congrArg UInt64.toNat heq
  · rw [disarms_touch_of_succ hsucc] at hlt ⊢
    rw [show (w.touch now e).1.detector.generation = _ from hsucc, UInt64.toNat_add, h.generation]
    simp only [UInt64.size] at hlt
    simp
    omega

theorem Orderly.touchDown (h : w.Orderly) (he : e.phase = .down)
    (hlt : (w.touch now e).1.disarms < UInt64.size) :
  (w.touch now e).1.Orderly
  := by
  obtain ⟨houtline, hgeneration, -⟩ := (w.detector.takes_touch now e).of_down he
  have hdisarms := disarms_touch_of_succ hgeneration
  have htoNat := h.generation_touch hlt
  -- All older alarms are of earlier generations.
  have hold : ∀ a ∈ w.alarms, a.generation ≠ (w.touch now e).1.detector.generation := by
    intro a ha heq
    have hpast := h.past a ha
    rw [heq, htoNat, hdisarms] at hpast
    omega
  have hmem : ∀ a ∈ (w.touch now e).1.alarms,
      a ∈ w.alarms ∨ a = ⟨(w.touch now e).1.detector.generation, e⟩ := by
    intro a ha
    simp only [touch] at ha
    split at ha
    · rcases List.mem_append.mp ha with ha | ha
      · left
        apply ha
      · right
        apply List.mem_singleton.mp ha
    · left
      apply ha
  constructor
  · apply htoNat
  · intro a ha
    rcases hmem a ha with ha | rfl
    · apply Nat.le_trans (h.past a ha) (disarms_le_touch w now e)
    · apply Nat.le_of_eq htoNat
  · simp only [touch]
    split
    · apply List.pairwise_append.mpr
      refine ⟨h.distinct, List.pairwise_singleton _ _, ?_⟩
      intro a ha b hb
      obtain rfl := List.mem_singleton.mp hb
      apply hold a ha
    · apply h.distinct
  · intro down hwaiting a ha heq
    obtain ⟨rfl, -⟩ := Prod.mk.inj (Option.some.inj (houtline.symm.trans hwaiting))
    rcases hmem a ha with ha | rfl
    · exact absurd heq (hold a ha)
    · rfl
  · intro down hheld
    obtain ⟨-, hstage⟩ := Prod.mk.inj (Option.some.inj (houtline.symm.trans hheld))
    cases hstage

theorem Orderly.touch (h : w.Orderly) (hlt : (w.touch now e).1.disarms < UInt64.size) :
  (w.touch now e).1.Orderly
  := by
  by_cases he : e.phase = .down
  · apply h.touchDown he hlt
  · have htakes := w.detector.takes_touch now e
    have halarms : (w.touch now e).1.alarms = w.alarms := alarms_touch_of_ne_down he
    constructor
    · apply h.generation_touch hlt
    · rw [halarms]
      intro a ha
      apply Nat.le_trans (h.past a ha) (disarms_le_touch w now e)
    · rw [halarms]
      apply h.distinct
    · intro down hwaiting
      obtain ⟨houtline, hgeneration⟩ := htakes.outline_of_ne_down he (by simp) hwaiting
      rw [halarms, show (w.touch now e).1.detector.generation = _ from hgeneration]
      apply h.own down houtline
    · intro down hheld
      obtain ⟨houtline, hgeneration⟩ := htakes.outline_of_ne_down he (by simp) hheld
      rw [halarms, show (w.touch now e).1.detector.generation = _ from hgeneration]
      apply h.gone down houtline

/-- In an orderly watch an alarm does nothing to the press, or it makes the press long that
has set it. -/
theorem Orderly.ring_cases (h : w.Orderly) (i : Nat) :
  ((w.ring i).1.detector = w.detector ∧ (w.ring i).2 = none)
    ∨ ∃ a, w.alarms[i]? = some a ∧ a.generation = w.detector.generation
      ∧ w.detector.outline = some (a.down, .waiting)
      ∧ (w.ring i).1.detector.outline = some (a.down, .held)
      ∧ (w.ring i).1.detector.generation = w.detector.generation
      ∧ (w.ring i).2 = some (.longPress a.down)
  := by
  cases halarm : w.alarms[i]? with
  | none =>
    left
    rw [ring_of_none halarm]
    exact ⟨rfl, rfl⟩
  | some a =>
    have ha := List.mem_of_getElem? halarm
    rw [ring_of_some halarm]
    obtain hsame | ⟨down, stage, houtline, hstage, hgeneration, hheld, hkept, hgesture⟩ :=
      w.detector.fire_cases a.generation
    · left
      rw [hsame]
      exact ⟨rfl, rfl⟩
    · right
      cases stage with
      | waiting =>
        obtain rfl := h.own down houtline a ha hgeneration
        exact ⟨a, rfl, hgeneration, houtline, hheld, hkept, hgesture⟩
      | scrolling => contradiction
      | held => exact absurd hgeneration (h.gone down houtline a ha)

theorem Orderly.generation_ne (h : w.Orderly) {i j : Nat} {a b : Alarm} (hij : i ≠ j)
    (ha : w.alarms[i]? = some a) (hb : w.alarms[j]? = some b) :
  a.generation ≠ b.generation
  := by
  obtain ⟨hi, rfl⟩ := List.getElem?_eq_some_iff.mp ha
  obtain ⟨hj, rfl⟩ := List.getElem?_eq_some_iff.mp hb
  have hdistinct := List.pairwise_iff_getElem.mp h.distinct
  rcases Nat.lt_or_gt_of_ne hij with hlt | hgt
  · apply hdistinct i j hi hj hlt
  · apply Ne.symm (hdistinct j i hj hi hgt)

theorem alarms_ring (w : Watch) (i : Nat) :
  (w.ring i).1.alarms = w.alarms.eraseIdx i
  := by
  cases halarm : w.alarms[i]? with
  | none =>
    rw [ring_of_none halarm, List.eraseIdx_of_length_le (List.getElem?_eq_none_iff.mp halarm)]
  | some a => rw [ring_of_some halarm]

theorem Orderly.ring (h : w.Orderly) (i : Nat) :
  (w.ring i).1.Orderly
  := by
  have hmem : ∀ b ∈ (w.ring i).1.alarms, b ∈ w.alarms := by
    intro b hb
    rw [alarms_ring] at hb
    apply List.mem_of_mem_eraseIdx hb
  have hpast : ∀ b ∈ (w.ring i).1.alarms, b.generation.toNat ≤ (w.ring i).1.disarms := by
    intro b hb
    rw [disarms_ring]
    apply h.past b (hmem b hb)
  have hdistinct : (w.ring i).1.alarms.Pairwise fun a b => a.generation ≠ b.generation := by
    rw [alarms_ring]
    apply h.distinct.eraseIdx
  obtain ⟨hdetector, -⟩ | ⟨a, halarm, hgeneration, -, hheld, hkept, -⟩ := h.ring_cases i
  · refine ⟨?_, hpast, hdistinct, ?_, ?_⟩
    · rw [hdetector, disarms_ring]
      apply h.generation
    · rw [hdetector]
      intro down hwaiting b hb
      apply h.own down hwaiting b (hmem b hb)
    · rw [hdetector]
      intro down hlong b hb
      apply h.gone down hlong b (hmem b hb)
  · refine ⟨?_, hpast, hdistinct, ?_, ?_⟩
    · rw [hkept, disarms_ring]
      apply h.generation
    · rw [hheld]
      intro down hwaiting
      cases hwaiting
    · intro down _ b hb
      rw [alarms_ring] at hb
      obtain ⟨j, hj, hb⟩ := List.mem_eraseIdx_iff_getElem?.mp hb
      rw [hkept, ← hgeneration]
      apply h.generation_ne hj hb halarm

end Watch

end SurfaceHost
