import Mathlib.Data.List.Destutter
import SurfaceHost.Proofs.Presses

/-!
# Scroll distances

The scrolls of a press cover its movement without gaps.  The first one is reported for the
first move that is not near the down, the others for every later move that differs from the
last one reported.  Each tells the distance from where the one before it ended, or from the
down, to where the pointer is, so a path from the down through all reported moves gives all
distances (`scrolls`).  Whether the pointer comes back near the down does not matter.
-/

namespace SurfaceHost

/-- The differences of two positions are not both zero. -/
def Motion.Apart (a b : Motion) : Prop :=
  ¬(a.x - b.x == 0 && a.y - b.y == 0) = true

instance : DecidableRel Motion.Apart :=
  fun _ _ => inferInstanceAs (Decidable ¬_)

/-- The moves of a press that are reported: the first one that is not near the down, and
then every one that is apart from the last one reported. -/
def reported (slop : Float32) (down : Motion) (moves : List Motion) : List Motion :=
  match moves.dropWhile (·.isNear slop down) with
  | [] => []
  | first :: rest => rest.destutter' Motion.Apart first

theorem reported_cons_of_near {slop : Float32} {down e : Motion} (h : e.isNear slop down = true)
    (rest : List Motion) :
  reported slop down (e :: rest) = reported slop down rest
  := by
  simp only [reported, List.dropWhile_cons, h, if_true]

theorem reported_cons_of_far {slop : Float32} {down e : Motion} (h : e.isNear slop down = false)
    (rest : List Motion) :
  reported slop down (e :: rest) = rest.destutter' Motion.Apart e
  := by
  simp [reported, h]

/-- The scroll that ends at a motion, from another one on. -/
def Gesture.between (down previous current : Motion) : Gesture :=
  .scroll down current (previous.x - current.x) (previous.y - current.y)

/-- The scrolls along a path: one for each of its motions but the first, from the one
before. -/
def scrolls (down : Motion) (path : List Motion) : List Gesture :=
  List.zipWith (Gesture.between down) path path.tail

/-- What is left of some motions begins with the motion that they are compared to. -/
theorem exists_destutter'_eq_cons (first : Motion) (rest : List Motion) :
  ∃ kept, rest.destutter' Motion.Apart first = first :: kept
  := by
  induction rest with
  | nil => exact ⟨[], rfl⟩
  | cons second rest ih =>
    by_cases hapart : first.Apart second
    · rw [List.destutter'_cons_pos _ hapart]
      exact ⟨_, rfl⟩
    · rw [List.destutter'_cons_neg _ hapart]
      apply ih

theorem scrolls_cons_destutter' (down previous first : Motion) (rest : List Motion) :
  scrolls down (previous :: rest.destutter' Motion.Apart first) =
    .between down previous first :: scrolls down (rest.destutter' Motion.Apart first)
  := by
  obtain ⟨kept, hkept⟩ := exists_destutter'_eq_cons first rest
  rw [hkept]
  rfl

namespace Watch

variable {w : Watch} {p : Press} {moves : List Move}

/-- A press that scrolls goes on with the moves that differ from the last one reported. -/
theorem gestures_of_scrolling (hp : w.detector.press = some p) (hstage : p.stage = .scrolling)
    {last : Motion} (hx : p.lastX = last.x) (hy : p.lastY = last.y) (hstays : w.Stays moves) :
  w.gestures moves = scrolls p.down ((moved moves).destutter' Motion.Apart last)
  := by
  induction moves generalizing w p last with
  | nil => rfl
  | cons m rest ih =>
    obtain ⟨⟨hcontact, hlong⟩, hrest⟩ := hstays.of_cons
    rw [gestures, moved_cons]
    obtain ⟨e, hmoved, hdetector, hgesture⟩ | ⟨hmoved, hdetector, hnone⟩ :=
      step_of_stays hp hcontact hlong
    · rw [hmoved, hgesture, List.singleton_append]
      by_cases hapart : last.Apart e
      · have hmove := w.detector.touchMove_of_apart hstage (by rwa [hx, hy])
        have hnext := congrArg Detector.press (hdetector.trans (congrArg Prod.fst hmove))
        rw [hmove, ih hnext rfl rfl rfl hrest, List.destutter'_cons_pos _ hapart,
          scrolls_cons_destutter', hx, hy]
        rfl
      · have hmove := w.detector.touchMove_of_still hstage (by rw [hx, hy]; exact not_not.mp hapart)
        have hnext := congrArg Detector.press (hdetector.trans (congrArg Prod.fst hmove))
        rw [hmove, ih hnext hstage hx hy hrest, List.destutter'_cons_neg _ hapart]
        rfl
    · rw [hmoved, hnone]
      apply ih (hdetector ▸ hp) hstage hx hy hrest

/-- A press that waits is reported from the first move on that is not near its down. -/
theorem gestures_of_waiting (hp : w.detector.press = some p) (hstage : p.stage = .waiting)
    (hx : p.lastX = p.down.x) (hy : p.lastY = p.down.y) (hstays : w.Stays moves) :
  w.gestures moves =
    scrolls p.down (p.down :: reported w.detector.thresholds.slop p.down (moved moves))
  := by
  induction moves generalizing w p with
  | nil => rfl
  | cons m rest ih =>
    obtain ⟨⟨hcontact, hlong⟩, hrest⟩ := hstays.of_cons
    rw [gestures, moved_cons]
    obtain ⟨e, hmoved, hdetector, hgesture⟩ | ⟨hmoved, hdetector, hnone⟩ :=
      step_of_stays hp hcontact hlong
    · rw [hmoved, hgesture, List.singleton_append]
      cases hnear : e.isNear w.detector.thresholds.slop p.down with
      | true =>
        have hmove := w.detector.touchMove_of_near hstage hnear
        have hnext := hdetector.trans (congrArg Prod.fst hmove)
        rw [hmove, ih (congrArg Detector.press hnext) hstage hx hy hrest,
          reported_cons_of_near hnear, hnext]
        rfl
      | false =>
        have hmove := w.detector.touchMove_of_far hstage hnear
        have hnext := congrArg Detector.press (hdetector.trans (congrArg Prod.fst hmove))
        rw [hmove, gestures_of_scrolling hnext rfl rfl rfl hrest, reported_cons_of_far hnear,
          scrolls_cons_destutter', hx, hy]
        rfl
    · rw [hmoved, hnone, ih (hdetector ▸ hp) hstage hx hy hrest, hdetector]
      rfl

/-- As long as the press of a down goes on, what is reported is the down and then the scrolls
along the path from it through the reported moves.  From the end of a press to the next down
nothing scrolls, and nothing does before the first. -/
theorem scrolls_without_gaps (thresholds : Thresholds) (front : List Move) :
  let w := (new thresholds).after front
  (∀ now down moves, down.phase = .down → (w.step (.touch now down)).1.Stays moves →
      w.gestures (.touch now down :: moves) =
        .down down :: scrolls down (down :: reported thresholds.slop down (moved moves)))
    ∧ (∀ m quiet, w.Ends m → downs quiet = [] →
      ∀ g ∈ w.gestures (m :: quiet), g.isScroll = false)
    ∧ (downs front = [] → ∀ g ∈ (new thresholds).gestures front, g.isScroll = false)
  := by
  intro w
  refine ⟨?_, ?_, ?_⟩
  · intro now down moves hdown hstays
    obtain ⟨hpress, hgesture⟩ := w.step_of_down now hdown
    have hslop : (w.step (.touch now down)).1.detector.thresholds = thresholds := by
      rw [thresholds_step, thresholds_after]
      rfl
    rw [gestures, hgesture, gestures_of_waiting hpress rfl rfl rfl hstays, hslop]
    rfl
  · intro m quiet hends hquiet
    apply hends.isScroll hquiet
  · intro hdowns
    apply isScroll_of_over _ hdowns
    apply Detector.over_of_no_press rfl

/-- A pointer leaves the slop, stays where it is and comes back to its down, while the alarm
of an earlier press goes off. -/
theorem scrolls_without_gaps_returning :
  let motion (phase : Phase) (x : Float32) (time : Instant) : Motion :=
    { phase, x, y := 20, pointer := 4, time }
  let thresholds : Thresholds :=
    { slop := 8, minFling := 50, maxFling := 8000, longPress := 500 }
  let front : List Move := [.touch 0 (motion .down 70 0), .touch 9 (motion .up 70 9)]
  let down := motion .down 10 20
  let moves : List Move :=
    [.touch 21 (motion .move 14 21), .ring 0, .touch 22 (motion .move 30 22),
      .touch 23 (motion .move 30 23), .touch 24 (motion .unknown 90 24),
      .touch 25 (motion .move 10 25)]
  let w := (new thresholds).after front
  (w.step (.touch 20 down)).1.Stays moves
    ∧ w.gestures (.touch 20 down :: moves) =
      [.down down, .scroll down (motion .move 30 22) (10 - 30) (20 - 20),
        .scroll down (motion .move 10 25) (30 - 10) (20 - 20)]
    ∧ ∀ g ∈ w.gestures [.touch 26 (motion .up 90 26), .touch 27 (motion .move 40 27)],
      g.isScroll = false
  := by
  intro motion thresholds front down moves w
  obtain ⟨hpress, hends, -⟩ := scrolls_without_gaps thresholds front
  have hstays : (w.step (.touch 20 down)).1.Stays moves := by
    have hshort : ((w.step (.touch 20 down)).1.gestures moves).all Gesture.isScroll = true := by
      decide +kernel
    constructor
    · simp [moves, Move.keepsContact, motion]
    · intro long hlong
      cases List.all_eq_true.mp hshort _ hlong
  have hreported : reported 8 down (moved moves) =
      [motion .move 30 22, motion .move 10 25] := by
    have hmoved : moved moves = [motion .move 14 21, motion .move 30 22, motion .move 30 23,
        motion .move 10 25] := rfl
    rw [hmoved, reported_cons_of_near (by decide +kernel), reported_cons_of_far (by decide +kernel),
      List.destutter'_cons_neg _ (by decide +kernel),
      List.destutter'_cons_pos _ (by decide +kernel)]
    rfl
  refine ⟨hstays, ?_, ?_⟩
  · rw [hpress 20 down moves rfl hstays, hreported]
    rfl
  · apply hends (.touch 26 (motion .up 90 26)) [.touch 27 (motion .move 40 27)]
    · exact .inl ⟨26, motion .up 90 26, rfl, .inl rfl⟩
    · rfl

end Watch

end SurfaceHost
