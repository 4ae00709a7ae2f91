import SurfaceHost.Proofs.GestureGrammar

/-!
# Presses

A press goes on from its down for as long as there is no other down, no up, no cancel and no
long press.  While it goes on, nothing happens to it but that its pointer moves
(`Watch.step_of_stays`).  Once it is over, nothing scrolls until the next down
(`Watch.Ends.isScroll`).
-/

namespace SurfaceHost

/-- Whether a gesture is a scroll. -/
def Gesture.isScroll : Gesture → Bool
  | .scroll .. => true
  | _ => false

namespace Detector

variable {d : Detector} {p : Press} {e : Motion}

/-- A scroll goes on waiting for movement while there is none. -/
theorem touchMove_of_still (hstage : p.stage = .scrolling)
    (hstill : (p.lastX - e.x == 0 && p.lastY - e.y == 0) = true) :
  d.touchMove p e = ({ d with press := some { p with track := p.track.add e } }, none)
  := by
  simp only [touchMove, hstage, if_pos hstill]

theorem touchMove_of_apart (hstage : p.stage = .scrolling)
    (hapart : ¬(p.lastX - e.x == 0 && p.lastY - e.y == 0) = true) :
  d.touchMove p e =
    ({ d with
        press := some
          { p with
            track := p.track.add e
            lastX := e.x
            lastY := e.y
            stage := .scrolling } },
      some (.scroll p.down e (p.lastX - e.x) (p.lastY - e.y)))
  := by
  simp only [touchMove, hstage, if_neg hapart]

/-- Every move of a press that is not long is tracked, and the press scrolls from its first
scroll on. -/
theorem press_touchMove (hstage : p.stage ≠ .held) :
  ∃ p', (d.touchMove p e).1.press = some p'
    ∧ p'.down = p.down ∧ p'.track = p.track.add e ∧ p'.stage ≠ .held
    ∧ (p'.stage = .scrolling ↔
      p.stage = .scrolling ∨ (d.touchMove p e).2.toList.any Gesture.isScroll = true)
  := by
  cases hp : p.stage with
  | waiting =>
    cases hnear : e.isNear d.thresholds.slop p.down with
    | true =>
      rw [touchMove_of_near hp hnear]
      exact ⟨_, rfl, rfl, rfl, hstage, by simp [hp]⟩
    | false =>
      rw [touchMove_of_far hp hnear]
      exact ⟨_, rfl, rfl, rfl, by simp, by simp [Gesture.isScroll]⟩
  | scrolling =>
    by_cases hstill : (p.lastX - e.x == 0 && p.lastY - e.y == 0) = true
    · rw [touchMove_of_still hp hstill]
      exact ⟨_, rfl, rfl, rfl, hstage, by simp [hp]⟩
    · rw [touchMove_of_apart hp hstill]
      exact ⟨_, rfl, rfl, rfl, by simp, by simp⟩
  | held => contradiction

/-- A detector has no press, or one that is long. -/
def Over (d : Detector) : Prop :=
  ∀ down stage, d.outline = some (down, stage) → stage = .held

theorem over_of_no_press (h : d.outline = none) :
  d.Over
  := by
  intro down stage hsome
  rw [h] at hsome
  cases hsome

theorem over_of_held {down : Motion} (h : d.outline = some (down, .held)) :
  d.Over
  := by
  intro down' stage hsome
  rw [h] at hsome
  obtain ⟨-, rfl⟩ := Prod.mk.inj (Option.some.inj hsome)
  rfl

end Detector

/-- The press that begins with a down. -/
def Press.begunBy (down : Motion) : Press where
  down
  lastX := down.x
  lastY := down.y
  track := Track.add [] down
  stage := .waiting

namespace Watch

/-- Whether a move leaves the pointer down or up as it is. -/
def Move.keepsContact : Move → Bool
  | .touch _ e =>
    match e.phase with
    | .down | .up | .cancel => false
    | .move | .unknown => true
  | .ring _ => true

/-- The motions among some moves that are moves of the pointer. -/
def moved (moves : List Move) : List Motion :=
  moves.flatMap fun
    | .touch _ e => if e.phase = .move then [e] else []
    | .ring _ => []

/-- The press of a watch goes on during some moves: the pointer stays down, and the press
does not become long. -/
def Stays (w : Watch) (moves : List Move) : Prop :=
  (∀ m ∈ moves, m.keepsContact = true) ∧ ∀ down, .longPress down ∉ w.gestures moves

variable {w : Watch} {m : Move} {rest : List Move}

theorem moved_cons (m : Move) (rest : List Move) :
  moved (m :: rest) = moved [m] ++ moved rest
  := by
  simp [moved]

theorem Stays.of_cons (h : w.Stays (m :: rest)) :
  (m.keepsContact = true ∧ ∀ down, (w.step m).2 ≠ some (.longPress down))
    ∧ (w.step m).1.Stays rest
  := by
  obtain ⟨hcontact, hlong⟩ := h
  obtain ⟨hm, hrest⟩ := List.forall_mem_cons.mp hcontact
  refine ⟨⟨hm, ?_⟩, hrest, ?_⟩
  · intro down hdown
    apply hlong down
    rw [gestures, hdown]
    apply List.mem_append_left
    simp
  · intro down hdown
    apply hlong down
    apply List.mem_append_right _ hdown

theorem step_of_down (w : Watch) (now : Instant) {down : Motion} (hdown : down.phase = .down) :
  (w.step (.touch now down)).1.detector.press = some (.begunBy down)
    ∧ (w.step (.touch now down)).2 = some (.down down)
  := by
  have htouch : w.detector.touch now down = w.detector.touchDown now down := by
    simp only [Detector.touch, hdown]
  rw [step]
  constructor
  · rw [detector_touch, htouch]
    rfl
  · rw [touch, htouch]
    rfl

/-- An alarm makes a press long, or it does nothing. -/
theorem ring_cases (w : Watch) (i : Nat) :
  ((w.ring i).1.detector = w.detector ∧ (w.ring i).2 = none)
    ∨ ∃ down, (w.ring i).1.detector.outline = some (down, .held)
      ∧ (w.ring i).2 = some (.longPress down)
  := by
  cases halarm : w.alarms[i]? with
  | none =>
    left
    rw [ring_of_none halarm]
    exact ⟨rfl, rfl⟩
  | some a =>
    rw [ring_of_some halarm]
    obtain hsame | ⟨down, -, -, -, -, hheld, -, hgesture⟩ := w.detector.fire_cases a.generation
    · left
      rw [hsame]
      exact ⟨rfl, rfl⟩
    · exact .inr ⟨down, hheld, hgesture⟩

theorem thresholds_step (w : Watch) (m : Move) :
  (w.step m).1.detector.thresholds = w.detector.thresholds
  := by
  cases m with
  | touch now e => apply Detector.thresholds_touch
  | ring i =>
    rw [step, ring]
    split
    · apply Detector.thresholds_fire
    · rfl

theorem thresholds_after (w : Watch) (moves : List Move) :
  (w.after moves).detector.thresholds = w.detector.thresholds
  := by
  induction moves generalizing w with
  | nil => rfl
  | cons m rest ih => apply (ih (w.step m).1).trans (thresholds_step w m)

/-- While a press goes on, its pointer moves or nothing happens. -/
theorem step_of_stays {p : Press} (hp : w.detector.press = some p)
    (hcontact : m.keepsContact = true) (hlong : ∀ down, (w.step m).2 ≠ some (.longPress down)) :
  (∃ e, moved [m] = [e] ∧ (w.step m).1.detector = (w.detector.touchMove p e).1
      ∧ (w.step m).2 = (w.detector.touchMove p e).2)
    ∨ moved [m] = [] ∧ (w.step m).1.detector = w.detector ∧ (w.step m).2 = none
  := by
  cases m with
  | touch now e =>
    rw [Move.keepsContact] at hcontact
    split at hcontact
    · cases hcontact
    · cases hcontact
    · cases hcontact
    · rename_i he
      have htouch : w.detector.touch now e = w.detector.touchMove p e := by
        simp only [Detector.touch, he, hp]
      left
      refine ⟨e, by simp [moved, he], ?_, ?_⟩
      · rw [← htouch]
        rfl
      · rw [← htouch]
        rfl
    · rename_i he
      have htouch : w.detector.touch now e = (w.detector, none) := by
        simp only [Detector.touch, he]
      right
      refine ⟨by simp [moved, he], ?_, ?_⟩
      · rw [step, detector_touch, htouch]
      · rw [step, touch, htouch]
  | ring i =>
    right
    rw [step] at hlong ⊢
    refine ⟨rfl, ?_⟩
    obtain hsame | ⟨down, -, hgesture⟩ := w.ring_cases i
    · apply hsame
    · exact absurd hgesture (hlong down)

/-! ### After the end -/

/-- Whether a move ends the press of a watch, if it has one. -/
def Ends (w : Watch) (m : Move) : Prop :=
  (∃ now e, m = .touch now e ∧ (e.phase = .up ∨ e.phase = .cancel))
    ∨ ∃ down, (w.step m).2 = some (.longPress down)

theorem Ends.over (h : w.Ends m) :
  (w.step m).1.detector.Over ∧ ∀ g ∈ (w.step m).2, g.isScroll = false
  := by
  rcases h with ⟨now, e, rfl, he⟩ | ⟨down, hlong⟩
  · obtain ⟨houtline, hfling⟩ := (w.detector.takes_touch now e).of_lift he
    constructor
    · apply Detector.over_of_no_press houtline
    · intro g hg
      obtain ⟨-, down, vx, vy, rfl⟩ := hfling g hg
      rfl
  · cases m with
    | touch now e => exact absurd hlong ((w.detector.takes_touch now e).ne_longPress down)
    | ring i =>
      rw [step] at hlong ⊢
      obtain ⟨-, hnone⟩ | ⟨down', hheld, -⟩ := w.ring_cases i
      · rw [hnone] at hlong
        cases hlong
      · rw [hlong]
        constructor
        · apply Detector.over_of_held hheld
        · rintro _ ⟨⟩
          rfl

/-- Until the next down, a press that is over stays so, and nothing scrolls. -/
theorem over_step (h : w.detector.Over) (hdowns : downs [m] = []) :
  (w.step m).1.detector.Over ∧ ∀ g ∈ (w.step m).2, g.isScroll = false
  := by
  cases m with
  | touch now e =>
    have hne : e.phase ≠ .down := by
      intro he
      simp [downs, he] at hdowns
    have htakes := w.detector.takes_touch now e
    rw [step, detector_touch, show (w.touch now e).2 = (w.detector.touch now e).2 from rfl]
    generalize w.detector.touch now e = next at htakes ⊢
    obtain ⟨d', g⟩ := next
    simp only at htakes ⊢
    cases htakes with
    | down phase => contradiction
    | scroll _ before free => exact absurd (h _ _ before) free
    | still _ outline =>
      refine ⟨?_, by simp⟩
      rw [Detector.Over, outline]
      apply h
    | lift _ outline => exact ⟨Detector.over_of_no_press outline, by simp⟩
    | fling _ before =>
      cases h _ _ before
  | ring i =>
    rw [step]
    obtain ⟨hdetector, hnone⟩ | ⟨down, hheld, hlong⟩ := w.ring_cases i
    · rw [hdetector, hnone]
      exact ⟨h, by simp⟩
    · rw [hlong]
      constructor
      · apply Detector.over_of_held hheld
      · rintro _ ⟨⟩
        rfl

/-- Once a press is over, nothing scrolls until the next down. -/
theorem isScroll_of_over (h : w.detector.Over) {quiet : List Move} (hquiet : downs quiet = []) :
  ∀ g ∈ w.gestures quiet, g.isScroll = false
  := by
  induction quiet generalizing w with
  | nil => simp [gestures]
  | cons m rest ih =>
    obtain ⟨hm, hrest⟩ := List.append_eq_nil_iff.mp ((downs_append [m] rest).symm.trans hquiet)
    obtain ⟨hover, hstep⟩ := over_step h hm
    intro g hg
    rcases List.mem_append.mp hg with hg | hg
    · apply hstep g (Option.mem_toList.mp hg)
    · apply ih hover hrest g hg

/-- After the end of a press, nothing scrolls until the next down. -/
theorem Ends.isScroll (h : w.Ends m) {quiet : List Move} (hquiet : downs quiet = []) :
  ∀ g ∈ w.gestures (m :: quiet), g.isScroll = false
  := by
  obtain ⟨hover, hstep⟩ := h.over
  intro g hg
  rcases List.mem_append.mp hg with hg | hg
  · apply hstep g (Option.mem_toList.mp hg)
  · apply isScroll_of_over hover hquiet g hg

end Watch

end SurfaceHost
