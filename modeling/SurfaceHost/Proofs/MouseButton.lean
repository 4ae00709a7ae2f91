import SurfaceHost.Proofs.Monitor
import SurfaceHost.Proofs.View.Run

/-!
# The mouse button

The engine sees the primary pointer as a mouse whose button is pressed.  As long as the
pointer `-1` is not used, the mouse moves, scrolls and is released only while the button
is pressed, and at every point of a run three things agree: the calls leave the button
pressed, the primary pointer is down, and the detector has a press.
-/

namespace SurfaceHost

/-- Whether a call releases the mouse button. -/
def Call.isMouseUp : Call → Bool
  | .mouseUp _ _ => true
  | .mouseDown _ _ | .mouseMove _ _ | .scroll _ _ _ _ | .longPress _ _ => false
  | .pointerDown _ _ _ | .pointerUp _ _ _ | .pointerMove _ _ _ => false
  | .init _ | .resize _ _ | .redraw | .kinetic _ _ => false

/-- Whether a call takes the mouse button to be pressed. -/
def Call.needsButton : Call → Bool
  | .mouseUp _ _ | .mouseMove _ _ | .scroll _ _ _ _ => true
  | .mouseDown _ _ | .longPress _ _ => false
  | .pointerDown _ _ _ | .pointerUp _ _ _ | .pointerMove _ _ _ => false
  | .init _ | .resize _ _ | .redraw | .kinetic _ _ => false

namespace MouseButton

/-- Calls leave the button pressed: it went down, and has not gone up since. -/
def Pressed (calls : List Call) : Prop :=
  ∃ front x y back, calls = front ++ .mouseDown x y :: back ∧ ∀ c ∈ back, c.isMouseUp = false

/-- The button after a call. -/
def hear (pressed : Bool) : Call → Bool
  | .mouseDown _ _ => true
  | .mouseUp _ _ => false
  | .mouseMove _ _ | .scroll _ _ _ _ | .longPress _ _ => pressed
  | .pointerDown _ _ _ | .pointerUp _ _ _ | .pointerMove _ _ _ => pressed
  | .init _ | .resize _ _ | .redraw | .kinetic _ _ => pressed

/-- Follows the button, and demands that it is pressed for what takes it to be. -/
def monitor : Monitor Call Bool where
  next := hear
  allows pressed c := c.needsButton = true → pressed = true

theorem hear_eq_true {pressed : Bool} {c : Call} (h : hear pressed c = true) :
  (∃ x y, c = .mouseDown x y) ∨ c.isMouseUp = false ∧ pressed = true
  := by
  cases c with
  | mouseDown x y =>
    left
    exact ⟨x, y, rfl⟩
  | mouseUp => simp [hear] at h
  | _ =>
    right
    exact ⟨rfl, h⟩

/-- A pressed button stays pressed until it is released. -/
theorem after_of_not_isMouseUp {calls : List Call} (h : ∀ c ∈ calls, c.isMouseUp = false) :
  monitor.after true calls = true
  := by
  induction calls with
  | nil => rfl
  | cons c rest ih =>
    have hc : monitor.next true c = true := by
      have := h c List.mem_cons_self
      cases c <;> simp_all [monitor, hear, Call.isMouseUp]
    rw [Monitor.after_cons, hc]
    apply ih
    intro d hd
    apply h d (List.mem_cons_of_mem c hd)

/-- A button that ends up pressed was pressed all along, or has been pressed by a call. -/
theorem pressed_of_after {pressed : Bool} {calls : List Call}
    (h : monitor.after pressed calls = true) :
  (pressed = true ∧ ∀ c ∈ calls, c.isMouseUp = false) ∨ Pressed calls
  := by
  induction calls generalizing pressed with
  | nil =>
    left
    exact ⟨h, by simp⟩
  | cons c rest ih =>
    rcases ih h with ⟨hc, hrest⟩ | ⟨front, x, y, back, rfl, hback⟩
    · rcases hear_eq_true hc with ⟨x, y, rfl⟩ | ⟨hup, hpressed⟩
      · right
        exact ⟨[], x, y, rest, rfl, hrest⟩
      · left
        exact ⟨hpressed, List.forall_mem_cons.mpr ⟨hup, hrest⟩⟩
    · right
      exact ⟨c :: front, x, y, back, rfl, hback⟩

/-- The monitor says whether calls leave the button pressed. -/
theorem pressed_iff {calls : List Call} :
  Pressed calls ↔ monitor.after false calls = true
  := by
  constructor
  · rintro ⟨front, x, y, back, rfl, hback⟩
    rw [Monitor.after_append, Monitor.after_cons]
    apply after_of_not_isMouseUp hback
  · intro h
    rcases pressed_of_after h with ⟨hfalse, -⟩ | hpressed
    · simp at hfalse
    · apply hpressed

/-! ### The calls that leave the button alone -/

theorem ignores_of_not_isInput {c : Call} (h : c.isInput = false) :
  monitor.Ignores c
  := by
  intro pressed
  cases c <;> simp_all [monitor, hear, Call.isInput, Call.needsButton]

/-- The report of a single pointer leaves the button alone. -/
theorem ignores_report (pressed : Bool) (c : Capabilities) (e : Motion) :
  monitor.Accepts pressed (if c.pointer then e.pointerCalls else [])
    ∧ monitor.after pressed (if c.pointer then e.pointerCalls else []) = pressed
  := by
  rw [Motion.pointerCalls]
  cases c.pointer
  · exact ⟨trivial, rfl⟩
  · cases e.phase <;> simp [monitor, hear, Call.needsButton]

/-- A gesture leaves the button alone. -/
theorem after_gestureCalls (pressed : Bool) (c : Capabilities) (g : Option Gesture) :
  monitor.after pressed (c.gestureCalls g) = pressed
  := by
  rcases c.gestureCalls_cases g with h | ⟨x, y, dx, dy, h⟩ | ⟨x, y, h⟩ <;> rw [h] <;> rfl

/-- A gesture may always be reported while the button is pressed. -/
theorem accepts_gestureCalls (c : Capabilities) (g : Option Gesture) :
  monitor.Accepts true (c.gestureCalls g)
  := by
  rcases c.gestureCalls_cases g with h | ⟨x, y, dx, dy, h⟩ | ⟨x, y, h⟩ <;> rw [h] <;>
    simp [monitor]

/-- An alarm can only make a press long, which may be reported at any time. -/
theorem accepts_fire (pressed : Bool) (c : Capabilities) (d : Detector) (generation : UInt64) :
  monitor.Accepts pressed (c.gestureCalls (d.fire generation).2)
  := by
  rw [Detector.fire]
  split
  · split
    · trivial
    · simp only [Capabilities.gestureCalls]
      split <;> simp [monitor, Call.needsButton]
  · trivial

/-- What is reported of the primary pointer is in place if it is a down or the button is
pressed, and leaves the button pressed unless it is an up. -/
theorem follows_primary {pressed : Bool} {c : Capabilities} {e : Motion} {g : Option Gesture}
    (he : e.phase = .down ∨ (e.phase = .move ∨ e.phase = .up) ∧ pressed = true)
    (hg : e.phase = .up → c.gestureCalls g = []) :
  monitor.Accepts pressed
      (e.mouseCalls ++ (if c.pointer then e.pointerCalls else []) ++ c.gestureCalls g)
    ∧ monitor.after pressed
      (e.mouseCalls ++ (if c.pointer then e.pointerCalls else []) ++ c.gestureCalls g)
      = decide (e.phase ≠ .up)
  := by
  simp only [Monitor.accepts_append, Monitor.after_append, (ignores_report _ c e).1,
    (ignores_report _ c e).2, after_gestureCalls, and_true]
  rcases he with he | ⟨he | he, rfl⟩
  · simp only [Motion.mouseCalls, he]
    exact ⟨⟨by simp [monitor, Call.needsButton], accepts_gestureCalls c g⟩, rfl⟩
  · simp only [Motion.mouseCalls, he]
    exact ⟨⟨by simp [monitor], accepts_gestureCalls c g⟩, rfl⟩
  · rw [hg he]
    simp [Motion.mouseCalls, he, monitor, hear]

/-- Lifting all contacts releases the button if and only if one of them has the given
pointer. -/
theorem follows_release (c : Capabilities) {cs : Contacts} (hcs : cs.Ascending) (p : Int64) :
  monitor.Accepts (cs.contains p) (c.releaseCalls (cs.map fun d => (d, d.pointer == p)))
    ∧ monitor.after (cs.contains p) (c.releaseCalls (cs.map fun d => (d, d.pointer == p))) = false
  := by
  induction cs with
  | nil => exact ⟨trivial, rfl⟩
  | cons d rest ih =>
    have hrest := ih (Contacts.ascending_cons.mp hcs).2
    -- The button is released at the first contact if the pointer is there, and then it is
    -- not among the others.
    have hmouse :
        monitor.Accepts (Contacts.contains (d :: rest) p)
            (if d.pointer == p then [.mouseUp (Word.truncate32 d.x) (Word.truncate32 d.y)] else [])
          ∧ monitor.after (Contacts.contains (d :: rest) p)
            (if d.pointer == p then [.mouseUp (Word.truncate32 d.x) (Word.truncate32 d.y)] else [])
            = Contacts.contains rest p := by
      by_cases hp : d.pointer = p
      · subst hp
        have htail : Contacts.contains rest d.pointer = false := by
          rw [← Bool.not_eq_true, Contacts.contains_iff]
          rintro ⟨b, hb, heq⟩
          apply hcs.ne_of_mem_tail hb heq
        rw [htail]
        simp [monitor, hear, Contacts.contains]
      · simp [hp, Contacts.contains]
    have hreport : ∀ pressed,
        monitor.Accepts pressed (if c.pointer then [.pointerUp d.x d.y d.pointer] else [])
          ∧ monitor.after pressed (if c.pointer then [.pointerUp d.x d.y d.pointer] else [])
            = pressed := by
      intro pressed
      cases c.pointer <;> simp [monitor, hear, Call.needsButton]
    simp only [List.map_cons, Capabilities.releaseCalls, Monitor.accepts_append,
      Monitor.after_append, hmouse.2, fun pressed => (hreport pressed).2]
    exact ⟨⟨⟨hmouse.1, (hreport _).1⟩, hrest.1⟩, hrest.2⟩

end MouseButton

/-! ### The press of the detector -/

namespace Detector

/-- A detector has a press from a down until an up or a cancel. -/
theorem isSome_press_touch (d : Detector) (now : Instant) (e : Motion) :
  (d.touch now e).1.press.isSome =
    match e.phase with
    | .down => true
    | .move | .unknown => d.press.isSome
    | .up | .cancel => false
  := by
  cases he : e.phase with
  | down => simp [touch, he, touchDown]
  | move =>
    cases hpress : d.press with
    | none => simp [touch, he, hpress]
    | some p =>
      simp only [touch, he, hpress, touchMove]
      split
      · simp [hpress]
      · split <;> rfl
      · split <;> rfl
  | up => cases hpress : d.press <;> simp [touch, he, hpress]
  | cancel => simp [touch, he]
  | unknown => simp [touch, he]

theorem isSome_press_fire (d : Detector) (generation : UInt64) :
  (d.fire generation).1.press.isSome = d.press.isSome
  := by
  rw [fire]
  split
  · rename_i p hpress
    split
    · rfl
    · rw [hpress]
      rfl
  · rfl

end Detector

namespace InputSide

open MouseButton (monitor)

variable {s t : InputSide}

/-- The mouse calls are in place, and the button, the primary pointer and the detector
agree. -/
structure Agrees (s : InputSide) : Prop where
  ascending : s.contacts.Ascending
  unused : s.contacts.contains (-1) = false
  accepts : monitor.Accepts false s.calls
  button : monitor.after false s.calls = s.contacts.contains s.primary
  press : s.detector.press.isSome = s.contacts.contains s.primary

/-- Further calls that are in place and lead to the button that the primary pointer calls
for keep the three in step. -/
theorem Agrees.extend (h : s.Agrees) (hcs : t.contacts.Ascending)
    (hunused : t.contacts.contains (-1) = false) {added : List Call}
    (hcalls : t.calls = s.calls ++ added)
    (hadded : monitor.Accepts (s.contacts.contains s.primary) added
      ∧ monitor.after (s.contacts.contains s.primary) added = t.contacts.contains t.primary)
    (hpress : t.detector.press.isSome = t.contacts.contains t.primary) :
  t.Agrees
  := by
  constructor
  · apply hcs
  · apply hunused
  · rw [hcalls, Monitor.accepts_append, h.button]
    exact ⟨h.accepts, hadded.1⟩
  · rw [hcalls, Monitor.after_append, h.button]
    apply hadded.2
  · apply hpress

/-- A motion of the primary pointer leaves that pointer down unless it is an up. -/
theorem contains_primary_touch {e : Motion} (hcounts : s.counts e = true)
    (hp : e.pointer = s.primaryFor e) (hunused : (s.touch e).contacts.contains (-1) = false) :
  (s.touch e).contacts.contains (s.touch e).primary = decide (e.phase ≠ .up)
  := by
  by_cases hup : e.phase = .up
  · have hp' : e.pointer = s.primary := by rw [hp, primaryFor_of_ne_down (by simp [hup])]
    rw [primary_touch, if_pos (Or.inr ⟨hup, hcounts, hp'⟩), hunused]
    simp [hup]
  · rw [primary_touch, if_neg (by simp [ne_cancel_of_counts hcounts, hup]), ← hp,
      contacts_touch, if_pos (Or.inr hcounts)]
    rcases (s.counts_iff e).mp hcounts with he | ⟨he | he, -⟩
    · simp [Contacts.follow, he]
    · simp [Contacts.follow, he]
    · exact absurd he hup

/-- A motion of another pointer does not change which pointer is primary. -/
theorem primary_touch_of_secondary {e : Motion} (hcounts : s.counts e = true)
    (hp : e.pointer ≠ s.primaryFor e) :
  (s.touch e).primary = s.primary ∧ s.primary ≠ e.pointer
  := by
  have hfor : s.primaryFor e = s.primary := by
    apply if_neg
    rintro ⟨hdown, hempty⟩
    apply hp
    rw [primaryFor, if_pos ⟨hdown, hempty⟩]
  rw [hfor] at hp
  constructor
  · rw [primary_touch, if_neg (by simp [ne_cancel_of_counts hcounts, hp]), hfor]
  · apply Ne.symm hp

theorem Agrees.touch (h : s.Agrees) {e : Motion} (hpointer : e.pointer ≠ -1) :
  (s.touch e).Agrees
  := by
  have hcs := ascending_touch h.ascending e
  obtain hcancel | ⟨hcounts, hp⟩ | ⟨hcounts, hp⟩ | ⟨hcancel, hcounts⟩ := s.touch_cases e
  · rw [touch_of_cancel hcancel]
    apply h.extend Contacts.ascending_nil rfl rfl (MouseButton.follows_release _ h.ascending s.primary)
    apply (Detector.isSome_press_touch s.detector s.now e).trans
    rw [hcancel]
    rfl
  · have hunused : (s.touch e).contacts.contains (-1) = false := by
      rw [contains_touch_of_ne (Ne.symm hpointer) (ne_cancel_of_counts hcounts), h.unused]
    -- The primary pointer is down unless it goes down just now.
    have hpressed : e.phase = .down
        ∨ (e.phase = .move ∨ e.phase = .up) ∧ s.contacts.contains s.primary = true := by
      rcases (s.counts_iff e).mp hcounts with he | ⟨he, hdown⟩
      · left
        apply he
      · right
        rw [hp, primaryFor_of_ne_down (by rcases he with he | he <;> simp [he])] at hdown
        exact ⟨he, hdown⟩
    apply h.extend hcs hunused (calls_of_primary hcounts hp)
    · rw [contains_primary_touch hcounts hp hunused]
      apply MouseButton.follows_primary hpressed
      intro hup
      apply Capabilities.gestureCalls_touch _ _ _ (.inl hup)
    · rw [contains_primary_touch hcounts hp hunused, detector_touch,
        if_pos (Or.inr ⟨hcounts, hp⟩), Detector.isSome_press_touch]
      rcases hpressed with he | ⟨he | he, hdown⟩
      · simp [he]
      · simp [he, h.press, hdown]
      · simp [he]
  · obtain ⟨hprimary, hne⟩ := primary_touch_of_secondary hcounts hp
    have hcontains {p : Int64} (hne : p ≠ e.pointer) :=
      contains_touch_of_ne (s := s) hne (ne_cancel_of_counts hcounts)
    obtain ⟨haccepts, hafter⟩ :=
      MouseButton.ignores_report (s.contacts.contains s.primary) s.capabilities e
    apply h.extend hcs _ (calls_of_secondary hcounts hp)
    · rw [hprimary, hcontains hne]
      exact ⟨haccepts, hafter⟩
    · rw [hprimary, hcontains hne, detector_touch,
        if_neg (by simp [ne_cancel_of_counts hcounts, hp]), h.press]
    · rw [hcontains (Ne.symm hpointer), h.unused]
  · rw [touch_of_not_counts hcancel hcounts]
    apply h

theorem Agrees.fire (h : s.Agrees) (generation : UInt64) :
  (s.fire generation).Agrees
  := by
  apply h.extend (t := s.fire generation) h.ascending h.unused rfl
  · exact ⟨MouseButton.accepts_fire _ _ _ _, MouseButton.after_gestureCalls _ _ _⟩
  · apply (Detector.isSome_press_fire _ _).trans h.press

/-- Motions of all pointers but `-1`, alarms and the passing of time keep button, primary
pointer and detector in step. -/
theorem kept_agrees :
  Kept (fun p => p ≠ -1) Agrees
  := by
  constructor
  · intro s e hpointer h
    apply h.touch hpointer
  · intro s generation h
    apply h.fire
  · intro s now alarm h
    exact ⟨h.ascending, h.unused, h.accepts, h.button, h.press⟩

end InputSide

namespace View

open MouseButton (monitor Pressed)

/-- In every run that does not use the pointer `-1`, the mouse moves, scrolls and is
released only while its button is pressed.  After every step, the calls received and those
still waiting leave the button pressed exactly if the primary pointer is down, and exactly
if the detector has a press. -/
theorem button_follows_primary (settings : Settings) (capabilities : Capabilities)
    (surface : Surface) (clockRate : Int) (acts : List Act)
    (hpointers : ∀ a ∈ acts, ∀ p ∈ a.pointers, p ≠ -1) :
  let v := (new settings capabilities surface clockRate).after acts
  (∀ front c back, v.calls = front ++ c :: back → c.needsButton = true → Pressed front)
    ∧ (Pressed v.calls ↔ v.contacts.contains v.primary = true)
    ∧ (v.contacts.contains v.primary = true ↔ v.detector.press.isSome = true)
  := by
  intro v
  obtain ⟨s, bodies, hshows, hagrees, -⟩ : v.Holds (fun p => p ≠ -1) InputSide.Agrees := by
    apply holds_after_new InputSide.kept_agrees _ _ _ _ _ hpointers
    exact ⟨Contacts.ascending_nil, rfl, trivial, rfl, rfl⟩
  obtain rfl := hshows.input_eq
  have haccepts : monitor.Accepts false v.calls := by
    rw [← Monitor.accepts_filter monitor (fun _ => MouseButton.ignores_of_not_isInput),
      ← hshows.calls_eq]
    apply hagrees.accepts
  have hafter : monitor.after false v.calls = v.contacts.contains v.primary := by
    rw [← Monitor.after_filter monitor (fun _ => MouseButton.ignores_of_not_isInput),
      ← hshows.calls_eq]
    apply hagrees.button
  refine ⟨?_, ?_, ?_⟩
  · intro front c back hcalls hneeds
    apply MouseButton.pressed_iff.mpr
    apply haccepts.allows _ hcalls hneeds
  · rw [MouseButton.pressed_iff, hafter]
  · have hpress : v.detector.press.isSome = v.contacts.contains v.primary := hagrees.press
    rw [hpress]

/-- A press beside another pointer that scrolls and is drawn, and whose alarm goes off late. -/
theorem button_follows_primary_scrolled :
  let acts : List Act :=
    [.step (.host (.send (.lifecycle 0 3))), .step .start,
      .step (.host (.touch .down 10 20 4 none)), .step (.host (.touch .down 30 40 2 none)),
      .step (.host (.touch .move 90 20 4 none)), .step .frame, .alarm 1]
  let v := (new Settings.default Capabilities.all {} 1).after acts
  (∀ a ∈ acts, ∀ p ∈ a.pointers, p ≠ -1) ∧ Pressed v.calls ∧ v.detector.press.isSome = true
  := by
  intro acts v
  have hpointers : ∀ a ∈ acts, ∀ p ∈ a.pointers, p ≠ -1 := by
    simp [acts, Act.pointers, HostStep.pointers]
  have hdown : v.contacts.contains v.primary = true := by
    have hinput := input_after_new Settings.default Capabilities.all {} 1 acts
      (by simp [acts, Act.isPlain])
    have h : v.input.contacts.contains v.input.primary = true := by
      rw [show v.input = _ from hinput]
      rfl
    apply h
  obtain ⟨-, hpressed, hpress⟩ :=
    button_follows_primary Settings.default Capabilities.all {} 1 acts hpointers
  exact ⟨hpointers, hpressed.mpr hdown, hpress.mp hdown⟩

end View

end SurfaceHost
