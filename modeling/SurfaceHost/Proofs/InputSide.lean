import Mathlib.Tactic.Common
import SurfaceHost.View.Basic
import SurfaceHost.Proofs.Contacts

/-!
# The input side of a view

The input side is what a view would be if it called the engine at once: it knows the
contacts, the primary pointer, the detector and the clock, and it lists the input calls
in the order in which they come about.  It has no backlog, no surface and no frames.
One rule says what a motion does, whatever its phase: it may act as the mouse, it may be
reported as a single pointer, and it may make a gesture.
-/

namespace SurfaceHost

/-- Whether a call reports input, and not the surface, a frame or a fling. -/
def Call.isInput : Call → Bool
  | .mouseDown _ _ | .mouseUp _ _ | .mouseMove _ _ | .scroll _ _ _ _ => true
  | .pointerDown _ _ _ | .pointerUp _ _ _ | .pointerMove _ _ _ | .longPress _ _ => true
  | .init _ | .resize _ _ | .redraw | .kinetic _ _ => false

/-! ### The calls that a motion leads to -/

/-- What the mouse does when the primary pointer makes a motion. -/
def Motion.mouseCalls (e : Motion) : List Call :=
  match e.phase with
  | .down => [.mouseDown (Word.truncate32 e.x) (Word.truncate32 e.y)]
  | .move => [.mouseMove (Word.truncate32 e.x) (Word.truncate32 e.y)]
  | .up => [.mouseUp (Word.truncate32 e.x) (Word.truncate32 e.y)]
  | .cancel | .unknown => []

/-- How a motion is reported as that of a single pointer. -/
def Motion.pointerCalls (e : Motion) : List Call :=
  match e.phase with
  | .down => [.pointerDown e.x e.y e.pointer]
  | .move => [.pointerMove e.x e.y e.pointer]
  | .up => [.pointerUp e.x e.y e.pointer]
  | .cancel | .unknown => []

/-- How a gesture is reported to an engine.  The end of one that flings is not. -/
def Capabilities.gestureCalls (c : Capabilities) : Option Gesture → List Call
  | some (.scroll down _ dx dy) =>
    [.scroll (Word.truncate32 down.x) (Word.truncate32 down.y) dx dy]
  | some (.longPress down) =>
    if c.longPress then [.longPress (Word.truncate32 down.x) (Word.truncate32 down.y)] else []
  | some (.down _) | some (.fling _ _ _ _) | none => []

/-- How contacts are lifted one by one, the primary one also as the mouse. -/
def Capabilities.releaseCalls (c : Capabilities) : List (Contact × Bool) → List Call
  | [] => []
  | (d, isPrimary) :: rest =>
    (if isPrimary then [.mouseUp (Word.truncate32 d.x) (Word.truncate32 d.y)] else [])
      ++ (if c.pointer then [.pointerUp d.x d.y d.pointer] else [])
      ++ c.releaseCalls rest

/-- At most one call reports a gesture, for a scroll or for a long press. -/
theorem Capabilities.gestureCalls_cases (c : Capabilities) (g : Option Gesture) :
  c.gestureCalls g = []
    ∨ (∃ x y dx dy, c.gestureCalls g = [.scroll x y dx dy])
    ∨ ∃ x y, c.gestureCalls g = [.longPress x y]
  := by
  cases g with
  | none => exact .inl rfl
  | some g =>
    cases g with
    | scroll down current dx dy => exact .inr (.inl ⟨_, _, _, _, rfl⟩)
    | longPress down =>
      cases hc : c.longPress with
      | true => exact .inr (.inr ⟨_, _, if_pos hc⟩)
      | false => exact .inl (if_neg (by simp [hc]))
    | down | fling => exact .inl rfl

/-- Nothing is reported of a gesture that ends, a fling included. -/
theorem Capabilities.gestureCalls_touch (c : Capabilities) (d : Detector) (now : Instant)
    {e : Motion} (he : e.phase = .up ∨ e.phase = .cancel) :
  c.gestureCalls (d.touch now e).2 = []
  := by
  rcases he with he | he
  · cases hpress : d.press with
    | none => simp [Detector.touch, he, hpress, gestureCalls]
    | some p =>
      simp only [Detector.touch, he, hpress, Detector.fling?]
      split
      · split <;> rfl
      · rfl
      · rfl
  · simp [Detector.touch, he, gestureCalls]

/-- The contacts after a motion that counts. -/
def Contacts.follow (cs : Contacts) (e : Motion) : Contacts :=
  match e.phase with
  | .down | .move => cs.insert ⟨e.pointer, e.x, e.y⟩
  | .up => cs.erase e.pointer
  | .cancel => []
  | .unknown => cs

theorem Contacts.follow_of_cancel {e : Motion} (he : e.phase = .cancel) (cs : Contacts) :
  cs.follow e = []
  := by
  rw [follow, he]

theorem Contacts.Ascending.follow {cs : Contacts} (h : cs.Ascending) (e : Motion) :
  (cs.follow e).Ascending
  := by
  rw [Contacts.follow]
  split
  · apply h.insert
  · apply h.insert
  · apply h.erase
  · apply ascending_nil
  · apply h

/-! ### The input side -/

/-- What a view knows of its input, and the input calls so far. -/
structure InputSide where
  capabilities : Capabilities
  detector : Detector
  contacts : Contacts
  primary : Int64
  now : Instant
  clockRate : Int
  calls : List Call

namespace InputSide

/-- Adds calls. -/
def add (s : InputSide) (cs : List Call) : InputSide :=
  { s with calls := s.calls ++ cs }

@[simp]
theorem add_nil (s : InputSide) :
  s.add [] = s
  := by
  simp [add]

/-- Whether a motion of one pointer counts: a move or an up only while it is down. -/
def counts (s : InputSide) (e : Motion) : Bool :=
  match e.phase with
  | .down => true
  | .move | .up => s.contacts.contains e.pointer
  | .cancel | .unknown => false

/-- The primary pointer that a motion finds: a down that finds no pointer down makes its
own pointer the primary one. -/
def primaryFor (s : InputSide) (e : Motion) : Int64 :=
  if e.phase = .down ∧ s.contacts = [] then e.pointer else s.primary

/-- Lets the detector see a motion. -/
def detect (s : InputSide) (e : Motion) : InputSide :=
  { s with detector := (s.detector.touch s.now e).1 }.add
    (s.capabilities.gestureCalls (s.detector.touch s.now e).2)

/-- Takes in a motion that counts: it is reported as the mouse if its pointer is the
primary one, and then also seen by the detector. -/
def follow (s : InputSide) (e : Motion) : InputSide :=
  let primary := s.primaryFor e
  let s := { s with contacts := s.contacts.follow e, primary }
  let pointerCalls := if s.capabilities.pointer then e.pointerCalls else []
  if e.pointer = primary then
    { (s.add (e.mouseCalls ++ pointerCalls)).detect e with
      primary := if e.phase = .up then -1 else primary }
  else
    s.add pointerCalls

/-- Lifts every pointer that is down. -/
def cancel (s : InputSide) (e : Motion) : InputSide :=
  { s with
    contacts := []
    primary := -1
    detector := (s.detector.touch s.now e).1
    calls := s.calls ++
      s.capabilities.releaseCalls (s.contacts.map fun c => (c, c.pointer == s.primary)) }

/-- Takes in one motion. -/
def touch (s : InputSide) (e : Motion) : InputSide :=
  if e.phase = .cancel then s.cancel e
  else if s.counts e then s.follow e
  else s

/-- The alarm of a generation goes off. -/
def fire (s : InputSide) (generation : UInt64) : InputSide :=
  { s with detector := (s.detector.fire generation).1 }.add
    (s.capabilities.gestureCalls (s.detector.fire generation).2)

/-- Lets time pass; the alarm of the current generation goes off if it is due. -/
def advance (s : InputSide) (ns : Int) : InputSide :=
  let now := s.now + max ns 0
  if s.detector.alarm.any (· ≤ now) then
    { s with now, detector := { s.detector with alarm := none } }.fire s.detector.generation
  else
    { s with now }

theorem advance_of_due {s : InputSide} {ns : Int}
    (h : s.detector.alarm.any (· ≤ s.now + max ns 0) = true) :
  s.advance ns =
    { s with
      now := s.now + max ns 0
      detector := { s.detector with alarm := none } }.fire s.detector.generation
  := if_pos h

theorem advance_of_not_due {s : InputSide} {ns : Int}
    (h : ¬ s.detector.alarm.any (· ≤ s.now + max ns 0) = true) :
  s.advance ns = { s with now := s.now + max ns 0 }
  := if_neg h

/-- Carries out one step of the host. -/
def perform (s : InputSide) : HostStep → InputSide
  | .touch phase x y pointer time =>
    s.touch { phase, x, y, pointer, time := time.getD s.now }
  | .send (.touch phase x y pointer) =>
    s.touch { phase, x, y, pointer, time := s.now * s.clockRate }
  | .advance ns => s.advance ns
  | .send (.lifecycle _ _) | .send (.size _ _) | .send .paint | .send (.other _) => s
  | .post _ _ | .postNone | .fail _ | .look => s

/-! ### What a motion changes -/

variable {s : InputSide} {e : Motion}

/-- A motion that counts is a down, or a move or an up of a pointer that is down. -/
theorem counts_iff (s : InputSide) (e : Motion) :
  s.counts e = true
    ↔ e.phase = .down ∨ (e.phase = .move ∨ e.phase = .up) ∧ s.contacts.contains e.pointer = true
  := by
  rw [counts]
  cases e.phase <;> simp

theorem ne_cancel_of_counts (hcounts : s.counts e = true) :
  e.phase ≠ .cancel
  := by
  intro he
  simp [counts, he] at hcounts

/-- Only a down changes who is primary. -/
theorem primaryFor_of_ne_down (hdown : e.phase ≠ .down) :
  s.primaryFor e = s.primary
  := by
  rw [primaryFor, if_neg (by simp [hdown])]

theorem touch_of_cancel (hcancel : e.phase = .cancel) :
  s.touch e = s.cancel e
  := if_pos hcancel

/-- A motion that counts acts as the mouse if its pointer is the primary one. -/
theorem touch_of_primary (hcounts : s.counts e = true) (hp : e.pointer = s.primaryFor e) :
  s.touch e =
    { ({ s with contacts := s.contacts.follow e }.add
          (e.mouseCalls ++ if s.capabilities.pointer then e.pointerCalls else [])).detect e with
      primary := if e.phase = .up then -1 else s.primaryFor e }
  := by
  rw [touch, if_neg (ne_cancel_of_counts hcounts), if_pos hcounts, follow, if_pos hp]
  rfl

/-- A motion that counts is reported as a single pointer only if its pointer is not the
primary one. -/
theorem touch_of_secondary (hcounts : s.counts e = true) (hp : e.pointer ≠ s.primaryFor e) :
  s.touch e =
    { s with contacts := s.contacts.follow e, primary := s.primaryFor e }.add
      (if s.capabilities.pointer then e.pointerCalls else [])
  := by
  rw [touch, if_neg (ne_cancel_of_counts hcounts), if_pos hcounts, follow, if_neg hp]

theorem touch_of_not_counts (hcancel : e.phase ≠ .cancel) (hcounts : s.counts e = false) :
  s.touch e = s
  := by
  rw [touch, if_neg hcancel, if_neg (by simp [hcounts])]

/-- A motion is a cancel, or it counts and is of the primary pointer or of another one, or
it does not count. -/
theorem touch_cases (s : InputSide) (e : Motion) :
  e.phase = .cancel
    ∨ (s.counts e = true ∧ e.pointer = s.primaryFor e)
    ∨ (s.counts e = true ∧ e.pointer ≠ s.primaryFor e)
    ∨ (e.phase ≠ .cancel ∧ s.counts e = false)
  := by
  by_cases hcancel : e.phase = .cancel
  · left
    apply hcancel
  · right
    cases hcounts : s.counts e with
    | true =>
      by_cases hp : e.pointer = s.primaryFor e
      · left
        exact ⟨rfl, hp⟩
      · right
        left
        exact ⟨rfl, hp⟩
    | false =>
      right
      right
      exact ⟨hcancel, rfl⟩

@[simp]
theorem capabilities_touch (s : InputSide) (e : Motion) :
  (s.touch e).capabilities = s.capabilities
  := by
  obtain hcancel | ⟨hcounts, hp⟩ | ⟨hcounts, hp⟩ | ⟨hcancel, hcounts⟩ := s.touch_cases e
  · rw [touch_of_cancel hcancel]
    rfl
  · rw [touch_of_primary hcounts hp]
    rfl
  · rw [touch_of_secondary hcounts hp]
    rfl
  · rw [touch_of_not_counts hcancel hcounts]

/-- The contacts follow every motion that counts, and every cancel. -/
theorem contacts_touch (s : InputSide) (e : Motion) :
  (s.touch e).contacts =
    if e.phase = .cancel ∨ s.counts e = true then s.contacts.follow e else s.contacts
  := by
  obtain hcancel | ⟨hcounts, hp⟩ | ⟨hcounts, hp⟩ | ⟨hcancel, hcounts⟩ := s.touch_cases e
  · rw [if_pos (Or.inl hcancel), touch_of_cancel hcancel, Contacts.follow_of_cancel hcancel]
    rfl
  · rw [if_pos (Or.inr hcounts), touch_of_primary hcounts hp]
    rfl
  · rw [if_pos (Or.inr hcounts), touch_of_secondary hcounts hp]
    rfl
  · rw [if_neg (by simp [hcancel, hcounts]), touch_of_not_counts hcancel hcounts]

/-- The primary pointer stays the one that the motion finds until it is lifted. -/
theorem primary_touch (s : InputSide) (e : Motion) :
  (s.touch e).primary =
    if e.phase = .cancel ∨ e.phase = .up ∧ s.counts e = true ∧ e.pointer = s.primary then -1
    else s.primaryFor e
  := by
  obtain hcancel | ⟨hcounts, hp⟩ | ⟨hcounts, hp⟩ | ⟨hcancel, hcounts⟩ := s.touch_cases e
  · rw [if_pos (Or.inl hcancel), touch_of_cancel hcancel]
    rfl
  · by_cases hup : e.phase = .up
    · have hp' : e.pointer = s.primary := by rw [hp, primaryFor_of_ne_down (by simp [hup])]
      rw [if_pos (Or.inr ⟨hup, hcounts, hp'⟩), touch_of_primary hcounts hp]
      apply if_pos hup
    · rw [if_neg (by simp [ne_cancel_of_counts hcounts, hup]), touch_of_primary hcounts hp]
      apply if_neg hup
  · rw [if_neg, touch_of_secondary hcounts hp]
    · rfl
    · rintro (hcancel | ⟨hup, -, hp'⟩)
      · apply ne_cancel_of_counts hcounts hcancel
      · apply hp
        rw [hp', primaryFor_of_ne_down (by simp [hup])]
  · rw [touch_of_not_counts hcancel hcounts, if_neg (by simp [hcancel, hcounts]),
      primaryFor_of_ne_down]
    intro hdown
    simp [counts, hdown] at hcounts

/-- The detector sees every cancel, and what counts of the primary pointer. -/
theorem detector_touch (s : InputSide) (e : Motion) :
  (s.touch e).detector =
    if e.phase = .cancel ∨ s.counts e = true ∧ e.pointer = s.primaryFor e then
      (s.detector.touch s.now e).1
    else s.detector
  := by
  obtain hcancel | ⟨hcounts, hp⟩ | ⟨hcounts, hp⟩ | ⟨hcancel, hcounts⟩ := s.touch_cases e
  · rw [if_pos (Or.inl hcancel), touch_of_cancel hcancel]
    rfl
  · rw [if_pos (Or.inr ⟨hcounts, hp⟩), touch_of_primary hcounts hp]
    rfl
  · rw [if_neg (by simp [ne_cancel_of_counts hcounts, hp]), touch_of_secondary hcounts hp]
    rfl
  · rw [if_neg (by simp [hcancel, hcounts]), touch_of_not_counts hcancel hcounts]

theorem ascending_touch (h : s.contacts.Ascending) (e : Motion) :
  (s.touch e).contacts.Ascending
  := by
  rw [contacts_touch]
  split
  · apply h.follow
  · apply h

/-- Only a cancel concerns a pointer other than that of the motion. -/
theorem contains_touch_of_ne {p : Int64} (hp : p ≠ e.pointer) (hcancel : e.phase ≠ .cancel) :
  (s.touch e).contacts.contains p = s.contacts.contains p
  := by
  rw [contacts_touch]
  split
  · cases he : e.phase <;> simp_all [Contacts.follow, Ne.symm]
  · rfl

/-- The calls that a motion of the primary pointer adds. -/
theorem calls_of_primary (hcounts : s.counts e = true) (hp : e.pointer = s.primaryFor e) :
  (s.touch e).calls = s.calls ++
    (e.mouseCalls ++ (if s.capabilities.pointer then e.pointerCalls else [])
      ++ s.capabilities.gestureCalls (s.detector.touch s.now e).2)
  := by
  rw [touch_of_primary hcounts hp]
  apply List.append_assoc

theorem calls_of_secondary (hcounts : s.counts e = true) (hp : e.pointer ≠ s.primaryFor e) :
  (s.touch e).calls = s.calls ++ if s.capabilities.pointer then e.pointerCalls else []
  := by
  rw [touch_of_secondary hcounts hp]
  rfl

end InputSide

end SurfaceHost
