import Mathlib.Logic.Function.Basic
import SurfaceHost.Proofs.Monitor
import SurfaceHost.Proofs.View.Run

/-!
# The engine's picture of the pointers

An engine that takes calls for single pointers can keep a picture of the pointers that
are down: a down and a move put a pointer in its place, an up removes it.  At every point
of a run, the calls received and those still waiting together give exactly the contacts of
the view, and no pointer is moved or lifted that is not down.
-/

namespace SurfaceHost

/-- Whether a call is about a single pointer. -/
def Call.isPointer : Call → Bool
  | .pointerDown _ _ _ | .pointerUp _ _ _ | .pointerMove _ _ _ => true
  | .init _ | .resize _ _ | .redraw | .kinetic _ _ => false
  | .mouseDown _ _ | .mouseUp _ _ | .mouseMove _ _ | .scroll _ _ _ _ | .longPress _ _ => false

/-- The pointer that a call takes to be down: the one that it moves or lifts. -/
def Call.heldPointer? : Call → Option Int64
  | .pointerUp _ _ p | .pointerMove _ _ p => some p
  | .pointerDown _ _ _ | .init _ | .resize _ _ | .redraw | .kinetic _ _ => none
  | .mouseDown _ _ | .mouseUp _ _ | .mouseMove _ _ | .scroll _ _ _ _ | .longPress _ _ => none

/-- The call that lifts a contact where it is. -/
def Contact.up (c : Contact) : Call :=
  .pointerUp c.x c.y c.pointer

/-! ### Pictures -/

/-- Where the pointers are that are down, as far as an engine knows. -/
abbrev Fingers := Int64 → Option (Float32 × Float32)

namespace Fingers

/-- The picture in which no pointer is down. -/
def lifted : Fingers :=
  fun _ => none

/-- The picture after a call. -/
def hear (m : Fingers) : Call → Fingers
  | .pointerDown x y p | .pointerMove x y p => Function.update m p (some (x, y))
  | .pointerUp _ _ p => Function.update m p none
  | .init _ | .resize _ _ | .redraw | .kinetic _ _ => m
  | .mouseDown _ _ | .mouseUp _ _ | .mouseMove _ _ | .scroll _ _ _ _ | .longPress _ _ => m

/-- The picture that calls give from the beginning on. -/
def ofCalls (calls : List Call) : Fingers :=
  calls.foldl hear lifted

/-- Follows the picture, and demands that only pointers are moved or lifted that are down. -/
def monitor : Monitor Call Fingers where
  next := hear
  allows m c := ∀ p ∈ c.heldPointer?, (m p).isSome

/-- A picture shows exactly the given contacts. -/
def Pictures (m : Fingers) (cs : Contacts) : Prop :=
  ∀ c : Contact, m c.pointer = some (c.x, c.y) ↔ c ∈ cs

theorem pictures_lifted :
  lifted.Pictures []
  := by
  intro c
  simp [lifted]

variable {m : Fingers} {cs : Contacts}

/-- A picture has a place for exactly the pointers that are down. -/
theorem Pictures.isSome_iff (h : m.Pictures cs) (p : Int64) :
  (m p).isSome ↔ cs.contains p = true
  := by
  rw [Contacts.contains_iff, Option.isSome_iff_exists]
  constructor
  · rintro ⟨⟨x, y⟩, hp⟩
    exact ⟨⟨p, x, y⟩, (h ⟨p, x, y⟩).mp hp, rfl⟩
  · rintro ⟨c, hc, rfl⟩
    exact ⟨(c.x, c.y), (h c).mpr hc⟩

/-- Placing a pointer in a picture overwrites its contact. -/
theorem Pictures.place (h : m.Pictures cs) (hcs : cs.Ascending) (p : Int64) (x y : Float32) :
  Pictures (Function.update m p (some (x, y))) (cs.insert ⟨p, x, y⟩)
  := by
  rintro ⟨q, x', y'⟩
  rw [hcs.mem_insert]
  by_cases hq : q = p
  · subst hq
    rw [Function.update_self]
    constructor
    · intro heq
      left
      obtain ⟨rfl, rfl⟩ := Prod.mk.inj (Option.some.inj heq)
      rfl
    · rintro (heq | ⟨-, hne⟩)
      · obtain ⟨-, rfl, rfl⟩ := Contact.mk.inj heq
        rfl
      · exact absurd rfl hne
  · rw [Function.update_of_ne hq, h ⟨q, x', y'⟩]
    constructor
    · intro hc
      right
      exact ⟨hc, hq⟩
    · rintro (heq | ⟨hc, -⟩)
      · exact absurd (congrArg Contact.pointer heq) hq
      · apply hc

/-- Removing a pointer from a picture removes its contact. -/
theorem Pictures.remove (h : m.Pictures cs) (p : Int64) :
  Pictures (Function.update m p none) (cs.erase p)
  := by
  rintro ⟨q, x, y⟩
  rw [Contacts.mem_erase]
  by_cases hq : q = p
  · subst hq
    simp
  · rw [Function.update_of_ne hq, h ⟨q, x, y⟩]
    simp [hq]

/-- A motion that counts is reported so that the picture stays right. -/
theorem Pictures.follow (h : m.Pictures cs) (hcs : cs.Ascending) {e : Motion}
    (he : e.phase = .down ∨ (e.phase = .move ∨ e.phase = .up) ∧ cs.contains e.pointer = true) :
  monitor.Accepts m e.pointerCalls ∧ (monitor.after m e.pointerCalls).Pictures (cs.follow e)
  := by
  rcases he with he | ⟨he | he, hdown⟩
  · simp only [Motion.pointerCalls, Contacts.follow, he]
    constructor
    · simp [monitor, Call.heldPointer?]
    · apply h.place hcs
  · simp only [Motion.pointerCalls, Contacts.follow, he]
    constructor
    · simp [monitor, Call.heldPointer?, (h.isSome_iff _).mpr hdown]
    · apply h.place hcs
  · simp only [Motion.pointerCalls, Contacts.follow, he]
    constructor
    · simp [monitor, Call.heldPointer?, (h.isSome_iff _).mpr hdown]
    · apply h.remove

/-- Lifting all contacts one by one leaves an empty picture. -/
theorem Pictures.liftAll (h : m.Pictures cs) (hcs : cs.Ascending) :
  monitor.Accepts m (cs.map Contact.up) ∧ (monitor.after m (cs.map Contact.up)).Pictures []
  := by
  induction cs generalizing m with
  | nil => exact ⟨trivial, h⟩
  | cons c rest ih =>
    obtain ⟨-, hrest⟩ := Contacts.ascending_cons.mp hcs
    -- The first contact is the only one with its pointer, so lifting it leaves the rest.
    have herase : Contacts.erase (c :: rest) c.pointer = rest := by
      rw [Contacts.erase, List.filter_cons_of_neg (by simp)]
      apply List.filter_eq_self.mpr
      intro d hd
      simpa using hcs.ne_of_mem_tail hd
    have hremove := h.remove c.pointer
    rw [herase] at hremove
    obtain ⟨haccepts, hafter⟩ := ih hremove hrest
    constructor
    · rw [List.map_cons, Monitor.accepts_cons]
      constructor
      · rintro p ⟨⟩
        rw [h.isSome_iff]
        simp [Contacts.contains]
      · apply haccepts
    · apply hafter

end Fingers

/-! ### The pointer calls of a run -/

theorem Motion.filter_isPointer_mouseCalls (e : Motion) :
  e.mouseCalls.filter Call.isPointer = []
  := by
  rw [mouseCalls]
  split <;> rfl

theorem Motion.filter_isPointer_pointerCalls (e : Motion) :
  e.pointerCalls.filter Call.isPointer = e.pointerCalls
  := by
  rw [pointerCalls]
  split <;> rfl

theorem Capabilities.filter_isPointer_gestureCalls (c : Capabilities) (g : Option Gesture) :
  (c.gestureCalls g).filter Call.isPointer = []
  := by
  rcases c.gestureCalls_cases g with h | ⟨x, y, dx, dy, h⟩ | ⟨x, y, h⟩ <;> rw [h] <;> rfl

/-- An engine that takes pointer calls gets one up for each contact that is released. -/
theorem Capabilities.filter_isPointer_releaseCalls {c : Capabilities} (hc : c.pointer = true)
    (l : List (Contact × Bool)) :
  (c.releaseCalls l).filter Call.isPointer = l.map fun d => d.1.up
  := by
  induction l with
  | nil => rfl
  | cons d rest ih =>
    obtain ⟨d, isPrimary⟩ := d
    rw [releaseCalls, List.filter_append, List.filter_append, ih, hc]
    cases isPrimary <;> rfl

/-- The calls of an input side that are about single pointers. -/
def InputSide.pointerCalls (s : InputSide) : List Call :=
  s.calls.filter Call.isPointer

/-- The calls about single pointers, those received and then those still waiting. -/
def View.pointerCalls (v : View) : List Call :=
  v.calls.filter Call.isPointer

namespace InputSide

/-- A cancel lifts every contact; any other motion is reported if it counts. -/
theorem pointerCalls_touch {s : InputSide} (hs : s.capabilities.pointer = true) (e : Motion) :
  (s.touch e).pointerCalls = s.pointerCalls ++
    if e.phase = .cancel then s.contacts.map Contact.up
    else if s.counts e then e.pointerCalls
    else []
  := by
  obtain hcancel | ⟨hcounts, hp⟩ | ⟨hcounts, hp⟩ | ⟨hcancel, hcounts⟩ := s.touch_cases e
  · rw [touch_of_cancel hcancel, if_pos hcancel]
    simp only [pointerCalls, cancel, List.filter_append]
    rw [Capabilities.filter_isPointer_releaseCalls hs, List.map_map]
    rfl
  · rw [if_neg (ne_cancel_of_counts hcounts), if_pos hcounts, pointerCalls,
      calls_of_primary hcounts hp, if_pos hs]
    simp [pointerCalls, Capabilities.filter_isPointer_gestureCalls,
      Motion.filter_isPointer_mouseCalls, Motion.filter_isPointer_pointerCalls]
  · rw [if_neg (ne_cancel_of_counts hcounts), if_pos hcounts, pointerCalls,
      calls_of_secondary hcounts hp, if_pos hs]
    simp [pointerCalls, Motion.filter_isPointer_pointerCalls]
  · rw [touch_of_not_counts hcancel hcounts, if_neg hcancel, if_neg (by simp [hcounts]),
      List.append_nil]

/-- The engine's picture is that of the contacts, and every pointer call was in place. -/
structure Mirrored (s : InputSide) : Prop where
  pointer : s.capabilities.pointer = true
  ascending : s.contacts.Ascending
  accepts : Fingers.monitor.Accepts Fingers.lifted s.pointerCalls
  pictures : (Fingers.ofCalls s.pointerCalls).Pictures s.contacts

variable {s t : InputSide}

/-- Further pointer calls that are in place and lead to the new contacts keep the picture
right. -/
theorem Mirrored.extend (h : s.Mirrored) (hcap : t.capabilities = s.capabilities)
    (hcs : t.contacts.Ascending) {added : List Call}
    (hcalls : t.pointerCalls = s.pointerCalls ++ added)
    (hadded : Fingers.monitor.Accepts (Fingers.ofCalls s.pointerCalls) added
      ∧ (Fingers.monitor.after (Fingers.ofCalls s.pointerCalls) added).Pictures t.contacts) :
  t.Mirrored
  := by
  constructor
  · rw [hcap]
    apply h.pointer
  · apply hcs
  · rw [hcalls, Monitor.accepts_append]
    exact ⟨h.accepts, hadded.1⟩
  · rw [hcalls, Fingers.ofCalls, List.foldl_append]
    apply hadded.2

theorem Mirrored.touch (h : s.Mirrored) (e : Motion) :
  (s.touch e).Mirrored
  := by
  have hcalls := pointerCalls_touch h.pointer e
  have hcontacts := contacts_touch s e
  by_cases hcancel : e.phase = .cancel
  · rw [if_pos hcancel] at hcalls
    rw [if_pos (Or.inl hcancel), Contacts.follow_of_cancel hcancel] at hcontacts
    apply h.extend (capabilities_touch s e) _ hcalls
    · rw [hcontacts]
      apply h.pictures.liftAll h.ascending
    · rw [hcontacts]
      apply Contacts.ascending_nil
  · rw [if_neg hcancel] at hcalls
    cases hcounts : s.counts e with
    | true =>
      rw [if_pos hcounts] at hcalls
      rw [if_pos (Or.inr hcounts)] at hcontacts
      apply h.extend (capabilities_touch s e) _ hcalls
      · rw [hcontacts]
        apply h.pictures.follow h.ascending ((s.counts_iff e).mp hcounts)
      · rw [hcontacts]
        apply h.ascending.follow
    | false =>
      rw [touch_of_not_counts hcancel hcounts]
      apply h

/-- Motions of any pointers, alarms and the passing of time keep the picture right. -/
theorem kept_mirrored :
  Kept (fun _ => True) Mirrored
  := by
  constructor
  · intro s e _ h
    apply h.touch
  · intro s generation h
    have hcalls : (s.fire generation).pointerCalls = s.pointerCalls ++ [] := by
      simp [pointerCalls, fire, add, Capabilities.filter_isPointer_gestureCalls]
    apply h.extend (t := s.fire generation) rfl h.ascending hcalls ⟨trivial, h.pictures⟩
  · intro s now alarm h
    exact ⟨h.pointer, h.ascending, h.accepts, h.pictures⟩

end InputSide

namespace View

variable {v : View} {s : InputSide} {bodies : List (List HostStep)}

theorem Shows.pointerCalls_eq (h : v.Shows s bodies) :
  v.pointerCalls = s.pointerCalls
  := by
  rw [View.pointerCalls, InputSide.pointerCalls, h.calls_eq, List.filter_filter]
  apply List.filter_congr
  intro c _
  cases c <;> rfl

/-- At every point of a run, the pointer calls that the engine has received and those still
waiting give exactly the contacts of the view.  No pointer is moved or lifted that is not
down, and a cancel lifts every pointer that is down, once, where it is, in ascending
order. -/
theorem fingers_follow_contacts (settings : Settings) (capabilities : Capabilities)
    (surface : Surface) (clockRate : Int) (hpointer : capabilities.pointer = true)
    (acts : List Act) :
  let v := (new settings capabilities surface clockRate).after acts
  (∀ c : Contact, Fingers.ofCalls v.pointerCalls c.pointer = some (c.x, c.y) ↔ c ∈ v.contacts)
    ∧ (∀ front c back p, v.pointerCalls = front ++ c :: back → c.heldPointer? = some p →
        (Fingers.ofCalls front p).isSome)
    ∧ ∀ e : Motion, e.phase = .cancel →
        ∃ lifted : Contacts, lifted.Ascending
          ∧ (∀ c, c ∈ lifted ↔ Fingers.ofCalls v.pointerCalls c.pointer = some (c.x, c.y))
          ∧ (v.touch e).pointerCalls = v.pointerCalls ++ lifted.map Contact.up
  := by
  intro v
  obtain ⟨s, bodies, hshows, hmirrored, -⟩ : v.Holds (fun _ => True) InputSide.Mirrored := by
    apply holds_after_new InputSide.kept_mirrored
    · exact ⟨hpointer, Contacts.ascending_nil, trivial, Fingers.pictures_lifted⟩
    · intros
      trivial
  rw [hshows.pointerCalls_eq, hshows.contacts_eq]
  refine ⟨hmirrored.pictures, ?_, ?_⟩
  · intro front c back p hcalls hheld
    have hallows := hmirrored.accepts.allows _ hcalls
    apply hallows p hheld
  · intro e he
    use s.contacts, hmirrored.ascending
    constructor
    · intro c
      rw [hmirrored.pictures c]
    · rw [(hshows.touch e).pointerCalls_eq, InputSide.pointerCalls_touch hmirrored.pointer,
        if_pos he]

/-- A frame comes between two pointers, the second of which has the smaller number, and a
move of the first one. -/
theorem fingers_follow_contacts_crossed :
  let acts : List Act :=
    [.step (.host (.send (.lifecycle 0 3))), .step .start,
      .step (.host (.touch .down 10 20 7 none)), .step (.host (.touch .down 30 40 3 none)),
      .step .frame, .step (.host (.touch .move 11 21 7 none))]
  let v := (new Settings.default Capabilities.all {} 1).after acts
  Capabilities.all.pointer = true
    ∧ v.contacts = [⟨3, 30, 40⟩, ⟨7, 11, 21⟩]
    ∧ Fingers.ofCalls v.pointerCalls 7 = some (11, 21)
  := by
  intro acts v
  have hcontacts : v.contacts = [⟨3, 30, 40⟩, ⟨7, 11, 21⟩] :=
    congrArg InputSide.contacts (input_after_new Settings.default Capabilities.all {} 1 acts
      (by simp [acts, Act.isPlain]))
  obtain ⟨hpictures, -, -⟩ :=
    fingers_follow_contacts Settings.default Capabilities.all {} 1 rfl acts
  refine ⟨rfl, hcontacts, ?_⟩
  apply (hpictures ⟨7, 11, 21⟩).mpr
  rw [show View.contacts _ = _ from hcontacts]
  simp

end View

end SurfaceHost
