import SurfaceHost.Proofs.View.Run

/-!
# The primary pointer

The pointer whose down finds no other pointer down leads until it is lifted or everything
is cancelled.  A view knows the leader by its number and writes `-1` when nobody leads, but
`-1` is also the number of a pointer.  While nobody leads, that pointer, and no other, is
mistaken for the leader: it acts as the mouse and makes gestures.
-/

namespace SurfaceHost

/-- Whether a call is made for the primary pointer alone. -/
def Call.isPrimary : Call → Bool
  | .mouseDown _ _ | .mouseUp _ _ | .mouseMove _ _ | .scroll _ _ _ _ | .longPress _ _ => true
  | .pointerDown _ _ _ | .pointerUp _ _ _ | .pointerMove _ _ _ => false
  | .init _ | .resize _ _ | .redraw | .kinetic _ _ => false

/-! ### Who leads -/

/-- The phase and the pointer of the motion that an act reports. -/
def View.Act.finger? : View.Act → Option (Phase × Int64)
  | .step (.host (.touch phase _ _ pointer _))
  | .step (.host (.send (.touch phase _ _ pointer))) => some (phase, pointer)
  | _ => none

/-- Who leads after an act: a down that finds no pointer down makes its pointer the leader,
and lifting the leader or a cancel leaves none. -/
def Contacts.leader (cs : Contacts) (leader : Option Int64) :
    Option (Phase × Int64) → Option Int64
  | some (.down, p) => if cs = [] then some p else leader
  | some (.up, p) => if leader = some p then none else leader
  | some (.cancel, _) => none
  | some (.move, _) | some (.unknown, _) | none => leader

/-- Who leads after a run. -/
def View.leader (v : View) (leader : Option Int64) : List View.Act → Option Int64
  | [] => leader
  | a :: rest => (v.act a).leader (v.contacts.leader leader a.finger?) rest

/-- Whether a motion that finds no leader is taken to be one of the leader.  The pointer
`-1` is the only one that can be mistaken. -/
def Contacts.mistakes (cs : Contacts) (e : Motion) : Bool :=
  match e.phase with
  | .down => e.pointer == -1
  | .move | .up => e.pointer == -1 && cs.contains (-1)
  | .cancel => cs.contains (-1)
  | .unknown => false

namespace InputSide

variable {s : InputSide} {l : Option Int64}

/-- The primary pointer is the leader, which is down, and `-1` if nobody leads. -/
structure LedBy (s : InputSide) (l : Option Int64) : Prop where
  primary : s.primary = l.getD (-1)
  down : ∀ p ∈ l, s.contacts.contains p = true

/-- The contacts and the primary pointer are all that matters to who leads. -/
theorem LedBy.congr {t : InputSide} (h : s.LedBy l) (hcontacts : t.contacts = s.contacts)
    (hprimary : t.primary = s.primary) :
  t.LedBy l
  := by
  constructor
  · rw [hprimary]
    apply h.primary
  · rw [hcontacts]
    apply h.down

/-- A motion makes of the primary pointer what it makes of the leader. -/
theorem LedBy.touch (h : s.LedBy l) (e : Motion) :
  (s.touch e).LedBy (s.contacts.leader l (some (e.phase, e.pointer)))
  := by
  have hprimary := s.primary_touch e
  have hcontacts := s.contacts_touch e
  cases he : e.phase with
  | cancel =>
    rw [if_pos (Or.inl he)] at hprimary
    exact ⟨hprimary, by simp [Contacts.leader]⟩
  | unknown =>
    have hcounts : s.counts e = false := by simp [counts, he]
    rw [touch_of_not_counts (by simp [he]) hcounts]
    apply h
  | down =>
    rw [if_neg (by simp [he])] at hprimary
    rw [if_pos (Or.inr (by simp [counts, he]))] at hcontacts
    by_cases hempty : s.contacts = []
    · have hleader : s.contacts.leader l (some (.down, e.pointer)) = some e.pointer := if_pos hempty
      rw [hleader]
      constructor
      · rw [hprimary]
        apply if_pos ⟨he, hempty⟩
      · rintro p ⟨⟩
        simp [hcontacts, Contacts.follow, he]
    · have hleader : s.contacts.leader l (some (.down, e.pointer)) = l := if_neg hempty
      rw [hleader]
      constructor
      · rw [hprimary, primaryFor, if_neg (by simp [hempty]), h.primary]
      · intro p hp
        simp [hcontacts, Contacts.follow, he, h.down p hp]
  | move =>
    rw [if_neg (by simp [he]), primaryFor_of_ne_down (by simp [he])] at hprimary
    constructor
    · rw [hprimary]
      apply h.primary
    · intro p hp
      rw [hcontacts]
      split
      · simp [Contacts.follow, he, h.down p hp]
      · apply h.down p hp
  | up =>
    by_cases hl : l = some e.pointer
    · -- The leader is lifted.  It was down, so that its up counts.
      have hleader : s.contacts.leader l (some (.up, e.pointer)) = none := if_pos hl
      have hcounts : s.counts e = true := by simp [counts, he, h.down e.pointer hl]
      have hp : e.pointer = s.primary := by simp [h.primary, hl]
      rw [if_pos (Or.inr ⟨he, hcounts, hp⟩)] at hprimary
      rw [hleader]
      exact ⟨hprimary, by simp⟩
    · have hleader : s.contacts.leader l (some (.up, e.pointer)) = l := if_neg hl
      rw [hleader]
      constructor
      · rw [hprimary, primaryFor_of_ne_down (by simp [he]), h.primary]
        split
        · -- Only `-1` can be taken for the leader, and it is what stands for none.
          rename_i hlifted
          obtain ⟨-, -, hp⟩ := hlifted.resolve_left (by simp [he])
          cases l with
          | none => rfl
          | some q =>
            rw [hp] at hl
            exact absurd rfl hl
        · rfl
      · intro p hp
        have hne : p ≠ e.pointer := by
          intro heq
          subst heq
          apply hl hp
        rw [hcontacts]
        split
        · simp [Contacts.follow, he, h.down p hp, hne]
        · apply h.down p hp

/-- The primary pointer stays the leader whatever happens. -/
theorem LedBy.act (h : s.LedBy l) (a : View.Act) :
  (s.act a).LedBy (s.contacts.leader l a.finger?)
  := by
  cases a with
  | alarm generation => apply h.congr <;> rfl
  | step st =>
    cases st with
    | start | frame | stop => apply h
    | host st =>
      cases st with
      | touch => apply h.touch
      | send e =>
        cases e with
        | touch => apply h.touch
        | lifecycle | size | paint | other => apply h
      | advance ns =>
        simp only [InputSide.act, perform, advance]
        split
        · apply h.congr <;> rfl
        · apply h.congr <;> rfl
      | post | postNone | fail | look => apply h

end InputSide

/-- In a run without tasks, the primary pointer is the leader at every point. -/
theorem View.Shows.ledBy {v : View} {s : InputSide} {l : Option Int64} (h : v.Shows s [])
    (hled : s.LedBy l) {acts : List View.Act} (ha : ∀ a ∈ acts, a.isPlain = true) :
  (s.after acts).LedBy (v.leader l acts)
  := by
  induction acts generalizing v s l with
  | nil => apply hled
  | cons a rest ih =>
    have hact := h.act (ha a List.mem_cons_self)
    have hrest : ∀ b ∈ rest, b.isPlain = true := by
      intro b hb
      apply ha b (List.mem_cons_of_mem a hb)
    rw [View.leader, h.contacts_eq]
    apply ih hact (hled.act a) hrest

/-! ### Who is mistaken for the leader -/

theorem Motion.any_isPrimary_pointerCalls (e : Motion) :
  e.pointerCalls.any Call.isPrimary = false
  := by
  rw [pointerCalls]
  split <;> rfl

/-- The mouse button is lifted if one of the contacts is the primary one. -/
theorem Capabilities.any_isPrimary_releaseCalls (c : Capabilities) (l : List (Contact × Bool)) :
  (c.releaseCalls l).any Call.isPrimary = l.any Prod.snd
  := by
  induction l with
  | nil => rfl
  | cons d rest ih =>
    obtain ⟨d, isPrimary⟩ := d
    rw [releaseCalls, List.any_append, List.any_append, ih, List.any_cons]
    cases isPrimary <;> cases c.pointer <;> rfl

namespace InputSide

variable {s : InputSide} {e : Motion}

/-- What counts of the primary pointer acts as the mouse. -/
theorem any_isPrimary_mouseCalls (hcounts : s.counts e = true) :
  e.mouseCalls.any Call.isPrimary = true
  := by
  rcases (s.counts_iff e).mp hcounts with he | ⟨he | he, -⟩ <;>
    simp [Motion.mouseCalls, he, Call.isPrimary]

/-- While nobody leads, what counts of the primary pointer is what is mistaken. -/
theorem counts_primary_iff_mistakes (hs : s.primary = -1) (hcancel : e.phase ≠ .cancel)
    (he : ¬ (e.phase = .down ∧ s.contacts = [])) :
  s.counts e = true ∧ e.pointer = s.primaryFor e ↔ s.contacts.mistakes e = true
  := by
  rw [primaryFor, if_neg he, hs]
  by_cases hp : e.pointer = -1
  · cases hphase : e.phase <;> simp_all [counts, Contacts.mistakes]
  · cases hphase : e.phase <;> simp_all [counts, Contacts.mistakes]

/-- While nobody leads, a motion makes calls for the primary pointer exactly if it is
mistaken. -/
theorem exists_added_of_primary_eq (hs : s.primary = -1)
    (he : ¬ (e.phase = .down ∧ s.contacts = [])) :
  ∃ added, (s.touch e).calls = s.calls ++ added
    ∧ added.any Call.isPrimary = s.contacts.mistakes e
  := by
  have hmistakes := counts_primary_iff_mistakes hs (e := e)
  obtain hcancel | ⟨hcounts, hp⟩ | ⟨hcounts, hp⟩ | ⟨hcancel, hcounts⟩ := s.touch_cases e
  · rw [touch_of_cancel hcancel]
    refine ⟨_, rfl, ?_⟩
    rw [Capabilities.any_isPrimary_releaseCalls, List.any_map, hs, Contacts.mistakes, hcancel]
    rfl
  · rw [(hmistakes (ne_cancel_of_counts hcounts) he).mp ⟨hcounts, hp⟩]
    refine ⟨_, calls_of_primary hcounts hp, ?_⟩
    rw [List.any_append, List.any_append, any_isPrimary_mouseCalls hcounts]
    rfl
  · refine ⟨_, calls_of_secondary hcounts hp, ?_⟩
    have hnot : s.contacts.mistakes e = false := by
      rw [← Bool.not_eq_true, ← hmistakes (ne_cancel_of_counts hcounts) he]
      simp [hp]
    rw [hnot]
    split
    · apply e.any_isPrimary_pointerCalls
    · rfl
  · have hnot : s.contacts.mistakes e = false := by
      rw [← Bool.not_eq_true, ← hmistakes hcancel he]
      simp [hcounts]
    rw [touch_of_not_counts hcancel hcounts, hnot]
    exact ⟨[], by simp, rfl⟩

end InputSide

namespace View

/-- While nobody leads, and until a down finds no pointer down, the primary pointer stays
`-1`.  A motion then makes mouse, scroll or long press calls exactly if the pointer `-1` is
mistaken for the leader, and only then does the detector see it, a cancel apart. -/
theorem primary_calls_of_no_leader (settings : Settings) (capabilities : Capabilities)
    (surface : Surface) (clockRate : Int) (acts : List Act)
    (hplain : ∀ a ∈ acts, a.isPlain = true)
    (hleader : (new settings capabilities surface clockRate).leader none acts = none)
    (e : Motion)
    (he : ¬ (e.phase = .down
      ∧ ((new settings capabilities surface clockRate).after acts).contacts = [])) :
  let v := (new settings capabilities surface clockRate).after acts
  v.primary = -1
    ∧ (v.touch e).primary = -1
    ∧ (∃ added, (v.touch e).queued = v.queued ++ added
        ∧ added.any Call.isPrimary = v.contacts.mistakes e)
    ∧ (v.touch e).detector =
        if e.phase = .cancel ∨ v.contacts.mistakes e = true then (v.detector.touch v.now e).1
        else v.detector
  := by
  intro v
  have hnew := shows_new settings capabilities surface clockRate
  have hshows : v.Shows v.input [] := by
    have h := hnew.after hplain
    rw [← h.input_eq] at h
    apply h
  have hled : v.input.LedBy none := by
    have hfirst : (new settings capabilities surface clockRate).input.LedBy none :=
      ⟨rfl, by simp⟩
    have h := hnew.ledBy hfirst hplain
    rw [hleader, ← input_after_new _ _ _ _ _ hplain] at h
    apply h
  have htouch := (hshows.touch e).input_eq
  have hprimary : v.input.primary = -1 := hled.primary
  have hfor : v.input.primaryFor e = -1 := (if_neg he).trans hprimary
  refine ⟨hprimary, ?_, ?_, ?_⟩
  · calc (v.touch e).primary
        = (v.input.touch e).primary := congrArg InputSide.primary htouch
      _ = -1 := by rw [InputSide.primary_touch, hfor, ite_self]
  · obtain ⟨added, hcalls, hadded⟩ := InputSide.exists_added_of_primary_eq hprimary he
    exact ⟨added, hshows.queued_append (hshows.touch e) (v.reaches_touch e).received_eq hcalls, hadded⟩
  · have hdetector : (v.touch e).detector = (v.input.touch e).detector :=
      congrArg InputSide.detector htouch
    rw [hdetector, InputSide.detector_touch]
    by_cases hcancel : e.phase = .cancel
    · rw [if_pos (Or.inl hcancel), if_pos (Or.inl hcancel)]
      rfl
    · simp only [InputSide.counts_primary_iff_mistakes hprimary hcancel he]
      rfl

/-- The leader is lifted while another pointer is down; then the pointer `-1` goes down, is
not the first one, and yet acts as the mouse. -/
theorem primary_calls_of_mistaken_pointer :
  let acts : List Act :=
    [.step (.host (.touch .down 10 20 0 none)), .step (.host (.touch .down 30 40 5 none)),
      .step (.host (.touch .up 10 20 0 none))]
  let e : Motion := ⟨.down, 50, 60, -1, 0⟩
  let start := new Settings.default Capabilities.all {} 1
  let v := start.after acts
  (∀ a ∈ acts, a.isPlain = true)
    ∧ start.leader none acts = none
    ∧ v.contacts = [⟨5, 30, 40⟩]
    ∧ (∃ added, (v.touch e).queued = v.queued ++ added ∧ added.any Call.isPrimary = true)
    ∧ (v.touch e).detector = (v.detector.touch v.now e).1
  := by
  intro acts e start v
  have hplain : ∀ a ∈ acts, a.isPlain = true := by simp [acts, Act.isPlain]
  have hleader : start.leader none acts = none := rfl
  have hcontacts : v.contacts = [⟨5, 30, 40⟩] := rfl
  obtain ⟨-, -, hcalls, hdetector⟩ :=
    primary_calls_of_no_leader Settings.default Capabilities.all {} 1 acts hplain hleader e
      (fun he => absurd (hcontacts.symm.trans he.2) (by simp))
  refine ⟨hplain, hleader, hcontacts, hcalls, ?_⟩
  apply hdetector.trans (if_pos (Or.inr rfl))

end View

end SurfaceHost
