import SurfaceHost.Proofs.Alarms
import SurfaceHost.View.Basic

/-!
# When a press is long

On a clock that lets every alarm go off in time, a down makes a long press exactly if the
timeout is positive and the clock reaches the end of it before the press is disturbed.  The
long press is then reported once, at that very instant and with that down.  A press is
disturbed by another down, by an up or a cancel, and by a move out of the slop; the times that
the motions themselves carry do not matter.

The clock goes on nanosecond by nanosecond (`Clocked.tick`), so that every report has its
instant.  To let the clock go on at once, as `Detector.advance` does, comes to the same
(`Clocked.wait_eq`).
-/

namespace SurfaceHost

/-- Whether a motion ends the wait of the press that began with a down. -/
def Motion.disturbs (slop : Float32) (e down : Motion) : Bool :=
  match e.phase with
  | .down | .up | .cancel => true
  | .move => !e.isNear slop down
  | .unknown => false

/-! ### One motion -/

namespace Detector

/-- A press waits, and its alarm is still to come. -/
structure Armed (d : Detector) (now : Instant) (down : Motion) (due : Instant) : Prop where
  alarm : d.alarm = some due
  ahead : now < due
  waiting : d.outline = some (down, .waiting)

variable {d : Detector} {now due : Instant} {down e : Motion}

/-- A down sets the alarm, if the timeout is positive. -/
theorem alarm_touch_of_down (he : e.phase = .down) :
  (d.touch now e).1.alarm =
    if 0 < d.thresholds.longPress then some (now + d.thresholds.longPress.toInt) else none
  := by
  rw [touch, he]
  rfl

theorem armed_touch_of_down (he : e.phase = .down) (htimeout : 0 < d.thresholds.longPress) :
  (d.touch now e).1.Armed now e (now + d.thresholds.longPress.toInt)
  := by
  constructor
  · rw [alarm_touch_of_down he, if_pos htimeout]
  · apply Int.lt_add_of_pos_right
    apply Int64.lt_iff_toInt_lt.mp htimeout
  · apply ((d.takes_touch now e).of_down he).1

/-- Nothing but a down sets an alarm. -/
theorem alarm_touch_of_ne_down (he : e.phase ≠ .down) :
  (d.touch now e).1.alarm = d.alarm ∨ (d.touch now e).1.alarm = none
  := by
  rw [touch]
  split
  · contradiction
  · rw [touchMove]
    split
    · exact .inl rfl
    · split
      · exact .inl rfl
      · exact .inr rfl
    · split
      · exact .inl rfl
      · exact .inl rfl
  · exact .inr rfl
  · exact .inr rfl
  · exact .inl rfl
  · exact .inl rfl
  · exact .inl rfl

theorem alarm_touch_of_no_alarm (he : e.phase ≠ .down) (h : d.alarm = none) :
  (d.touch now e).1.alarm = none
  := by
  rcases alarm_touch_of_ne_down he with hsame | hnone
  · rw [hsame, h]
  · apply hnone

/-- A press that is not disturbed goes on waiting for its alarm. -/
theorem Armed.touch_of_not_disturbs (h : d.Armed now down due)
    (he : e.disturbs d.thresholds.slop down = false) :
  (d.touch now e).1.Armed now down due
  := by
  obtain ⟨p, hp, rfl, hstage⟩ := exists_press_of_outline h.waiting
  rw [Motion.disturbs] at he
  split at he
  · cases he
  · cases he
  · cases he
  · rename_i hmove
    have hnear : e.isNear d.thresholds.slop p.down = true := by simpa using he
    have htouch :
        (d.touch now e).1 = { d with press := some { p with track := p.track.add e } } := by
      simp only [touch, hmove, hp, touchMove_of_near hstage hnear]
    rw [htouch]
    refine ⟨h.alarm, h.ahead, ?_⟩
    rw [outline_of_press rfl, hstage]
  · rename_i hunknown
    have htouch : (d.touch now e).1 = d := by
      simp only [touch, hunknown]
    rw [htouch]
    apply h

/-- What disturbs a press stops its alarm. -/
theorem Armed.touch_of_disturbs (h : d.Armed now down due) (hdown : e.phase ≠ .down)
    (he : e.disturbs d.thresholds.slop down = true) :
  (d.touch now e).1.alarm = none
  := by
  obtain ⟨p, hp, rfl, hstage⟩ := exists_press_of_outline h.waiting
  rw [Motion.disturbs] at he
  split at he
  · contradiction
  · rename_i hup
    simp only [touch, hup, hp, disarm]
  · rename_i hcancel
    simp only [touch, hcancel, disarm]
  · rename_i hmove
    have hfar : e.isNear d.thresholds.slop p.down = false := by simpa using he
    simp only [touch, hmove, hp, touchMove_of_far hstage hfar, disarm]
  · cases he

/-! ### The alarm -/

theorem advance_of_no_alarm (h : d.alarm = none) (now : Instant) :
  d.advance now = (d, none)
  := by
  rw [advance, h]

theorem advance_of_lt (h : d.alarm = some due) (hlt : now < due) :
  d.advance now = (d, none)
  := by
  rw [advance, h]
  simp only
  rw [if_neg (Int.not_le.mpr hlt)]

/-- The alarm of a press that waits makes it long, and is gone. -/
theorem Armed.advance (h : d.Armed now down due) {later : Instant} (hdue : due ≤ later) :
  (d.advance later).1.alarm = none
    ∧ (d.advance later).2 = some (.longPress down)
    ∧ d.advance later = d.advance due
  := by
  obtain ⟨p, hp, rfl, hstage⟩ := exists_press_of_outline h.waiting
  have hadvance {instant : Instant} (hinstant : due ≤ instant) :
      d.advance instant = { d with alarm := none }.fire d.generation := by
    rw [Detector.advance, h.alarm]
    simp only
    rw [if_pos hinstant]
  have hfire : { d with alarm := none }.fire d.generation =
      ({ d with press := some { p with stage := .held }, alarm := none },
        some (.longPress p.down)) := by
    simp [fire, hp, hstage]
  rw [hadvance hdue, hadvance (Int.le_refl due), hfire]
  exact ⟨rfl, rfl, rfl⟩

end Detector

/-! ### A detector on a clock -/

/-- A detector on a clock. -/
structure Clocked where
  detector : Detector
  now : Instant

namespace Clocked

/-- What can happen to a detector on a clock. -/
inductive Act where
  | touch (e : Motion)
  /-- The clock goes on by some nanoseconds. -/
  | wait (ns : Nat)

/-- A detector that has seen nothing yet. -/
def new (thresholds : Thresholds) (now : Instant) : Clocked :=
  { detector := { thresholds }, now }

/-- The clock goes on by one nanosecond, and an alarm that is due then goes off. -/
def tick (c : Clocked) : Clocked × List (Instant × Gesture) :=
  let now := c.now + 1
  let (detector, gesture) := c.detector.advance now
  ({ detector, now }, gesture.toList.map (now, ·))

/-- The clock goes on by some nanoseconds. -/
def wait (c : Clocked) : Nat → Clocked × List (Instant × Gesture)
  | 0 => (c, [])
  | ns + 1 => ((c.wait ns).1.tick.1, (c.wait ns).2 ++ (c.wait ns).1.tick.2)

/-- One act, with what is reported and when. -/
def step (c : Clocked) : Act → Clocked × List (Instant × Gesture)
  | .touch e =>
    let (detector, gesture) := c.detector.touch c.now e
    ({ c with detector }, gesture.toList.map (c.now, ·))
  | .wait ns => c.wait ns

/-- The detector and the clock after some acts. -/
def after (c : Clocked) (acts : List Act) : Clocked :=
  acts.foldl (fun c act => (c.step act).1) c

/-- All that is reported during some acts. -/
def reports (c : Clocked) : List Act → List (Instant × Gesture)
  | [] => []
  | act :: rest => (c.step act).2 ++ (c.step act).1.reports rest

/-- The long presses among some reports. -/
def longPresses (told : List (Instant × Gesture)) : List (Instant × Motion) :=
  told.filterMap fun
    | (instant, .longPress down) => some (instant, down)
    | _ => none

@[simp]
theorem longPresses_append (front back : List (Instant × Gesture)) :
  longPresses (front ++ back) = longPresses front ++ longPresses back
  := List.filterMap_append

variable {c : Clocked}

theorem tick_of_advance_eq (h : c.detector.advance (c.now + 1) = (c.detector, none)) :
  c.tick = ({ c with now := c.now + 1 }, [])
  := by
  simp only [tick, h]
  rfl

theorem now_add_succ (now : Instant) (ns : Nat) :
  now + (ns + 1 : Nat) = now + ns + 1
  := by
  rw [Int.natCast_succ, Int.add_assoc]

/-- Nothing is reported as long as no alarm is due. -/
theorem wait_of_not_due {ns : Nat} (h : ∀ due ∈ c.detector.alarm, c.now + ns < due) :
  c.wait ns = ({ c with now := c.now + ns }, [])
  := by
  induction ns with
  | zero => simp [wait]
  | succ ns ih =>
    rw [now_add_succ] at h ⊢
    have hwait := ih fun due hdue => Int.lt_trans (Int.lt_succ _) (h due hdue)
    have hadvance : c.detector.advance (c.now + ns + 1) = (c.detector, none) := by
      cases halarm : c.detector.alarm with
      | none => apply Detector.advance_of_no_alarm halarm
      | some due => apply Detector.advance_of_lt halarm (h due halarm)
    rw [wait, hwait, tick_of_advance_eq hadvance]
    rfl

/-- The alarm of a press goes off when it is due. -/
theorem wait_of_due {down : Motion} {due : Instant} (h : c.detector.Armed c.now down due)
    {ns : Nat} (hle : due ≤ c.now + ns) :
  c.wait ns =
    ({ detector := (c.detector.advance due).1, now := c.now + ns }, [(due, .longPress down)])
  := by
  obtain ⟨hnone, hlong, -⟩ := h.advance (Int.le_refl due)
  induction ns with
  | zero =>
    rw [Int.natCast_zero, Int.add_zero] at hle
    exact absurd h.ahead (Int.not_lt.mpr hle)
  | succ ns ih =>
    rw [now_add_succ] at hle ⊢
    rw [wait]
    by_cases hdue : due ≤ c.now + ns
    · -- It has gone off before, and there is no other.
      rw [ih hdue, tick_of_advance_eq (Detector.advance_of_no_alarm hnone _)]
      rfl
    · have hlt := Int.not_le.mp hdue
      have hwait : c.wait ns = ({ c with now := c.now + ns }, []) := by
        apply wait_of_not_due
        rw [h.alarm]
        rintro _ ⟨⟩
        apply hlt
      obtain rfl : due = c.now + ns + 1 := Int.le_antisymm hle hlt
      rw [hwait, tick]
      simp only [hlong]
      rfl

/-- An alarm that is set belongs to a press that waits for it. -/
def Poised (c : Clocked) : Prop :=
  c.detector.alarm = none ∨ ∃ down due, c.detector.Armed c.now down due

theorem poised_new (thresholds : Thresholds) (now : Instant) :
  (new thresholds now).Poised
  := .inl rfl

/-- To let the clock go on bit by bit comes to the same as to let it go on at once. -/
theorem wait_eq (h : c.Poised) (ns : Nat) :
  (c.wait ns).1 = { detector := (c.detector.advance (c.now + ns)).1, now := c.now + ns }
    ∧ (c.wait ns).2.map Prod.snd = (c.detector.advance (c.now + ns)).2.toList
  := by
  rcases h with hnone | ⟨down, due, harmed⟩
  · rw [wait_of_not_due (by simp [hnone]), Detector.advance_of_no_alarm hnone]
    exact ⟨rfl, rfl⟩
  · by_cases hdue : due ≤ c.now + ns
    · obtain ⟨-, hlong, hsame⟩ := harmed.advance hdue
      rw [wait_of_due harmed hdue, hlong, hsame]
      exact ⟨rfl, rfl⟩
    · have hlt : c.now + ns < due := Int.not_le.mp hdue
      rw [wait_of_not_due (by simpa [harmed.alarm] using hlt),
        Detector.advance_of_lt harmed.alarm hlt]
      exact ⟨rfl, rfl⟩

/-! ### The presses that last -/

/-- The time on the clock after an act. -/
def Act.clock (now : Instant) : Act → Instant
  | .touch _ => now
  | .wait ns => now + ns

/-- Whether an act ends the wait of the press that began with a down. -/
def Act.disturbs (slop : Float32) (down : Motion) : Act → Bool
  | .touch e => e.disturbs slop down
  | .wait _ => false

/-- The clock, which shows `now`, reaches an instant before the press of a down is
disturbed: it does so in some acts to begin with, none of which disturbs the press. -/
def Outlasts (slop : Float32) (down : Motion) (due now : Instant) (acts : List Act) : Prop :=
  ∃ calm, calm <+: acts ∧ (∀ act ∈ calm, act.disturbs slop down = false)
    ∧ due ≤ calm.foldl Act.clock now

variable {slop : Float32} {down : Motion} {due now : Instant}

theorem outlasts_of_le (h : due ≤ now) (acts : List Act) :
  Outlasts slop down due now acts
  := ⟨[], List.nil_prefix, by simp, h⟩

theorem outlasts_nil_iff :
  Outlasts slop down due now [] ↔ due ≤ now
  := by
  constructor
  · rintro ⟨calm, hcalm, -, hdue⟩
    obtain rfl := List.prefix_nil.mp hcalm
    apply hdue
  · intro h
    apply outlasts_of_le h

theorem outlasts_cons_iff {act : Act} {rest : List Act} :
  Outlasts slop down due now (act :: rest)
    ↔ due ≤ now
      ∨ act.disturbs slop down = false ∧ Outlasts slop down due (act.clock now) rest
  := by
  constructor
  · rintro ⟨calm, hcalm, hspared, hdue⟩
    rcases List.prefix_cons_iff.mp hcalm with rfl | ⟨quiet, rfl, hquiet⟩
    · exact .inl hdue
    · obtain ⟨hact, hspared⟩ := List.forall_mem_cons.mp hspared
      exact .inr ⟨hact, quiet, hquiet, hspared, hdue⟩
  · rintro (hdue | ⟨hact, calm, hcalm, hspared, hdue⟩)
    · apply outlasts_of_le hdue
    · refine ⟨act :: calm, ?_, List.forall_mem_cons.mpr ⟨hact, hspared⟩, hdue⟩
      apply List.prefix_cons_iff.mpr
      exact .inr ⟨calm, rfl, hcalm⟩

instance decidableOutlasts (slop : Float32) (down : Motion) (due : Instant) :
    ∀ (now : Instant) (acts : List Act), Decidable (Outlasts slop down due now acts)
  | now, [] => decidable_of_iff (due ≤ now) outlasts_nil_iff.symm
  | now, act :: rest =>
    have := decidableOutlasts slop down due (act.clock now) rest
    decidable_of_iff _ outlasts_cons_iff.symm

/-- A down among some acts: when it comes, and what comes after it. -/
structure Begun where
  time : Instant
  down : Motion
  later : List Act

/-- The press that an act begins, if it is a down. -/
def Act.begins (now : Instant) (later : List Act) : Act → List Begun
  | .touch e => if e.phase = .down then [⟨now, e, later⟩] else []
  | .wait _ => []

/-- The downs among some acts, if the clock shows `now` before them. -/
def downs (now : Instant) : List Act → List Begun
  | [] => []
  | act :: rest => act.begins now rest ++ downs (act.clock now) rest

/-- The press that began is not disturbed for as long as a timeout, which is positive. -/
def Begun.Lasts (slop : Float32) (timeout : Duration) (b : Begun) : Prop :=
  0 < timeout ∧ Outlasts slop b.down (b.time + timeout.toInt) b.time b.later

instance (slop : Float32) (timeout : Duration) : DecidablePred (Begun.Lasts slop timeout) :=
  fun _ => inferInstanceAs (Decidable (_ ∧ _))

/-- The long presses that some downs make: one for each that lasts, when the timeout is
over. -/
def matured (slop : Float32) (timeout : Duration) (begun : List Begun) :
    List (Instant × Motion) :=
  (begun.filter (·.Lasts slop timeout)).map fun b => (b.time + timeout.toInt, b.down)

theorem matured_append (slop : Float32) (timeout : Duration) (front back : List Begun) :
  matured slop timeout (front ++ back) = matured slop timeout front ++ matured slop timeout back
  := by
  rw [matured, List.filter_append, List.map_append]
  rfl

/-! ### All long presses of a run -/

/-- The long press that a detector waits for, if it comes. -/
def awaited (c : Clocked) (acts : List Act) : List (Instant × Motion) :=
  match c.detector.alarm, c.detector.outline with
  | some due, some (down, _) =>
    if Outlasts c.detector.thresholds.slop down due c.now acts then [(due, down)] else []
  | _, _ => []

theorem awaited_of_no_alarm (h : c.detector.alarm = none) (acts : List Act) :
  c.awaited acts = []
  := by
  rw [awaited, h]

theorem awaited_of_armed (h : c.detector.Armed c.now down due) (acts : List Act) :
  c.awaited acts =
    if Outlasts c.detector.thresholds.slop down due c.now acts then [(due, down)] else []
  := by
  rw [awaited, h.alarm, h.waiting]

/-- A press that waits comes to be long in some acts if the first one does not disturb it and
it comes to be so in the others. -/
theorem awaited_cons_of_armed (h : c.detector.Armed c.now down due) (act : Act)
    (rest : List Act) :
  c.awaited (act :: rest) =
    if act.disturbs c.detector.thresholds.slop down = false
        ∧ Outlasts c.detector.thresholds.slop down due (act.clock c.now) rest
      then [(due, down)] else []
  := by
  have hahead := Int.not_le.mpr h.ahead
  simp only [awaited_of_armed h, outlasts_cons_iff, hahead, false_or]

/-- No motion is reported as a long press. -/
theorem longPresses_touch (c : Clocked) (e : Motion) :
  longPresses (c.step (.touch e)).2 = []
  := by
  have hne := (c.detector.takes_touch c.now e).ne_longPress
  simp only [step]
  cases hgesture : (c.detector.touch c.now e).2 with
  | none => rfl
  | some g =>
    cases g with
    | down | scroll | fling => rfl
    | longPress down => exact absurd hgesture (hne down)

theorem thresholds_wait (h : c.Poised) (ns : Nat) :
  (c.wait ns).1.detector.thresholds = c.detector.thresholds
  := by
  rw [(wait_eq h ns).1, Detector.thresholds_advance]

/-- Every act keeps the limits and sets the clock, and an alarm that is set after it belongs
to a press that waits. -/
theorem Poised.step (h : c.Poised) (act : Act) :
  (c.step act).1.Poised ∧ (c.step act).1.now = act.clock c.now
    ∧ (c.step act).1.detector.thresholds = c.detector.thresholds
  := by
  cases act with
  | touch e =>
    refine ⟨?_, rfl, c.detector.thresholds_touch c.now e⟩
    by_cases he : e.phase = .down
    · by_cases htimeout : 0 < c.detector.thresholds.longPress
      · exact .inr ⟨e, _, Detector.armed_touch_of_down he htimeout⟩
      · left
        apply (Detector.alarm_touch_of_down he).trans
        rw [if_neg htimeout]
    · rcases h with hnone | ⟨down, due, harmed⟩
      · exact .inl (Detector.alarm_touch_of_no_alarm he hnone)
      · cases hdisturbs : e.disturbs c.detector.thresholds.slop down with
        | true => exact .inl (harmed.touch_of_disturbs he hdisturbs)
        | false => exact .inr ⟨down, due, harmed.touch_of_not_disturbs hdisturbs⟩
  | wait ns =>
    refine ⟨?_, ?_, thresholds_wait h ns⟩
    · rcases h with hnone | ⟨down, due, harmed⟩
      · left
        rw [Clocked.step, wait_of_not_due (by simp [hnone])]
        apply hnone
      · by_cases hdue : due ≤ c.now + ns
        · left
          rw [Clocked.step, wait_of_due harmed hdue]
          apply (harmed.advance (Int.le_refl due)).1
        · have hlt := Int.not_le.mp hdue
          right
          rw [Clocked.step, wait_of_not_due (by simpa [harmed.alarm] using hlt)]
          exact ⟨down, due, harmed.alarm, hlt, harmed.waiting⟩
    · rw [Clocked.step, (wait_eq h ns).1]
      rfl

/-- What is awaited after a down is the long press of that down. -/
theorem awaited_touch_of_down {e : Motion} (he : e.phase = .down) (rest : List Act) :
  (c.step (.touch e)).1.awaited rest =
    matured c.detector.thresholds.slop c.detector.thresholds.longPress [⟨c.now, e, rest⟩]
  := by
  by_cases htimeout : 0 < c.detector.thresholds.longPress
  · have harmed : (c.step (.touch e)).1.detector.Armed (c.step (.touch e)).1.now e
        (c.now + c.detector.thresholds.longPress.toInt) :=
      Detector.armed_touch_of_down he htimeout
    rw [awaited_of_armed harmed, show (c.step (.touch e)).1.detector.thresholds = _ from
      c.detector.thresholds_touch c.now e]
    by_cases hlasts : Outlasts c.detector.thresholds.slop e
        (c.now + c.detector.thresholds.longPress.toInt) c.now rest
    · simp [matured, Begun.Lasts, htimeout, hlasts, step]
    · simp [matured, Begun.Lasts, hlasts, step]
  · rw [awaited_of_no_alarm]
    · simp [matured, Begun.Lasts, htimeout]
    · apply (Detector.alarm_touch_of_down he).trans
      rw [if_neg htimeout]

/-- One act, seen together with what is to come: the long press that was awaited has been
reported or is awaited still, and a down makes another one awaited. -/
theorem Poised.awaited_step (h : c.Poised) (act : Act) (rest : List Act) :
  longPresses (c.step act).2 ++ (c.step act).1.awaited rest =
    c.awaited (act :: rest)
      ++ matured c.detector.thresholds.slop c.detector.thresholds.longPress
          (act.begins c.now rest)
  := by
  cases act with
  | touch e =>
    rw [longPresses_touch, List.nil_append]
    by_cases he : e.phase = .down
    · have hnone : c.awaited (.touch e :: rest) = [] := by
        rcases h with hnone | ⟨down, due, harmed⟩
        · apply awaited_of_no_alarm hnone
        · rw [awaited_cons_of_armed harmed]
          simp [Act.disturbs, Motion.disturbs, he]
      rw [hnone, Act.begins, if_pos he, awaited_touch_of_down he]
      rfl
    · rw [Act.begins, if_neg he, show matured _ _ [] = [] from rfl, List.append_nil]
      rcases h with hnone | ⟨down, due, harmed⟩
      · rw [awaited_of_no_alarm hnone,
          awaited_of_no_alarm (Detector.alarm_touch_of_no_alarm he hnone)]
      · rw [awaited_cons_of_armed harmed, Act.disturbs]
        cases hdisturbs : e.disturbs c.detector.thresholds.slop down with
        | true =>
          rw [awaited_of_no_alarm (harmed.touch_of_disturbs he hdisturbs)]
          simp
        | false =>
          have harmed' := harmed.touch_of_not_disturbs hdisturbs
          rw [awaited_of_armed harmed']
          simp [Clocked.step, Act.clock]
  | wait ns =>
    rw [Act.begins, show matured _ _ [] = [] from rfl, List.append_nil, Clocked.step]
    rcases h with hnone | ⟨down, due, harmed⟩
    · have hlater : Clocked.awaited { c with now := c.now + ns } rest = [] := by
        apply awaited_of_no_alarm
        apply hnone
      rw [wait_of_not_due (by simp [hnone]), awaited_of_no_alarm hnone]
      apply hlater
    · rw [awaited_cons_of_armed harmed]
      by_cases hdue : due ≤ c.now + ns
      · rw [wait_of_due harmed hdue,
          awaited_of_no_alarm (harmed.advance (Int.le_refl due)).1,
          if_pos ⟨rfl, outlasts_of_le hdue rest⟩]
        rfl
      · have hlt := Int.not_le.mp hdue
        have harmed' : c.detector.Armed (c.now + ns) down due :=
          ⟨harmed.alarm, hlt, harmed.waiting⟩
        rw [wait_of_not_due (by simpa [harmed.alarm] using hlt), awaited_of_armed harmed']
        simp [Act.disturbs, Act.clock, longPresses]

theorem Poised.longPresses_reports (h : c.Poised) (acts : List Act) :
  longPresses (c.reports acts) =
    c.awaited acts
      ++ matured c.detector.thresholds.slop c.detector.thresholds.longPress (downs c.now acts)
  := by
  induction acts generalizing c with
  | nil =>
    rcases h with hnone | ⟨down, due, harmed⟩
    · rw [awaited_of_no_alarm hnone]
      rfl
    · have hahead := Int.not_le.mpr harmed.ahead
      rw [awaited_of_armed harmed, if_neg (by rwa [outlasts_nil_iff])]
      rfl
  | cons act rest ih =>
    obtain ⟨hpoised, hnow, hthresholds⟩ := h.step act
    rw [reports, longPresses_append, ih hpoised, hnow, hthresholds, ← List.append_assoc,
      h.awaited_step act rest, List.append_assoc, downs, matured_append]

theorem Poised.after (h : c.Poised) (acts : List Act) :
  (c.after acts).Poised
  := by
  induction acts generalizing c with
  | nil => apply h
  | cons act rest ih => apply ih (h.step act).1

/-- The long presses of a run are those of the downs whose press lasts: one for each of them,
reported when the timeout is over and with that down.  To let the clock go on at once makes
the same of the detector as to let it go on bit by bit. -/
theorem longPresses_on_time (i : InputSettings) (start : Instant) (acts : List Act) :
  let limits := View.thresholds i
  let timeout := Duration.ofMilliseconds i.longPressMs
  longPresses ((new limits start).reports acts) =
      ((downs start acts).filter fun b => b.Lasts limits.slop timeout).map
        (fun b => (b.time + timeout.toInt, b.down))
    ∧ ∀ ns : Nat,
      let c := (new limits start).after acts
      let jump := c.detector.advance (c.now + ns)
      (c.step (.wait ns)).1 = { detector := jump.1, now := c.now + ns }
        ∧ (c.step (.wait ns)).2.map Prod.snd = jump.2.toList
  := by
  intro limits timeout
  have hpoised := poised_new limits start
  constructor
  · rw [hpoised.longPresses_reports, awaited_of_no_alarm rfl]
    rfl
  · intro ns c
    apply wait_eq (hpoised.after acts)

/-- Of three presses, one is left in time, one lasts and one leaves the slop. -/
example :
  let motion (phase : Phase) (x : Float32) : Motion :=
    { phase, x, y := 20, pointer := 4, time := 7 }
  let limits : Thresholds := { slop := 8, minFling := 50, maxFling := 8000, longPress := 30 }
  let acts : List Act :=
    [.touch (motion .down 10), .wait 29, .touch (motion .up 10),
      .touch (motion .down 50), .wait 20, .touch (motion .move 55), .wait 25,
      .touch (motion .down 90), .touch (motion .move 99), .wait 40]
  (longPresses ((new limits 100).reports acts)).map Prod.fst = [159]
  := by decide +kernel

end Clocked

end SurfaceHost
