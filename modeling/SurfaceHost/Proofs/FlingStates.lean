import SurfaceHost.Proofs.FlingBounds

/-!
# The states of a fling

A scroller is flung, looked at, stopped and let go on in any order, while its clock is set
forwards and backwards and distances become whole numbers in any way.  From a fling inside
its rectangle up to the next fling, neither the position nor the end of the fling leaves the
rectangle (`Scroller.Inside`).  A look at the scroller moves it exactly if it was running,
and it ends the fling exactly if the position is the end.
-/

namespace SurfaceHost

/-! ### One look -/

namespace Scroller

variable {s : Scroller} {now : Instant}

/-- A scroller that is running moves to the end if its time is up, and to some place on its
path otherwise. -/
theorem compute_of_running (hs : s.finished = false) (now : Instant) :
  (s.duration ≤ s.elapsed now
      ∧ s.compute now = ({ s with current := s.final, finished := true }, true))
    ∨ ∃ distance, s.compute now =
      ({ s with
          current := s.position s.flight distance
          finished := decide (s.position s.flight distance = s.final) },
        true)
  := by
  rw [compute, if_neg (by simp [hs])]
  by_cases hup : s.elapsed now ≥ s.duration
  · left
    use hup
    simp only [if_pos hup]
  · right
    simp only [if_neg hup]
    exact ⟨_, rfl⟩

theorem compute_eq_false_iff (s : Scroller) (now : Instant) :
  (s.compute now).2 = false ↔ s.finished = true
  := by
  cases hs : s.finished with
  | true => simp [compute_of_finished hs]
  | false =>
    obtain ⟨-, hcompute⟩ | ⟨distance, hcompute⟩ := compute_of_running hs now
    · simp [hcompute]
    · simp [hcompute]

theorem finished_eq_false_of_compute (h : (s.compute now).2 = true) :
  s.finished = false
  := by
  rw [← Bool.not_eq_true, ← compute_eq_false_iff s now, h]
  simp

theorem finished_compute_iff (h : (s.compute now).2 = true) :
  (s.compute now).1.finished = true ↔ (s.compute now).1.current = (s.compute now).1.final
  := by
  obtain ⟨-, hcompute⟩ | ⟨distance, hcompute⟩ :=
    compute_of_running (finished_eq_false_of_compute h) now
  · simp [hcompute]
  · simp [hcompute]

theorem final_compute (s : Scroller) (now : Instant) :
  (s.compute now).1.final = s.final
  := by
  cases hs : s.finished with
  | true => rw [compute_of_finished hs]
  | false =>
    obtain ⟨-, hcompute⟩ | ⟨distance, hcompute⟩ := compute_of_running hs now
    · rw [hcompute]
    · rw [hcompute]

/-- A running scroller that is looked at when its time is up stands at its end. -/
theorem current_compute_of_time_up (h : (s.compute now).2 = true)
    (hup : s.duration ≤ s.elapsed now) :
  (s.compute now).1.current = s.final
  := by
  have hs := finished_eq_false_of_compute h
  rw [compute, if_neg (by simp [hs])]
  simp only [if_pos hup]

/-! ### Staying inside -/

/-- A scroller was last flung at an instant in a rectangle, which holds its position and the
end of its fling. -/
structure Inside (begun : Instant) (extentX extentY : Extent) (s : Scroller) : Prop where
  begun : s.flight.begun = some begun
  rangeX : s.flight.extentX = extentX
  rangeY : s.flight.extentY = extentY
  current : extentX.Contains s.current.x ∧ extentY.Contains s.current.y
  final : extentX.Contains s.final.x ∧ extentY.Contains s.final.y

variable {begun : Instant} {extentX extentY : Extent}

theorem inside_fling {start : Point} (hx : extentX.Contains start.x)
    (hy : extentY.Contains start.y) (vx vy : Float32) :
  (s.fling now start vx vy extentX extentY).Inside now extentX extentY
  := by
  rw [fling]
  simp only
  split
  · exact ⟨rfl, rfl, rfl, ⟨hx, hy⟩, ⟨hx, hy⟩⟩
  · refine ⟨rfl, rfl, rfl, ⟨hx, hy⟩, ?_⟩
    apply contains_position _ _ hx.low_le_high hy.low_le_high
    · rfl
    · rfl

theorem Inside.compute (h : s.Inside begun extentX extentY) (now : Instant) :
  (s.compute now).1.Inside begun extentX extentY
  := by
  cases hs : s.finished with
  | true =>
    rw [compute_of_finished hs]
    apply h
  | false =>
    obtain ⟨-, hcompute⟩ | ⟨distance, hcompute⟩ := compute_of_running hs now
    · rw [hcompute]
      exact ⟨h.begun, h.rangeX, h.rangeY, h.final, h.final⟩
    · rw [hcompute]
      refine ⟨h.begun, h.rangeX, h.rangeY, ?_, h.final⟩
      obtain ⟨hx, hy⟩ := h.current
      apply contains_position h.rangeX h.rangeY hx.low_le_high hy.low_le_high

theorem Inside.force (h : s.Inside begun extentX extentY) (finished : Bool) :
  (s.forceFinished finished).Inside begun extentX extentY
  := ⟨h.begun, h.rangeX, h.rangeY, h.current, h.final⟩

theorem Inside.setRounding (h : s.Inside begun extentX extentY) (rounding : Rounding) :
  { s with rounding }.Inside begun extentX extentY
  := ⟨h.begun, h.rangeX, h.rangeY, h.current, h.final⟩

theorem Inside.elapsed_eq (h : s.Inside begun extentX extentY) (now : Instant) :
  s.elapsed now = Duration.between begun now
  := by
  rw [elapsed, h.begun]

end Scroller

/-! ### A scroller and its clock -/

/-- A scroller beside its clock. -/
structure Animation where
  scroller : Scroller
  now : Instant := 0

namespace Animation

/-- What can happen to a scroller and its clock. -/
inductive Act where
  | fling (start : Point) (vx vy : Float32) (extentX extentY : Extent)
  | compute
  | force (finished : Bool)
  /-- The clock goes forwards or backwards. -/
  | setClock (now : Instant)
  /-- Distances and times become whole numbers in another way from now on. -/
  | setRounding (rounding : Rounding)

def Act.isFling : Act → Bool
  | .fling .. => true
  | _ => false

/-- A scroller that was never flung. -/
def new (density : Float32) : Animation :=
  { scroller := Scroller.ofDensity density }

def step (a : Animation) : Act → Animation
  | .fling start vx vy extentX extentY =>
    { a with scroller := a.scroller.fling a.now start vx vy extentX extentY }
  | .compute => { a with scroller := (a.scroller.compute a.now).1 }
  | .force finished => { a with scroller := a.scroller.forceFinished finished }
  | .setClock now => { a with now }
  | .setRounding rounding => { a with scroller := { a.scroller with rounding } }

def after (a : Animation) (acts : List Act) : Animation :=
  acts.foldl step a

theorem after_append (a : Animation) (front back : List Act) :
  a.after (front ++ back) = (a.after front).after back
  := List.foldl_append

variable {a : Animation} {begun : Instant} {extentX extentY : Extent}

theorem inside_step (h : a.scroller.Inside begun extentX extentY) {act : Act}
    (hact : act.isFling = false) :
  (a.step act).scroller.Inside begun extentX extentY
  := by
  cases act with
  | fling => cases hact
  | compute => apply h.compute
  | force finished => apply h.force
  | setClock now => apply h
  | setRounding rounding => apply h.setRounding

/-- Nothing but another fling takes a scroller out of its rectangle. -/
theorem inside_after (h : a.scroller.Inside begun extentX extentY) {acts : List Act}
    (hacts : ∀ act ∈ acts, act.isFling = false) :
  (a.after acts).scroller.Inside begun extentX extentY
  := by
  induction acts generalizing a with
  | nil => apply h
  | cons act acts ih =>
    obtain ⟨hact, hacts⟩ := List.forall_mem_cons.mp hacts
    apply ih (inside_step h hact) hacts

/-- The scroller is inside the rectangle of the latest fling. -/
theorem inside_after_fling (first : Animation) (front : List Act) {start : Point}
    (hx : extentX.Contains start.x) (hy : extentY.Contains start.y) (vx vy : Float32)
    {rest : List Act} (hrest : ∀ act ∈ rest, act.isFling = false) :
  (first.after (front ++ .fling start vx vy extentX extentY :: rest)).scroller.Inside
    (first.after front).now extentX extentY
  := by
  rw [after_append]
  apply inside_after _ hrest
  apply Scroller.inside_fling hx hy

/-- After any acts, the position and the end of the latest fling are in its rectangle, and
its time runs from that fling.  A look finds the scroller finished, and leaves it alone,
exactly if it was finished before.  Otherwise the scroller is finished afterwards exactly if
it stands at its end, as it does once its time is up.  Stopping it, or letting it go on, does
not move it. -/
theorem stays_in_latest_rectangle (density : Float32) (acts : List Act) :
  let a := (new density).after acts
  let next := a.scroller.compute a.now
  (∀ front start vx vy extentX extentY rest,
      acts = front ++ .fling start vx vy extentX extentY :: rest →
      extentX.Contains start.x → extentY.Contains start.y →
      (∀ act ∈ rest, act.isFling = false) →
        (extentX.Contains a.scroller.current.x ∧ extentY.Contains a.scroller.current.y)
          ∧ (extentX.Contains a.scroller.final.x ∧ extentY.Contains a.scroller.final.y)
          ∧ a.scroller.elapsed a.now = Duration.between ((new density).after front).now a.now)
    ∧ (next.2 = false ↔ a.scroller.finished = true)
    ∧ (next.2 = false → next.1 = a.scroller)
    ∧ (next.2 = true →
      next.1.final = a.scroller.final
        ∧ (next.1.finished = true ↔ next.1.current = next.1.final)
        ∧ (a.scroller.duration ≤ a.scroller.elapsed a.now → next.1.current = next.1.final))
    ∧ ∀ finished,
      (a.scroller.forceFinished finished).current = a.scroller.current
        ∧ (a.scroller.forceFinished finished).final = a.scroller.final
  := by
  intro a next
  refine ⟨?_, a.scroller.compute_eq_false_iff a.now, ?_, ?_, ?_⟩
  · intro front start vx vy extentX extentY rest hacts hx hy hrest
    have hinside : a.scroller.Inside ((new density).after front).now extentX extentY := by
      simp only [a, hacts]
      apply inside_after_fling _ front hx hy vx vy hrest
    exact ⟨hinside.current, hinside.final, hinside.elapsed_eq a.now⟩
  · intro hfalse
    have hfinished := (a.scroller.compute_eq_false_iff a.now).mp hfalse
    simp only [next, Scroller.compute_of_finished hfinished]
  · intro htrue
    have hfinal := a.scroller.final_compute a.now
    refine ⟨hfinal, Scroller.finished_compute_iff htrue, ?_⟩
    intro hup
    rw [Scroller.current_compute_of_time_up htrue hup, hfinal]
  · intro finished
    exact ⟨rfl, rfl⟩

/-- A fling is stopped, flung again from elsewhere, looked at before it began, let go on and
looked at when its time is up. -/
theorem stays_in_latest_rectangle_backwards :
  let wide : Extent := ⟨-5, 40⟩
  let narrow : Extent := ⟨7, 9⟩
  let front : List Act :=
    [.fling ⟨3, 4⟩ 900 0 wide wide, .setClock 20, .compute, .force true, .setClock 12]
  let rest : List Act :=
    [.setRounding ⟨fun _ => -100, fun _ => 6⟩, .setClock (-30), .compute, .force false,
      .setClock 9223372036854775819]
  let acts := front ++ .fling ⟨8, 30⟩ (-700) 800 narrow wide :: rest
  let a := (new 2).after acts
  (narrow.Contains 8 ∧ wide.Contains 30)
    ∧ (narrow.Contains a.scroller.current.x ∧ wide.Contains a.scroller.current.y)
    ∧ a.scroller.finished = false
    ∧ (a.scroller.compute a.now).1.current = (a.scroller.compute a.now).1.final
  := by
  intro wide narrow front rest acts a
  obtain ⟨hlatest, hlook, -, hrunning, -⟩ := stays_in_latest_rectangle 2 acts
  have hx : narrow.Contains 8 := by simp [narrow, Extent.Contains]
  have hy : wide.Contains 30 := by simp [wide, Extent.Contains]
  obtain ⟨hcurrent, -, helapsed⟩ :=
    hlatest front ⟨8, 30⟩ (-700) 800 narrow wide rest rfl hx hy (by simp [rest, Act.isFling])
  have hfinished : a.scroller.finished = false := rfl
  have hmore : (a.scroller.compute a.now).2 = true := by
    rw [← Bool.not_eq_false, hlook, Bool.not_eq_true]
    apply hfinished
  -- The clock goes on for as long as a duration can be.
  have hup : a.scroller.duration ≤ Duration.between 12 9223372036854775819 := by
    have hlong (ns : Int) (hmax : ns ≤ 9223372036854775807) : 12 + ns ≤ 9223372036854775819 := by
      omega
    apply Duration.le_between
    apply hlong _ a.scroller.duration.toInt_le
  refine ⟨⟨hx, hy⟩, hcurrent, hfinished, ?_⟩
  apply (hrunning hmore).2.2
  rw [helapsed]
  apply hup

end Animation

end SurfaceHost
