import Mathlib.Tactic.Common
import SurfaceHost.Fling

/-!
# Bounds of flings

However distances and times are rounded, a fling inside the square from 0 to a limit is
never seen outside of it (`Scroller.Within.compute`), and it is over once it is looked at
when its time is up (`Scroller.finished_compute_of_time_up`).
-/

namespace SurfaceHost

namespace Duration

/-- The difference of two instants is at least as long as any duration that fits between
them, even if it is cut off. -/
theorem le_between {d : Duration} {start finish : Instant} (h : start + d.toInt ≤ finish) :
  d ≤ between start finish
  := by
  have hmin := d.minValue_le_toInt
  have hmax := d.toInt_le
  have hspan : d.toInt ≤ finish - start := Int.le_sub_left_of_add_le h
  rw [between, saturate, Int64.le_iff_toInt_le]
  split
  · omega
  · split
    · exact hmax
    · rename_i hlow hhigh
      rw [Int64.toInt_ofInt_of_le]
      · omega
      · rw [Int64.toInt_minValue] at hlow
        omega
      · rw [Int64.toInt_maxValue] at hhigh
        omega

theorem le_longest (d : Duration) :
  d ≤ longest
  := Int64.le_iff_toInt_le.mpr d.toInt_le

end Duration

namespace Extent

/-- A value lies in a range. -/
def Contains (r : Extent) (v : Int64) : Prop :=
  r.low ≤ v ∧ v ≤ r.high

instance (r : Extent) (v : Int64) : Decidable (r.Contains v) :=
  inferInstanceAs (Decidable (_ ∧ _))

/-- A range that holds something has its ends in order. -/
theorem Contains.low_le_high {r : Extent} {v : Int64} (h : r.Contains v) :
  r.low ≤ r.high
  := Int64.le_trans h.1 h.2

/-- The point of a range nearest to anything lies in that range. -/
theorem contains_clamp {r : Extent} (h : r.low ≤ r.high) (v : Int64) :
  r.Contains (r.clamp v)
  := by
  simp only [Contains, clamp, Int64.le_iff_toInt_le, Int64.lt_iff_toInt_lt, gt_iff_lt] at h ⊢
  split
  · exact ⟨Int.le_refl _, h⟩
  · split
    · exact ⟨h, Int.le_refl _⟩
    · omega

end Extent

/-- A point lies in the square from 0 to a limit. -/
def Point.Within (limit : Int64) (p : Point) : Prop :=
  (0 ≤ p.x ∧ p.x ≤ limit) ∧ 0 ≤ p.y ∧ p.y ≤ limit

namespace Scroller

variable {s : Scroller} {limit : Int64}

/-- A fling stays in the square from 0 to a limit, and so does its end. -/
structure Within (limit : Int64) (s : Scroller) : Prop where
  extentX : s.flight.extentX = ⟨0, limit⟩
  extentY : s.flight.extentY = ⟨0, limit⟩
  final : s.final.Within limit

/-- Wherever a flight is on its path, it is in its rectangle. -/
theorem contains_position {f : Flight} {extentX extentY : Extent} (hfx : f.extentX = extentX)
    (hfy : f.extentY = extentY) (hx : extentX.low ≤ extentX.high)
    (hy : extentY.low ≤ extentY.high) (distance : Float) :
  extentX.Contains (s.position f distance).x ∧ extentY.Contains (s.position f distance).y
  := by
  rw [position, hfx, hfy]
  exact ⟨Extent.contains_clamp hx _, Extent.contains_clamp hy _⟩

theorem position_within (hlimit : 0 ≤ limit) {f : Flight} (hx : f.extentX = ⟨0, limit⟩)
    (hy : f.extentY = ⟨0, limit⟩) (distance : Float) :
  (s.position f distance).Within limit
  := by
  apply contains_position hx hy
  · exact hlimit
  · exact hlimit

/-- A fling that is not over at once stays in its square. -/
theorem within_fling (hlimit : 0 ≤ limit) {now : Instant} {start : Point} {vx vy : Float32}
    (hrunning : (s.fling now start vx vy ⟨0, limit⟩ ⟨0, limit⟩).finished = false) :
  (s.fling now start vx vy ⟨0, limit⟩ ⟨0, limit⟩).Within limit
  := by
  rw [fling] at hrunning ⊢
  simp only at hrunning ⊢
  split
  · rename_i hzero
    rw [if_pos hzero] at hrunning
    cases hrunning
  · constructor
    · rfl
    · rfl
    · apply position_within hlimit rfl rfl

theorem compute_of_finished (hs : s.finished = true) (now : Instant) :
  s.compute now = (s, false)
  := by
  rw [compute, if_pos hs]

/-- A fling that is running is found running, and has moved within its square. -/
theorem Within.compute (h : s.Within limit) (hlimit : 0 ≤ limit) (hs : s.finished = false)
    (now : Instant) :
  (s.compute now).2 = true ∧ (s.compute now).1.Within limit
    ∧ (s.compute now).1.current.Within limit
  := by
  rw [Scroller.compute, if_neg (by simp [hs])]
  simp only
  split
  · exact ⟨rfl, ⟨h.extentX, h.extentY, h.final⟩, h.final⟩
  · exact ⟨rfl, ⟨h.extentX, h.extentY, h.final⟩, position_within hlimit h.extentX h.extentY _⟩

/-- A fling that is looked at when its time is up is over.  One that never began is, too. -/
theorem finished_compute_of_time_up {now : Instant}
    (hup : ∀ begun, s.flight.begun = some begun → begun + s.duration.toInt ≤ now) :
  (s.compute now).1.finished = true
  := by
  have helapsed : s.duration ≤ s.elapsed now := by
    rw [elapsed]
    split
    · rename_i begun hbegun
      apply Duration.le_between (hup begun hbegun)
    · apply Duration.le_longest
  rw [compute]
  split
  · assumption
  · simp only
    rw [if_pos helapsed]

end Scroller

end SurfaceHost
