import Mathlib.Tactic.Common
import SurfaceHost.Backlog.Basic

/-!
# Backlogs in order

A backlog is in order when the slots before its head are empty and all others are full.
Every backlog that is made by pushing and popping is in order, and then it is a queue:
`push` adds at the end of the contents, `pop?` takes from their front, and it fails
exactly if there are none.

A backlog is trimmed when it does not carry too many empty slots along: none if nothing is
waiting, and from 256 of them on fewer than half of the row.
-/

namespace SurfaceHost

universe u

namespace Backlog

variable {α : Type u}

/-- The slots of a backlog are empty ones up to its head, and then the contents. -/
def InOrder (b : Backlog α) : Prop :=
  b.slots.toList = List.replicate b.head none ++ b.toList.map some

theorem inOrder_empty :
  (empty : Backlog α).InOrder
  := rfl

theorem InOrder.head_le {b : Backlog α} (h : b.InOrder) :
  b.head ≤ b.slots.size
  := by
  rw [← Array.length_toList, h]
  simp

/-- A row of empty slots in front of full ones is in order. -/
theorem inOrder_of_slots {b : Backlog α} (full : List α)
    (h : b.slots.toList = List.replicate b.head none ++ full.map some) :
  b.InOrder
  := by
  have hfull : b.toList = full := by
    rw [toList, h, List.drop_left' List.length_replicate]
    simp
  rw [InOrder, hfull]
  apply h

/-- A push keeps a backlog in order. -/
theorem InOrder.push {b : Backlog α} (h : b.InOrder) (a : α) :
  (b.push a).InOrder
  := by
  apply inOrder_of_slots (b.toList ++ [a])
  rw [Backlog.push, Array.toList_push, h]
  simp

/-- In a backlog in order, a push adds at the end of the contents. -/
theorem InOrder.toList_push {b : Backlog α} (h : b.InOrder) (a : α) :
  (b.push a).toList = b.toList ++ [a]
  := Backlog.toList_push h.head_le a

/-- Cutting off empty slots keeps a backlog in order. -/
theorem InOrder.trim {b : Backlog α} (h : b.InOrder) :
  b.trim.InOrder
  := by
  rw [Backlog.trim]
  split
  · apply inOrder_empty
  · split
    · apply inOrder_of_slots b.toList
      rw [Array.toList_extract, List.extract_eq_take_drop, h,
        List.drop_left' List.length_replicate]
      apply List.take_of_length_le
      have hlen := congrArg List.length h
      simp only [Array.length_toList, List.length_append, List.length_replicate] at hlen
      omega
    · apply h

/-- The oldest slot of a backlog in order holds the first of the contents. -/
theorem InOrder.getElem?_head {b : Backlog α} (h : b.InOrder) :
  b.slots[b.head]? = b.toList.head?.map some
  := by
  rw [← Array.getElem?_toList, h, List.getElem?_append_right (by simp)]
  simp [List.head?_eq_getElem?]

/-- In a backlog in order, there is nothing to take exactly if there are no contents. -/
theorem InOrder.pop?_eq_none_iff {b : Backlog α} (h : b.InOrder) :
  b.pop? = none ↔ b.toList = []
  := by
  rw [pop?, h.getElem?_head]
  cases b.toList with
  | nil => simp
  | cons a rest => simp

/-- Taking the oldest entry keeps a backlog in order. -/
theorem InOrder.pop? {b b' : Backlog α} {a : α} (h : b.InOrder) (hpop : b.pop? = some (a, b')) :
  b'.InOrder
  := by
  rw [Backlog.pop?, h.getElem?_head] at hpop
  cases hlist : b.toList with
  | nil => simp [hlist] at hpop
  | cons c rest =>
    simp only [hlist, List.head?_cons, Option.map_some, Option.some.injEq, Prod.mk.injEq] at hpop
    obtain ⟨-, rfl⟩ := hpop
    apply InOrder.trim
    apply inOrder_of_slots rest
    rw [Array.toList_setIfInBounds, h, hlist, List.set_append_right _ _ (by simp)]
    simp [List.replicate_succ']

/-- The size of a backlog in order is the number of its contents. -/
theorem InOrder.size_eq {b : Backlog α} (h : b.InOrder) :
  b.size = b.toList.length
  := by
  have hlength := congrArg List.length h
  simp only [Array.length_toList, List.length_append, List.length_replicate,
    List.length_map] at hlength
  rw [Backlog.size]
  omega

/-- The slots before the head of a backlog in order are empty. -/
theorem InOrder.getElem?_of_lt {b : Backlog α} (h : b.InOrder) {i : Nat} (hi : i < b.head) :
  b.slots[i]? = some none
  := by
  rw [← Array.getElem?_toList, h, List.getElem?_append_left (by simpa using hi)]
  simp [hi]

/-- The slots from the head of a backlog in order on hold the contents. -/
theorem InOrder.getElem?_of_le {b : Backlog α} (h : b.InOrder) {i : Nat} (hi : b.head ≤ i) :
  b.slots[i]? = b.toList[i - b.head]?.map some
  := by
  rw [← Array.getElem?_toList, h, List.getElem?_append_right (by simpa using hi)]
  simp

/-! ### Empty slots -/

/-- No empty slots stand alone, and many of them are fewer than half of the row. -/
structure Trimmed (b : Backlog α) : Prop where
  head_cases : b.head = 0 ∨ b.head < b.slots.size
  slack_cases : b.head < slack ∨ 2 * b.head < b.slots.size

/-- A row without empty slots in front is trimmed. -/
theorem trimmed_of_head_eq_zero {b : Backlog α} (h : b.head = 0) :
  b.Trimmed
  := by
  have hslack : 0 < slack := by decide
  constructor
  · omega
  · omega

theorem trimmed_empty :
  (empty : Backlog α).Trimmed
  := trimmed_of_head_eq_zero rfl

theorem Trimmed.push {b : Backlog α} (h : b.Trimmed) (a : α) :
  (b.push a).Trimmed
  := by
  have hsize : (b.push a).slots.size = b.slots.size + 1 := Array.size_push _
  have hhead : (b.push a).head = b.head := rfl
  have hhead_cases := h.head_cases
  have hslack_cases := h.slack_cases
  constructor
  · omega
  · omega

theorem trimmed_trim {b : Backlog α} (h : b.head ≤ b.slots.size) :
  b.trim.Trimmed
  := by
  rw [trim]
  split
  · apply trimmed_empty
  · split
    · apply trimmed_of_head_eq_zero rfl
    · constructor
      · omega
      · omega

/-- Taking the oldest entry leaves a trimmed backlog. -/
theorem InOrder.trimmed_of_pop? {b b' : Backlog α} {a : α} (h : b.InOrder)
    (hpop : b.pop? = some (a, b')) :
  b'.Trimmed
  := by
  have hcontents := toList_of_pop?_eq_some hpop
  have hsize := h.size_eq
  rw [hcontents, List.length_cons, Backlog.size] at hsize
  rw [Backlog.pop?, h.getElem?_head, hcontents] at hpop
  obtain ⟨-, rfl⟩ := Prod.mk.inj (Option.some.inj hpop)
  apply trimmed_trim
  change b.head + 1 ≤ (b.slots.setIfInBounds b.head none).size
  rw [Array.size_setIfInBounds]
  omega

end Backlog

end SurfaceHost
