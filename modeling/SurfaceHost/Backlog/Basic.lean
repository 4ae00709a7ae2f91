/-!
# Backlog

A first-in first-out backlog, kept as a row of slots and the index of the oldest
one that is still full.  Taking from the front empties a slot; the row is cut
back once it is used up, or once at least half of a long row is empty.  The
contents are read off by `toList`.
-/

namespace SurfaceHost

universe u

/-- The slots before `head` have been taken; those from `head` on are waiting. -/
structure Backlog (α : Type u) where
  slots : Array (Option α) := #[]
  head : Nat := 0

namespace Backlog

variable {α : Type u}

/-- The backlog that holds nothing. -/
def empty : Backlog α := {}

/-- What is waiting, oldest first. -/
def toList (b : Backlog α) : List α :=
  (b.slots.toList.drop b.head).filterMap id

/-- What a list comes to when every entry counts `f`. -/
def total (f : α → Nat) : List α → Nat
  | [] => 0
  | a :: rest => f a + total f rest

@[simp]
theorem total_nil (f : α → Nat) :
  total f [] = 0
  := rfl

@[simp]
theorem total_cons (f : α → Nat) (a : α) (rest : List α) :
  total f (a :: rest) = f a + total f rest
  := rfl

@[simp]
theorem total_append (f : α → Nat) (front back : List α) :
  total f (front ++ back) = total f front + total f back
  := by
  induction front with
  | nil => simp
  | cons a rest ih => simp [ih, Nat.add_assoc]

/-- How many slots are waiting. -/
def size (b : Backlog α) : Nat :=
  b.slots.size - b.head

/-- Puts `a` behind everything that is waiting. -/
def push (b : Backlog α) (a : α) : Backlog α :=
  { b with slots := b.slots.push (some a) }

/-- Pushes what there is to push. -/
def offer (b : Backlog α) : Option α → Backlog α
  | none => b
  | some a => b.push a

/-- The shortest run of empty slots that is worth cutting off. -/
def slack : Nat := 256

/-- Cuts off the empty slots when nothing else is left, or when they are many and
make up at least half of the row. -/
def trim (b : Backlog α) : Backlog α :=
  if b.head = b.slots.size then
    empty
  else if slack ≤ b.head ∧ b.slots.size ≤ b.head * 2 then
    { slots := b.slots.extract b.head b.slots.size, head := 0 }
  else
    b

/-- Takes the oldest entry, if there is one. -/
@[inline]
def pop? (b : Backlog α) : Option (α × Backlog α) :=
  match b.slots[b.head]? with
  | some (some a) =>
    some (a, trim { slots := b.slots.setIfInBounds b.head none, head := b.head + 1 })
  | _ => none

/-! ### Contents -/

@[simp]
theorem toList_empty :
  (empty : Backlog α).toList = []
  := rfl

theorem toList_trim (b : Backlog α) :
  b.trim.toList = b.toList
  := by
  unfold trim
  split
  · rename_i h
    have : b.slots.toList.length ≤ b.head := by simp [h]
    rw [toList_empty, toList, List.drop_eq_nil_of_le this, List.filterMap_nil]
  · split
    · simp [toList, List.take_of_length_le]
    · rfl

theorem toList_push {b : Backlog α} (h : b.head ≤ b.slots.size) (a : α) :
  (b.push a).toList = b.toList ++ [a]
  := by
  simp [toList, push, List.drop_append_of_le_length, h]

/-- A push adds at most the entry that is pushed. -/
theorem toList_push_cases (b : Backlog α) (a : α) :
  (b.push a).toList = b.toList ++ [a] ∨ (b.push a).toList = b.toList
  := by
  by_cases h : b.head ≤ b.slots.size
  · exact .inl (toList_push h a)
  · have h' : b.slots.size < b.head := by omega
    right
    have h₁ : b.slots.toList.length ≤ b.head := by simp; omega
    have h₂ : (b.slots.push (some a)).toList.length ≤ b.head := by simp; omega
    simp only [toList, push, List.drop_eq_nil_of_le h₁, List.drop_eq_nil_of_le h₂]

/-- Taking from the front uncovers the contents one by one. -/
theorem toList_of_pop?_eq_some {b b' : Backlog α} {a : α} (h : b.pop? = some (a, b')) :
  b.toList = a :: b'.toList
  := by
  unfold pop? at h
  split at h
  · rename_i x hx
    obtain ⟨rfl, rfl⟩ := by simpa using h
    obtain ⟨hlt, hget⟩ := Array.getElem?_eq_some_iff.mp hx
    have hlen : b.head < b.slots.toList.length := by simpa using hlt
    rw [toList_trim]
    simp only [toList, Array.toList_setIfInBounds]
    rw [List.drop_set_of_lt (Nat.lt_succ_self b.head), List.drop_eq_getElem_cons hlen]
    simp [Array.getElem_toList, hget]
  · simp at h

end Backlog

end SurfaceHost
