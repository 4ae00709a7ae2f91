import Mathlib.Tactic.Common

/-!
# Monitors

A monitor follows a sequence with a state of its own and says at every place what may
come next.  It accepts a sequence if everything in it was allowed where it came.  What a
monitor passes over can be left out of a sequence.
-/

namespace SurfaceHost

universe u v

/-- A state machine over letters `α` that tells which letters are allowed in a state. -/
structure Monitor (α : Type u) (σ : Type v) where
  next : σ → α → σ
  allows : σ → α → Prop

namespace Monitor

variable {α : Type u} {σ : Type v} (m : Monitor α σ)

/-- The state after a sequence. -/
def after (s : σ) (l : List α) : σ :=
  l.foldl m.next s

/-- Every letter of a sequence is allowed where it comes. -/
def Accepts : σ → List α → Prop
  | _, [] => True
  | s, a :: l => m.allows s a ∧ Accepts (m.next s a) l

@[simp]
theorem after_nil (s : σ) :
  m.after s [] = s
  := rfl

@[simp]
theorem after_cons (s : σ) (a : α) (l : List α) :
  m.after s (a :: l) = m.after (m.next s a) l
  := rfl

@[simp]
theorem after_append (s : σ) (l k : List α) :
  m.after s (l ++ k) = m.after (m.after s l) k
  := List.foldl_append

@[simp]
theorem accepts_nil (s : σ) :
  m.Accepts s []
  := trivial

@[simp]
theorem accepts_cons (s : σ) (a : α) (l : List α) :
  m.Accepts s (a :: l) ↔ m.allows s a ∧ m.Accepts (m.next s a) l
  := Iff.rfl

@[simp]
theorem accepts_append (s : σ) (l k : List α) :
  m.Accepts s (l ++ k) ↔ m.Accepts s l ∧ m.Accepts (m.after s l) k
  := by
  induction l generalizing s with
  | nil => simp
  | cons a l ih => simp [ih, and_assoc]

/-- In an accepted sequence, every letter is allowed in the state after what comes
before it. -/
theorem Accepts.allows {s : σ} {l : List α} (h : m.Accepts s l) {front back : List α} {a : α}
    (hl : l = front ++ a :: back) :
  m.allows (m.after s front) a
  := by
  subst hl
  rw [accepts_append, accepts_cons] at h
  apply h.2.1

/-! ### Letters that are passed over -/

/-- A monitor passes over a letter that is allowed everywhere and changes nothing. -/
def Ignores (a : α) : Prop :=
  ∀ s, m.next s a = s ∧ m.allows s a

/-- Ignored letters can be left out for the state. -/
theorem after_filter {p : α → Bool} (h : ∀ a, p a = false → m.Ignores a) (s : σ) (l : List α) :
  m.after s (l.filter p) = m.after s l
  := by
  induction l generalizing s with
  | nil => rfl
  | cons a l ih =>
    cases hp : p a with
    | true => rw [List.filter_cons_of_pos hp, after_cons, after_cons, ih]
    | false =>
      rw [List.filter_cons_of_neg (by simp [hp]), after_cons, (h a hp s).1, ih]

/-- Ignored letters can be left out for acceptance. -/
theorem accepts_filter {p : α → Bool} (h : ∀ a, p a = false → m.Ignores a) (s : σ)
    (l : List α) :
  m.Accepts s (l.filter p) ↔ m.Accepts s l
  := by
  induction l generalizing s with
  | nil => rfl
  | cons a l ih =>
    cases hp : p a with
    | true => rw [List.filter_cons_of_pos hp, accepts_cons, accepts_cons, ih]
    | false =>
      have ha := h a hp s
      rw [List.filter_cons_of_neg (by simp [hp]), accepts_cons, ha.1, ih]
      simp [ha.2]

end Monitor

end SurfaceHost
