import Mathlib.Tactic.Common
import SurfaceHost.Touch.Motion

/-!
# Contacts as a finite map

Contacts in ascending order of the pointer are a finite map from pointers to positions:
`insert` overwrites one pointer, `erase` removes one, and both keep the order.
-/

namespace SurfaceHost

namespace Contacts

/-- The pointers of the contacts go up strictly. -/
def Ascending (cs : Contacts) : Prop :=
  cs.Pairwise fun c d => c.pointer < d.pointer

theorem ascending_nil :
  Ascending []
  := List.Pairwise.nil

/-! ### Which pointers are down -/

theorem contains_iff {cs : Contacts} {p : Int64} :
  cs.contains p = true ↔ ∃ c ∈ cs, c.pointer = p
  := by
  simp [contains]

@[simp]
theorem contains_insert (cs : Contacts) (c : Contact) (p : Int64) :
  (cs.insert c).contains p = (c.pointer == p || cs.contains p)
  := by
  induction cs with
  | nil => simp [insert, contains]
  | cons d rest ih =>
    simp only [insert]
    split
    · simp [contains]
    · split
      · rename_i h
        simp [contains, h]
      · simp only [contains, List.any_cons] at ih ⊢
        rw [ih, Bool.or_left_comm]

@[simp]
theorem contains_erase (cs : Contacts) (q p : Int64) :
  (cs.erase q).contains p = (p != q && cs.contains p)
  := by
  by_cases h : p = q
  · subst h
    simp [erase, contains]
  · simp only [erase, contains, List.any_filter]
    rw [Bool.eq_iff_iff]
    simp only [List.any_eq_true, Bool.and_eq_true, bne_iff_ne, decide_eq_true_eq, beq_iff_eq]
    constructor
    · rintro ⟨c, hc, -, rfl⟩
      exact ⟨h, c, hc, rfl⟩
    · rintro ⟨-, c, hc, rfl⟩
      exact ⟨c, hc, h, rfl⟩

/-! ### The contacts themselves -/

theorem mem_erase {cs : Contacts} {p : Int64} {d : Contact} :
  d ∈ cs.erase p ↔ d ∈ cs ∧ d.pointer ≠ p
  := by
  simp [erase]

theorem Ascending.erase {cs : Contacts} (h : cs.Ascending) (p : Int64) :
  (cs.erase p).Ascending
  := List.Pairwise.filter _ h

/-- An ascending row puts every other contact above the first one. -/
theorem ascending_cons {c : Contact} {cs : Contacts} :
  Ascending (c :: cs) ↔ (∀ d ∈ cs, c.pointer < d.pointer) ∧ cs.Ascending
  := List.pairwise_cons

theorem Ascending.ne_of_mem_tail {c d : Contact} {cs : Contacts} (h : Ascending (c :: cs))
    (hd : d ∈ cs) :
  d.pointer ≠ c.pointer
  := by
  intro heq
  have hlt := (ascending_cons.mp h).1 d hd
  rw [heq] at hlt
  apply Int64.lt_irrefl hlt

/-- A contact overwrites the one with the same pointer and leaves the others. -/
theorem Ascending.mem_insert {cs : Contacts} (h : cs.Ascending) {c d : Contact} :
  d ∈ cs.insert c ↔ d = c ∨ d ∈ cs ∧ d.pointer ≠ c.pointer
  := by
  induction cs with
  | nil => simp [insert]
  | cons b rest ih =>
    obtain ⟨hb, hrest⟩ := ascending_cons.mp h
    simp only [insert]
    split
    · rename_i hlt
      -- Everything in the row lies above the new contact.
      have above : ∀ d ∈ b :: rest, d.pointer ≠ c.pointer := by
        intro d hd heq
        rcases List.mem_cons.mp hd with rfl | hd
        · rw [heq] at hlt
          apply Int64.lt_irrefl hlt
        · have hlt' := Int64.lt_trans hlt (hb d hd)
          rw [heq] at hlt'
          apply Int64.lt_irrefl hlt'
      rw [List.mem_cons]
      constructor
      · rintro (rfl | hd)
        · exact .inl rfl
        · exact .inr ⟨hd, above d hd⟩
      · rintro (rfl | ⟨hd, -⟩)
        · exact .inl rfl
        · exact .inr hd
    · split
      · rename_i heq
        have above : ∀ d ∈ rest, d.pointer ≠ c.pointer := by
          intro d hd hd'
          have hlt := hb d hd
          rw [hd', heq] at hlt
          apply Int64.lt_irrefl hlt
        rw [List.mem_cons, List.mem_cons]
        constructor
        · rintro (rfl | hd)
          · exact .inl rfl
          · exact .inr ⟨.inr hd, above d hd⟩
        · rintro (rfl | ⟨rfl | hd, hne⟩)
          · exact .inl rfl
          · exact absurd heq.symm hne
          · exact .inr hd
      · rename_i hne
        rw [List.mem_cons, ih hrest, List.mem_cons]
        constructor
        · rintro (rfl | rfl | ⟨hd, hd'⟩)
          · exact .inr ⟨.inl rfl, Ne.symm hne⟩
          · exact .inl rfl
          · exact .inr ⟨.inr hd, hd'⟩
        · rintro (rfl | ⟨rfl | hd, hd'⟩)
          · exact .inr (.inl rfl)
          · exact .inl rfl
          · exact .inr (.inr ⟨hd, hd'⟩)

theorem Ascending.insert {cs : Contacts} (h : cs.Ascending) (c : Contact) :
  (cs.insert c).Ascending
  := by
  induction cs with
  | nil => apply List.pairwise_singleton
  | cons b rest ih =>
    obtain ⟨hb, hrest⟩ := ascending_cons.mp h
    simp only [Contacts.insert]
    split
    · rename_i hlt
      apply ascending_cons.mpr
      constructor
      · intro d hd
        rcases List.mem_cons.mp hd with rfl | hd
        · apply hlt
        · apply Int64.lt_trans hlt (hb d hd)
      · apply h
    · split
      · rename_i heq
        apply ascending_cons.mpr
        constructor
        · intro d hd
          rw [heq]
          apply hb d hd
        · apply hrest
      · rename_i hnlt hne
        apply ascending_cons.mpr
        constructor
        · intro d hd
          rcases hrest.mem_insert.mp hd with rfl | ⟨hd, -⟩
          · apply Int64.lt_of_le_of_ne (Int64.not_lt.mp hnlt) (Ne.symm hne)
          · apply hb d hd
        · apply ih hrest

end Contacts

end SurfaceHost
