import Mathlib.Data.Finset.Card

/-!
# Counting two lists of names

The length of a list and of what a second list adds to it, next to the size
of the set of all their names.
-/

namespace FlanForge

variable {α : Type} [DecidableEq α] {l m : List α}

/-- The names are at most as many as the lists are long. -/
theorem card_union_le_length (l m : List α) :
    (l.toFinset ∪ m.toFinset).card ≤ l.length + (m.filter fun a => a ∉ l).length := by
  have hsub : l.toFinset ∪ m.toFinset ⊆ l.toFinset ∪ (m.filter fun a => a ∉ l).toFinset := by
    intro a ha
    by_cases hl : a ∈ l <;> simp_all
  calc (l.toFinset ∪ m.toFinset).card
    _ ≤ (l.toFinset ∪ (m.filter fun a => a ∉ l).toFinset).card := Finset.card_le_card hsub
    _ ≤ l.toFinset.card + (m.filter fun a => a ∉ l).toFinset.card := Finset.card_union_le _ _
    _ ≤ _ := Nat.add_le_add (List.toFinset_card_le l) (List.toFinset_card_le _)

/-- Without repetitions they are as many. -/
theorem length_eq_card_union (hl : l.Nodup) (hm : m.Nodup) :
    l.length + (m.filter fun a => a ∉ l).length = (l.toFinset ∪ m.toFinset).card := by
  have hdisjoint : Disjoint l.toFinset (m.filter fun a => a ∉ l).toFinset := by
    rw [Finset.disjoint_left]
    intro a ha hb
    simp_all
  rw [← List.toFinset_card_of_nodup hl, ← List.toFinset_card_of_nodup (hm.filter _),
    ← Finset.card_union_of_disjoint hdisjoint]
  congr 1
  ext a
  by_cases ha : a ∈ l <;> simp_all

end FlanForge
