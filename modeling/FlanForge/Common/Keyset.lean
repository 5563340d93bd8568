import Mathlib.Data.List.Sort

/-!
# Keyset paging

A listing in a total order, read page by page: a page is asked for by the
last element of the page before it and holds what comes strictly after.
`sort_after` says what that is: with the listing split behind the element,
it is the second part. The relation has to tell the elements of the list
apart, and no more than that. `rel_of_taken` is the order between what one
page takes and what it leaves.
-/

namespace FlanForge

open List

namespace Keyset

variable {α : Type} {r : α → α → Prop} [DecidableRel r] [Std.Total r] [IsTrans α r]
variable {l seen left : List α} {y : α}

/-- The relation tells the elements of a list apart. -/
def Separates (r : α → α → Prop) (l : List α) : Prop :=
  ∀ a ∈ l, ∀ b ∈ l, r a b → r b a → a = b

/-- Selecting from a listing is listing a selection. -/
theorem sort_filter (hl : Separates r l) (p : α → Bool) :
    (l.filter p).insertionSort r = (l.insertionSort r).filter p := by
  refine List.Perm.eq_of_pairwise ?_ (pairwise_insertionSort r _)
    ((pairwise_insertionSort r l).filter _) ?_
  · intro a b ha hb hab hba
    have ha' := mem_of_mem_filter ((mem_insertionSort r).mp ha)
    have hb' := (mem_insertionSort r).mp (mem_of_mem_filter hb)
    exact hl a ha' b hb' hab hba
  · exact (perm_insertionSort r _).trans ((perm_insertionSort r l).filter p).symm

omit [IsTrans α r] in
/-- What comes strictly after an element of a listing is the part behind it. -/
theorem filter_after (hsorted : (seen ++ y :: left).Pairwise r)
    (hl : Separates r (seen ++ y :: left)) (hnodup : (seen ++ y :: left).Nodup) :
    (seen ++ y :: left).filter (fun x => ¬ r x y) = left := by
  obtain ⟨-, hbehind, hbefore⟩ := pairwise_append.mp hsorted
  obtain ⟨hnotmem, -⟩ := nodup_cons.mp (nodup_append.mp hnodup).2.1
  have hseen : seen.filter (fun x => ¬ r x y) = [] := by
    refine filter_eq_nil_iff.mpr fun x hx => ?_
    simpa using hbefore x hx y mem_cons_self
  have hself : r y y := (Std.Total.total y y).elim id id
  have hleft : left.filter (fun x => ¬ r x y) = left := by
    refine filter_eq_self.mpr fun x hx => ?_
    have hyx : r y x := (pairwise_cons.mp hbehind).1 x hx
    -- an element both before and after would be the element itself
    have hne : ¬ r x y := by
      intro hxy
      have heq := hl x (by simp [hx]) y (by simp) hxy hyx
      exact hnotmem (heq ▸ hx)
    simpa using hne
  rw [filter_append, hseen, filter_cons_of_neg (by simpa using hself), hleft,
    nil_append]

/-- **A page continues where the one before it ended.** -/
theorem sort_after (hl : Separates r l) (hnodup : l.Nodup)
    (hsplit : l.insertionSort r = seen ++ y :: left) :
    (l.filter fun x => ¬ r x y).insertionSort r = left := by
  have hperm := perm_insertionSort r l
  rw [sort_filter hl, hsplit]
  rw [hsplit] at hperm
  refine filter_after ?_ ?_ (hperm.nodup_iff.mpr hnodup)
  · rw [← hsplit]
    exact pairwise_insertionSort r l
  · exact fun a ha b hb => hl a (hperm.subset ha) b (hperm.subset hb)

/-- What the first part of a listing takes comes before what it leaves. -/
theorem rel_of_taken {x : α} {n : ℕ} (hx : x ∈ (l.insertionSort r).take n) (hy : y ∈ l)
    (hleft : y ∉ (l.insertionSort r).take n) : r x y := by
  have hsorted := pairwise_insertionSort r l
  have hmem := (mem_insertionSort r).mpr hy
  rw [← take_append_drop n (l.insertionSort r)] at hsorted hmem
  have hrest : y ∈ (l.insertionSort r).drop n := (mem_append.mp hmem).resolve_left hleft
  exact (pairwise_append.mp hsorted).2.2 x hx y hrest

end Keyset

end FlanForge
