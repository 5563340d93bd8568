import Mathlib.Data.List.Basic

/-!
# Picking one element of a list

`pickBy keep` goes through a list from left to right and keeps, at each
element, either the one picked so far or the new one. A maximum or minimum
under a comparison is a pick.
-/

namespace FlanForge

variable {α : Type}

/-- Reduce a list to one of its elements; `keep x y` says that the pick so far,
`x`, stays when `y` is met. -/
def pickBy (keep : α → α → Bool) : List α → Option α
  | [] => none
  | a :: as => some (as.foldl (fun x y => if keep x y then x else y) a)

variable {keep : α → α → Bool} {a : α} {l : List α}

/-- A pick is an element of the list. -/
theorem mem_of_pickBy (h : pickBy keep l = some a) : a ∈ l := by
  cases l with
  | nil => cases h
  | cons b bs =>
    simp only [pickBy, Option.some.injEq] at h
    subst h
    induction bs generalizing b with
    | nil => simp
    | cons c cs ih =>
      simp only [List.foldl_cons]
      split
      · rcases List.mem_cons.mp (ih b) with h | h
        · simp [h]
        · simp [h]
      · exact List.mem_cons_of_mem _ (ih c)

/-- There is a pick unless the list is empty. -/
theorem pickBy_eq_none : pickBy keep l = none ↔ l = [] := by
  cases l <;> simp [pickBy]

end FlanForge
