import FlanForge.Common.Wildcard
import FlanForge.Core.Text

/-!
# The allowlist glob

The matcher of the allowlists is a loop over two positions with a single
backtrack point. `Tracks` is its invariant: since the last star, or since
the start, the pattern has fitted the value symbol by symbol, and the whole
match comes down to the one from that star on. Each iteration keeps it and
lowers `globMeasure`, which is lexicographic in what is left of the value
after the backtrack point and what is left of the pattern. So the loop ends
on every input, and it ends with the answer.
-/

namespace FlanForge

open Wildcard

variable {pattern value : List UInt8} {g : GlobState}

/-- The value is one the pattern spells: a star takes any run of bytes, a
question mark takes one, and every other byte takes itself. -/
abbrev GlobMatches : List UInt8 → List UInt8 → Prop := Matches starByte questionByte

/-! ## The loop -/

/-- One iteration: the answer, or the variables after it. -/
def globStep (pattern value : List UInt8) (g : GlobState) : Bool ⊕ GlobState :=
  match value[g.v]? with
  | none => .inl ((pattern.drop g.p).all (· = starByte))
  | some byte =>
    if pattern[g.p]? = some starByte then
      .inr { g with p := g.p + 1, star := some g.p, resume := g.v }
    else if pattern[g.p]? = some questionByte || pattern[g.p]? = some byte then
      .inr { g with p := g.p + 1, v := g.v + 1 }
    else
      match g.star with
      | some index => .inr { g with p := index + 1, resume := g.resume + 1, v := g.resume + 1 }
      | none => .inl false

/-- The answer of the loop, if it ends within so many iterations. -/
def globRun (pattern value : List UInt8) : ℕ → GlobState → Option Bool
  | 0, _ => none
  | n + 1, g =>
    match globStep pattern value g with
    | .inl answer => some answer
    | .inr g' => globRun pattern value n g'

/-- The matcher is the loop. -/
theorem globLoop_eq (fuel : ℕ) :
    globLoop pattern value fuel g = (globRun pattern value fuel g).getD false := by
  induction fuel generalizing g with
  | zero => rfl
  | succ fuel ih =>
    simp only [globLoop, globRun, globStep]
    cases value[g.v]? with
    | none => rfl
    | some byte =>
      by_cases hstar : pattern[g.p]? = some starByte
      · simp only [if_pos hstar, ih]
      · by_cases hfits : (pattern[g.p]? = some questionByte || pattern[g.p]? = some byte) = true
        · simp only [if_neg hstar, if_pos hfits, ih]
        · simp only [if_neg hstar, if_neg hfits]
          cases g.star with
          | none => rfl
          | some index => exact ih

/-! ## The invariant -/

/-- What the variables say about the match. -/
structure Tracks (pattern value : List UInt8) (g : GlobState) : Prop where
  pattern_le : g.p ≤ pattern.length
  resume_le : g.resume ≤ g.v
  value_le : g.v ≤ value.length
  attempt : ∃ segment taken, Segment starByte questionByte segment taken ∧
    match g.star with
    | none => pattern = segment ++ pattern.drop g.p ∧ value = taken ++ value.drop g.v
    | some index =>
      pattern.drop index = starByte :: (segment ++ pattern.drop g.p) ∧
        value.drop g.resume = taken ++ value.drop g.v ∧
        (Matches starByte questionByte pattern value ↔ Matches starByte questionByte
          (pattern.drop index) (value.drop g.resume))

/-- What is left after the backtrack point, then what is left of the pattern. -/
def globMeasure (pattern value : List UInt8) (g : GlobState) : ℕ :=
  (value.length - g.resume) * (pattern.length + 1) + (pattern.length - g.p)

theorem tracks_start : Tracks pattern value ⟨0, 0, none, 0⟩ :=
  ⟨Nat.zero_le _, Nat.le_refl _, Nat.zero_le _, [], [], .nil, rfl, rfl⟩

theorem drop_eq_cons_of_getElem? {l : List UInt8} {i : ℕ} {b : UInt8} (h : l[i]? = some b) :
    i < l.length ∧ l.drop i = b :: l.drop (i + 1) := by
  obtain ⟨hlt, rfl⟩ := List.getElem?_eq_some_iff.mp h
  exact ⟨hlt, List.drop_eq_getElem_cons hlt⟩

namespace Tracks

/-- The value is used up: what is left of the pattern decides. -/
theorem finish (h : Tracks pattern value g) (hend : value[g.v]? = none) :
    (pattern.drop g.p).all (· = starByte) = true ↔ Matches starByte questionByte pattern value := by
  obtain ⟨segment, taken, hsegment, hstar⟩ := h.attempt
  have hdrop : value.drop g.v = [] := List.drop_eq_nil_of_le (List.getElem?_eq_none_iff.mp hend)
  split at hstar
  · obtain ⟨hpattern, hvalue⟩ := hstar
    rw [hdrop] at hvalue
    rw [hpattern, hvalue, hsegment.matches_iff, matches_empty, ← hpattern]
  · obtain ⟨hpattern, hvalue, hiff⟩ := hstar
    rw [hdrop, List.append_nil] at hvalue
    rw [hiff, hpattern, hvalue, hsegment.matches_run_end]

/-- A star begins a new attempt, and the one before it is forgotten. -/
theorem star (h : Tracks pattern value g) (hstar : pattern[g.p]? = some starByte) :
    Tracks pattern value { g with p := g.p + 1, star := some g.p, resume := g.v } := by
  obtain ⟨hlt, hdrop⟩ := drop_eq_cons_of_getElem? hstar
  refine ⟨hlt, Nat.le_refl _, h.value_le, [], [], .nil, hdrop, rfl, ?_⟩
  obtain ⟨segment, taken, hsegment, hattempt⟩ := h.attempt
  split at hattempt
  · obtain ⟨hpattern, hvalue⟩ := hattempt
    have hmatch : Matches starByte questionByte pattern value ↔
        Matches starByte questionByte (segment ++ pattern.drop g.p) (taken ++ value.drop g.v) := by
      rw [← hpattern, ← hvalue]
    rw [hmatch, hsegment.matches_iff]
  · obtain ⟨hpattern, hvalue, hiff⟩ := hattempt
    rw [hiff, hpattern, hvalue, hdrop, hsegment.matches_run_run]

/-- A symbol that fits carries the attempt on. -/
theorem advance {byte c : UInt8} (h : Tracks pattern value g) (hvalue : value[g.v]? = some byte)
    (hpattern : pattern[g.p]? = some c) (hfits : Fits starByte questionByte c byte) :
    Tracks pattern value { g with p := g.p + 1, v := g.v + 1 } := by
  obtain ⟨hv, hvdrop⟩ := drop_eq_cons_of_getElem? hvalue
  obtain ⟨hp, hpdrop⟩ := drop_eq_cons_of_getElem? hpattern
  have hle := h.resume_le
  obtain ⟨segment, taken, hsegment, hattempt⟩ := h.attempt
  refine ⟨hp, by simp only; omega, hv, segment ++ [c], taken ++ [byte], hsegment.advance hfits, ?_⟩
  rw [hpdrop, hvdrop] at hattempt
  simp only [List.append_assoc, List.cons_append, List.nil_append]
  exact hattempt

/-- Where the attempt is stuck, the run of its star is one longer. -/
theorem backtrack {byte : UInt8} {index : ℕ} (h : Tracks pattern value g)
    (hvalue : value[g.v]? = some byte) (hindex : g.star = some index)
    (hstuck : Stuck starByte questionByte (pattern.drop g.p) byte) :
    Tracks pattern value
      { g with p := index + 1, resume := g.resume + 1, v := g.resume + 1 } := by
  obtain ⟨hv, hvdrop⟩ := drop_eq_cons_of_getElem? hvalue
  have hle := h.resume_le
  obtain ⟨segment, taken, hsegment, hattempt⟩ := h.attempt
  rw [hindex] at hattempt
  obtain ⟨hpattern, hrest, hiff⟩ := hattempt
  have hindex_lt : index < pattern.length := by
    by_contra hge
    rw [List.drop_eq_nil_of_le (by omega)] at hpattern
    cases hpattern
  have hafter : pattern.drop index = starByte :: pattern.drop (index + 1) := by
    rw [List.drop_eq_getElem_cons hindex_lt] at hpattern ⊢
    rw [(List.cons.inj hpattern).1]
  refine ⟨hindex_lt, Nat.le_refl _, by simp only; omega, [], [], .nil, ?_⟩
  rw [hindex]
  refine ⟨hafter, rfl, ?_⟩
  simp only
  rw [hiff, hpattern, hrest, hvdrop, hsegment.matches_run_stuck hstuck, ← hvdrop, ← hrest,
    List.drop_drop]

/-- Without a star to go back to, a stuck attempt is the end. -/
theorem refuse {byte : UInt8} (h : Tracks pattern value g) (hvalue : value[g.v]? = some byte)
    (hnone : g.star = none) (hstuck : Stuck starByte questionByte (pattern.drop g.p) byte) :
    ¬ Matches starByte questionByte pattern value := by
  obtain ⟨-, hvdrop⟩ := drop_eq_cons_of_getElem? hvalue
  obtain ⟨segment, taken, hsegment, hattempt⟩ := h.attempt
  rw [hnone] at hattempt
  obtain ⟨hpattern, hrest⟩ := hattempt
  rw [hpattern, hrest, hsegment.matches_iff, hvdrop]
  exact hstuck.not_matches

end Tracks

/-- **An iteration either ends with the answer or keeps the invariant and gets
closer to the end.** -/
theorem globStep_spec (h : Tracks pattern value g) :
    match globStep pattern value g with
    | .inl answer => answer = true ↔ Matches starByte questionByte pattern value
    | .inr g' => Tracks pattern value g' ∧
        globMeasure pattern value g' < globMeasure pattern value g := by
  unfold globStep
  have hle := h.resume_le
  have hpattern_le := h.pattern_le
  cases hvalue : value[g.v]? with
  | none => exact h.finish hvalue
  | some byte =>
    have hv := (drop_eq_cons_of_getElem? hvalue).1
    by_cases hstar : pattern[g.p]? = some starByte
    · have hp := (drop_eq_cons_of_getElem? hstar).1
      simp only [if_pos hstar]
      refine ⟨h.star hstar, ?_⟩
      have hmul := Nat.mul_le_mul_right (pattern.length + 1)
        (show value.length - g.v ≤ value.length - g.resume by omega)
      simp only [globMeasure]
      omega
    · simp only [if_neg hstar]
      by_cases hfits : (pattern[g.p]? = some questionByte || pattern[g.p]? = some byte) = true
      · simp only [if_pos hfits]
        have hgot : ∃ c, pattern[g.p]? = some c ∧ Fits starByte questionByte c byte := by
          simp only [Bool.or_eq_true, decide_eq_true_eq] at hfits
          rcases hfits with hone | hsame
          · exact ⟨_, hone, by decide, .inl rfl⟩
          · refine ⟨_, hsame, ?_, .inr rfl⟩
            rintro rfl
            exact hstar hsame
        obtain ⟨c, hc, hcfits⟩ := hgot
        have hp := (drop_eq_cons_of_getElem? hc).1
        refine ⟨h.advance hvalue hc hcfits, ?_⟩
        simp only [globMeasure]
        omega
      · simp only [if_neg hfits]
        have hstuck : Stuck starByte questionByte (pattern.drop g.p) byte := by
          intro c tail hdrop
          have hc : pattern[g.p]? = some c := by
            rw [← List.head?_drop, hdrop, List.head?_cons]
          simp only [hc, Option.some.injEq, Bool.or_eq_true, decide_eq_true_eq,
            not_or] at hstar hfits
          exact ⟨hstar, fun hfit => hfit.2.elim hfits.1 hfits.2⟩
        cases hindex : g.star with
        | none =>
          exact iff_of_false Bool.false_ne_true (h.refuse hvalue hindex hstuck)
        | some index =>
          have hback := h.backtrack hvalue hindex hstuck
          rw [hindex] at hback
          refine ⟨hback, ?_⟩
          -- one less after the backtrack point outweighs the whole pattern
          have hsplit : value.length - g.resume = (value.length - (g.resume + 1)) + 1 := by omega
          simp only [globMeasure]
          rw [hsplit, Nat.add_mul]
          omega

/-- The loop ends, with the answer, within as many iterations as the measure
counts. -/
theorem globRun_spec {n : ℕ} (h : Tracks pattern value g) (hn : globMeasure pattern value g < n) :
    ∃ answer, globRun pattern value n g = some answer ∧
      (answer = true ↔ Matches starByte questionByte pattern value) := by
  induction n generalizing g with
  | zero => omega
  | succ n ih =>
    have hstep := globStep_spec h
    simp only [globRun]
    split
    · rename_i answer heq
      rw [heq] at hstep
      exact ⟨answer, rfl, hstep⟩
    · rename_i g' heq
      rw [heq] at hstep
      exact ih hstep.1 (by omega)

theorem globMeasure_start_lt (pattern value : List UInt8) :
    globMeasure pattern value ⟨0, 0, none, 0⟩ < (value.length + 2) * (pattern.length + 2) := by
  simp only [globMeasure, Nat.sub_zero]
  have hexpand : (value.length + 2) * (pattern.length + 2) =
      value.length * (pattern.length + 1) + value.length + 2 * (pattern.length + 2) := by
    rw [Nat.add_mul, Nat.mul_add value.length pattern.length 2,
      Nat.mul_add value.length pattern.length 1]
    omega
  omega

/-- From enough iterations on, the answer is there and stays the same. -/
theorem globRun_decides (pattern value : List UInt8) : ∃ answer,
    (∀ n, (value.length + 2) * (pattern.length + 2) ≤ n →
      globRun pattern value n ⟨0, 0, none, 0⟩ = some answer) ∧
    (answer = true ↔ GlobMatches pattern value) := by
  obtain ⟨answer, -, hiff⟩ := globRun_spec tracks_start (globMeasure_start_lt pattern value)
  refine ⟨answer, fun n hn => ?_, hiff⟩
  obtain ⟨answer', hrun, hiff'⟩ :=
    globRun_spec tracks_start (Nat.lt_of_lt_of_le (globMeasure_start_lt pattern value) hn)
  rw [hrun, Bool.eq_iff_iff.mpr (hiff'.trans hiff.symm)]

/-! ## The matcher -/

/-- **The glob decides its pattern.** On all byte strings the loop ends, after at
most as many iterations as the two lengths allow, and its answer says whether
the pattern spells the value in full; so does the matcher on texts. -/
theorem glob_decides_pattern :
    (∀ pattern value : List UInt8, ∃ answer,
      (∀ n, (value.length + 2) * (pattern.length + 2) ≤ n →
        globRun pattern value n ⟨0, 0, none, 0⟩ = some answer) ∧
      (answer = true ↔ GlobMatches pattern value)) ∧
    ∀ pattern value : String,
      isGlobMatch pattern value = true ↔ GlobMatches (utf8Bytes pattern) (utf8Bytes value) := by
  refine ⟨globRun_decides, fun pattern value => ?_⟩
  obtain ⟨answer, hrun, hiff⟩ := globRun_decides (utf8Bytes pattern) (utf8Bytes value)
  rw [isGlobMatch, globLoop_eq, hrun _ (Nat.le_refl _)]
  exact hiff

theorem glob_matches_tag :
    GlobMatches (utf8Bytes "refs/tags/v*.?") (utf8Bytes "refs/tags/v1.2/3.4") :=
  (glob_decides_pattern.2 "refs/tags/v*.?" "refs/tags/v1.2/3.4").mp (by decide +kernel)

end FlanForge
