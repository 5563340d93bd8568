import Mathlib.Data.List.Forall2

/-!
# Wildcard patterns

Patterns over an alphabet with two special symbols: one that matches any
run, the empty one included, and one that matches a single symbol.
`Matches` is the meaning of a pattern. The rest of the file is what a
matcher with a single backtrack point rests on. Such a matcher remembers
the last run symbol it met and a segment after it that fits the value so
far; a later run symbol makes it forget the earlier one. `matches_run_run`
says that nothing is lost by that: what the earlier run could still take
from the value, the later one can take in its place.
-/

namespace FlanForge

open List

namespace Wildcard

variable {α : Type} {run one : α}

/-- The value is one the pattern spells, in full. -/
inductive Matches (run one : α) : List α → List α → Prop
  | nil : Matches run one [] []
  | run {pattern value : List α} (taken : List α) :
      Matches run one pattern value → Matches run one (run :: pattern) (taken ++ value)
  | one {pattern value : List α} (b : α) :
      Matches run one pattern value → Matches run one (one :: pattern) (b :: value)
  | literal {pattern value : List α} {b : α} : b ≠ run → b ≠ one →
      Matches run one pattern value → Matches run one (b :: pattern) (b :: value)

/-- The symbol takes exactly one from the value, and it takes this one. -/
def Fits (run one c b : α) : Prop := c ≠ run ∧ (c = one ∨ c = b)

/-- A stretch of the pattern without runs, and the stretch of the value it
takes. -/
abbrev Segment (run one : α) : List α → List α → Prop := List.Forall₂ (Fits run one)

/-! ## Reading a pattern -/

theorem matches_nil {value : List α} : Matches run one [] value ↔ value = [] := by
  constructor
  · intro h
    cases h
    rfl
  · rintro rfl
    exact .nil

theorem matches_run {pattern value : List α} :
    Matches run one (run :: pattern) value ↔ ∃ k, Matches run one pattern (value.drop k) := by
  constructor
  · intro h
    cases h with
    | run taken h => exact ⟨taken.length, by rwa [drop_left]⟩
    | one b h => exact ⟨1, h⟩
    | literal hrun _ _ => exact absurd rfl hrun
  · rintro ⟨k, h⟩
    have hrun := Matches.run (value.take k) h
    rwa [take_append_drop] at hrun

theorem matches_cons {c : α} {pattern value : List α} (hc : c ≠ run) :
    Matches run one (c :: pattern) value ↔
      ∃ b rest, value = b :: rest ∧ Fits run one c b ∧ Matches run one pattern rest := by
  constructor
  · intro h
    cases h with
    | run taken h => exact absurd rfl hc
    | one b h => exact ⟨b, _, rfl, ⟨hc, .inl rfl⟩, h⟩
    | literal _ _ h => exact ⟨c, _, rfl, ⟨hc, .inr rfl⟩, h⟩
  · rintro ⟨b, rest, rfl, ⟨-, hfits⟩, h⟩
    by_cases hone : c = one
    · subst hone
      exact .one b h
    · obtain rfl := hfits.resolve_left hone
      exact .literal hc hone h

/-- A segment takes its own length from the value, and leaves the rest of the
value to the rest of the pattern. -/
theorem matches_append {segment rest value : List α} (hfree : ∀ c ∈ segment, c ≠ run) :
    Matches run one (segment ++ rest) value ↔
      ∃ taken left, value = taken ++ left ∧ Segment run one segment taken ∧
        Matches run one rest left := by
  induction segment generalizing value with
  | nil =>
    constructor
    · exact fun h => ⟨[], value, rfl, .nil, h⟩
    · rintro ⟨taken, left, rfl, hsegment, h⟩
      cases hsegment
      exact h
  | cons c segment ih =>
    have hc := hfree c mem_cons_self
    have hfree' : ∀ d ∈ segment, d ≠ run := fun d hd => hfree d (mem_cons_of_mem _ hd)
    rw [cons_append, matches_cons hc]
    constructor
    · rintro ⟨b, value, rfl, hfits, h⟩
      obtain ⟨taken, left, rfl, hsegment, hrest⟩ := (ih hfree').mp h
      exact ⟨b :: taken, left, rfl, .cons hfits hsegment, hrest⟩
    · rintro ⟨taken, left, rfl, hsegment, hrest⟩
      cases hsegment with
      | cons hfits hsegment =>
        exact ⟨_, _, rfl, hfits, (ih hfree').mpr ⟨_, left, rfl, hsegment, hrest⟩⟩

/-- Only run symbols match nothing. -/
theorem matches_empty [DecidableEq α] {pattern : List α} :
    Matches run one pattern [] ↔ pattern.all (· = run) = true := by
  induction pattern with
  | nil => simp [matches_nil]
  | cons c pattern ih =>
    by_cases hc : c = run
    · subst hc
      simp [matches_run, ih]
    · simp [matches_cons hc, hc]

/-! ## Segments -/

theorem Segment.free {segment taken : List α} (h : Segment run one segment taken) :
    ∀ c ∈ segment, c ≠ run := by
  induction h with
  | nil => exact fun c hc => absurd hc not_mem_nil
  | cons hfits _ ih =>
    intro c hc
    rcases mem_cons.mp hc with rfl | hc
    · exact hfits.1
    · exact ih c hc

/-- The segment grows by one symbol. -/
theorem Segment.advance {segment taken : List α} {c b : α} (h : Segment run one segment taken)
    (hfits : Fits run one c b) : Segment run one (segment ++ [c]) (taken ++ [b]) :=
  rel_append h (.cons hfits .nil)

section Attempt

variable {segment taken rest left : List α}

/-- What a segment has taken is settled: the pattern matches when the rest
does. -/
theorem Segment.matches_iff (h : Segment run one segment taken) :
    Matches run one (segment ++ rest) (taken ++ left) ↔ Matches run one rest left := by
  rw [matches_append h.free]
  constructor
  · rintro ⟨taken', left', heq, hsegment, hrest⟩
    have hlength : taken.length = taken'.length := h.length_eq.symm.trans hsegment.length_eq
    obtain ⟨-, rfl⟩ := append_inj heq hlength
    exact hrest
  · exact fun hrest => ⟨taken, left, rfl, h, hrest⟩

/-- The value ends where the segment does. A run before the segment could not
have taken more: the value would be too short for the segment. -/
theorem Segment.matches_run_end [DecidableEq α] (h : Segment run one segment taken) :
    Matches run one (run :: (segment ++ rest)) taken ↔ rest.all (· = run) = true := by
  rw [matches_run]
  constructor
  · rintro ⟨k, hk⟩
    obtain ⟨taken', left', heq, hsegment, hrest⟩ := (matches_append h.free).mp hk
    have hlength := congrArg List.length heq
    rw [length_drop, length_append, ← hsegment.length_eq, ← h.length_eq] at hlength
    have hleft : left' = [] := eq_nil_of_length_eq_zero (by omega)
    rw [hleft] at hrest
    exact matches_empty.mp hrest
  · intro hall
    refine ⟨0, (matches_append h.free).mpr ⟨taken, [], ?_, h, matches_empty.mpr hall⟩⟩
    rw [drop_zero, append_nil]

/-- **A later run makes an earlier one redundant.** -/
theorem Segment.matches_run_run (h : Segment run one segment taken) :
    Matches run one (run :: (segment ++ run :: rest)) (taken ++ left) ↔
      Matches run one (run :: rest) left := by
  rw [matches_run]
  constructor
  · rintro ⟨k, hk⟩
    obtain ⟨taken', left', heq, hsegment, hrest⟩ := (matches_append h.free).mp hk
    obtain ⟨j, hj⟩ := matches_run.mp hrest
    -- the first run took k, so the second one starts k later
    have hlength : taken'.length = taken.length := hsegment.length_eq.symm.trans h.length_eq
    have hleft : left' = left.drop k := by
      have hdrop := congrArg (List.drop taken'.length) heq
      rw [drop_left, drop_drop, hlength, Nat.add_comm, ← drop_drop,
        drop_left] at hdrop
      exact hdrop.symm
    rw [hleft, drop_drop] at hj
    exact matches_run.mpr ⟨_, hj⟩
  · intro hrest
    exact ⟨0, (matches_append h.free).mpr ⟨taken, left, rfl, h, hrest⟩⟩

/-- The rest of the pattern cannot go on with the next symbol of the value. -/
def Stuck (run one : α) (rest : List α) (b : α) : Prop :=
  ∀ c tail, rest = c :: tail → c ≠ run ∧ ¬ Fits run one c b

theorem Stuck.not_matches {b : α} (h : Stuck run one rest b) :
    ¬ Matches run one rest (b :: left) := by
  intro hmatch
  cases rest with
  | nil => exact absurd (matches_nil.mp hmatch) (cons_ne_nil _ _)
  | cons c tail =>
    obtain ⟨hc, hfits⟩ := h c tail rfl
    obtain ⟨b', _, heq, hfits', -⟩ := (matches_cons hc).mp hmatch
    obtain ⟨rfl, -⟩ := List.cons.inj heq
    exact hfits hfits'

/-- When the segment cannot go on, the run before it has to take one more. -/
theorem Segment.matches_run_stuck {b : α} (h : Segment run one segment taken)
    (hstuck : Stuck run one rest b) :
    Matches run one (run :: (segment ++ rest)) (taken ++ b :: left) ↔
      Matches run one (run :: (segment ++ rest)) ((taken ++ b :: left).drop 1) := by
  rw [matches_run, matches_run]
  constructor
  · rintro ⟨k, hk⟩
    rcases Nat.eq_zero_or_pos k with rfl | hpos
    · exact absurd (h.matches_iff.mp hk) hstuck.not_matches
    · refine ⟨k - 1, ?_⟩
      rwa [drop_drop, Nat.add_sub_cancel' hpos]
  · rintro ⟨k, hk⟩
    rw [drop_drop] at hk
    exact ⟨_, hk⟩

end Attempt

end Wildcard

end FlanForge
