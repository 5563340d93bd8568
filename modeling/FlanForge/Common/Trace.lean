import FlanForge.Common.Sequential

/-!
# What a task that is left alone performs

`Performs` is total correctness for a program whose operations no other task
comes between, where the postcondition also sees the operations: every one
of them, in order, with what it answered. The environment answers within
`ok`, and it always has such an answer. `Takes` is one such course, whatever
the answers, and `alone` performs a program under a given oracle, so that a
course can be computed.
-/

namespace FlanForge

namespace Machine

variable {σ Op : Type} {Res : Op → Type} {Ans Kind Env α β : Type}

/-- An operation and what it answered. -/
abbrev Step (Res : Op → Type) := (o : Op) × Res o

/-- **The program, left alone in `s`, ends with `Q`** of the operations it has
performed, its result and the state. -/
def Performs (M : Machine σ Op Res Ans Kind Env) (ok : σ → Op → Ans → Bool) (self : TaskId) :
    Prog Op Res α → σ → (List (Step Res) → α → σ → Prop) → Prop
  | .ret a, s, Q => Q [] a s
  | .call o k, s, Q =>
    (∀ fresh, ∃ a, ok s o a = true ∧ (M.exec self fresh o a s).isSome = true) ∧
      ∀ fresh a s' r spawned, ok s o a = true → M.exec self fresh o a s = some (s', r, spawned) →
        Performs M ok self (k r) s' fun steps => Q (⟨o, r⟩ :: steps)

variable {M : Machine σ Op Res Ans Kind Env} {ok : σ → Op → Ans → Bool} {self : TaskId}
variable {s s' : σ} {p : Prog Op Res α} {Q Q' : List (Step Res) → α → σ → Prop}

namespace Performs

theorem mono (hp : M.Performs ok self p s Q) (h : ∀ steps a s, Q steps a s → Q' steps a s) :
    M.Performs ok self p s Q' := by
  induction p generalizing s Q Q' with
  | ret a => exact h [] a s hp
  | call o k ih =>
    obtain ⟨hprogress, hrest⟩ := hp
    refine ⟨hprogress, fun fresh a s' r spawned hok hexec => ?_⟩
    exact ih r (hrest fresh a s' r spawned hok hexec) fun steps => h (⟨o, r⟩ :: steps)

/-- One program after the other. -/
theorem bind {f : α → Prog Op Res β} {R : List (Step Res) → β → σ → Prop}
    (hp : M.Performs ok self p s fun steps a s' =>
      M.Performs ok self (f a) s' fun rest => R (steps ++ rest)) :
    M.Performs ok self (p >>= f) s R := by
  induction p generalizing s R with
  | ret a => exact hp
  | call o k ih =>
    obtain ⟨hprogress, hrest⟩ := hp
    refine ⟨hprogress, fun fresh a s' r spawned hok hexec => ?_⟩
    exact ih r (hrest fresh a s' r spawned hok hexec)

/-- What each operation says about a piece of the state, the course of the
program says about it as a whole. -/
theorem track {J : List (Step Res) → σ → Prop} {before : List (Step Res)}
    (h : ∀ before fresh o a s s' r spawned, J before s →
      M.exec self fresh o a s = some (s', r, spawned) → J (before ++ [⟨o, r⟩]) s')
    (hs : J before s) (hp : M.Performs ok self p s Q) :
    M.Performs ok self p s fun steps a s' => Q steps a s' ∧ J (before ++ steps) s' := by
  induction p generalizing s Q before with
  | ret a =>
    rw [← List.append_nil before] at hs
    exact ⟨hp, hs⟩
  | call o k ih =>
    obtain ⟨hprogress, hrest⟩ := hp
    refine ⟨hprogress, fun fresh a s' r spawned hok hexec => ?_⟩
    have hnext := h before fresh o a s s' r spawned hs hexec
    refine (ih r hnext (hrest fresh a s' r spawned hok hexec)).mono fun steps b s'' h => ?_
    rw [List.append_assoc] at h
    exact h

/-- A course within both bounds on the answers: `Q` holds of it, and every
operation on the way met its specification. -/
theorem exists_meets {ok' : σ → Op → Ans → Bool} {spec : σ → Op → Prop} {R : α → σ → Prop}
    (h : ∀ s o a, ok s o a = true → (M.exec self 0 o a s).isSome = true →
      ∃ b, ok s o b = true ∧ ok' s o b = true ∧ (M.exec self 0 o b s).isSome = true)
    (hp : M.Performs ok self p s Q) (hc : M.Completes ok' spec self p s R) :
    ∃ steps a s', Q steps a s' ∧ ∀ step ∈ steps, ∃ s, spec s step.1 := by
  induction p generalizing s Q with
  | ret a => exact ⟨[], a, s, hp, by simp⟩
  | call o k ih =>
    obtain ⟨hprogress, hrest⟩ := hp
    obtain ⟨hspec, -, hcompletes⟩ := hc
    obtain ⟨a, hok, hsome⟩ := hprogress 0
    obtain ⟨b, hb, hb', hsome⟩ := h s o a hok hsome
    obtain ⟨⟨s₁, r, spawned⟩, hexec⟩ := Option.isSome_iff_exists.mp hsome
    obtain ⟨steps, c, s', hQ, hmet⟩ :=
      ih r (hrest 0 b s₁ r spawned hb hexec) (hcompletes 0 b s₁ r spawned hb' hexec)
    exact ⟨⟨o, r⟩ :: steps, c, s', hQ, List.forall_mem_cons.mpr ⟨⟨s, hspec⟩, hmet⟩⟩

end Performs

/-! ## One course -/

/-- The program, left alone in `s`, may perform these operations, with this result
and state at its end. -/
def Takes (M : Machine σ Op Res Ans Kind Env) (self : TaskId) :
    Prog Op Res α → σ → List (Step Res) → α → σ → Prop
  | .ret a, s, steps, b, s' => steps = [] ∧ b = a ∧ s' = s
  | .call o k, s, steps, b, s' => ∃ fresh a s₁ r spawned rest,
      M.exec self fresh o a s = some (s₁, r, spawned) ∧ Takes M self (k r) s₁ rest b s' ∧
        steps = ⟨o, r⟩ :: rest

/-- One program after the other. -/
theorem Takes.of_bind {f : α → Prog Op Res β} {steps : List (Step Res)} {b : β}
    (h : M.Takes self (p >>= f) s steps b s') : ∃ first a s₁ rest,
      M.Takes self p s first a s₁ ∧ M.Takes self (f a) s₁ rest b s' ∧ steps = first ++ rest := by
  induction p generalizing s steps with
  | ret a => exact ⟨[], a, s, steps, ⟨rfl, rfl, rfl⟩, h, rfl⟩
  | call o k ih =>
    obtain ⟨fresh, a, s₁, r, spawned, rest, hexec, htakes, rfl⟩ := h
    obtain ⟨first, c, s₂, last, hfirst, hlast, rfl⟩ := ih r htakes
    exact ⟨⟨o, r⟩ :: first, c, s₂, last, ⟨fresh, a, s₁, r, spawned, first, hexec, hfirst, rfl⟩,
      hlast, rfl⟩

/-- Perform a program under an oracle. -/
def alone (M : Machine σ Op Res Ans Kind Env) (self fresh : TaskId) (oracle : Op → Ans) :
    Prog Op Res α → σ → Option (List (Step Res) × α × σ)
  | .ret a, s => some ([], a, s)
  | .call o k, s =>
    match M.exec self fresh o (oracle o) s with
    | some (s', r, _) =>
      (alone M self fresh oracle (k r) s').map fun (steps, a, s'') => (⟨o, r⟩ :: steps, a, s'')
    | none => none

/-- What holds of every course holds of this one. -/
theorem Performs.alone {fresh : TaskId} {oracle : Op → Ans} {steps : List (Step Res)} {a : α}
    (hp : M.Performs ok self p s Q) (hok : ∀ s o, ok s o (oracle o) = true)
    (h : M.alone self fresh oracle p s = some (steps, a, s')) : Q steps a s' := by
  induction p generalizing s steps Q with
  | ret b =>
    cases h
    exact hp
  | call o k ih =>
    simp only [Machine.alone] at h
    split at h
    · rename_i s₁ r spawned hexec
      obtain ⟨⟨rest, b, s₂⟩, hrest, heq⟩ := Option.map_eq_some_iff.mp h
      cases heq
      have hnext := hp.2 fresh (oracle o) s₁ r spawned (hok s o) hexec
      exact ih (Q := fun steps => Q (⟨o, r⟩ :: steps)) r hnext hrest
    · cases h

end Machine

end FlanForge
