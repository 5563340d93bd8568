import FlanForge.Common.Machine

/-!
# A task that is left alone

What a program does when no other task moves between its operations. The
environment still answers, within what `ok` allows. `Completes` is total
correctness: at every operation the program meets `spec` and the machine can
perform it, and since a program is a finite tree, it ends, and ends well.
`Completes.replay` reads it off a replayed run.
-/

namespace FlanForge

namespace Machine

variable {σ Op : Type} {Res : Op → Type} {Ans Kind Env α β : Type}

/-- **The program, left alone in `s`, ends with `Q`**, if the environment's
answers are `ok`; at every operation on the way `spec` holds, and no operation
is stuck. -/
def Completes (M : Machine σ Op Res Ans Kind Env) (ok : σ → Op → Ans → Bool) (spec : σ → Op → Prop)
    (self : TaskId) : Prog Op Res α → σ → (α → σ → Prop) → Prop
  | .ret a, s, Q => Q a s
  | .call o k, s, Q =>
    spec s o ∧ (∀ fresh, ∃ a, (M.exec self fresh o a s).isSome = true) ∧
      ∀ fresh a s' r spawned, ok s o a = true → M.exec self fresh o a s = some (s', r, spawned) →
        Completes M ok spec self (k r) s' Q

variable {M : Machine σ Op Res Ans Kind Env} {ok : σ → Op → Ans → Bool} {spec : σ → Op → Prop}
variable {self : TaskId} {s : σ} {o : Op} {p : Prog Op Res α} {Q Q' : α → σ → Prop}

theorem completes_ret {a : α} : M.Completes ok spec self (.ret a) s Q ↔ Q a s := Iff.rfl

namespace Completes

theorem mono (hp : M.Completes ok spec self p s Q) (h : ∀ a s, Q a s → Q' a s) :
    M.Completes ok spec self p s Q' := by
  induction p generalizing s with
  | ret a => exact h a s hp
  | call o k ih =>
    obtain ⟨hspec, hprogress, hrest⟩ := hp
    exact ⟨hspec, hprogress, fun fresh a s' r spawned hok hexec =>
      ih r (hrest fresh a s' r spawned hok hexec)⟩

/-- Fewer answers, and less to be met on the way. -/
theorem restrict {ok' : σ → Op → Ans → Bool} {spec' : σ → Op → Prop}
    (hok : ∀ s o a, ok' s o a = true → ok s o a = true) (hspec : ∀ s o, spec s o → spec' s o)
    (hp : M.Completes ok spec self p s Q) : M.Completes ok' spec' self p s Q := by
  induction p generalizing s with
  | ret a => exact hp
  | call o k ih =>
    obtain ⟨hmet, hprogress, hrest⟩ := hp
    exact ⟨hspec s o hmet, hprogress, fun fresh a s' r spawned ha hexec =>
      ih r (hrest fresh a s' r spawned (hok s o a ha) hexec)⟩

/-- What no operation changes is as it was at the end. -/
theorem frame {γ : Type} {f : σ → γ}
    (hf : ∀ fresh o a s s' r spawned, M.exec self fresh o a s = some (s', r, spawned) → f s' = f s)
    (hp : M.Completes ok spec self p s Q) :
    M.Completes ok spec self p s fun a s' => Q a s' ∧ f s' = f s := by
  induction p generalizing s with
  | ret a => exact ⟨hp, rfl⟩
  | call o k ih =>
    obtain ⟨hspec, hprogress, hrest⟩ := hp
    refine ⟨hspec, hprogress, fun fresh a s' r spawned ha hexec => ?_⟩
    refine mono (ih r (hrest fresh a s' r spawned ha hexec)) fun b s'' h => ⟨h.1, h.2.trans ?_⟩
    exact hf fresh o a s s' r spawned hexec

/-- One program after the other. -/
theorem bind {f : α → Prog Op Res β} {R : β → σ → Prop} (hp : M.Completes ok spec self p s Q)
    (hf : ∀ a s, Q a s → M.Completes ok spec self (f a) s R) :
    M.Completes ok spec self (p >>= f) s R := by
  induction p generalizing s with
  | ret a => exact hf a s hp
  | call o k ih =>
    obtain ⟨hspec, hprogress, hrest⟩ := hp
    exact ⟨hspec, hprogress, fun fresh a s' r spawned hok hexec =>
      ih r (hrest fresh a s' r spawned hok hexec)⟩

/-- One operation, with what it answers. -/
theorem call {k : Res o → Prog Op Res α} {R : Res o → σ → Prop} (hspec : spec s o)
    (hprogress : ∀ fresh, ∃ a, (M.exec self fresh o a s).isSome = true)
    (hexec : ∀ fresh a s' r spawned, ok s o a = true →
      M.exec self fresh o a s = some (s', r, spawned) → R r s')
    (hk : ∀ r s', R r s' → M.Completes ok spec self (k r) s' Q) :
    M.Completes ok spec self (.call o k) s Q :=
  ⟨hspec, hprogress, fun fresh a s' r spawned hok h => hk r s' (hexec fresh a s' r spawned hok h)⟩

/-- A program all of whose operations keep an invariant. -/
theorem of_calls {quiet : Op → Prop} {I : σ → Prop}
    (h : ∀ s o, I s → quiet o → spec s o ∧ (∀ fresh, ∃ a, (M.exec self fresh o a s).isSome = true) ∧
      ∀ fresh a s' r spawned, ok s o a = true → M.exec self fresh o a s = some
        (s', r, spawned) → I s')
    (hp : p.Calls quiet) (hs : I s) : M.Completes ok spec self p s fun _ s' => I s' := by
  induction p generalizing s with
  | ret a => exact hs
  | call o k ih =>
    obtain ⟨hspec, hprogress, hkeeps⟩ := h s o hs hp.1
    exact ⟨hspec, hprogress, fun fresh a s' r spawned hok hexec =>
      ih r (hp.2 r) (hkeeps fresh a s' r spawned hok hexec)⟩

/-- A loop, with what is known before each of its turns. -/
theorem forEach {f : β → Prog Op Res Unit} {I : List β → σ → Prop} {l : List β}
    (h : ∀ b bs s, I (b :: bs) s → M.Completes ok spec self (f b) s fun _ s' => I bs s')
    (hs : I l s) : M.Completes ok spec self (Prog.forEach l f) s fun _ s' => I [] s' := by
  induction l generalizing s with
  | nil => exact hs
  | cons b bs ih => exact (h b bs s hs).bind fun _ s' hs' => ih hs'

end Completes

/-! ## In a run -/

/-- Only the one task moves, and the environment answers within `ok`. -/
def solo (ok : σ → Op → Ans → Bool) (self : TaskId) : Regime σ Op Ans Kind Env where
  call s t o a := t = self && ok s o a
  start _ _ := false
  env _ _ := false
  reboot _ := false

variable {w w' : World σ Op Res} {Q : Unit → σ → Prop}

/-- The task's own step leads to the rest of its program. -/
theorem Completes.step {p : Prog Op Res Unit} {a : Action Ans Kind Env}
    (hp : w.tasks[self]? = some p) (hc : M.Completes ok spec self p w.shared Q)
    (hallow : allows (solo ok self) w a = true) (hstep : M.step w a = some w') :
    ∃ p', w'.tasks[self]? = some p' ∧ M.Completes ok spec self p' w'.shared Q := by
  cases a with
  | run t a =>
    simp only [Machine.step] at hstep
    split at hstep
    · rename_i o k htask
      split at hstep
      · rename_i s' r spawned hexec
        cases hstep
        have hpending : w.pending t = some o := by simp [World.pending, htask]
        simp only [allows, solo, hpending, Option.all_some, Bool.and_eq_true,
          decide_eq_true_eq] at hallow
        obtain ⟨rfl, hok⟩ := hallow
        cases hp.symm.trans htask
        have hlt : t < w.tasks.length := (List.getElem?_eq_some_iff.mp htask).1
        exact ⟨k r, by simp [List.getElem?_append_left, hlt], hc.2.2 _ a s' r spawned hok hexec⟩
      · cases hstep
    · cases hstep
  | start | env | reboot => cases hallow

/-- **A task that is left alone**: wherever it has come to, `spec` holds of its
next operation, which can be performed, and at its end `Q` holds. -/
theorem Completes.replay {p : Prog Op Res Unit} {events : List (Action Ans Kind Env)}
    (hp : w.tasks[self]? = some p) (hc : M.Completes ok spec self p w.shared Q)
    (h : M.replay (solo ok self) w events = some w') :
    (∀ o, w'.pending self = some o → spec w'.shared o ∧
      ∃ a, (M.step w' (.run self a)).isSome = true) ∧
    (w'.pending self = none → Q () w'.shared) := by
  induction events generalizing w p with
  | nil =>
    cases h
    cases p with
    | ret a => simp [World.pending, hp, completes_ret.mp hc]
    | call o k =>
      obtain ⟨hspec, hprogress, -⟩ := hc
      refine ⟨fun o' ho => ?_, by simp [World.pending, hp]⟩
      simp only [World.pending, hp, Option.some.injEq] at ho
      subst ho
      obtain ⟨a, ha⟩ := hprogress w'.tasks.length
      obtain ⟨⟨s', r, spawned⟩, hexec⟩ := Option.isSome_iff_exists.mp ha
      exact ⟨hspec, a, by simp [Machine.step, hp, hexec]⟩
  | cons a events ih =>
    simp only [Machine.replay] at h
    split at h
    · rename_i hallow
      split at h
      · rename_i w₁ hstep
        obtain ⟨p', hp', hc'⟩ := hc.step hp hallow hstep
        exact ih hp' hc' h
      · cases h
    · cases h

end Machine

end FlanForge
