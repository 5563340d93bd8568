import Mathlib.Data.List.Basic
import FlanForge.Common.Prog

/-!
# Services that crash and recover

A *service* runs one program at a time over a durable state. It takes a
request when the program before is over, it can stop at any operation, and
when it is started again it first runs its recovery, which can stop at any
operation too. Recovery returns whether the service is up; when it is not,
the process has ended and only a restart is left.

`Conditions` says which events a run may contain. `Keeps` is the logic: a
program keeps an invariant at *every* operation, since a crash can come
there, and ends with a postcondition. `Recoverable` collects what has to be
shown of a service once, and `Recoverable.inv` is what it yields for all
runs.
-/

namespace FlanForge

/-- How a call went: it is done, it failed without an effect, or it took effect
and was reported as failed all the same. -/
inductive CallOutcome
  | done
  | failed
  | late
  deriving DecidableEq, Repr

/-- The operations of a service on its state, its requests and its recovery. -/
structure Service (σ Op : Type) (Res : Op → Type) (Ans Kind : Type) where
  /-- What one operation does under an answer; `none` is an operation that
  cannot be performed now. -/
  exec : (o : Op) → Ans → σ → Option (σ × Res o)
  /-- The program of each kind of request. -/
  code : Kind → Prog Op Res Unit
  /-- What a new process runs first; it returns whether it is up. -/
  recovery : Prog Op Res Bool
  /-- What is left of the state when the process stops. -/
  crash : σ → σ

/-- The state and the rest of the program that runs. -/
structure Process (σ Op : Type) (Res : Op → Type) where
  state : σ
  rest : Prog Op Res Bool

/-- One event of a run. -/
inductive Occurrence (Ans Kind : Type)
  | run (a : Ans)
  | start (k : Kind)
  | crash

/-- Which events a run may contain, given the state they happen in. -/
structure Conditions (σ Op Ans Kind : Type) where
  call : σ → Op → Ans → Bool
  start : σ → Kind → Bool
  crash : σ → Bool

/-- Everything may happen. -/
def Conditions.free {σ Op Ans Kind : Type} : Conditions σ Op Ans Kind where
  call _ _ _ := true
  start _ _ := true
  crash _ := true

namespace Service

variable {σ Op : Type} {Res : Op → Type} {Ans Kind α β : Type}

/-- The process after one event, when the event can happen. -/
def step (S : Service σ Op Res Ans Kind) (w : Process σ Op Res) :
    Occurrence Ans Kind → Option (Process σ Op Res)
  | .run a =>
    match w.rest with
    | .call o k => (S.exec o a w.state).map fun (s, r) => ⟨s, k r⟩
    | .ret _ => none
  | .start k =>
    match w.rest with
    | .ret true => some ⟨w.state, S.code k >>= fun _ => .ret true⟩
    | _ => none
  | .crash => some ⟨S.crash w.state, S.recovery⟩

/-- The event is one the conditions allow in this process. -/
def allows (G : Conditions σ Op Ans Kind) (w : Process σ Op Res) : Occurrence Ans Kind → Bool
  | .run a =>
    match w.rest with
    | .call o _ => G.call w.state o a
    | .ret _ => true
  | .start k => G.start w.state k
  | .crash => G.crash w.state

/-- Replay a list of events, each of which the conditions have to allow. -/
def replay (S : Service σ Op Res Ans Kind) (G : Conditions σ Op Ans Kind) :
    Process σ Op Res → List (Occurrence Ans Kind) → Option (Process σ Op Res)
  | w, [] => some w
  | w, e :: es =>
    if allows G w e then
      match S.step w e with
      | some w' => replay S G w' es
      | none => none
    else none

/-- The processes reached from an initial state, in which the service is up. -/
inductive Reachable (S : Service σ Op Res Ans Kind) (G : Conditions σ Op Ans Kind)
    (init : σ → Prop) : Process σ Op Res → Prop
  | init {s : σ} : init s → Reachable S G init ⟨s, .ret true⟩
  | step {w w' : Process σ Op Res} {e : Occurrence Ans Kind} :
      Reachable S G init w → allows G w e = true → S.step w e = some w' → Reachable S G init w'

variable {S : Service σ Op Res Ans Kind} {G : Conditions σ Op Ans Kind} {init : σ → Prop}
variable {w w' : Process σ Op Res} {I : σ → Prop} {f : α → Prog Op Res β}

theorem Reachable.replay {es : List (Occurrence Ans Kind)} (hw : Reachable S G init w)
    (h : S.replay G w es = some w') : Reachable S G init w' := by
  induction es generalizing w with
  | nil =>
    cases h
    exact hw
  | cons e es ih =>
    simp only [Service.replay] at h
    split at h
    · rename_i hallow
      split at h
      · rename_i w₁ hstep
        exact ih (hw.step hallow hstep) h
      · cases h
    · cases h

/-- **A check of a replayed run is a fact about some run.** -/
theorem exists_reachable {s : σ} {check : Process σ Op Res → Bool} (hs : init s)
    (es : List (Occurrence Ans Kind)) (h : (S.replay G ⟨s, .ret true⟩ es).any check = true) :
    ∃ w, Reachable S G init w ∧ check w = true := by
  obtain ⟨w, hw, hcheck⟩ := Option.any_eq_true _ _ |>.mp h
  exact ⟨w, (Reachable.init hs).replay hw, hcheck⟩

/-! ## Programs that run to their end -/

/-- From `s` the program can end with `a` in `s'`, under answers the conditions
allow. -/
def Ends (S : Service σ Op Res Ans Kind) (G : Conditions σ Op Ans Kind) :
    Prog Op Res α → σ → α → σ → Prop
  | .ret a, s, b, s' => a = b ∧ s = s'
  | .call o k, s, b, s' => ∃ a s₁ r, G.call s o a = true ∧ S.exec o a s = some (s₁, r) ∧
      Ends S G (k r) s₁ b s'

/-- One program after the other. -/
theorem ends_bind {p : Prog Op Res α} {s s' : σ} {b : β} :
    Ends S G (p >>= f) s b s' ↔ ∃ a s₁, Ends S G p s a s₁ ∧ Ends S G (f a) s₁ b s' := by
  induction p generalizing s with
  | ret a =>
    refine ⟨fun h => ⟨a, s, ⟨rfl, rfl⟩, h⟩, ?_⟩
    rintro ⟨_, _, ⟨rfl, rfl⟩, h⟩
    exact h
  | call o k ih =>
    constructor
    · rintro ⟨a, s₁, r, hcall, hexec, h⟩
      obtain ⟨c, s₂, hp, hf⟩ := (ih r).mp h
      exact ⟨c, s₂, ⟨a, s₁, r, hcall, hexec, hp⟩, hf⟩
    · rintro ⟨c, s₂, ⟨a, s₁, r, hcall, hexec, hp⟩, hf⟩
      exact ⟨a, s₁, r, hcall, hexec, (ih r).mpr ⟨c, s₂, hp, hf⟩⟩

/-- Run a program to its end on a list of answers. -/
def perform (S : Service σ Op Res Ans Kind) (G : Conditions σ Op Ans Kind) :
    Prog Op Res α → σ → List Ans → Option (α × σ)
  | .ret a, s, [] => some (a, s)
  | .call o k, s, a :: as =>
    if G.call s o a then
      match S.exec o a s with
      | some (s₁, r) => perform S G (k r) s₁ as
      | none => none
    else none
  | _, _, _ => none

/-- **A program that was run ends as it did.** -/
theorem ends_of_perform {p : Prog Op Res α} {s s' : σ} {as : List Ans} {b : α}
    (h : S.perform G p s as = some (b, s')) : S.Ends G p s b s' := by
  induction p generalizing s as with
  | ret a =>
    cases as with
    | nil =>
      cases h
      exact ⟨rfl, rfl⟩
    | cons _ _ => cases h
  | call o k ih =>
    cases as with
    | nil => cases h
    | cons a as =>
      simp only [perform] at h
      split at h
      · rename_i hcall
        split at h
        · rename_i s₁ r hexec
          exact ⟨a, s₁, r, hcall, hexec, ih r h⟩
        · cases h
      · cases h

/-- **A check of how a program ended is a fact about some way it can end.** -/
theorem exists_ends {p : Prog Op Res α} {s : σ} {check : α → σ → Bool} (as : List Ans)
    (h : ((S.perform G p s as).any fun r => check r.1 r.2) = true) :
    ∃ b s', S.Ends G p s b s' ∧ check b s' = true := by
  obtain ⟨⟨b, s'⟩, hend, hcheck⟩ := Option.any_eq_true _ _ |>.mp h
  exact ⟨b, s', ends_of_perform hend, hcheck⟩

/-! ## Programs beside others -/

/-- The state after calls of other programs; one that cannot be made is not. -/
def beside (S : Service σ Op Res Ans Kind) : List (Op × Ans) → σ → σ
  | [], s => s
  | (o, a) :: calls, s => beside S calls ((S.exec o a s).elim s Prod.fst)

/-- The calls a program makes on a list of answers. -/
def callsOf (S : Service σ Op Res Ans Kind) : Prog Op Res α → σ → List Ans → List (Op × Ans)
  | .call o k, s, a :: as =>
    match S.exec o a s with
    | some (s₁, r) => (o, a) :: callsOf S (k r) s₁ as
    | none => []
  | _, _, _ => []

/-! ## Programs that may be cut short -/

/-- The program keeps `I` at every operation, whatever the environment answers
within the conditions, and if it ends, it ends with `Q`. -/
def Keeps (S : Service σ Op Res Ans Kind) (G : Conditions σ Op Ans Kind) (I : σ → Prop) :
    Prog Op Res α → (α → σ → Prop) → σ → Prop
  | .ret a, Q, s => Q a s
  | .call o k, Q, s => ∀ a s' r, G.call s o a = true → S.exec o a s = some (s', r) →
      I s' ∧ Keeps S G I (k r) Q s'

section Rules

variable {p : Prog Op Res α} {Q Q' : α → σ → Prop} {s : σ} {o : Op} {R : Res o → σ → Prop}

@[simp] theorem keeps_ret {a : α} : S.Keeps G I (.ret a) Q s ↔ Q a s := Iff.rfl

theorem Keeps.mono (h : S.Keeps G I p Q s) (hQ : ∀ a s, Q a s → Q' a s) :
    S.Keeps G I p Q' s := by
  induction p generalizing s with
  | ret a => exact hQ a s h
  | call o k ih =>
    intro a s' r hcall hexec
    exact ⟨(h a s' r hcall hexec).1, ih r (h a s' r hcall hexec).2⟩

/-- What holds at every operation can be weakened. -/
theorem Keeps.weaken {J : σ → Prop} (h : S.Keeps G I p Q s) (hJ : ∀ s, I s → J s) :
    S.Keeps G J p Q s := by
  induction p generalizing s with
  | ret a => exact h
  | call o k ih =>
    intro a s' r hcall hexec
    obtain ⟨hI, hk⟩ := h a s' r hcall hexec
    exact ⟨hJ s' hI, ih r hk⟩

/-- The invariant holds at the end too. -/
theorem Keeps.inv (h : S.Keeps G I p Q s) (hs : I s) :
    S.Keeps G I p (fun a s' => Q a s' ∧ I s') s := by
  induction p generalizing s with
  | ret a => exact ⟨h, hs⟩
  | call o k ih =>
    intro a s' r hcall hexec
    obtain ⟨hI, hk⟩ := h a s' r hcall hexec
    exact ⟨hI, ih r hk hI⟩

/-- What a program ends with. -/
theorem Keeps.ends {a : α} {s' : σ} (h : S.Keeps G I p Q s) (he : S.Ends G p s a s') : Q a s' := by
  induction p generalizing s with
  | ret b =>
    obtain ⟨rfl, rfl⟩ := he
    exact h
  | call o k ih =>
    obtain ⟨ans, s₁, r, hcall, hexec, he⟩ := he
    exact ih r (h ans s₁ r hcall hexec).2 he

/-- One program after the other. -/
theorem Keeps.bind {R : β → σ → Prop} (h : S.Keeps G I p Q s)
    (hf : ∀ a s, Q a s → S.Keeps G I (f a) R s) : S.Keeps G I (p >>= f) R s := by
  induction p generalizing s with
  | ret a => exact hf a s h
  | call o k ih =>
    intro a s' r hcall hexec
    exact ⟨(h a s' r hcall hexec).1, ih r (h a s' r hcall hexec).2⟩

/-- A program that can fail, and what follows when it does not. -/
theorem Keeps.tryBind {ε : Type} {x : ExceptT ε (Prog Op Res) α}
    {f : α → ExceptT ε (Prog Op Res) β} {P : Except ε α → σ → Prop} {R : Except ε β → σ → Prop}
    (h : S.Keeps G I x.run P s) (hok : ∀ a s, P (.ok a) s → S.Keeps G I (f a).run R s)
    (herror : ∀ e s, P (.error e) s → R (.error e) s) : S.Keeps G I (x >>= f).run R s := by
  refine Keeps.bind h fun r s' hr => ?_
  cases r with
  | ok a => exact hok a s' hr
  | error e => exact herror e s' hr

/-- A loop that ends at the first failure. -/
theorem Keeps.tryEach {ε : Type} {bs : List β} {f : β → Prog Op Res (Except ε Unit)} (hs : I s)
    (hf : ∀ b s, I s → S.Keeps G I (f b) (fun _ => I) s) :
    S.Keeps G I (Prog.tryEach bs f) (fun _ => I) s := by
  induction bs generalizing s with
  | nil => exact hs
  | cons b bs ih =>
    refine Keeps.bind (hf b s hs) fun r s' hs' => ?_
    cases r with
    | ok _ => exact ih hs'
    | error e => exact hs'

/-- One operation, with what is known after it. -/
theorem Keeps.call {k : Res o → Prog Op Res α}
    (ho : ∀ a s' r, G.call s o a = true → S.exec o a s = some (s', r) → I s' ∧ R r s')
    (hk : ∀ r s', R r s' → S.Keeps G I (k r) Q s') : S.Keeps G I (.call o k) Q s :=
  fun a s' r hcall hexec =>
    ⟨(ho a s' r hcall hexec).1, hk r s' (ho a s' r hcall hexec).2⟩

/-- An operation by itself. -/
theorem Keeps.perform
    (ho : ∀ a s' r, G.call s o a = true → S.exec o a s = some (s', r) → I s' ∧ R r s') :
    S.Keeps G I (Prog.perform o) R s :=
  Keeps.call ho fun _ _ h => h

end Rules

/-! ## Programs that cannot fail to end -/

/-- Under answers the conditions allow, the program is never stuck and ends with
`Q`. -/
def Completes (S : Service σ Op Res Ans Kind) (G : Conditions σ Op Ans Kind) :
    Prog Op Res α → (α → σ → Prop) → σ → Prop
  | .ret a, Q, s => Q a s
  | .call o k, Q, s => (∃ a, G.call s o a = true ∧ (S.exec o a s).isSome = true) ∧
      ∀ a s' r, G.call s o a = true → S.exec o a s = some (s', r) → Completes S G (k r) Q s'

section Completes

variable {p : Prog Op Res α} {Q Q' : α → σ → Prop} {s : σ}

theorem Completes.mono (h : S.Completes G p Q s) (hQ : ∀ a s, Q a s → Q' a s) :
    S.Completes G p Q' s := by
  induction p generalizing s with
  | ret a => exact hQ a s h
  | call o k ih => exact ⟨h.1, fun a s' r hcall hexec => ih r (h.2 a s' r hcall hexec)⟩

/-- One program after the other. -/
theorem Completes.bind {R : β → σ → Prop} (h : S.Completes G p Q s)
    (hf : ∀ a s, Q a s → S.Completes G (f a) R s) : S.Completes G (p >>= f) R s := by
  induction p generalizing s with
  | ret a => exact hf a s h
  | call o k ih => exact ⟨h.1, fun a s' r hcall hexec => ih r (h.2 a s' r hcall hexec)⟩

/-- What a program that ends also keeps. -/
theorem Completes.and_keeps (h : S.Completes G p Q s) (hkeeps : S.Keeps G I p Q' s) :
    S.Completes G p (fun a s => Q a s ∧ Q' a s) s := by
  induction p generalizing s with
  | ret a => exact ⟨h, hkeeps⟩
  | call o k ih =>
    exact ⟨h.1, fun a s' r hcall hexec =>
      ih r (h.2 a s' r hcall hexec) (hkeeps a s' r hcall hexec).2⟩

/-- A program that completes can be run to its end. -/
theorem Completes.exists_ends (h : S.Completes G p Q s) : ∃ a s', S.Ends G p s a s' ∧ Q a s' := by
  induction p generalizing s with
  | ret a => exact ⟨a, s, ⟨rfl, rfl⟩, h⟩
  | call o k ih =>
    obtain ⟨⟨a, hcall, hsome⟩, hk⟩ := h
    obtain ⟨⟨s₁, r⟩, hexec⟩ := Option.isSome_iff_exists.mp hsome
    obtain ⟨b, s', hends, hQ⟩ := ih r (hk a s₁ r hcall hexec)
    exact ⟨b, s', ⟨a, s₁, r, hcall, hexec, hends⟩, hQ⟩

end Completes

/-! ## Soundness -/

variable (S G) in
/-- **What has to be shown of a service once**: every request and the recovery
keep `I` at each of their operations, and so does a crash. -/
structure Recoverable (init : σ → Prop) (I : σ → Prop) : Prop where
  init : ∀ s, init s → I s
  start : ∀ k s, I s → G.start s k = true → S.Keeps G I (S.code k) (fun _ => I) s
  crash : ∀ s, I s → G.crash s = true → I (S.crash s)
  recovery : ∀ s, I s → G.crash s = true → S.Keeps G I S.recovery (fun _ => I) (S.crash s)

/-- One event keeps the process in order. -/
theorem Recoverable.step (h : Recoverable S G init I) {e : Occurrence Ans Kind}
    (hw : I w.state ∧ S.Keeps G I w.rest (fun _ => I) w.state) (hallow : allows G w e = true)
    (hstep : S.step w e = some w') :
    I w'.state ∧ S.Keeps G I w'.rest (fun _ => I) w'.state := by
  obtain ⟨hI, hkeeps⟩ := hw
  obtain ⟨s, rest⟩ := w
  cases e with
  | run a =>
    cases rest with
    | ret _ => cases hstep
    | call o k =>
      simp only [Service.step, Option.map_eq_some_iff] at hstep
      obtain ⟨⟨s', r⟩, hexec, rfl⟩ := hstep
      exact hkeeps a s' r hallow hexec
  | start k =>
    cases rest with
    | ret isUp =>
      cases isUp with
      | false => cases hstep
      | true =>
        cases hstep
        exact ⟨hI, (h.start k s hI hallow).bind fun _ _ hs' => hs'⟩
    | call o k => cases hstep
  | crash =>
    cases hstep
    exact ⟨h.crash s hI hallow, h.recovery s hI hallow⟩

/-- **The invariant holds in every process of every run**, at every operation. -/
theorem Recoverable.inv (h : Recoverable S G init I) (hw : Reachable S G init w) : I w.state := by
  suffices hs : I w.state ∧ S.Keeps G I w.rest (fun _ => I) w.state from hs.1
  induction hw with
  | init hs => exact ⟨h.init _ hs, h.init _ hs⟩
  | step _ hallow hstep ih => exact h.step ih hallow hstep

end Service

end FlanForge
