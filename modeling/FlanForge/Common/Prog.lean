import Mathlib.Logic.Basic

/-!
# Programs over an operation signature

A task of a concurrent system is a *program*: a finite tree that either
returns or performs one operation and goes on with its result. The type
is the free monad of the signature `(Op, Res)`, where `Res o` is what the
operation `o` answers, so that a program is written as a `do` block and
still can be taken apart one operation at a time. What an operation does
to the shared state is said elsewhere (`Common.Machine`); two tasks
interleave exactly at the operations.

`Prog.Returns` says what a program can answer. `Prog.Calls` is its
footprint: every operation it can perform satisfies a predicate, whatever
the operations answer.
-/

namespace FlanForge

/-- A program over the operations `Op`, returning an `α`. -/
inductive Prog (Op : Type) (Res : Op → Type) (α : Type) : Type
  /-- The program is over. -/
  | ret (a : α)
  /-- Perform one operation and go on with its result. -/
  | call (o : Op) (k : Res o → Prog Op Res α)

namespace Prog

variable {Op : Type} {Res : Op → Type} {α β γ : Type} {p : Prog Op Res α} {f : α → Prog Op Res β}

/-- Sequential composition. -/
def bind : Prog Op Res α → (α → Prog Op Res β) → Prog Op Res β
  | ret a, f => f a
  | call o k, f => call o fun r => (k r).bind f

instance : Monad (Prog Op Res) where
  pure := ret
  bind := bind

/-- The program that performs one operation and returns its result. -/
def perform (o : Op) : Prog Op Res (Res o) := call o ret

@[simp] theorem pure_eq (a : α) : (pure a : Prog Op Res α) = ret a := rfl

@[simp] theorem ret_bind (a : α) (f : α → Prog Op Res β) : (ret a >>= f) = f a := rfl

@[simp] theorem call_bind (o : Op) (k : Res o → Prog Op Res α) (f : α → Prog Op Res β) :
    (call o k >>= f) = call o fun r => k r >>= f := rfl

@[simp] theorem perform_bind (o : Op) (f : Res o → Prog Op Res β) :
    (perform o >>= f) = call o f := rfl

theorem bind_assoc (p : Prog Op Res α) (f : α → Prog Op Res β) (g : β → Prog Op Res γ) :
    (p >>= f >>= g) = (p >>= fun a => f a >>= g) := by
  induction p with
  | ret a => rfl
  | call o k ih => exact congrArg (call o) (funext ih)

/-- Run a program for each element of a list, in order. -/
def forEach : List β → (β → Prog Op Res Unit) → Prog Op Res Unit
  | [], _ => ret ()
  | b :: bs, f => f b >>= fun _ => forEach bs f

@[simp] theorem forEach_nil (f : β → Prog Op Res Unit) : forEach [] f = ret () := rfl

@[simp] theorem forEach_cons (b : β) (bs : List β) (f : β → Prog Op Res Unit) :
    forEach (b :: bs) f = (f b >>= fun _ => forEach bs f) := rfl

/-- Run a program for each element of a list, in order, up to the first that
fails. -/
def tryEach {ε : Type} : List β → (β → Prog Op Res (Except ε Unit)) → Prog Op Res (Except ε Unit)
  | [], _ => ret (.ok ())
  | b :: bs, f => f b >>= fun
    | .ok _ => tryEach bs f
    | .error e => ret (.error e)

/-! ## Results -/

/-- The program can return `r`: some answers of its operations lead there. -/
def Returns : Prog Op Res α → α → Prop
  | ret a, r => a = r
  | call _ k, r => ∃ x, (k x).Returns r

@[simp] theorem returns_ret {a r : α} : (ret a : Prog Op Res α).Returns r ↔ a = r := Iff.rfl

/-- What a sequence returns, its second half returns after some result of its
first. -/
theorem Returns.bind {r : β} (h : (p >>= f).Returns r) : ∃ a, p.Returns a ∧ (f a).Returns r := by
  induction p with
  | ret a => exact ⟨a, rfl, h⟩
  | call o k ih =>
    obtain ⟨x, hx⟩ := h
    obtain ⟨a, hp, hf⟩ := ih x hx
    exact ⟨a, ⟨x, hp⟩, hf⟩

/-- The program can return `r` when its operations only ever answer so. -/
def ReturnsWith (answers : (o : Op) → Res o → Prop) : Prog Op Res α → α → Prop
  | ret a, r => a = r
  | call o k, r => ∃ x, answers o x ∧ (k x).ReturnsWith answers r

variable {answers : (o : Op) → Res o → Prop}

@[simp] theorem returnsWith_ret {a r : α} :
    (ret a : Prog Op Res α).ReturnsWith answers r ↔ a = r := Iff.rfl

theorem ReturnsWith.perform {o : Op} {f : Res o → Prog Op Res α} {r : α}
    (h : (Prog.perform o >>= f).ReturnsWith answers r) :
    ∃ x, answers o x ∧ (f x).ReturnsWith answers r := h

theorem ReturnsWith.bind {r : β} (h : (p >>= f).ReturnsWith answers r) :
    ∃ a, p.ReturnsWith answers a ∧ (f a).ReturnsWith answers r := by
  induction p with
  | ret a => exact ⟨a, rfl, h⟩
  | call o k ih =>
    obtain ⟨x, hx, hrest⟩ := h
    obtain ⟨a, hp, hf⟩ := ih x hrest
    exact ⟨a, ⟨x, hx, hp⟩, hf⟩

theorem ReturnsWith.returns {r : α} (h : p.ReturnsWith answers r) :
    p.Returns r := by
  induction p with
  | ret a => exact h
  | call o k ih =>
    obtain ⟨x, -, hx⟩ := h
    exact ⟨x, ih x hx⟩

/-! ## Footprints -/

/-- Every operation the program can perform satisfies `ok`. -/
def Calls (ok : Op → Prop) : Prog Op Res α → Prop
  | ret _ => True
  | call o k => ok o ∧ ∀ r, (k r).Calls ok

variable {ok : Op → Prop}

@[simp] theorem calls_ret (a : α) : (ret a : Prog Op Res α).Calls ok := trivial

@[simp] theorem calls_call (o : Op) (k : Res o → Prog Op Res α) :
    (call o k).Calls ok ↔ ok o ∧ ∀ r, (k r).Calls ok := Iff.rfl

/-- One operation of the footprint, and what follows it. -/
theorem Calls.perform {o : Op} {f : Res o → Prog Op Res β} (ho : ok o)
    (hf : ∀ r, (f r).Calls ok) : (Prog.perform o >>= f).Calls ok := ⟨ho, hf⟩

/-- A sequence stays inside the footprint when both halves do. -/
theorem Calls.bind (hp : p.Calls ok) (hf : ∀ a, (f a).Calls ok) : (p >>= f).Calls ok := by
  induction p with
  | ret a => exact hf a
  | call o k ih => exact ⟨hp.1, fun r => ih r (hp.2 r)⟩

/-- A loop stays inside the footprint when its body does. -/
theorem Calls.forEach {bs : List β} {f : β → Prog Op Res Unit} (hf : ∀ b ∈ bs, (f b).Calls ok) :
    (Prog.forEach bs f).Calls ok := by
  induction bs with
  | nil => trivial
  | cons b bs ih =>
    exact Calls.bind (hf b (by simp)) fun _ => ih fun c hc => hf c (by simp [hc])

/-- Footprints widen. -/
theorem Calls.mono {ok' : Op → Prop} (h : ∀ o, ok o → ok' o) (hp : p.Calls ok) : p.Calls ok' := by
  induction p with
  | ret a => trivial
  | call o k ih => exact ⟨h o hp.1, fun r => ih r (hp.2 r)⟩

end Prog

end FlanForge
