import FlanForge.Common.Machine

/-!
# Rely and guarantee for concurrent programs

A `Discipline` is what the tasks of a machine promise each other: an
invariant of the shared state, what each task may rely on while others
move, and what has to hold where an operation is performed. `Safe` says
that a program keeps the discipline from a state on, against any
interference its rely allows; `Triple` is the same with a precondition.
The rules follow the syntax of programs: `Triple.ret`, `Triple.call`,
`Triple.bind`, `Triple.forEach`.

`Discipline.Sound` collects what has to be shown of a machine once.
From it every reachable world keeps the invariant and every operation a
reachable world is about to perform meets its specification
(`Sound.inv`, `Sound.spec`), and further invariants are proved by looking
at single operations and no longer at programs (`Sound.invariant`).
-/

namespace FlanForge

variable {σ Op : Type} {Res : Op → Type} {Ans Kind Env : Type}

/-- What the tasks of a machine promise each other. -/
structure Discipline (M : Machine σ Op Res Ans Kind Env) where
  /-- The invariant of the shared state. -/
  Inv : σ → Prop
  /-- How the state may change while the task does not move. -/
  Rely : TaskId → σ → σ → Prop
  /-- What holds of an operation where a task performs it. -/
  Spec : TaskId → Op → σ → Prop
  /-- What a task of a kind finds when it starts. -/
  Ready : Kind → TaskId → σ → Prop
  rely_refl : ∀ t s, Rely t s s
  rely_trans : ∀ {t s₁ s₂ s₃}, Rely t s₁ s₂ → Rely t s₂ s₃ → Rely t s₁ s₃

namespace Discipline

variable {M : Machine σ Op Res Ans Kind Env} (D : Discipline M) {α β : Type}

/-- What a step of task `t` owes the others: the invariant, their rely, and
a well-prepared start to the task it spawns. -/
structure Owes (t fresh : TaskId) (s s' : σ) (spawned : Option Kind) : Prop where
  inv : D.Inv s'
  rely : ∀ u, u ≠ t → u ≠ fresh → D.Rely u s s'
  ready : ∀ k, spawned = some k → D.Ready k fresh s'

/-- The program keeps the discipline from `s` on, whatever the other tasks
do within its rely, and returns in a state satisfying `Q`. -/
def Safe (t : TaskId) : Prog Op Res α → (α → σ → Prop) → σ → Prop
  | .ret a, Q => fun s => ∀ s', D.Rely t s s' → D.Inv s' → Q a s'
  | .call o k, Q => fun s => ∀ s', D.Rely t s s' → D.Inv s' →
      D.Spec t o s' ∧
      ∀ fresh ans s'' r spawned, t ≠ fresh →
        M.exec t fresh o ans s' = some (s'', r, spawned) →
        D.Owes t fresh s' s'' spawned ∧ Safe t (k r) Q s''

/-- The program keeps the discipline from every state satisfying `P`. -/
def Triple (t : TaskId) (P : σ → Prop) (p : Prog Op Res α) (Q : α → σ → Prop) : Prop :=
  ∀ s, D.Inv s → P s → D.Safe t p Q s

/-- The program keeps the discipline, and `P` with it. -/
abbrev Keeps (t : TaskId) (P : σ → Prop) (p : Prog Op Res α) : Prop := D.Triple t P p fun _ => P

/-- What the task knows survives the moves of the others. -/
def Stable (t : TaskId) (P : σ → Prop) : Prop :=
  ∀ s s', D.Inv s → D.Inv s' → D.Rely t s s' → P s → P s'

/-- One operation keeps the discipline and establishes `R`. -/
def OpTriple (t : TaskId) (P : σ → Prop) (o : Op) (R : Res o → σ → Prop) : Prop :=
  ∀ s, D.Inv s → P s → D.Spec t o s ∧
    ∀ fresh ans s' r spawned, t ≠ fresh → M.exec t fresh o ans s = some (s', r, spawned) →
      D.Owes t fresh s s' spawned ∧ R r s'

variable {D} {t : TaskId} {P : σ → Prop} {Q Q' : α → σ → Prop} {p : Prog Op Res α}

/-- Safety survives the moves of the other tasks. -/
theorem Safe.interfere {s s' : σ} (h : D.Safe t p Q s) (hrely : D.Rely t s s') :
    D.Safe t p Q s' := by
  cases p with
  | ret a => exact fun s₁ h₁ hinv => h s₁ (D.rely_trans hrely h₁) hinv
  | call o k => exact fun s₁ h₁ hinv => h s₁ (D.rely_trans hrely h₁) hinv

/-- The rule of consequence for `Safe`. -/
theorem Safe.weaken {s : σ} (h : D.Safe t p Q s) (hQ : ∀ a s, D.Inv s → Q a s → Q' a s) :
    D.Safe t p Q' s := by
  induction p generalizing s with
  | ret a => exact fun s₁ h₁ hinv => hQ a s₁ hinv (h s₁ h₁ hinv)
  | call o k ih =>
    intro s₁ h₁ hinv
    obtain ⟨hspec, hstep⟩ := h s₁ h₁ hinv
    refine ⟨hspec, fun fresh ans s₂ r spawned hne hexec => ?_⟩
    obtain ⟨howes, hk⟩ := hstep fresh ans s₂ r spawned hne hexec
    exact ⟨howes, ih r hk⟩

/-- Safety of a sequence. -/
theorem Safe.bind {s : σ} {f : α → Prog Op Res β} {Q : β → σ → Prop} (hs : D.Inv s)
    (h : D.Safe t p (fun a s => D.Safe t (f a) Q s) s) : D.Safe t (p >>= f) Q s := by
  induction p generalizing s with
  | ret a => exact h s (D.rely_refl t s) hs
  | call o k ih =>
    intro s₁ h₁ hinv
    obtain ⟨hspec, hstep⟩ := h s₁ h₁ hinv
    refine ⟨hspec, fun fresh ans s₂ r spawned hne hexec => ?_⟩
    obtain ⟨howes, hk⟩ := hstep fresh ans s₂ r spawned hne hexec
    exact ⟨howes, ih r howes.inv hk⟩

/-! ## Rules for triples -/

/-- Returning needs nothing but a stable precondition. -/
theorem Triple.ret {a : α} (hP : D.Stable t P) (hQ : ∀ s, D.Inv s → P s → Q a s) :
    D.Triple t P (.ret a) Q :=
  fun s hs hp s' hrely hinv => hQ s' hinv (hP s s' hs hinv hrely hp)

/-- One operation, then the rest. -/
theorem Triple.call {o : Op} {k : Res o → Prog Op Res α} {R : Res o → σ → Prop}
    (hP : D.Stable t P) (ho : D.OpTriple t P o R) (hk : ∀ r, D.Triple t (R r) (k r) Q) :
    D.Triple t P (.call o k) Q := by
  intro s hs hp s' hrely hinv
  obtain ⟨hspec, hstep⟩ := ho s' hinv (hP s s' hs hinv hrely hp)
  refine ⟨hspec, fun fresh ans s'' r spawned hne hexec => ?_⟩
  obtain ⟨howes, hr⟩ := hstep fresh ans s'' r spawned hne hexec
  exact ⟨howes, hk r s'' howes.inv hr⟩

/-- Sequencing. -/
theorem Triple.bind {f : α → Prog Op Res β} {R : α → σ → Prop} {Q : β → σ → Prop}
    (hp : D.Triple t P p R) (hf : ∀ a, D.Triple t (R a) (f a) Q) :
    D.Triple t P (p >>= f) Q := fun s hs h =>
  Safe.bind hs ((hp s hs h).weaken fun a s' hinv hr => hf a s' hinv hr)

/-- The rule of consequence. -/
theorem Triple.consequence {P' : σ → Prop} (h : D.Triple t P p Q)
    (hP : ∀ s, D.Inv s → P' s → P s) (hQ : ∀ a s, D.Inv s → Q a s → Q' a s) :
    D.Triple t P' p Q' :=
  fun s hs hp => (h s hs (hP s hs hp)).weaken hQ

/-- A fact that does not depend on the state can be used as a hypothesis. -/
theorem Triple.assume {φ : Prop} (h : φ → D.Triple t P p Q) :
    D.Triple t (fun s => φ ∧ P s) p Q :=
  fun s hs hp => h hp.1 s hs hp.2

/-- A witness of the precondition can be named first. -/
theorem Triple.elim {ι : Type} {P : ι → σ → Prop} (h : ∀ i, D.Triple t (P i) p Q) :
    D.Triple t (fun s => ∃ i, P i s) p Q :=
  fun s hs ⟨i, hi⟩ => h i s hs hi

/-- A loop whose body keeps its precondition keeps it. -/
theorem Triple.forEach {bs : List β} {f : β → Prog Op Res Unit} (hP : D.Stable t P)
    (hf : ∀ b ∈ bs, D.Triple t P (f b) fun _ => P) :
    D.Triple t P (Prog.forEach bs f) fun _ => P := by
  induction bs with
  | nil => exact Triple.ret hP fun _ _ h => h
  | cons b bs ih =>
    exact Triple.bind (hf b (by simp)) fun _ => ih fun c hc => hf c (by simp [hc])

/-! ## Soundness -/

variable (D)

/-- What has to be shown of a machine once. -/
structure Sound (init : σ → Prop) : Prop where
  init : ∀ s, init s → D.Inv s
  code : ∀ k t s, D.Inv s → D.Ready k t s → D.Safe t (M.code k) (fun _ _ => True) s
  start : ∀ k t s s', D.Inv s → M.start k t s = some s' →
    D.Inv s' ∧ D.Ready k t s' ∧ ∀ u, u ≠ t → D.Rely u s s'
  env : ∀ e s s', D.Inv s → M.env e s = some s' → D.Inv s' ∧ ∀ t, D.Rely t s s'
  reboot : ∀ t s, D.Inv s →
    D.Inv (M.reboot t s).1 ∧ D.Ready (M.reboot t s).2 t (M.reboot t s).1

/-- Every task of the world keeps the discipline from here on. -/
def Holds (w : World σ Op Res) : Prop :=
  D.Inv w.shared ∧
    ∀ t p, w.tasks[t]? = some p → D.Safe t p (fun _ _ => True) w.shared

variable {D} {init : σ → Prop} {G : Regime σ Op Ans Kind Env} {w w' : World σ Op Res}

/-- **One operation of one task keeps the whole world in order.** -/
theorem Holds.run (hD : D.Sound init) {a : Ans} (h : D.Holds w)
    (hstep : M.step w (.run t a) = some w') : D.Holds w' := by
  obtain ⟨hinv, htasks⟩ := h
  simp only [Machine.step] at hstep
  split at hstep
  · rename_i o k hk
    split at hstep
    · rename_i s' r spawned hexec
      cases hstep
      have hlt : t < w.tasks.length := (List.getElem?_eq_some_iff.mp hk).1
      obtain ⟨-, hnext⟩ := htasks t _ hk w.shared (D.rely_refl t _) hinv
      obtain ⟨howes, hcont⟩ := hnext _ a s' r spawned (Nat.ne_of_lt hlt) hexec
      refine ⟨howes.inv, fun u p hu => ?_⟩
      rcases Nat.lt_or_ge u w.tasks.length with hlt' | hge
      · -- an old task: the one that moved, or one that relied on it
        rw [List.getElem?_append_left (by simpa using hlt')] at hu
        by_cases htu : t = u
        · subst htu
          rw [List.getElem?_set_self hlt] at hu
          cases hu
          exact hcont
        · rw [List.getElem?_set_ne htu] at hu
          exact (htasks u p hu).interfere (howes.rely u (Ne.symm htu) (Nat.ne_of_lt hlt'))
      · -- the task this operation spawned
        rw [List.getElem?_append_right (by simpa using hge), List.length_set] at hu
        cases hsp : spawned with
        | none => simp [hsp] at hu
        | some κ =>
          simp only [hsp, Option.map_some, Option.toList_some,
            List.getElem?_singleton] at hu
          split at hu
          · rename_i h0
            obtain rfl : u = w.tasks.length := Nat.le_antisymm (Nat.le_of_sub_eq_zero h0) hge
            cases hu
            exact hD.code κ _ s' howes.inv (howes.ready κ hsp)
          · cases hu
    · cases hstep
  · cases hstep

/-- A task appended to a world in order keeps it so. -/
theorem Holds.append (hD : D.Sound init) {k : Kind} {s : σ} {ps : List (Prog Op Res Unit)}
    (hinv : D.Inv s) (hps : ∀ t p, ps[t]? = some p → D.Safe t p (fun _ _ => True) s)
    (hk : D.Ready k ps.length s) : D.Holds ⟨s, ps ++ [M.code k]⟩ := by
  refine ⟨hinv, fun u p hu => ?_⟩
  rcases Nat.lt_or_ge u ps.length with hlt | hge
  · rw [List.getElem?_append_left hlt] at hu
    exact hps u p hu
  · rw [List.getElem?_append_right hge, List.getElem?_singleton] at hu
    split at hu
    · rename_i h0
      obtain rfl : u = ps.length := Nat.le_antisymm (Nat.le_of_sub_eq_zero h0) hge
      cases hu
      exact hD.code k _ s hinv hk
    · cases hu

/-- **Every reachable world is in order.** -/
theorem Sound.holds (hD : D.Sound init) (hw : Machine.Reachable M G init w) : D.Holds w := by
  induction hw with
  | init hs => exact ⟨hD.init _ hs, fun t p h => by simp at h⟩
  | @step w w' act _ _ hstep ih =>
    cases act with
    | run t a => exact ih.run hD hstep
    | start k =>
      simp only [Machine.step, Option.map_eq_some_iff] at hstep
      obtain ⟨s', hstart, rfl⟩ := hstep
      obtain ⟨hinv, hready, hrely⟩ := hD.start k _ _ _ ih.1 hstart
      refine Holds.append hD hinv (fun t p h => ?_) hready
      have hlt : t < w.tasks.length := (List.getElem?_eq_some_iff.mp h).1
      exact (ih.2 t p h).interfere (hrely t (Nat.ne_of_lt hlt))
    | env e =>
      simp only [Machine.step, Option.map_eq_some_iff] at hstep
      obtain ⟨s', henv, rfl⟩ := hstep
      obtain ⟨hinv, hrely⟩ := hD.env e _ _ ih.1 henv
      exact ⟨hinv, fun t p h => (ih.2 t p h).interfere (hrely t)⟩
    | reboot =>
      simp only [Machine.step, Option.some.injEq] at hstep
      subst hstep
      obtain ⟨hinv, hready⟩ := hD.reboot w.tasks.length w.shared ih.1
      refine Holds.append hD hinv (fun t p h => ?_) (by simpa using hready)
      rw [List.getElem?_map] at h
      obtain ⟨q, -, rfl⟩ := Option.map_eq_some_iff.mp h
      exact fun _ _ _ => trivial

/-- The invariant holds in every reachable world. -/
theorem Sound.inv (hD : D.Sound init) (hw : Machine.Reachable M G init w) : D.Inv w.shared :=
  (hD.holds hw).1

/-- **Every operation meets its specification where it is performed.** -/
theorem Sound.spec (hD : D.Sound init) (hw : Machine.Reachable M G init w) {o : Op}
    (ho : w.pending t = some o) : D.Spec t o w.shared := by
  obtain ⟨hinv, htasks⟩ := hD.holds hw
  simp only [World.pending] at ho
  split at ho
  · rename_i o' k hk
    cases ho
    exact (htasks t _ hk w.shared (D.rely_refl t _) hinv).1
  · cases ho

/-- **Invariants from single operations.** A property of the shared state
that every operation keeps, where its specification is known, holds in
every reachable world: no program is looked at again. -/
theorem Sound.invariant (hD : D.Sound init) {J : σ → Prop} (hinit : ∀ s, init s → J s)
    (hrun : ∀ w t fresh o a s' r spawned, Machine.Reachable M G init w → J w.shared →
      D.Spec t o w.shared → t ≠ fresh → G.call w.shared t o a = true →
      M.exec t fresh o a w.shared = some (s', r, spawned) → J s')
    (hstart : ∀ w k t s', Machine.Reachable M G init w → J w.shared →
      M.start k t w.shared = some s' → J s')
    (henv : ∀ w e s', Machine.Reachable M G init w → J w.shared → G.env w.shared e = true →
      M.env e w.shared = some s' → J s')
    (hreboot : ∀ t w, Machine.Reachable M G init w → J w.shared → G.reboot w.shared = true →
      J (M.reboot t w.shared).1)
    (hw : Machine.Reachable M G init w) : J w.shared := by
  induction hw with
  | init hs => exact hinit _ hs
  | @step w w' act hw hallow hstep ih =>
    cases act with
    | run t a =>
      simp only [Machine.step] at hstep
      split at hstep
      · rename_i o k hk
        have hpending : w.pending t = some o := by simp [World.pending, hk]
        split at hstep
        · rename_i s' r spawned hexec
          cases hstep
          have hlt : t < w.tasks.length := (List.getElem?_eq_some_iff.mp hk).1
          have hcall : G.call w.shared t o a = true := by
            simpa [Machine.allows, hpending] using hallow
          exact hrun w t _ o a s' r spawned hw ih (hD.spec hw hpending)
            (Nat.ne_of_lt hlt) hcall hexec
        · cases hstep
      · cases hstep
    | start k =>
      simp only [Machine.step, Option.map_eq_some_iff] at hstep
      obtain ⟨s', hstart', rfl⟩ := hstep
      exact hstart w k _ _ hw ih hstart'
    | env e =>
      simp only [Machine.step, Option.map_eq_some_iff] at hstep
      obtain ⟨s', henv', rfl⟩ := hstep
      exact henv w e _ hw ih hallow henv'
    | reboot =>
      simp only [Machine.step, Option.some.injEq] at hstep
      subst hstep
      exact hreboot _ w hw ih hallow

end Discipline

end FlanForge
