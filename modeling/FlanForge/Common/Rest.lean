import FlanForge.Common.Machine

/-!
# What is left of a program

A task of a reachable world is what is left of the program of its kind after
some answers (`Reachable.assigned`). Where a program can perform an operation
in one place only, a task that is about to perform it has come to that place,
and the rules below say on which path.
-/

namespace FlanForge

namespace Prog

variable {Op : Type} {Res : Op → Type} {α β : Type}

/-- The second program is left of the first after some answers. -/
inductive Rest : Prog Op Res α → Prog Op Res α → Prop
  | refl (p : Prog Op Res α) : Rest p p
  | step {o : Op} {k : Res o → Prog Op Res α} {q : Prog Op Res α} (r : Res o) :
      Rest (k r) q → Rest (call o k) q

variable {p q : Prog Op Res α} {ok : Op → Prop} {o : Op} {f : α → Prog Op Res β}
variable {k : Res o → Prog Op Res β}

/-- One more answer. -/
theorem Rest.next {k : Res o → Prog Op Res α} (h : Rest p (call o k)) (r : Res o) :
    Rest p (k r) := by
  generalize hq : call o k = q at h
  induction h with
  | refl p =>
    subst hq
    exact .step r (.refl _)
  | step r' _ ih => exact .step r' (ih hq)

/-- **The rest of a sequence** is a rest of its first half, or of its second
after a result of the first. -/
theorem Rest.bind {q : Prog Op Res β} (h : Rest (p >>= f) q) :
    (∃ p', Rest p p' ∧ q = (p' >>= f)) ∨ ∃ a, p.Returns a ∧ Rest (f a) q := by
  induction p with
  | ret a => exact .inr ⟨a, rfl, h⟩
  | call o k ih =>
    cases h with
    | refl => exact .inl ⟨call o k, .refl _, rfl⟩
    | step r h =>
      rcases ih r h with ⟨p', hp', rfl⟩ | ⟨a, ha, hq⟩
      · exact .inl ⟨p', .step r hp', rfl⟩
      · exact .inr ⟨a, ⟨r, ha⟩, hq⟩

/-- The rest of a program stays inside its footprint. -/
theorem Rest.calls (h : Rest p q) (hp : p.Calls ok) : q.Calls ok := by
  induction h with
  | refl => exact hp
  | step r _ ih => exact ih (hp.2 r)

/-- What is left of a program returns what the program can return. -/
theorem Rest.returns {a : α} (h : Rest p (ret a)) : p.Returns a := by
  generalize hq : (ret a : Prog Op Res α) = q at h
  induction h with
  | refl p =>
    subst hq
    exact rfl
  | step r _ ih => exact ⟨r, ih hq⟩

/-- An operation outside the footprint of the first half comes in the second. -/
theorem Rest.bind_right (h : Rest (p >>= f) (call o k)) (hp : p.Calls ok) (ho : ¬ ok o) :
    ∃ a, p.Returns a ∧ Rest (f a) (call o k) := by
  rcases h.bind with ⟨p', hp', heq⟩ | hright
  · cases p' with
    | ret a =>
      have heq : call o k = f a := heq
      exact ⟨a, hp'.returns, heq ▸ .refl _⟩
    | call o' k' =>
      cases heq
      exact absurd (hp'.calls hp).1 ho
  · exact hright

/-- And one outside the footprint of the second half comes in the first. -/
theorem Rest.bind_left (h : Rest (p >>= f) (call o k)) (hf : ∀ a, (f a).Calls ok) (ho : ¬ ok o) :
    ∃ k', Rest p (call o k') := by
  rcases h.bind with ⟨p', hp', heq⟩ | ⟨a, -, hq⟩
  · cases p' with
    | ret a =>
      have heq : call o k = f a := heq
      exact absurd (heq ▸ hf a).1 ho
    | call o' k' =>
      cases heq
      exact ⟨k', hp'⟩
  · exact absurd (hq.calls (hf a)).1 ho

end Prog

namespace Machine

variable {σ Op : Type} {Res : Op → Type} {Ans Kind Env : Type}
variable {M : Machine σ Op Res Ans Kind Env} {G : Regime σ Op Ans Kind Env} {init : σ → Prop}
variable {w : World σ Op Res} {t : TaskId} {kinds : List Kind}

/-- The kind each task was started as: the task is over or the rest of that
kind's program. -/
structure Assigned (M : Machine σ Op Res Ans Kind Env) (kinds : List Kind) (w : World σ Op Res) :
    Prop where
  length : kinds.length = w.tasks.length
  rest : ∀ (t : TaskId) (p : Prog Op Res Unit), w.tasks[t]? = some p →
    p = .ret () ∨ ∃ kind, kinds[t]? = some kind ∧ (M.code kind).Rest p

/-- A new task is the whole program of its kind. -/
theorem Assigned.append {s s' : σ} {tasks : List (Prog Op Res Unit)}
    (h : Assigned M kinds ⟨s, tasks⟩) (kind : Kind) :
    Assigned M (kinds ++ [kind]) ⟨s', tasks ++ [M.code kind]⟩ := by
  have hlength : kinds.length = tasks.length := h.length
  refine ⟨by simp [hlength], fun t p hp => ?_⟩
  rcases Nat.lt_or_ge t tasks.length with ht | ht
  · rw [List.getElem?_append_left ht] at hp
    rw [List.getElem?_append_left (hlength ▸ ht)]
    exact h.rest t p hp
  · rw [List.getElem?_append_right ht, List.getElem?_singleton] at hp
    rw [List.getElem?_append_right (hlength ▸ ht), List.getElem?_singleton, hlength]
    split at hp
    · cases hp
      exact .inr ⟨kind, by simp_all, .refl _⟩
    · cases hp

/-- One operation of a task leaves a rest of its program. -/
theorem Assigned.run {o : Op} {k : Res o → Prog Op Res Unit} (h : Assigned M kinds w)
    (htask : w.tasks[t]? = some (.call o k)) (s : σ) (r : Res o) :
    Assigned M kinds ⟨s, w.tasks.set t (k r)⟩ := by
  refine ⟨by simp [h.length], fun t' p hp => ?_⟩
  by_cases ht : t = t'
  · subst ht
    have hlt := (List.getElem?_eq_some_iff.mp htask).1
    rw [List.getElem?_set_self hlt] at hp
    cases hp
    rcases h.rest t _ htask with hover | ⟨kind, hkind, hrest⟩
    · cases hover
    · exact .inr ⟨kind, hkind, hrest.next r⟩
  · rw [List.getElem?_set_ne ht] at hp
    exact h.rest t' p hp

/-- A restart ends every task. -/
theorem Assigned.over (h : Assigned M kinds w) (s : σ) :
    Assigned M kinds ⟨s, w.tasks.map fun _ => .ret ()⟩ := by
  refine ⟨by simp [h.length], fun t p hp => ?_⟩
  simp only [List.getElem?_map, Option.map_eq_some_iff] at hp
  obtain ⟨q, -, rfl⟩ := hp
  exact .inl rfl

/-- A task that is about to perform an operation is the rest of its kind's
program. -/
theorem Assigned.pending {o : Op} {k : Res o → Prog Op Res Unit} (h : Assigned M kinds w)
    (htask : w.tasks[t]? = some (.call o k)) :
    ∃ kind, kinds[t]? = some kind ∧ (M.code kind).Rest (.call o k) := by
  rcases h.rest t _ htask with hover | hrest
  · cases hover
  · exact hrest

/-- **Every task of a reachable world is the rest of its kind's program**, and
what each step keeps of the kinds and the state holds of both. -/
theorem Reachable.assigned {J : List Kind → σ → Prop} (hinit : ∀ s, init s → J [] s)
    (hrun : ∀ kinds w t o k a s' r spawned, Reachable M G init w → Assigned M kinds w →
      J kinds w.shared → w.tasks[t]? = some (.call o k) →
      M.exec t w.tasks.length o a w.shared = some (s', r, spawned) →
      J (kinds ++ spawned.toList) s')
    (hstart : ∀ kinds kind s s', J kinds s → M.start kind kinds.length s = some s' →
      J (kinds ++ [kind]) s')
    (henv : ∀ kinds e s s', J kinds s → M.env e s = some s' → J kinds s')
    (hreboot : ∀ kinds s, J kinds s →
      J (kinds ++ [(M.reboot kinds.length s).2]) (M.reboot kinds.length s).1)
    (hw : Reachable M G init w) : ∃ kinds, Assigned M kinds w ∧ J kinds w.shared := by
  induction hw with
  | init hs => exact ⟨[], ⟨rfl, fun t p hp => by cases hp⟩, hinit _ hs⟩
  | @step w w' act hw _ hstep ih =>
    obtain ⟨kinds, hassigned, hJ⟩ := ih
    cases act with
    | run t a =>
      simp only [Machine.step] at hstep
      split at hstep
      · rename_i o k htask
        split at hstep
        · rename_i s' r spawned hexec
          cases hstep
          refine ⟨kinds ++ spawned.toList, ?_,
            hrun kinds w t o k a s' r spawned hw hassigned hJ htask hexec⟩
          cases spawned with
          | none => simpa using hassigned.run htask s' r
          | some kind => exact (hassigned.run htask s' r).append kind
        · cases hstep
      · cases hstep
    | start kind =>
      obtain ⟨s', hs', rfl⟩ := Option.map_eq_some_iff.mp hstep
      exact ⟨_, Assigned.append (s := w.shared) hassigned kind,
        hstart kinds kind _ s' hJ (hassigned.length ▸ hs')⟩
    | env e =>
      obtain ⟨s', hs', rfl⟩ := Option.map_eq_some_iff.mp hstep
      exact ⟨kinds, ⟨hassigned.length, hassigned.rest⟩, henv kinds e _ s' hJ hs'⟩
    | reboot =>
      cases hstep
      refine ⟨_, (hassigned.over w.shared).append _, ?_⟩
      have h := hreboot kinds w.shared hJ
      rwa [hassigned.length] at h

end Machine

end FlanForge
