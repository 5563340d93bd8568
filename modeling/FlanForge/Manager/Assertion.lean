import FlanForge.Manager.Guarantee

/-!
# Assertions and rules for the manager's programs

What a task knows between two operations is an assertion `At t P c`: some
knowledge `P`, that the task may move at all, and which machine, if any, it
has decided to destroy. Knowledge that survives both the moves of the others
and the task's own moves on the pool is a `Frame`; a pool program keeps every
frame, so the programs that call it need not be mentioned where it is
proved. The rules below take one operation each.
-/

namespace FlanForge

open Discipline

/-! ## Frames -/

/-- What a task's own operations on the pool leave alone. -/
structure PoolMove (s s' : State) : Prop where
  entries : s'.entries = s.entries
  lock : s'.lock = s.lock
  isServing : s'.isServing = s.isServing
  allocations : s'.allocations = s.allocations
  driver : s'.history.driver = s.history.driver
  admitted : s'.history.admitted = s.history.admitted
  current : s'.history.current = s.history.current
  issued : s'.history.issued = s.history.issued
  ordered : s.history.ordered ⊆ s'.history.ordered
  recoverer : s'.history.recoverer = s.history.recoverer
  grows : s.history.Grows s'.history

/-- Knowledge of task `t` that survives the others and its own pool moves. -/
structure Frame (t : TaskId) (P : State → Prop) : Prop where
  stable : ∀ s s', Rely t s s' → P s → P s'
  move : ∀ s s', PoolMove s s' → P s → P s'

/-- What a task knows between two operations. -/
structure At (t : TaskId) (P : State → Prop) (c : Option VmName) (s : State) : Prop where
  known : P s
  alive : Alive t s
  choosing : Choosing t c s

section Frames

variable {t : TaskId} {P F : State → Prop}

theorem Frame.and (hP : Frame t P) (hF : Frame t F) : Frame t fun s => P s ∧ F s where
  stable s s' h hs := ⟨hP.stable s s' h hs.1, hF.stable s s' h hs.2⟩
  move s s' h hs := ⟨hP.move s s' h hs.1, hF.move s s' h hs.2⟩

theorem Frame.const (φ : Prop) : Frame t fun _ => φ := ⟨fun _ _ _ h => h, fun _ _ _ h => h⟩

/-- Whatever only needs the history to grow. -/
theorem Frame.of_grows (h : ∀ s s' : State, s.history.Grows s'.history → P s → P s') :
    Frame t P :=
  ⟨fun s s' hr hs => h s s' hr.grows hs, fun s s' hm hs => h s s' hm.grows hs⟩

theorem Frame.known (guest : HotGuest) : Frame t fun s => Known s.history guest :=
  .of_grows fun _ _ hg hk => hk.grow hg

theorem Frame.knownAll (guests : List HotGuest) :
    Frame t fun s => ∀ guest ∈ guests, Known s.history guest :=
  .of_grows fun _ _ hg hk guest hmem => (hk guest hmem).grow hg

theorem Frame.config (config : Config) : Frame t fun s => config ∈ s.history.configs :=
  .of_grows fun _ _ hg hc => hg.configs hc

theorem Frame.serving : Frame t fun s => s.isServing = true :=
  ⟨fun _ _ hr hs => hr.serving hs, fun _ _ hm hs => hm.isServing.trans hs⟩

theorem Frame.recovering : Frame t fun s => s.isServing = false :=
  ⟨fun _ _ hr hs => (hr.solo hs).1, fun _ _ hm hs => hm.isServing.trans hs⟩

theorem Frame.drives (x : Allocation) : Frame t fun s => Drives t x s :=
  ⟨fun _ _ hr hs => hr.drives x hs, fun s s' hm hs => ⟨by rw [hm.driver]; exact hs.driver,
    fun hx => by
      rw [State.allocation?, hm.entries]
      exact hs.entry hx⟩⟩

theorem Frame.ordered (vmName : VmName) : Frame t fun s => (t, vmName) ∈ s.history.ordered :=
  ⟨fun _ _ hr hs => hr.ordered vmName hs, fun _ _ hm hs => hm.ordered hs⟩

/-- A frame's assertion survives the moves of the others. -/
theorem At.stable {c : Option VmName} (hP : Frame t P) : discipline.Stable t (At t P c) := by
  intro s s' _ _ hrely hs
  have h := hrely hs.alive
  exact ⟨hP.stable s s' h hs.known, h.alive, fun v => (h.chosen v).trans (hs.choosing v)⟩

/-- A frame's assertion survives the task's own pool moves. -/
theorem At.move {c c' : Option VmName} {s s' : State} (hP : Frame t P) (h : PoolMove s s')
    (hc : Choosing t c' s') (hs : At t P c s) : At t P c' s' :=
  ⟨hP.move s s' h hs.known, by simpa only [Alive, h.isServing, h.recoverer] using hs.alive, hc⟩

end Frames

/-! ## One operation -/

/-- Operations on the pool and the host, and reads. -/
def Op.isPool : Op → Bool
  | .saveAllocation _ | .lockEntries | .unlockEntries | .newAllocationId | .commit .. |
    .putAllocation _ | .beginCancel _ | .endTerminalizing _ | .releaseSupervision _ |
    .loadEntries _ | .serve | .note _ => false
  | _ => true

section Rules

variable {t fresh : TaskId} {s s' : State} {op : Op} {spawned : Option Kind}
variable {P : State → Prop} {c : Option VmName} {α : Type} {Q : α → State → Prop}
variable {k : op.Res → Manager α} {p : Manager α}

theorem PoolMove.of_effect (he : Effect t fresh s op s' spawned) (ho : op.isPool = true) :
    PoolMove s s' ∧ s'.history.chosen = s.history.chosen := by
  have hrefl : ∀ h : History, h.ordered ⊆ h.ordered := fun _ => List.Subset.refl _
  cases he with
  | quiet | read | removed =>
    exact ⟨⟨rfl, rfl, rfl, rfl, rfl, rfl, rfl, rfl, hrefl _, rfl, .of_eq rfl rfl rfl rfl⟩, rfl⟩
  | saved =>
    refine ⟨⟨rfl, rfl, rfl, rfl, ?_, ?_, ?_, ?_, ?_, ?_, History.grows_saved⟩, ?_⟩ <;> simp
  | _ => cases ho

theorem PoolMove.of_note {n : Note} (he : Effect t fresh s (.note n) s' spawned) :
    PoolMove s s' := by
  cases he with
  | quiet =>
    exact ⟨rfl, rfl, rfl, rfl, rfl, rfl, rfl, rfl, List.Subset.refl _, rfl, .of_eq rfl rfl rfl rfl⟩
  | noted =>
    cases n
    case operatorEvict =>
      exact ⟨rfl, rfl, rfl, rfl, rfl, rfl, rfl, rfl, List.subset_cons_self _ _, rfl,
        .of_eq rfl rfl rfl rfl⟩
    all_goals
      exact ⟨rfl, rfl, rfl, rfl, rfl, rfl, rfl, rfl, List.Subset.refl _, rfl,
        .of_eq rfl rfl rfl rfl⟩

/-- An operation that meets its specification, with what it answers. -/
theorem opTriple {A : State → Prop} {R : op.Res → State → Prop}
    (hspec : ∀ s, Inv s → A s → Spec t op s)
    (hpost : ∀ s fresh ans s' r spawned, Inv s → A s → Inv s' →
      exec t fresh op ans s = some (s', r, spawned) → R r s') :
    discipline.OpTriple t A op R := by
  intro s hs hA
  refine ⟨hspec s hs hA, fun fresh ans s' r spawned _ hexec => ?_⟩
  have howes := owes hs (hspec s hs hA) hexec
  exact ⟨howes, hpost s fresh ans s' r spawned hs hA howes.inv hexec⟩

/-- **One operation on the pool.** `F r` is what its answer `r` adds to the
knowledge. -/
theorem At.call {F : op.Res → State → Prop} (hP : Frame t P) (ho : op.isPool = true)
    (hspec : ∀ s, Inv s → At t P c s → OpSpec t s op)
    (hF : ∀ s fresh ans s' r spawned, Inv s → At t P c s → Inv s' →
      exec t fresh op ans s = some (s', r, spawned) → F r s')
    (hk : ∀ r, discipline.Triple t (At t (fun s => P s ∧ F r s) c) (k r) Q) :
    discipline.Triple t (At t P c) (.call op k) Q := by
  refine .call (At.stable hP) (opTriple (fun s hs hA => ⟨hA.alive, hspec s hs hA⟩) ?_) hk
  intro s fresh ans s' r spawned hs hA hs' hexec
  obtain ⟨hmove, hchosen⟩ := PoolMove.of_effect (exec_effect hexec) ho
  have h : At t P c s' := hA.move hP hmove (by simpa only [Choosing, hchosen] using hA.choosing)
  exact ⟨⟨h.known, hF s fresh ans s' r spawned hs hA hs' hexec⟩, h.alive, h.choosing⟩

/-- One operation whose answer adds nothing. -/
theorem At.skip (hP : Frame t P) (ho : op.isPool = true)
    (hspec : ∀ s, Inv s → At t P c s → OpSpec t s op)
    (hk : ∀ r, discipline.Triple t (At t P c) (k r) Q) :
    discipline.Triple t (At t P c) (.call op k) Q :=
  At.call (F := fun _ _ => True) hP ho hspec (fun _ _ _ _ _ _ _ _ _ _ => trivial) fun r =>
    (hk r).consequence (fun _ _ h => ⟨h.known.1, h.alive, h.choosing⟩) fun _ _ _ h => h

/-- The end of a program that has kept its frame. -/
theorem At.ret {a : α} (hP : Frame t P) (hQ : ∀ s, At t P c s → Q a s) :
    discipline.Triple t (At t P c) (.ret a) Q :=
  .ret (At.stable hP) fun s _ h => hQ s h

/-- A fact that does not depend on the state becomes a hypothesis. -/
theorem At.assume {φ : Prop} (h : φ → discipline.Triple t (At t P c) p Q) :
    discipline.Triple t (At t (fun s => P s ∧ φ) c) p Q :=
  fun s hs hA => h hA.known.2 s hs ⟨hA.known.1, hA.alive, hA.choosing⟩

/-- Knowledge may be forgotten, before and after. -/
theorem At.weaken {P' : State → Prop} (h : discipline.Triple t (At t P c) p Q)
    (hP : ∀ s, P' s → P s) :
    discipline.Triple t (At t P' c) p Q :=
  h.consequence (fun _ _ hA => ⟨hP _ hA.known, hA.alive, hA.choosing⟩) fun _ _ _ h => h

/-- What was learned on the way may be forgotten at the end. -/
theorem At.forget {F : State → Prop} {c' : Option VmName}
    (h : discipline.Triple t (At t (fun s => P s ∧ F s) c) p fun _ =>
      At t (fun s => P s ∧ F s) c') :
    discipline.Triple t (At t (fun s => P s ∧ F s) c) p fun _ => At t P c' :=
  h.consequence (fun _ _ hA => hA) fun _ _ _ hA => ⟨hA.known.1, hA.alive, hA.choosing⟩

end Rules

end FlanForge
