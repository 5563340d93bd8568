import FlanForge.Manager.PoolKeeps

/-!
# The lifecycle programs keep the discipline

The programs that read and write one allocation, run by the task that drives
it: between two of them the entry says what the driver last wrote
(`Running`). From there the worker, its teardown, a cancel and the recovery
are walked through once each.
-/

namespace FlanForge

open Discipline

/-! ## Driving an allocation -/

/-- Knowledge that survives the others and the task's own writes of the
allocation `id`. -/
structure Ground (t : TaskId) (id : AllocationId) (G : State → Prop) : Prop where
  stable : ∀ s s', Rely t s s' → G s → G s'
  own : ∀ s s', s'.history = s.history → s'.isServing = s.isServing →
    (∀ i, i ≠ id → s'.allocation? i = s.allocation? i) → G s → G s'

/-- The task drives the allocation `x`. -/
abbrev Driving (t : TaskId) (G : State → Prop) (x : Allocation) : State → Prop :=
  At t (fun s => G s ∧ Drives t x s) none

/-- The task drives an allocation of which `K` holds. -/
def Running (t : TaskId) (G : State → Prop) (K : Allocation → Prop) (s : State) : Prop :=
  ∃ x, K x ∧ Driving t G x s

variable {t : TaskId} {G : State → Prop} {K K' : Allocation → Prop} {x a : Allocation}
variable {α : Type} {Q : α → State → Prop} {id : AllocationId} {op : Op} {k : op.Res → Manager α}
variable {F : op.Res → Prop} {x' : Allocation} {state : AllocationState} {source : CloneSource}

theorem Ground.of_grows (h : ∀ s s' : State, s.history.Grows s'.history → G s → G s') :
    Ground t id G :=
  ⟨fun s s' hr hs => h s s' hr.grows hs, fun s s' hh _ _ hs => h s s' (hh ▸ .refl _) hs⟩

theorem Ground.and {F : State → Prop} (hG : Ground t id G) (hF : Ground t id F) :
    Ground t id fun s => G s ∧ F s where
  stable s s' h hs := ⟨hG.stable s s' h hs.1, hF.stable s s' h hs.2⟩
  own s s' h h' h'' hs := ⟨hG.own s s' h h' h'' hs.1, hF.own s s' h h' h'' hs.2⟩

theorem drives_stable (hG : Ground t id G) :
    discipline.Stable t (Driving t G x) := by
  intro s s' _ _ hrely hs
  have h := hrely hs.alive
  exact ⟨⟨hG.stable s s' h hs.known.1, h.drives x hs.known.2⟩, h.alive,
    fun v => (h.chosen v).trans (hs.choosing v)⟩

/-- The end of a program that still drives the allocation. -/
theorem Running.ret {r : α} (hG : Ground t id G)
    (hQ : ∀ x s, K x → Driving t G x s → Q r s) :
    discipline.Triple t (Running t G K) (.ret r) Q :=
  fun s hs ⟨x, hx, hA⟩ =>
    (Triple.ret (drives_stable hG) fun s' _ h => hQ x s' hx h) s hs hA

/-- One operation that leaves the entries and the history alone. -/
theorem At.still (hG : Ground t id G)
    (ho : ∀ s fresh s' spawned, Effect t fresh s op s' spawned →
      s'.entries = s.entries ∧ s'.history = s.history ∧ s'.isServing = s.isServing)
    (hspec : ∀ s, Inv s → Driving t G x s → OpSpec t s op)
    (hF : ∀ s fresh ans s' r spawned, Inv s → Driving t G x s →
      exec t fresh op ans s = some (s', r, spawned) → F r)
    (hk : ∀ r, F r → discipline.Triple t (Driving t G x) (k r) Q) :
    discipline.Triple t (Driving t G x) (.call op k) Q := by
  refine .call (R := fun r s => F r ∧ Driving t G x s)
    (drives_stable hG) (opTriple (fun s hs hA => ⟨hA.alive, hspec s hs hA⟩) ?_)
    fun r => .assume (hk r)
  intro s fresh ans s' r spawned hs hA _ hexec
  obtain ⟨he, hh, hv⟩ := ho s fresh s' spawned (exec_effect hexec)
  refine ⟨hF s fresh ans s' r spawned hs hA hexec,
    ⟨hG.own s s' hh hv (fun i _ => by simp only [State.allocation?, he]) hA.known.1, ?_⟩, ?_, ?_⟩
  · exact ⟨by rw [hh]; exact hA.known.2.driver, fun hx => by
      rw [State.allocation?, he]
      exact hA.known.2.entry hx⟩
  · simpa only [Alive, hh, hv] using hA.alive
  · simpa only [Choosing, hh] using hA.choosing

/-- Operations that touch neither the tables nor the history. -/
def Op.isStill : Op → Bool
  | .hotLoadAll | .hotSave .. | .hotRemove _ => false
  | op => op.isPool

theorem Effect.still {s s' : State} {fresh : TaskId} {spawned : Option Kind}
    (he : Effect t fresh s op s' spawned) (ho : op.isStill = true) :
    s'.entries = s.entries ∧ s'.history = s.history ∧ s'.isServing = s.isServing := by
  cases he with
  | quiet => exact ⟨rfl, rfl, rfl⟩
  | _ => cases ho

/-- The same for the driver of some allocation of `K`. -/
theorem Running.call (hG : Ground t id G) (ho : op.isStill = true)
    (hspec : ∀ x s, K x → Driving t G x s → OpSpec t s op)
    (hF : ∀ s fresh ans s' r spawned, exec t fresh op ans s = some (s', r, spawned) → F r)
    (hk : ∀ r, F r → discipline.Triple t (Running t G K) (k r) Q) :
    discipline.Triple t (Running t G K) (.call op k) Q := fun s hs ⟨x, hx, hA⟩ =>
  At.still hG (fun _ _ _ _ he => he.still ho) (fun s _ hA => hspec x s hx hA)
    (fun s fresh ans s' r spawned _ _ hexec => hF s fresh ans s' r spawned hexec)
    (fun r hr s hs hA => hk r hr s hs ⟨x, hx, hA⟩) s hs hA

theorem Running.skip (hG : Ground t id G) (ho : op.isStill = true)
    (hspec : ∀ x s, K x → Driving t G x s → OpSpec t s op)
    (hk : ∀ r, discipline.Triple t (Running t G K) (k r) Q) :
    discipline.Triple t (Running t G K) (.call op k) Q :=
  Running.call (F := fun _ => True) hG ho hspec (fun _ _ _ _ _ _ _ => trivial) fun r _ => hk r

/-- The end of a program that has left the allocation as it was. -/
theorem Running.done {r : α} (hG : Ground t id G) :
    discipline.Keeps t (Running t G K) (.ret r) :=
  Running.ret hG fun x _ hx hA => ⟨x, hx, hA⟩

/-- A program on the pool, run by the driver. -/
theorem Running.lift {p : Manager α}
    (hp : ∀ x, K x → discipline.Keeps t (Driving t G x) p) :
    discipline.Keeps t (Running t G K) p := fun s hs ⟨x, hx, hA⟩ =>
  (hp x hx s hs hA).weaken fun _ _ _ h => ⟨x, hx, h⟩

/-! ## Reading and writing it -/

/-- The allocations of `K` are active and bear the identity. -/
def Driven (id : AllocationId) (K : Allocation → Prop) : Prop :=
  ∀ x, K x → x.id = id ∧ x.state.isTerminal = false

/-- **The driver finds what it wrote last.** -/
theorem get_running (hG : Ground t id G) (hK : Driven id K) :
    discipline.Triple t (Running t G K) (get id) fun r s =>
      ∃ x, (K x ∧ r = .ok x) ∧ Driving t G x s := by
  rintro s hs ⟨x, hx, hA⟩
  obtain ⟨rfl, hactive⟩ := hK x hx
  suffices h : discipline.Triple t (Driving t G x) (get x.id) fun r s =>
      ∃ x, (K x ∧ r = .ok x) ∧ Driving t G x s from h s hs hA
  simp only [get, Prog.perform_bind]
  refine At.still (F := fun entries => (Table.get Entry.id x.id entries).map (·.allocation) =
    some x)
    hG ?_ (fun _ _ _ => trivial) ?_ fun entries hget => ?_
  · rintro s fresh s' spawned ⟨⟩
    exact ⟨rfl, rfl, rfl⟩
  · intro s fresh ans s' r spawned _ hA hexec
    simp only [exec] at hexec
    split_ifs at hexec
    cases hexec
    exact hA.known.2.entry hactive
  · obtain ⟨e, he, hex⟩ := Option.map_eq_some_iff.mp hget
    simp only [he, hex]
    exact .ret (drives_stable hG) fun s _ hA => ⟨x, ⟨hx, rfl⟩, hA⟩

/-- A program of the driver that reads the allocation first. -/
theorem get_then {k : Except ManagerError Allocation → Manager α} (hG : Ground t id G)
    (hK : Driven id K) (hk : ∀ x, K x → discipline.Triple t (Driving t G x) (k (.ok x)) Q) :
    discipline.Triple t (Running t G K) (get id >>= k) Q := by
  refine .bind (get_running hG hK) fun r => .elim fun x => .assume ?_
  rintro ⟨hx, rfl⟩
  exact hk x hx

/-- The allocation a driver writes back is on record as its own. -/
theorem Recorded.advance {h : History} (hx : Recorded h x) (hsame : x.SameRun x')
    (hcreated : x'.vmCreated = true → x.vmCreated = true ∨ ∃ b ∈ h.admitted, b.SameRun x)
    (hvalid : x'.isValid = true) (hstorable : x'.isStorable = true) : Recorded h x' where
  issued := hsame.id ▸ hx.issued
  valid := hvalid
  storable := hstorable
  reuse vmName hv := by
    rw [hsame.request, hsame.hotLane]
    exact hx.reuse vmName (hsame.origin ▸ hv)
  admitted hc := by
    have hb : ∃ b ∈ h.admitted, b.SameRun x := (hcreated hc).elim hx.admitted id
    exact hb.imp fun _ hb => ⟨hb.1, hb.2.trans hsame⟩

/-- **A change of the allocation by its driver.** The change `f` is one step of
the lifecycle and leads from `K` to `K'`. -/
theorem update_running {f : Allocation → UInt64 → Except ManagerError Allocation}
    (hG : Ground t id G) (hK : Driven id K) (hKK : ∀ x, K x → K' x)
    (hf : ∀ x now x', K x → f x now = .ok x' → x.Advances x' ∧ K' x')
    (hcreated : ∀ s x now x', G s → K x → f x now = .ok x' → x'.vmCreated = true →
      x.vmCreated = true ∨ ∃ b ∈ s.history.admitted, b.SameRun x) :
    discipline.Triple t (Running t G K) (update id f) fun _ => Running t G K' := by
  have hback : ∀ x s, K x → Driving t G x s → Running t G K' s :=
    fun x s hx hA => ⟨x, hKK x hx, hA⟩
  refine get_then hG hK fun x hx => ?_
  obtain ⟨rfl, hactive⟩ := hK x hx
  simp only [Prog.perform_bind]
  refine At.still (F := fun _ => True) hG ?_ (fun _ _ _ => trivial)
    (fun _ _ _ _ _ _ _ _ _ => trivial) fun now _ => ?_
  · rintro s fresh s' spawned ⟨⟩
    exact ⟨rfl, rfl, rfl⟩
  · split
    · exact .ret (drives_stable hG) fun s _ hA => hback x s hx hA
    · rename_i x' hx'
      obtain ⟨hadv, hKx'⟩ := hf x now x' hx hx'
      have hrec : ∀ s, Inv s → Driving t G x s →
          x'.isValid = true → x'.isStorable = true → Recorded s.history x' := fun s hs hA =>
        (hs.held x (State.mem_held_of_allocation? (hA.known.2.entry hactive)).1).advance hadv.same
          (hcreated s x now x' hA.known.1 hx hx')
      -- the row is stored first, and the entry is put only if the store accepted it
      refine At.still (F := fun r => r = .ok () → x'.isValid = true ∧ x'.isStorable = true) hG ?_
        hrec ?_ fun r hr => ?_
      · intro s fresh s' spawned he
        cases he <;> exact ⟨rfl, rfl, rfl⟩
      · intro s fresh ans s' r spawned _ _ hexec hr
        simp only [exec] at hexec
        split_ifs at hexec with _ hvalid hstorable <;> cases hexec
        · cases hr
        · cases hr
        · cases hr
        · exact ⟨by simpa using hvalid, by simpa using hstorable⟩
      · cases r with
        | error e => exact .ret (drives_stable hG) fun s _ hA => hback x s hx hA
        | ok _ =>
          obtain ⟨hvalid, hstorable⟩ := hr rfl
          refine .call (R := fun _ s => Driving t G x' s)
            (drives_stable hG) (opTriple (fun s hs hA => ⟨hA.alive, ⟨x, hA.known.2, hactive, hadv⟩,
              hrec s hs hA hvalid hstorable⟩) ?_) fun found =>
            .ret (drives_stable hG) fun s _ hA => ⟨x', hKx', hA⟩
          intro s fresh ans s' r spawned hs hA _ hexec
          simp only [exec] at hexec
          split_ifs at hexec
          cases hexec
          have hkey : ∀ e, Entry.id e = x.id → Entry.id { e with allocation := x' } = x.id :=
            fun _ _ => hadv.same.id
          refine ⟨⟨hG.own s _ rfl rfl (fun i hi => ?_) hA.known.1, ⟨?_, fun _ => ?_⟩⟩, hA.alive,
            hA.choosing⟩
          · simp only [State.allocation?, State.modifyEntry, State.tick, hadv.same.id]
            rw [Table.get_modify_of_ne hkey hi.symm]
          · rw [hadv.same.id]
            exact hA.known.2.driver
          · obtain ⟨e, he, -⟩ := Option.map_eq_some_iff.mp (hA.known.2.entry hactive)
            simp only [State.allocation?, State.modifyEntry, State.tick, hadv.same.id]
            rw [Table.get_modify_self hkey, he]
            rfl

/-! ## The setters -/

/-- An active record of the allocation `a`. -/
def Working (a x : Allocation) : Prop := a.SameRun x ∧ x.state.isTerminal = false

theorem driven_working : Driven a.id (Working a) := fun _ hx => ⟨hx.1.id, hx.2⟩

theorem Allocation.SameRun.step (h : a.SameRun x) (hfixed : x'.fixed = x.fixed) : a.SameRun x' :=
  h.trans (sameRun_of_fixed hfixed)

theorem AllocationState.canTransitionTo_self (state : AllocationState) :
    state.canTransitionTo state = true := by
  simp [canTransitionTo]

/-- A setter of a field admission did not decide. -/
theorem set_running {g : Allocation → UInt64 → Allocation} (hG : Ground t a.id G)
    (hg : ∀ x now, (g x now).fixed = x.fixed ∧ (g x now).state = x.state ∧
      (g x now).vmCreated = x.vmCreated)
    (hsource : ∀ x now, x.origin = a.origin → x.origin.isHotReuse = true →
      (g x now).source = x.source) :
    discipline.Keeps t (Running t G (Working a)) (update a.id fun x now => .ok (g x now)) := by
  refine update_running hG driven_working (fun _ h => h) (fun x now x' hx hx' => ?_)
    fun s x now x' _ _ hx' hc => ?_
  · cases hx'
    obtain ⟨hfixed, hstate, -⟩ := hg x now
    have hsame := Allocation.sameRun_of_fixed hfixed
    exact ⟨⟨hsame, by rw [hstate]; exact AllocationState.canTransitionTo_self _,
      hsource x now hx.1.origin⟩, hx.1.trans hsame, by rw [hstate]; exact hx.2⟩
  · cases hx'
    rw [(hg x now).2.2] at hc
    exact .inl hc

theorem Allocation.transition_eq_ok {now : UInt64} :
    x.transition state now = .ok x' ↔ x.state.canTransitionTo state = true ∧
      x' = { x with state := state, updatedAtUnix := now } := by
  by_cases h : x.state.canTransitionTo state = true <;> simp [Allocation.transition, h, eq_comm]

section

variable (hG : Ground t a.id G)
include hG

/-- A step of the lifecycle, from `Working a` to `K'`. -/
theorem transition_keeps (hK : ∀ x, Working a x → K' x)
    (hK' : ∀ x now, Working a x → K' { x with state := state, updatedAtUnix := now }) :
    discipline.Triple t (Running t G (Working a)) (transition a.id state) fun _ =>
      Running t G K' := by
  refine get_then hG driven_working fun x hx => ?_
  refine fun s hs hA => update_running hG driven_working hK (fun x now x' hx hx' => ?_)
    (fun s x now x' _ _ hx' hc => ?_) s hs ⟨x, hx, hA⟩
  · split at hx'
    · rename_i y hy
      cases hx'
      obtain ⟨hedge, rfl⟩ := Allocation.transition_eq_ok.mp hy
      exact ⟨⟨Allocation.sameRun_of_fixed rfl, hedge, fun _ => rfl⟩, hK' x now hx⟩
    · cases hx'
  · split at hx'
    · rename_i y hy
      cases hx'
      obtain ⟨-, rfl⟩ := Allocation.transition_eq_ok.mp hy
      exact .inl hc
    · cases hx'

theorem transition_running (hstate : state.isTerminal = false) :
    discipline.Keeps t (Running t G (Working a)) (transition a.id state) :=
  transition_keeps hG (fun _ h => h) fun _ _ hx =>
    ⟨hx.1.step rfl, hstate⟩

theorem setRunnerId_running {runnerId : Int64} :
    discipline.Keeps t (Running t G (Working a)) (setRunnerId a.id runnerId) := by
  unfold setRunnerId
  split
  · exact Running.ret hG fun x s hx hA => ⟨x, hx, hA⟩
  · exact set_running hG (fun x now => ⟨rfl, rfl, rfl⟩)
      fun _ _ _ _ => rfl

/-- Only an admitted allocation gets a guest. -/
theorem setVmCreated_running (ha : ∀ s, G s → a ∈ s.history.admitted) :
    discipline.Keeps t (Running t G (Working a)) (setVmCreated a.id) := by
  refine update_running hG driven_working (fun _ h => h) (fun x now x' hx hx' => ?_)
    fun s x now x' hs hx _ _ => .inr ⟨a, ha s hs, hx.1⟩
  cases hx'
  exact ⟨⟨Allocation.sameRun_of_fixed rfl, AllocationState.canTransitionTo_self _, fun _ => rfl⟩,
    hx.1.step rfl, hx.2⟩

/-- The source of a guest of its own is the worker's to report. -/
theorem setSource_running (ha : a.origin = .cloned) :
    discipline.Keeps t (Running t G (Working a)) (setSource a.id source) := by
  refine set_running hG (fun _ _ => ⟨rfl, rfl, rfl⟩) ?_
  intro x now hx hreuse
  rw [hx, ha] at hreuse
  cases hreuse

theorem setCloneSource_running {generation : Option UInt64} (ha : a.origin = .cloned) :
    discipline.Keeps t (Running t G (Working a)) (setCloneSource a.id source generation) := by
  refine set_running hG (fun _ _ => ⟨rfl, rfl, rfl⟩) ?_
  intro x now hx hreuse
  rw [hx, ha] at hreuse
  cases hreuse

theorem setWorkerError_running {error : WorkerError} :
    discipline.Keeps t (Running t G (Working a)) (setWorkerError a.id error) := by
  refine set_running hG (fun x now => ?_) fun x now _ _ => ?_
  · split <;> exact ⟨rfl, rfl, rfl⟩
  · split <;> rfl

theorem setError_running {error : String} :
    discipline.Keeps t (Running t G (Working a)) (setError a.id error) :=
  set_running hG (fun _ _ => ⟨rfl, rfl, rfl⟩) fun _ _ _ _ => rfl

theorem ensureCleaning_running :
    discipline.Keeps t (Running t G (Working a)) (ensureCleaning a.id) := by
  refine get_then hG driven_working fun x hx => ?_
  dsimp only
  split
  · exact .ret (drives_stable hG) fun s _ hA => ⟨x, hx, hA⟩
  · exact fun s hs hA => transition_running hG rfl s hs ⟨x, hx, hA⟩

end

/-! ## Teardown -/

variable {profile : Profile} {target : AllocationState}

theorem cleanupAttempts_running (hG : Ground t id G) (n : ℕ) (e : WorkerError) :
    discipline.Keeps t (Running t G K) (cleanupAttempts x n e) := by
  induction n generalizing e with
  | zero => exact Running.done hG
  | succ n ih =>
    refine Running.skip hG rfl (fun _ _ _ _ => trivial) fun r => ?_
    cases r with
    | ok _ => exact Running.done hG
    | error e => exact ih e

theorem cleanupWithRetries_running (hG : Ground t id G) :
    discipline.Keeps t (Running t G K) (cleanupWithRetries x) :=
  Running.skip hG rfl (fun _ _ _ _ => trivial) fun _ => cleanupAttempts_running hG _ _

theorem terminalAfterCleanup_running {cleaned : Except WorkerError Unit} (hG : Ground t a.id G) :
    discipline.Keeps t (Running t G (Working a)) (terminalAfterCleanup a.id target cleaned) := by
  have hfailed : ∀ message, discipline.Triple t (Running t G (Working a))
      (setError a.id message >>= fun _ => pure (.ok .failed)) fun
        (_ : Except AllocationState AllocationState) => Running t G (Working a) := fun _ =>
    .bind (setError_running hG) fun _ => Running.done hG
  unfold terminalAfterCleanup
  split
  · exact Running.done hG
  · refine get_then hG driven_working fun x hx => ?_
    dsimp only
    split
    · exact .ret (drives_stable hG) fun s _ hA => ⟨x, hx, hA⟩
    · exact fun s hs hA => hfailed _ s hs ⟨x, hx, hA⟩

theorem recordTerminal_running (hG : Ground t a.id G) :
    discipline.Triple t (Running t G (Working a)) (recordTerminal a.id target) fun _ =>
      Running t G a.SameRun := by
  refine .bind (ensureCleaning_running hG) fun r => ?_
  cases r with
  | error e => exact Running.ret hG fun x s hx hA => ⟨x, hx.1, hA⟩
  | ok _ =>
    refine get_then hG driven_working fun x hx => ?_
    dsimp only
    split
    · exact .ret (drives_stable hG) fun s _ hA => ⟨x, hx.1, hA⟩
    · refine .bind (R := fun _ => Running t G a.SameRun)
        (fun s hs hA => transition_keeps hG (fun _ h => h.1) (fun _ _ hx => hx.1.step rfl) s hs
          ⟨x, hx, hA⟩) fun r => ?_
      cases r <;> exact Running.done hG

/-- The release of the driver's own machine. -/
theorem releaseHot_running (hG : Frame t G) (hx : x.state.isTerminal = false) :
    discipline.Keeps t (Driving t G x) (releaseHot x profile) := by
  have hF := hG.and (Frame.drives x)
  unfold releaseHot
  split
  · exact ensureHotReleased_keeps hF (fun _ h => h.2) hx
  · exact At.ret hF fun _ h => h

/-- **Teardown**, by the driver of an active allocation. -/
theorem ensureTerminal_running (hG : Ground t a.id G) (hF : Frame t G) :
    discipline.Triple t (Running t G (Working a)) (ensureTerminal a profile target) fun _ =>
      Running t G a.SameRun := by
  refine .bind (ensureCleaning_running hG) fun _ => ?_
  refine get_then hG driven_working fun x hx => ?_
  dsimp only
  split
  · exact .ret (drives_stable hG) fun s _ hA => ⟨x, hx.1, hA⟩
  · refine .bind (R := fun _ => Running t G (Working a))
      ((releaseHot_running hF hx.2).consequence (fun _ _ h => h) fun _ s _ h => ⟨x, hx, h⟩)
      fun _ => ?_
    refine .bind (cleanupWithRetries_running hG) fun cleaned => ?_
    refine .bind (terminalAfterCleanup_running hG) fun r => ?_
    cases r with
    | error state => exact Running.ret hG fun x s hx hA => ⟨x, hx.1, hA⟩
    | ok terminal => exact recordTerminal_running hG

end FlanForge
