import FlanForge.Manager.LifecycleKeeps

/-!
# Workers, cancels and the recovery keep the discipline

The three tasks that drive allocations. A worker starts with its admitted
allocation and drives it to the end; a cancel takes over an entry nobody
drives; the recovery drives everything it loaded, alone.
-/

namespace FlanForge

open Discipline Running

variable {t : TaskId} {G : State → Prop} {K : Allocation → Prop} {x a : Allocation}
variable {profile : Profile} {id : AllocationId} {s : State} {result : Except WorkerError Unit}
variable {P : State → Prop}

/-! ## The worker -/

theorem Running.mono {G' : State → Prop} (h : ∀ s, G s → G' s) (hs : Running t G K s) :
    Running t G' K s := by
  obtain ⟨x, hx, hA⟩ := hs
  exact ⟨x, hx, ⟨h s hA.known.1, hA.known.2⟩, hA.alive, hA.choosing⟩

theorem AllocationOrigin.eq_cloned {origin : AllocationOrigin} (h : origin.isHotReuse = false) :
    origin = .cloned := by
  cases origin with
  | cloned => rfl
  | hotReuse => cases h

/-- What is known of a record does not depend on any entry. -/
theorem Ground.known (guest : HotGuest) : Ground t id fun s => Known s.history guest :=
  .of_grows fun _ _ hg hk => hk.grow hg

/-- An allocation of this process stays one. -/
theorem Ground.current : Ground t id fun s => a.id ∈ s.history.current where
  stable _ _ hr h := hr.current h
  own _ _ hh _ _ h := by
    rw [hh]
    exact h

theorem Frame.current : Frame t fun s => a.id ∈ s.history.current where
  stable _ _ hr h := hr.current h
  move _ _ hm h := by
    rw [hm.current]
    exact h

/-- The readiness check, by the worker of the claiming allocation. -/
theorem ensureHotReady_running (hG : Ground t a.id G) (hF : Frame t G) :
    discipline.Keeps t (Running t G (Working a)) (ensureHotReady a) := by
  unfold ensureHotReady
  split
  · exact done hG
  · rename_i vmName horigin
    simp only [Prog.perform_bind]
    refine fun s hs ⟨x, hx, hA⟩ => (?_ : discipline.Triple t
      (At t (fun s => G s ∧ Drives t x s) none) _ fun _ => Running t G (Working a)) s hs hA
    have hP := hF.and (Frame.drives (t := t) x)
    refine At.hotLoad hP (fun guest hv => ?_) (At.ret hP fun s h => ⟨x, hx, h⟩)
      fun e => At.ret hP fun s h => ⟨x, hx, h⟩
    have hG' := hG.and (Ground.known guest)
    refine fun s hs hA => Safe.weaken ((?_ : discipline.Triple t
      (Running t (fun s => G s ∧ Known s.history guest) (Working a)) _ fun _ =>
        Running t (fun s => G s ∧ Known s.history guest) (Working a)) s hs
      ⟨x, hx, ⟨⟨hA.known.1.1, hA.known.2⟩, hA.known.1.2⟩, hA.alive, hA.choosing⟩)
      fun _ _ _ h => h.mono fun _ h => h.1
    refine .bind (transition_running hG' rfl) fun moved => ?_
    cases moved with
    | error e => exact done hG'
    | ok _ =>
      refine skip hG' rfl (fun _ _ _ _ => trivial) fun isLive => ?_
      split
      · refine .bind (lift fun y hy => ?_) fun _ => done hG'
        refine ensureHotEvicted_keeps ((hF.and (Frame.known guest)).and (Frame.drives y))
          (fun _ h => h.1.2) fun s hA => ?_
        exact .inr (.inr (.inl ⟨y, hA.known.2, hy.2, by rw [hy.1.origin, horigin, hv]⟩))
      · exact done hG'

/-- One reported step, by the worker of the allocation. -/
theorem applyWorkerStep_running {step : WorkerStep} (hG : Ground t a.id G)
    (hadmitted : ∀ s, G s → a ∈ s.history.admitted) (hreported : step.isReported = true)
    (horigin : step.isPreparing = true → a.origin = .cloned)
    (hclone : step = .clone → ∀ s, G s → a.id ∈ s.history.current ∧ Unpooled a.id s.history) :
    discipline.Keeps t (Running t G (Working a)) (applyWorkerStep a step) := by
  cases step with
  | clone =>
    refine skip hG rfl (fun x s hx hA => ?_) fun _ => done hG
    obtain ⟨hcurrent, hunpooled⟩ := hclone rfl s hA.known.1
    exact ⟨⟨x, hA.known.2, hx.2, hx.1⟩, horigin rfl, hcurrent, hunpooled⟩
  | transition state =>
    have hstate : state.isTerminal = false := by
      simp only [WorkerStep.isReported, Bool.and_eq_true, Bool.not_eq_true'] at hreported
      exact hreported.2
    exact .bind (transition_running hG hstate) fun _ => done hG
  | setRunnerId => exact .bind (setRunnerId_running hG) fun _ => done hG
  | setVmCreated => exact .bind (setVmCreated_running hG hadmitted) fun _ => done hG
  | setSource => exact .bind (setSource_running hG (horigin rfl)) fun _ => done hG
  | setCloneSource =>
    exact .bind (setCloneSource_running hG (horigin rfl)) fun _ => done hG

/-- The backend's run, step by step. -/
theorem workerSteps_running (hG : Ground t a.id G)
    (hadmitted : ∀ s, G s → a ∈ s.history.admitted)
    (hclone : a.origin = .cloned → ∀ s, G s →
      a.id ∈ s.history.current ∧ Unpooled a.id s.history) (n : ℕ) :
    discipline.Keeps t (Running t G (Working a)) (workerSteps a n) := by
  induction n with
  | zero => exact done hG
  | succ n ih =>
    refine .bind ?_ fun _ => ih
    simp only [performWorkerStep, Prog.perform_bind]
    refine call (F := fun step => step.isReported = true) hG rfl (fun _ _ _ _ => trivial) ?_
      fun step hreported => ?_
    · intro s fresh ans s' r spawned hexec
      simp only [exec] at hexec
      split_ifs at hexec with hreported
      cases hexec
      exact hreported
    · split
      · exact done hG
      · rename_i hstep
        have horigin : step.isPreparing = true → a.origin = .cloned := fun hpreparing =>
          AllocationOrigin.eq_cloned (by simpa [hpreparing] using hstep)
        refine applyWorkerStep_running hG hadmitted hreported horigin fun hc s hs => ?_
        exact hclone (horigin (by rw [hc]; rfl)) s hs

theorem runWorker_running (hG : Ground t a.id G) (hadmitted : ∀ s, G s → a ∈ s.history.admitted)
    (hclone : a.origin = .cloned → ∀ s, G s →
      a.id ∈ s.history.current ∧ Unpooled a.id s.history) :
    discipline.Keeps t (Running t G (Working a)) (runWorker a) := by
  simp only [runWorker, Prog.perform_bind]
  refine skip hG rfl (fun _ _ _ _ => trivial) fun count => ?_
  refine .bind (workerSteps_running hG hadmitted hclone count) fun _ => ?_
  exact skip hG rfl (fun _ _ _ _ => trivial) fun _ => done hG

theorem ensureWarmQuarantined_running (hG : Ground t a.id G)
    (hcurrent : ∀ s, G s → a.id ∈ s.history.current) :
    discipline.Keeps t (Running t G (Working a)) (ensureWarmQuarantined a.id) := by
  refine get_then hG driven_working fun x hx => ?_
  dsimp only
  split
  · rename_i hevidence
    simp only [Bool.and_eq_true, Bool.or_eq_true, decide_eq_true_eq] at hevidence
    -- the record is what it was when it was read: nobody else drives the allocation
    refine fun s hs hA => (?_ : discipline.Triple t
      (Running t G fun y => Working a y ∧ y = x) _ _) s hs ⟨x, ⟨hx, rfl⟩, hA⟩
    refine skip hG rfl ?_ fun _ => ret hG fun y s hy hA => ⟨y, hy.1, hA⟩
    rintro y s ⟨hy, rfl⟩ hA
    refine ⟨y, hA.known.2, ?_, rfl, hevidence⟩
    rw [hy.1.id]
    exact hcurrent s hA.known.1
  · exact fun s hs hA => done hG s hs ⟨x, hx, hA⟩

theorem recordFailure_running (hG : Ground t a.id G)
    (hcurrent : ∀ s, G s → a.id ∈ s.history.current) :
    discipline.Keeps t (Running t G (Working a)) (recordFailure a result) := by
  cases result with
  | ok _ => exact done hG
  | error e =>
    refine .bind ?_ fun _ => .bind (setWorkerError_running hG) fun _ => done hG
    unfold recordFailure.quarantineUnlessCapacity
    split
    · exact done hG
    · exact ensureWarmQuarantined_running hG hcurrent

/-- A task that is over needs no more. -/
theorem Triple.last {op : Op} (hP : discipline.Stable t P) (hspec : ∀ s, Inv s → P s → Spec t op s)
    :
    discipline.Triple t P (Prog.perform op) fun _ _ => True :=
  .call (R := fun _ _ => True) hP
    (opTriple hspec fun _ _ _ _ _ _ _ _ _ _ => trivial) fun _ =>
    .ret (fun _ _ _ _ _ _ => trivial) fun _ _ _ => trivial

theorem running_stable (hG : Ground t id G) : discipline.Stable t (Running t G K) :=
  fun s s' hs hs' hrely ⟨x, hx, hA⟩ => ⟨x, hx, drives_stable hG s s' hs hs' hrely hA⟩

/-- **What ends every worker.** -/
theorem teardown_safe :
    discipline.Triple t (Running t (fun s => a.id ∈ s.history.current) (Working a))
      (teardown a profile result) fun _ _ => True := by
  have hG : Ground t a.id fun s => a.id ∈ s.history.current := .current
  refine .bind (recordFailure_running hG fun _ h => h) fun _ => ?_
  refine .bind (R := fun _ => Running t (fun s => a.id ∈ s.history.current) a.SameRun) ?_
    fun _ => ?_
  · simp only [finishWorker, Prog.perform_bind]
    exact skip hG rfl (fun _ _ _ _ => trivial) fun _ =>
      .bind (ensureTerminal_running hG .current) fun _ => done hG
  · refine Triple.last (running_stable hG) fun s _ ⟨x, hx, hA⟩ => ⟨hA.alive, ?_, hA.choosing⟩
    rw [← hx.id]
    exact hA.known.2.driver

/-- What the worker of a fresh guest counts on until its teardown. -/
def FreshGuest (t : TaskId) (a : Allocation) (s : State) : Prop :=
  a ∈ s.history.admitted ∧ a.id ∈ s.history.current ∧ s.history.driver a.id = some t ∧
    Unpooled a.id s.history

theorem ground_freshGuest : Ground t a.id (FreshGuest t a) where
  stable _ _ hr h := ⟨hr.grows.admitted h.1, hr.current h.2.1, hr.driver _ h.2.2.1,
    hr.unpooled _ h.2.2.1 h.2.2.2⟩
  own _ _ hh _ _ h := by
    rw [FreshGuest, hh]
    exact h

/-- **The worker of an allocation keeps the discipline.** -/
theorem workerTask_safe :
    discipline.Triple t (Ready (.worker a profile) t) (workerTask a profile) fun _ _ => True := by
  have hteardown : ∀ (G : State → Prop) result, (∀ s, G s → a.id ∈ s.history.current) →
      discipline.Triple t (Running t G (Working a)) (teardown a profile result) fun _ _ => True :=
    fun _ _ hcurrent => teardown_safe.consequence (fun _ _ h => h.mono hcurrent) fun _ _ _ h => h
  rintro s hs ⟨halive, hchoosing, -, hdrives, hstate, hadmitted, hcurrent, hunpooled⟩
  have hworking : Working a a := ⟨.refl a, by rw [hstate]; rfl⟩
  cases horigin : a.origin with
  | cloned =>
    refine (?_ : discipline.Triple t (Running t (FreshGuest t a) (Working a)) _ _) s hs
      ⟨a, hworking, ⟨⟨hadmitted, hcurrent, hdrives.driver, hunpooled⟩, hdrives⟩, halive, hchoosing⟩
    refine .bind (R := fun _ => Running t (FreshGuest t a) (Working a)) ?_ fun r => ?_
    · simp only [ensureHotReady, horigin, AllocationOrigin.hotVmName]
      exact done ground_freshGuest
    · cases r with
      | error e => exact hteardown _ _ fun _ h => h.2.1
      | ok _ =>
        exact .bind (runWorker_running ground_freshGuest (fun _ h => h.1)
          fun _ _ h => ⟨h.2.1, h.2.2.2⟩) fun _ => hteardown _ _ fun _ h => h.2.1
  | hotReuse vmName jobsServed lane =>
    have hgrow : ∀ s s' : State, s.history.Grows s'.history → a ∈ s.history.admitted →
        a ∈ s'.history.admitted := fun _ _ hg h => hg.admitted h
    have hG : Ground t a.id fun s => a ∈ s.history.admitted ∧ a.id ∈ s.history.current :=
      (Ground.of_grows hgrow).and .current
    refine (?_ : discipline.Triple t (Running t
      (fun s => a ∈ s.history.admitted ∧ a.id ∈ s.history.current) (Working a)) _ _) s hs
      ⟨a, hworking, ⟨⟨hadmitted, hcurrent⟩, hdrives⟩, halive, hchoosing⟩
    refine .bind (ensureHotReady_running hG ((Frame.of_grows hgrow).and .current)) fun r => ?_
    cases r with
    | error e => exact hteardown _ _ fun _ h => h.2
    | ok _ =>
      exact .bind (runWorker_running hG (fun _ h => h.1) fun h => by simp [horigin] at h)
        fun _ => hteardown _ _ fun _ h => h.2

/-! ## A cancel -/

/-- Reading an entry nobody is known to drive. -/
theorem get_safe (hP : Frame t P) :
    discipline.Triple t (At t P none) (get id) fun _ _ => True := by
  simp only [get, Prog.perform_bind]
  refine At.skip hP rfl (fun _ _ _ => trivial) fun entries => ?_
  split <;> exact At.ret hP fun _ _ => trivial

/-- What a cancel knows after its turn. -/
def Turn (t : TaskId) (id : AllocationId) (turn : CancelTurn) (s : State) : Prop :=
  match turn with
  | .drive x => x.id = id ∧ Running t (fun _ => True) (Working x) s
  | _ => At t (fun _ => True) none s

theorem beginCancel_turn (hA : At t P none s) :
    Turn t id (s.beginCancel t id).2 (s.beginCancel t id).1 := by
  have hkeep : At t (fun _ => True) none s := ⟨trivial, hA.alive, hA.choosing⟩
  unfold State.beginCancel
  split
  · exact hkeep
  · rename_i e he
    split_ifs with hterminal hsupervised hterminalizing
    · exact hkeep
    · exact ⟨trivial, hA.alive, hA.choosing⟩
    · exact ⟨trivial, hA.alive, hA.choosing⟩
    · have hid : e.allocation.id = id := (Table.key_of_get he : e.id = id)
      have hworking : Working e.allocation e.allocation := ⟨.refl _, by simpa using hterminal⟩
      refine ⟨hid, e.allocation, hworking, ⟨trivial, ?_, fun _ => ?_⟩, hA.alive, hA.choosing⟩
      · simp [History.drive, hid]
      · have hkey : ∀ e : Entry, e.id = id →
            Entry.id { e with isCancelled := true, isTerminalizing := true } = id := fun _ h => h
        simp only [State.allocation?, State.modifyEntry, hid]
        rw [Table.get_modify_self hkey, he]
        rfl

/-- **A cancel keeps the discipline.** -/
theorem cancelById_safe :
    discipline.Triple t (Ready (.cancel id) t) (cancelById id) fun _ _ => True := by
  have hkept : Frame t fun _ => True := .const True
  simp only [cancelById, Prog.perform_bind]
  rintro s hs ⟨halive, hchoosing, hserving⟩
  refine (?_ : discipline.Triple t (At t (fun s => s.isServing = true) none) _ _) s hs
    ⟨hserving, halive, hchoosing⟩
  refine .call (R := Turn t id) (At.stable .serving)
    (opTriple (fun s _ hA => ⟨hA.alive, hA.known⟩) ?_) fun turn => ?_
  · intro s fresh ans s' r spawned _ hA _ hexec
    simp only [exec] at hexec
    split_ifs at hexec
    cases hexec
    exact beginCancel_turn (P := fun s => s.isServing = true)
      ⟨hA.known, hA.alive, hA.choosing⟩
  · cases turn with
    | notFound => exact At.ret hkept fun _ _ => trivial
    | settled => exact get_safe hkept
    | await => exact At.skip hkept rfl (fun _ _ _ => trivial) fun _ => get_safe hkept
    | drive x =>
      refine .assume ?_
      rintro rfl
      have hG : Ground t x.id fun _ => True := .of_grows fun _ _ _ h => h
      refine skip hG rfl (fun _ _ _ _ => trivial) fun config => ?_
      refine .bind (ensureTerminal_running hG hkept) fun terminalized => ?_
      refine .call (R := fun _ => At t (fun _ => True) none) (running_stable hG)
        (opTriple ?_ ?_) fun _ => ?_
      · rintro s - ⟨y, hy, hA⟩
        refine ⟨hA.alive, ?_, hA.choosing⟩
        rw [← hy.id]
        exact hA.known.2.driver
      · rintro s fresh ans s' r spawned _ ⟨y, -, hA⟩ _ hexec
        simp only [exec] at hexec
        split_ifs at hexec
        cases hexec
        exact ⟨trivial, hA.alive, hA.choosing⟩
      · cases terminalized with
        | error e => exact At.ret hkept fun _ _ => trivial
        | ok _ => exact get_safe hkept

/-! ## Recovery -/

/-- The recovery drives the given allocations, and nobody else moves. -/
def Recovering (t : TaskId) (allocations : List Allocation) (s : State) : Prop :=
  s.isServing = false ∧ ∀ a ∈ allocations, Drives t a s

variable {allocations : List Allocation} {config : Config}

theorem frame_recovering : Frame t (Recovering t allocations) where
  stable _ _ hr h := ⟨(hr.solo h.1).1, fun a ha => hr.drives a (h.2 a ha)⟩
  move s s' hm h := ⟨hm.isServing.trans h.1, fun a ha => (Frame.drives a).move s s' hm (h.2 a ha)⟩

/-- Writing one allocation leaves the others as they are. -/
theorem ground_recovering (hid : ∀ a ∈ allocations, a.id ≠ id) :
    Ground t id (Recovering t allocations) where
  stable := frame_recovering.stable
  own s s' hh hv hother h := ⟨hv.trans h.1, fun a ha => by
    obtain ⟨hdriver, hentry⟩ := h.2 a ha
    exact ⟨by rw [hh]; exact hdriver, fun hactive => by
      rw [hother a.id (hid a ha)]
      exact hentry hactive⟩⟩

theorem recoverAllocation_running (hG : Ground t a.id G) (hF : Frame t G) :
    discipline.Triple t (Running t G (Working a)) (recoverAllocation config a) fun _ =>
      Running t G a.SameRun :=
  .bind (setError_running hG) fun _ =>
    .bind (ensureTerminal_running hG hF) fun _ => done hG

/-- The interrupted allocations, one after the other. -/
theorem recoverAllocations_keeps (hunique : (allocations.map (·.id)).Nodup)
    (hactive : ∀ a ∈ allocations, a.state.isTerminal = false) :
    discipline.Triple t (At t (Recovering t allocations) none)
      (Prog.forEach allocations (recoverAllocation config)) fun _ =>
        At t (fun s => s.isServing = false) none := by
  induction allocations with
  | nil => exact At.ret frame_recovering fun s h => ⟨h.known.1, h.alive, h.choosing⟩
  | cons a rest ih =>
    simp only [List.map_cons, List.nodup_cons, List.mem_map, not_exists, not_and] at hunique
    have hG : Ground t a.id (Recovering t rest) :=
      ground_recovering fun b hb => hunique.1 b hb
    refine .bind (R := fun _ => At t (Recovering t rest) none) ?_ fun _ =>
      ih hunique.2 fun b hb => hactive b (by simp [hb])
    refine (recoverAllocation_running hG frame_recovering).consequence (fun s _ hA => ?_)
      fun _ s _ ⟨x, _, hA⟩ => ⟨hA.known.1, hA.alive, hA.choosing⟩
    exact ⟨a, ⟨.refl a, hactive a (by simp)⟩, ⟨⟨hA.known.1, fun b hb =>
      hA.known.2 b (by simp [hb])⟩, hA.known.2 a (by simp)⟩, hA.alive, hA.choosing⟩

/-- The unfinished ones among what was loaded. -/
theorem recoverActive_keeps (hunique : (allocations.map (·.id)).Nodup) :
    discipline.Triple t (At t (Recovering t allocations) none)
      (Prog.forEach (allocations.filter fun a => !a.state.isTerminal) (recoverAllocation config))
      fun _ => At t (fun s => s.isServing = false) none := by
  refine At.weaken (recoverAllocations_keeps (hunique.sublist (List.filter_sublist.map _))
    fun a ha => ?_) fun s h => ⟨h.1, fun a ha => h.2 a (List.mem_of_mem_filter ha)⟩
  simpa using (List.mem_filter.mp ha).2

/-- Loading without a double identity inserts everything. -/
theorem loadInto_ok {entries : List Entry} (hok : (loadInto entries allocations).2 = .ok ()) :
    (loadInto entries allocations).1 =
      entries ++ allocations.map fun a => ⟨a, false, false, false⟩ := by
  induction allocations generalizing entries with
  | nil => simp [loadInto]
  | cons a rest ih =>
    simp only [loadInto] at hok ⊢
    split at hok
    · cases hok
    · rename_i hnew
      rw [if_neg hnew, ih hok]
      simp

theorem nodup_of_loadInto (hok : (loadInto [] allocations).2 = .ok ()) :
    (allocations.map (·.id)).Nodup := by
  have h := (loadInto_spec allocations Table.unique_nil).1
  rw [loadInto_ok hok, Table.Unique, List.nil_append, List.map_map] at h
  exact h

theorem allocation?_of_loadInto (hok : (loadInto [] allocations).2 = .ok ())
    (hentries : s.entries = (loadInto [] allocations).1) (ha : a ∈ allocations) :
    s.allocation? a.id = some a := by
  have hunique := (loadInto_spec allocations Table.unique_nil).1
  have hmem : (⟨a, false, false, false⟩ : Entry) ∈ (loadInto [] allocations).1 := by
    rw [loadInto_ok hok]
    simpa using ha
  have hget := Table.get_of_mem hunique hmem
  rw [State.allocation?, hentries]
  exact congrArg (Option.map (·.allocation)) hget

/-- Before anything is loaded. -/
def Booting (allocations : List Allocation) (s : State) : Prop :=
  s.isServing = false ∧ s.entries = [] ∧ ∀ a ∈ allocations, a ∈ s.allocations

theorem frame_booting : Frame t (Booting allocations) where
  stable s s' hr h := by
    obtain ⟨hserving, hheld, hstored⟩ := hr.solo h.1
    refine ⟨hserving, ?_, by rw [hstored]; exact h.2.2⟩
    have hnil : s'.held = [] := by rw [hheld, State.held, h.2.1, List.map_nil]
    exact List.map_eq_nil_iff.mp hnil
  move _ _ hm h := ⟨hm.isServing.trans h.1, hm.entries.trans h.2.1, by
    rw [hm.allocations]
    exact h.2.2⟩

/-! ### The pool after a restart -/

variable {guest : HotGuest}

/-- The record that recovery puts back into the pool. -/
theorem adopted_eq {now : UInt64} {adopted idle : HotGuest} (hvalid : guest.isValid = true)
    (hadopted : adopted = match guest.ensureReleased now with
      | .ok released => released
      | .error _ => guest)
    (hidle : adopted.ensureState .idle now = .ok idle) :
    ∃ jobsServed, idle = { guest with
      state := .idle, updatedAtUnix := now, claimedBy := none, jobsServed := jobsServed } := by
  obtain ⟨-, rfl⟩ := HotGuest.ensureState_eq_ok.mp hidle
  cases h : guest.ensureReleased now with
  | ok released =>
    obtain ⟨-, hreleased⟩ := HotGuest.ensureReleased_eq_ok.mp h
    rw [h] at hadopted
    exact ⟨_, by rw [hadopted, hreleased]⟩
  | error e =>
    -- a record that cannot be released is not claimed, so it names nobody
    have hstate : guest.state ≠ .claimed := fun hc => by
      simp [HotGuest.ensureReleased, HotGuest.ensureState, hc, HotState.canTransitionTo] at h
    have hnone : guest.claimedBy = none := by
      have hiff := (HotGuest.isValid_iff.mp hvalid).2
      simpa [hstate] using hiff
    rw [h] at hadopted
    exact ⟨guest.jobsServed, by rw [hadopted, ← hnone]⟩

/-- One surviving machine. -/
theorem isHotAdoptable_keeps {isPresent : Bool} {hot : Option HotConfig} (hP : Frame t P)
    (hrecovering : ∀ s, P s → s.isServing = false) (hg : ∀ s, P s → Known s.history guest) :
    discipline.Keeps t (At t P none) (isHotAdoptable guest isPresent hot) := by
  have hevict : ∀ reason, discipline.Keeps t (At t P none)
    (ensureHotEvicted guest reason) := fun _ =>
    ensureHotEvicted_keeps hP hg fun s hA => .inr (.inr (.inr (hrecovering s hA.known)))
  simp only [isHotAdoptable, Prog.perform_bind]
  split
  · exact ensureHotForgotten_keeps hP
  · split
    · exact hevict _
    · rename_i hreason
      split
      · exact hevict _
      · refine At.skip hP rfl (fun _ _ _ => trivial) fun reset => ?_
        cases reset with
        | error e => exact hevict _
        | ok _ =>
          refine At.unixTime hP fun now hnow => ?_
          split
          · exact hevict _
          · rename_i idle hidle
            refine At.skip hP rfl (fun s _ hA => ⟨hg s hA.known, ?_⟩) fun r => ?_
            · obtain ⟨jobsServed, rfl⟩ := adopted_eq (hg s hA.known).valid rfl hidle
              exact .adopted now jobsServed hnow (hrecovering s hA.known) hreason
            · cases r with
              | error e => exact hevict _
              | ok _ => exact At.ret hP fun _ h => h

theorem ensureHotConsistent_keeps (hP : Frame t P) (hrecovering : ∀ s, P s → s.isServing = false) :
    discipline.Keeps t (At t P none) ensureHotConsistent := by
  simp only [ensureHotConsistent, Prog.perform_bind]
  refine At.hotLoadAll hP (fun guests => At.forget ?_) fun _ => At.ret hP fun _ h => h
  have hF := hP.and (Frame.knownAll guests)
  dsimp only
  split
  · exact At.ret hF fun _ h => h
  · refine At.skip hF rfl (fun _ _ _ => trivial) fun config => ?_
    refine At.skip hF rfl (fun _ _ _ => trivial) fun machines => ?_
    cases machines with
    | error e => exact At.ret hF fun _ h => h
    | ok machines =>
      refine forEach_keeps hF (fun _ h => h.2) fun guest hg => ?_
      split
      · exact At.skip hF rfl (fun _ _ _ => trivial) fun _ => At.ret hF fun _ h => h
      · exact isHotAdoptable_keeps hF (fun s h => hrecovering s h.1) hg

/-- **The recovery keeps the discipline.** -/
theorem recover_safe : discipline.Triple t (Ready .recover t) recover fun _ _ => True := by
  simp only [recover, Prog.perform_bind]
  refine fun s hs ⟨halive, hchoosing, hserving, hentries⟩ => (?_ : discipline.Triple t
    (At t (Booting []) none) _ _) s hs ⟨⟨hserving, hentries, by simp⟩, halive, hchoosing⟩
  refine At.skip frame_booting rfl (fun _ _ _ => trivial) fun config => ?_
  refine At.call (F := fun r s => ∀ allocations, r = .ok allocations →
    ∀ a ∈ allocations, a ∈ s.allocations) frame_booting rfl (fun _ _ _ => trivial) ?_ fun r => ?_
  · intro s fresh ans s' r spawned _ _ _ hexec allocations hr a ha
    cases hexec
    unfold Answer.stored at hr
    split at hr
    · cases hr
    · cases hr
      exact mem_of_loadRecent ha
  · cases r with
    | error e => exact At.weaken (At.ret frame_booting fun _ _ => trivial) fun _ h => h.1
    | ok allocations =>
      refine At.weaken (P := Booting allocations) ?_ fun s h =>
        ⟨h.1.1, h.1.2.1, h.2 allocations rfl⟩
      refine .call (R := fun r s => r = .ok () → (allocations.map (·.id)).Nodup ∧
        At t (Recovering t allocations) none s) (At.stable frame_booting)
        (opTriple (fun s _ hA => ⟨hA.alive, hA.known⟩) ?_) fun r => ?_
      · intro s fresh ans s' r spawned _ hA _ hexec hr
        simp only [exec] at hexec
        split_ifs at hexec
        cases hexec
        obtain ⟨hserving, hentries, -⟩ := hA.known
        simp only [State.tick, hentries] at hr ⊢
        refine ⟨nodup_of_loadInto hr, ⟨hserving, fun a ha => ⟨?_, fun _ => ?_⟩⟩, hA.alive,
          hA.choosing⟩
        · simp only [History.recovering]
          exact if_pos (List.any_eq_true.mpr ⟨a, ha, by simp⟩)
        · exact allocation?_of_loadInto hr rfl ha
      · cases r with
        | error e => exact fun _ _ _ _ _ _ => trivial
        | ok _ =>
          refine (Triple.assume fun hunique => ?_).consequence (fun _ _ h => h rfl) fun _ _ _ h => h
          refine Triple.bind (recoverActive_keeps hunique) fun _ => ?_
          have hP : Frame t fun s => s.isServing = false := .recovering
          refine At.skip hP rfl (fun _ _ _ => trivial) fun _ => ?_
          refine .bind (ensureHotConsistent_keeps hP fun _ h => h) fun _ => ?_
          exact Triple.last (At.stable hP) fun s _ hA => ⟨hA.alive, hA.known⟩

end FlanForge
