import FlanForge.Common.Rest
import FlanForge.Manager.System

/-!
# Who quarantines an image

The footprint of the manager's programs with respect to the quarantine of a
profile's warm image. Only the teardown of a failed worker performs it, and
only where the failure is not a full host (`rest_of_quarantine`); the programs
that move pool machines, admit requests, cancel, sweep and recover never do.
A worker in turn takes no allocation over (`workerTask_calls`), so the one it
drives is its own.
-/

namespace FlanForge

open Prog (perform forEach)

/-- The operation is not a quarantine. -/
def Op.SparesImages : Op → Prop
  | .quarantineWarm _ => False
  | _ => True

/-- Nor does it take allocations over: as a cancel takes one no worker listens
to, or the recovery those it loads. -/
def Op.Plain : Op → Prop
  | .quarantineWarm _ | .beginCancel _ | .loadEntries _ => False
  | _ => True

theorem Op.Plain.sparesImages {op : Op} (h : op.Plain) : op.SparesImages := by
  cases op <;> first | exact h | trivial

/-- The program performs neither. -/
abbrev Plain {α : Type} (program : Manager α) : Prop := program.Calls Op.Plain

theorem sparesImages_of_plain {α : Type} {program : Manager α} (h : Plain program) :
    program.Calls Op.SparesImages := h.mono fun _ => Op.Plain.sparesImages

variable {id : AllocationId} {allocation : Allocation} {profile : Profile} {config : Config}
variable {guest : HotGuest} {guests : List HotGuest} {reason : HotDrainReason} {name : ProfileName}
variable {vmName : VmName} {isAlreadyReset : Bool} {target : AllocationState}
variable {result : Except WorkerError Unit} {fingerprint : Option BaseFingerprint}
variable {request : AllocationRequest} {options : RequestOptions} {claims : ForgejoClaims}
variable {k : Unit → Manager Unit}

/-! ## Records -/

theorem get_plain : Plain (get id) := by
  refine .perform trivial fun entries => ?_
  split <;> trivial

theorem update_plain {f : Allocation → UInt64 → Except ManagerError Allocation} :
    Plain (update id f) := by
  refine .bind get_plain fun found => ?_
  split
  · trivial
  refine .perform trivial fun now => ?_
  split
  · trivial
  refine .perform trivial fun saved => ?_
  split
  · trivial
  exact .perform trivial fun _ => trivial

theorem transition_plain {state : AllocationState} : Plain (transition id state) := by
  refine .bind get_plain fun found => ?_
  split
  · trivial
  · exact update_plain

theorem setRunnerId_plain {runnerId : Int64} : Plain (setRunnerId id runnerId) := by
  unfold setRunnerId
  split
  · trivial
  · exact update_plain

theorem ensureCleaning_plain : Plain (ensureCleaning id) := by
  refine .bind get_plain fun found => ?_
  split
  · trivial
  split
  · trivial
  · exact transition_plain

/-! ## The pool -/

theorem ensureHotEvictionPending_plain :
    Plain (ensureHotEvictionPending guest reason) := by
  unfold ensureHotEvictionPending
  split
  · trivial
  · exact .perform trivial fun _ => trivial

theorem ensureHotEvicted_plain : Plain (ensureHotEvicted guest reason) := by
  refine .perform trivial fun evicted => ?_
  split
  · exact ensureHotEvictionPending_plain
  · exact .perform trivial fun _ => trivial

theorem evictChosen_plain : Plain (evictChosen guest reason) :=
  .bind ensureHotEvicted_plain fun _ => ⟨trivial, fun _ => trivial⟩

theorem chooseAndEvict_plain : Plain (chooseAndEvict guest reason) :=
  .perform trivial fun _ => evictChosen_plain

theorem ensureHotDrained_plain : Plain (ensureHotDrained guest reason) := by
  unfold ensureHotDrained
  split
  · trivial
  refine .perform trivial fun now => ?_
  split
  · exact ensureHotEvictionPending_plain
  dsimp only
  split
  · refine .perform trivial fun _ => .perform trivial fun saved => ?_
    split
    · exact ⟨trivial, fun _ => trivial⟩
    · exact evictChosen_plain
  · exact .perform trivial fun _ => trivial

theorem promotedGeneration_plain : Plain (promotedGeneration name) := by
  refine .perform trivial fun record => ?_
  split <;> trivial

/-- Destroying the unclaimed machines of a list, whichever they are. -/
theorem hotClaimedNames_bind_plain {chosen : List String → List HotGuest}
    {why : HotGuest → HotDrainReason} :
    Plain (hotClaimedNames >>= fun claimed =>
      forEach (chosen claimed) fun guest => chooseAndEvict guest (why guest)) :=
  .perform trivial fun _ => .forEach fun _ _ => chooseAndEvict_plain

theorem ensureHotPoolDrained_plain : Plain (ensureHotPoolDrained guests) :=
  .bind (.forEach fun _ _ => ensureHotDrained_plain) fun _ =>
    .bind hotClaimedNames_bind_plain fun _ => hotClaimedNames_bind_plain

theorem ensureHotSurplusRetired_plain : Plain (ensureHotSurplusRetired guests config) := by
  refine .forEach fun lane _ => ?_
  dsimp only
  split
  · trivial
  · exact .forEach fun _ _ => ensureHotDrained_plain

theorem ensureGuestBounded_plain {now : UInt64} :
    Plain (ensureGuestBounded config now guest) := by
  unfold ensureGuestBounded
  split
  · trivial
  split
  · refine .perform trivial fun fingerprint => .bind promotedGeneration_plain fun generation => ?_
    split
    · exact ensureHotDrained_plain
    · trivial
  · exact ensureHotDrained_plain

theorem ensureHotBounded_plain : Plain ensureHotBounded := by
  refine .perform trivial fun config => .perform trivial fun loaded => ?_
  split
  · trivial
  refine .perform trivial fun now => ?_
  split
  · exact ensureHotPoolDrained_plain
  refine .bind (.forEach fun _ _ => ensureGuestBounded_plain) fun _ => ?_
  refine .bind ensureHotSurplusRetired_plain fun _ => ?_
  exact .bind hotClaimedNames_bind_plain fun _ => hotClaimedNames_bind_plain

theorem hotDrainPending_plain : Plain (hotDrainPending vmName) := by
  refine .perform trivial fun loaded => ?_
  split <;> trivial

theorem gateReset_plain :
    Plain (gateReset guest isAlreadyReset) := by
  unfold gateReset
  split
  · trivial
  · exact ⟨trivial, fun _ => trivial⟩

theorem ensureHotGated_plain :
    Plain (ensureHotGated guest profile isAlreadyReset) := by
  unfold ensureHotGated
  split
  · exact chooseAndEvict_plain
  refine .bind gateReset_plain fun reset => ?_
  split
  · exact chooseAndEvict_plain
  refine .bind hotDrainPending_plain fun stamped => ?_
  split
  · exact chooseAndEvict_plain
  refine .perform trivial fun now => ?_
  split
  · exact chooseAndEvict_plain
  refine .perform trivial fun saved => ?_
  split
  · exact chooseAndEvict_plain
  · exact ensureHotBounded_plain

theorem ensureHotRecycled_plain :
    Plain (ensureHotRecycled allocation vmName profile) := by
  refine .perform trivial fun loaded => ?_
  split
  · trivial
  · trivial
  split
  · trivial
  refine .perform trivial fun now => ?_
  split
  · exact ensureHotEvicted_plain
  refine .perform trivial fun saved => ?_
  split
  · exact ensureHotEvicted_plain
  · exact ensureHotGated_plain

theorem ensureHotRetained_plain {lane : HotLane} :
    Plain (ensureHotRetained allocation profile lane) := by
  unfold ensureHotRetained
  split
  · trivial
  split
  · trivial
  refine .perform trivial fun loaded => ?_
  split
  · trivial
  refine .perform trivial fun now => ?_
  split
  · trivial
  refine .perform trivial fun saved => ?_
  split
  · trivial
  refine .perform trivial fun retained => ?_
  split
  · refine .perform trivial fun removed => ?_
    split
    · exact ensureHotEvictionPending_plain
    · trivial
  · exact ensureHotGated_plain

theorem releaseHot_plain : Plain (releaseHot allocation profile) := by
  unfold releaseHot
  split
  · unfold ensureHotReleased
    split
    · exact ensureHotRecycled_plain
    split
    · exact ensureHotRetained_plain
    · trivial
  · trivial

theorem ensureHotReady_plain : Plain (ensureHotReady allocation) := by
  unfold ensureHotReady
  split
  · trivial
  refine .perform trivial fun loaded => ?_
  split
  · trivial
  · trivial
  refine .bind transition_plain fun prepared => ?_
  split
  · trivial
  refine .perform trivial fun isLive => ?_
  split
  · exact .bind ensureHotEvicted_plain fun _ => trivial
  · trivial

theorem hostMachines_plain : Plain hostMachines := by
  refine .perform trivial fun cached => ?_
  split
  · trivial
  refine .perform trivial fun listed => ?_
  split
  · trivial
  · exact .perform trivial fun _ => trivial

theorem yieldLoop_plain {requested : GuestSize} (n : ℕ) :
    Plain (yieldLoop config requested n) := by
  induction n with
  | zero => trivial
  | succ n ih =>
    refine .bind ?_ fun chosen => ?_
    · refine .bind hostMachines_plain fun machines => ?_
      split
      · trivial
      refine .perform trivial fun hot => ?_
      split
      · trivial
      refine .perform trivial fun entries => ?_
      split <;> trivial
    · split
      · trivial
      · exact .bind chooseAndEvict_plain fun _ => ih

/-- Draining the machines a listing of the pool selects. -/
theorem hotLoadAll_bind_plain {chosen : List HotGuest → List HotGuest} :
    Plain (perform Op.hotLoadAll >>= fun
      | .error _ => pure ()
      | .ok guests => forEach (chosen guests) fun guest => ensureHotDrained guest reason) := by
  refine .perform trivial fun loaded => ?_
  split
  · trivial
  · exact .forEach fun _ _ => ensureHotDrained_plain

theorem hotReload_plain : Plain hotReload := by
  refine .perform trivial fun change => .bind ?_ fun _ => ensureHotBounded_plain
  unfold ensureHotReloaded
  split
  · trivial
  · exact hotLoadAll_bind_plain

theorem hotDrain_plain : Plain (hotDrain vmName) := by
  refine .perform trivial fun loaded => ?_
  split
  · trivial
  · trivial
  · exact .bind ensureHotDrained_plain fun _ => trivial

theorem hotEvict_plain : Plain (hotEvict vmName) := by
  refine .perform trivial fun loaded => ?_
  split
  · trivial
  · trivial
  · exact .perform trivial fun _ => .bind ensureHotEvicted_plain fun _ => trivial

/-! ## The life of an allocation -/

theorem cleanupAttempts_plain (n : ℕ) (e : WorkerError) :
    Plain (cleanupAttempts allocation n e) := by
  induction n generalizing e with
  | zero => trivial
  | succ n ih =>
    refine .perform trivial fun cleaned => ?_
    split
    · trivial
    · exact ih _

theorem terminalAfterCleanup_plain {cleaned : Except WorkerError Unit} :
    Plain (terminalAfterCleanup id target cleaned) := by
  unfold terminalAfterCleanup
  split
  · trivial
  refine .bind get_plain fun latest => ?_
  split
  · split
    · trivial
    · exact .bind update_plain fun _ => trivial
  · exact .bind update_plain fun _ => trivial

theorem recordTerminal_plain {terminal : AllocationState} :
    Plain (recordTerminal id terminal) := by
  refine .bind ensureCleaning_plain fun cleaning => ?_
  split
  · trivial
  refine .bind get_plain fun latest => ?_
  split
  · trivial
  split
  · trivial
  refine .bind transition_plain fun moved => ?_
  split <;> trivial

theorem ensureTerminal_plain :
    Plain (ensureTerminal allocation profile target) := by
  have hcleanup (current : Allocation) : Plain (cleanupWithRetries current) :=
    .perform trivial fun _ => cleanupAttempts_plain _ _
  refine .bind ensureCleaning_plain fun _ => .bind get_plain fun current => ?_
  cases current
  all_goals
    dsimp only
    split
    · trivial
    refine .bind releaseHot_plain fun _ => .bind (hcleanup _) fun cleaned => ?_
    refine .bind terminalAfterCleanup_plain fun terminal => ?_
    split
    · trivial
    · exact recordTerminal_plain

theorem finishWorker_plain :
    Plain (finishWorker allocation profile result) :=
  .perform trivial fun _ => .bind ensureTerminal_plain fun _ => trivial

theorem applyWorkerStep_plain (step : WorkerStep) :
    Plain (applyWorkerStep allocation step) := by
  cases step with
  | clone => exact .perform trivial fun _ => trivial
  | transition => exact .bind transition_plain fun _ => trivial
  | setRunnerId => exact .bind setRunnerId_plain fun _ => trivial
  | setVmCreated | setSource | setCloneSource => exact .bind update_plain fun _ => trivial

theorem workerSteps_plain (n : ℕ) : Plain (workerSteps allocation n) := by
  induction n with
  | zero => trivial
  | succ n ih =>
    refine .bind (.perform trivial fun step => ?_) fun _ => ih
    split
    · trivial
    · exact applyWorkerStep_plain step

theorem runWorker_plain : Plain (runWorker allocation) :=
  .perform trivial fun n => .bind (workerSteps_plain n) fun _ => ⟨trivial, fun _ => trivial⟩

theorem cancelById_sparesImages : (cancelById id).Calls Op.SparesImages := by
  have hget : (get id).Calls Op.SparesImages := sparesImages_of_plain get_plain
  refine .perform trivial fun begun => ?_
  split
  · trivial
  · exact hget
  · exact .perform trivial fun _ => hget
  · refine .perform trivial fun config => ?_
    refine .bind (sparesImages_of_plain ensureTerminal_plain) fun terminalized => ?_
    refine .perform trivial fun _ => ?_
    split
    · trivial
    · exact hget

theorem isHotAdoptable_plain {isPresent : Bool} {hot : Option HotConfig} :
    Plain (isHotAdoptable guest isPresent hot) := by
  unfold isHotAdoptable
  split
  · exact .perform trivial fun _ => trivial
  split
  · exact ensureHotEvicted_plain
  split
  · exact ensureHotEvicted_plain
  refine .perform trivial fun reset => ?_
  split
  · exact ensureHotEvicted_plain
  refine .perform trivial fun now => ?_
  dsimp only
  split
  · exact ensureHotEvicted_plain
  refine .perform trivial fun saved => ?_
  split
  · exact ensureHotEvicted_plain
  · trivial

theorem ensureHotConsistent_plain : Plain ensureHotConsistent := by
  refine .perform trivial fun loaded => ?_
  split
  · trivial
  split
  · trivial
  refine .perform trivial fun config => .perform trivial fun listed => ?_
  split
  · trivial
  refine .forEach fun guest _ => ?_
  split
  · exact .perform trivial fun _ => trivial
  · exact isHotAdoptable_plain

theorem recover_sparesImages : recover.Calls Op.SparesImages := by
  have hrecover (config : Config) (allocation : Allocation) :
      Plain (recoverAllocation config allocation) :=
    .bind update_plain fun _ => .bind ensureTerminal_plain fun _ => trivial
  refine .perform trivial fun config => .perform trivial fun loaded => ?_
  split
  · trivial
  refine .perform trivial fun entered => ?_
  split
  · trivial
  refine .bind (.forEach fun _ _ => sparesImages_of_plain (hrecover config _)) fun _ => ?_
  refine .perform trivial fun _ => .bind (sparesImages_of_plain ensureHotConsistent_plain) ?_
  exact fun _ => ⟨trivial, fun _ => trivial⟩

/-! ## Creating -/

theorem recordedWarmSource_plain {warm : VmName} {record : WarmImageRecord} :
    Plain (recordedWarmSource warm record fingerprint) := by
  unfold recordedWarmSource
  split
  · trivial
  split
  · trivial
  refine .perform trivial fun availability => ?_
  split
  · trivial
  · trivial
  · trivial
  split
  · trivial
  split <;> trivial

theorem warmSource_plain :
    Plain (warmSource name profile fingerprint) := by
  unfold warmSource
  split
  · trivial
  refine .perform trivial fun backend => ?_
  split
  · trivial
  refine .perform trivial fun isQuarantined => ?_
  split
  · trivial
  refine .bind hostMachines_plain fun machines => ?_
  split
  · trivial
  refine .perform trivial fun record => ?_
  split
  · exact recordedWarmSource_plain
  · refine .bind (.perform trivial fun unclaimed => ?_) fun _ => trivial
    split <;> trivial

theorem resolveSource_plain {mode : AllocationMode} :
    Plain (resolveSource name profile mode) := by
  refine .perform trivial fun fingerprint => ?_
  split
  · trivial
  refine .bind warmSource_plain fun selected => ?_
  split <;> trivial

theorem effectiveSize_plain {size : GuestSize} {source : CloneSource} :
    Plain (effectiveSize size name source) := by
  refine .perform trivial fun base => ?_
  split <;> trivial

theorem authorize_plain : Plain (authorize config request options claims) := by
  unfold authorize
  split
  · trivial
  split
  · trivial
  split
  · trivial
  split
  · exact .bind resolveSource_plain fun _ => .bind effectiveSize_plain fun _ => trivial
  · trivial

theorem hotContext_plain {lane : HotLane} {ageSeconds : Option UInt64} :
    Plain (hotContext config name profile lane ageSeconds) := by
  unfold hotContext
  split
  · trivial
  split
  · trivial
  refine .perform trivial fun backend => ?_
  split
  · trivial
  · exact .perform trivial fun _ => .bind promotedGeneration_plain fun _ => trivial

theorem prepareHot_plain {resolved : Resolved} :
    Plain (prepareHot config request resolved options) := by
  refine .bind ?_ fun _ => .bind ?_ fun _ => ?_
  · unfold evictRequested
    split
    · exact hotLoadAll_bind_plain
    · trivial
  · exact .perform trivial fun held => yieldLoop_plain _
  · split
    · exact hotContext_plain
    · trivial

theorem commitAdmitted_plain {admitted : Admitted} :
    Plain (commitAdmitted admitted profile) := by
  refine .bind ?_ fun claimed => ?_
  · unfold commitAdmitted.claimSaved
    split
    · exact ⟨trivial, fun _ => trivial⟩
    · trivial
  split
  · exact .perform trivial fun _ => trivial
  refine .perform trivial fun saved => ?_
  split
  · refine .bind ?_ fun _ => .perform trivial fun _ => trivial
    unfold abandonHotClaim
    split
    · exact ensureHotDrained_plain
    · trivial
  · exact .perform trivial fun _ => trivial

theorem create_plain : Plain (create request options claims) := by
  refine .perform trivial fun config => .bind authorize_plain fun resolved => ?_
  split
  · trivial
  refine .bind prepareHot_plain fun context => .bind hostMachines_plain fun machines => ?_
  refine .perform trivial fun hot => .perform trivial fun entries => ?_
  refine .perform trivial fun isClosing => ?_
  split
  · exact .perform trivial fun _ => trivial
  refine .perform trivial fun identity => .perform trivial fun now => .perform trivial fun _ => ?_
  split
  · exact .perform trivial fun _ => trivial
  · exact commitAdmitted_plain

theorem createTask_plain {body : CreateBody} :
    Plain (createTask body claims) := by
  unfold createTask
  split
  · split
    · trivial
    · exact .bind create_plain fun _ => trivial
  · trivial

/-! ## The worker -/

/-- A worker up to its teardown: the readiness of a claim, then the backend's
own run. -/
def workerAttempt (allocation : Allocation) : Manager (Except WorkerError Unit) := do
  match ← ensureHotReady allocation with
  | .error e => pure (.error e)
  | .ok _ => runWorker allocation

theorem workerTask_eq :
    workerTask allocation profile = workerAttempt allocation >>= teardown allocation profile := by
  unfold workerTask workerAttempt
  rw [Prog.bind_assoc]
  congr 1
  funext ready
  cases ready <;> rfl

theorem workerAttempt_plain : Plain (workerAttempt allocation) := by
  refine .bind ensureHotReady_plain fun ready => ?_
  split
  · trivial
  · exact runWorker_plain

/-- Neither do the two statements of a teardown that follow the failure's own
record. -/
theorem finish_plain :
    Plain (finishWorker allocation profile result >>= fun _ =>
      perform (Op.releaseSupervision allocation.id)) :=
  .bind finishWorker_plain fun _ => ⟨trivial, fun _ => trivial⟩

theorem ensureWarmQuarantined_calls {ok : Op → Prop} (hread : ok .readEntries)
    (hquarantine : ∀ name, ok (.quarantineWarm name)) : (ensureWarmQuarantined id).Calls ok := by
  refine .bind (.perform hread fun entries => ?_) fun found => ?_
  · split <;> trivial
  split
  · trivial
  split
  · exact ⟨hquarantine _, fun _ => trivial⟩
  · trivial

/-- **A worker takes no other allocation over.** -/
theorem workerTask_calls : (workerTask allocation profile).Calls
    fun op => op.Plain ∨ ∃ name, op = .quarantineWarm name := by
  rw [workerTask_eq]
  refine .bind (workerAttempt_plain.mono fun _ => .inl) fun result => ?_
  refine .bind ?_ fun _ => finish_plain.mono fun _ => .inl
  cases result with
  | ok => trivial
  | error e =>
    refine .bind ?_ fun _ => .bind (update_plain.mono fun _ => .inl) fun _ => trivial
    unfold recordFailure.quarantineUnlessCapacity
    split
    · trivial
    · exact ensureWarmQuarantined_calls (.inl trivial) fun name => .inr ⟨name, rfl⟩

/-- **A teardown that quarantines is one of a failed run**, and of one the host
had room for. -/
theorem rest_teardown
    (h : (teardown allocation profile result).Rest (.call (.quarantineWarm name) k)) :
    ∃ e, result = .error e ∧ e.isCapacity = false := by
  obtain ⟨k, h⟩ := h.bind_left (fun _ => finish_plain) id
  cases result with
  | ok => cases h
  | error e =>
    refine ⟨e, rfl, ?_⟩
    obtain ⟨k, h⟩ := h.bind_left (fun _ => .bind update_plain fun _ => trivial) id
    unfold recordFailure.quarantineUnlessCapacity at h
    split at h
    · cases h
    · rename_i hroom
      exact Bool.eq_false_iff.mpr hroom

/-- **A task about to quarantine is a worker in its teardown**, whose run
failed with an error other than a full host. -/
theorem rest_of_quarantine {kind : Kind} (h : (taskCode kind).Rest (.call (.quarantineWarm name) k))
    :
    ∃ allocation profile e, kind = .worker allocation profile ∧
      (workerAttempt allocation).Returns (.error e) ∧ e.isCapacity = false ∧
      (teardown allocation profile (.error e)).Rest (.call (.quarantineWarm name) k) := by
  -- no other kind of task has the operation in its footprint
  have hspares (hkind : (taskCode kind).Calls Op.SparesImages) : False := (h.calls hkind).1
  have hplain (hkind : Plain (taskCode kind)) : False := hspares (sparesImages_of_plain hkind)
  cases kind with
  | create => exact (hplain createTask_plain).elim
  | cancel => exact (hspares (.bind cancelById_sparesImages fun _ => trivial)).elim
  | sweep => exact (hplain ensureHotBounded_plain).elim
  | hotReload => exact (hplain hotReload_plain).elim
  | hotDrain => exact (hplain (.bind hotDrain_plain fun _ => trivial)).elim
  | hotEvict => exact (hplain (.bind hotEvict_plain fun _ => trivial)).elim
  | recover => exact (hspares recover_sparesImages).elim
  | worker allocation profile =>
    have h : (workerTask allocation profile).Rest (.call (.quarantineWarm name) k) := h
    rw [workerTask_eq] at h
    obtain ⟨result, hresult, hrest⟩ := h.bind_right workerAttempt_plain id
    obtain ⟨e, rfl, he⟩ := rest_teardown hrest
    exact ⟨allocation, profile, e, rfl, hresult, he, hrest⟩

end FlanForge
