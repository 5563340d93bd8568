import FlanForge.Manager.Pool

/-!
# The life of an allocation

The worker task `create` spawns, its teardown, and the ways an allocation
is driven to a terminal state from elsewhere: a cancel of an entry no worker
listens to, and recovery. `ensureTerminal` hands the machine to the pool
before cleanup, retries cleanup, and records the terminal state last.

The backend's `run` is a number of steps the environment chooses, each a
call of the reporter or a clone; a worker that is dropped mid-run is a run
that ends early with an error.
-/

namespace FlanForge

open Prog (perform forEach)

/-! ## Teardown -/

/-- One teardown attempt after the other, until one succeeds. -/
def cleanupAttempts (allocation : Allocation) : ℕ → WorkerError → Manager (Except WorkerError Unit)
  | 0, lastError => pure (.error lastError)
  | n + 1, _ => do
    match ← perform (Op.cleanup allocation) with
    | .ok _ => pure (.ok ())
    | .error e => cleanupAttempts allocation n e

/-- Three attempts, or one while the manager shuts down. -/
def cleanupWithRetries (allocation : Allocation) : Manager (Except WorkerError Unit) := do
  let isBounded ← perform Op.isTeardownBounded
  cleanupAttempts allocation (if isBounded then 1 else 3) (.new "cleanup failed")

/-- The terminal state the cleanup's outcome allows, or the one somebody else
recorded meanwhile. -/
def terminalAfterCleanup (id : AllocationId) (target : AllocationState)
    (cleaned : Except WorkerError Unit) : Manager (Except AllocationState AllocationState) :=
  match cleaned with
  | .ok _ => pure (.ok target)
  | .error e => do
    match ← get id with
    | .ok latest =>
      if latest.state.isTerminal then pure (.error latest.state)
      else
        let _ ← setError id ("cleanup failed: " ++ e.message)
        pure (.ok .failed)
    | .error _ =>
      let _ ← setError id ("cleanup failed: " ++ e.message)
      pure (.ok .failed)

/-- Record the terminal state, through `Cleaning`. -/
def recordTerminal (id : AllocationId) (terminal : AllocationState) :
    Manager (Except ManagerError AllocationState) := do
  match ← ensureCleaning id with
  | .error e => pure (.error e)
  | .ok _ =>
    match ← get id with
    | .error e => pure (.error e)
    | .ok latest =>
      if latest.state.isTerminal then pure (.ok latest.state)
      else
        match ← transition id terminal with
        | .error e => pure (.error e)
        | .ok _ => pure (.ok terminal)

/-- The machine of a hot allocation goes to the pool before cleanup, so that
cleanup does not destroy it. -/
def releaseHot (allocation : Allocation) (profile : Profile) : Manager Unit :=
  if allocation.isHot then ensureHotReleased allocation profile else pure ()

/-- Run teardown, then require the durable terminal record. -/
def ensureTerminal (fallback : Allocation) (profile : Profile) (target : AllocationState) :
    Manager (Except ManagerError AllocationState) := do
  let _ ← ensureCleaning fallback.id
  let current ← get fallback.id
  let current := match current with
    | .ok current => current
    | .error _ => fallback
  if current.state.isTerminal then pure (.ok current.state)
  else do
    releaseHot current profile
    let cleaned ← cleanupWithRetries current
    match ← terminalAfterCleanup fallback.id target cleaned with
    | .error state => pure (.ok state)
    | .ok terminal => recordTerminal fallback.id terminal

/-! ## The worker -/

/-- One step of the backend's run; what the reporter answers is the
backend's own business. -/
def applyWorkerStep (allocation : Allocation) : WorkerStep → Manager Unit
  | .clone => do
    let _ ← perform (Op.cloneGuest allocation)
    pure ()
  | .transition state => do
    let _ ← transition allocation.id state
    pure ()
  | .setRunnerId runnerId => do
    let _ ← setRunnerId allocation.id runnerId
    pure ()
  | .setVmCreated => do
    let _ ← setVmCreated allocation.id
    pure ()
  | .setSource source => do
    let _ ← setSource allocation.id source
    pure ()
  | .setCloneSource source warmGeneration => do
    let _ ← setCloneSource allocation.id source warmGeneration
    pure ()

/-- The next step of the backend; the preparation of a reused machine is
skipped. -/
def performWorkerStep (allocation : Allocation) : Manager Unit := do
  let step ← perform (Op.workerStep allocation)
  if step.isPreparing && allocation.origin.isHotReuse then pure ()
  else applyWorkerStep allocation step

def workerSteps (allocation : Allocation) : ℕ → Manager Unit
  | 0 => pure ()
  | n + 1 => do
    performWorkerStep allocation
    workerSteps allocation n

/-- The backend's own run of the allocation. -/
def runWorker (allocation : Allocation) : Manager (Except WorkerError Unit) := do
  let count ← perform (Op.workerRun allocation)
  workerSteps allocation count
  perform (Op.workerResult allocation)

/-- A warm guest that failed before readiness is evidence about its image. -/
def ensureWarmQuarantined (id : AllocationId) : Manager Unit := do
  match ← get id with
  | .error _ => pure ()
  | .ok allocation =>
    if allocation.source.any (·.kind = .warm) &&
        (allocation.state = .preparing || allocation.state = .booting) then
      perform (Op.quarantineWarm allocation.request.profile)
    else pure ()

def finishWorker (allocation : Allocation) (profile : Profile) (result : Except WorkerError Unit) :
    Manager Unit := do
  let isCancelled ← perform (Op.isCancelled allocation.id)
  let _ ← ensureTerminal allocation profile
    (if isCancelled then .cancelled
      else match result with
        | .ok _ => .completed
        | .error _ => .failed)
  pure ()

/-- A failed run leaves its error, and what it says about a warm image. -/
def recordFailure (allocation : Allocation) : Except WorkerError Unit → Manager Unit
  | .ok _ => pure ()
  | .error e => do
    quarantineUnlessCapacity e
    let _ ← setWorkerError allocation.id e
    pure ()
where
  /-- A full host says nothing about the image. -/
  quarantineUnlessCapacity (e : WorkerError) : Manager Unit :=
    if e.isCapacity then pure () else ensureWarmQuarantined allocation.id

/-- What ends every worker, however it stopped. -/
def teardown (allocation : Allocation) (profile : Profile) (result : Except WorkerError Unit) :
    Manager Unit := do
  recordFailure allocation result
  finishWorker allocation profile result
  perform (Op.releaseSupervision allocation.id)

/-- The task of one allocation. -/
def workerTask (allocation : Allocation) (profile : Profile) : Manager Unit := do
  match ← ensureHotReady allocation with
  | .error e => teardown allocation profile (.error e)
  | .ok _ =>
    let result ← runWorker allocation
    teardown allocation profile result

/-! ## Cancelling -/

/-- The profile cleanup uses for a record whose own profile is gone; it
authorizes nothing and is never hot. -/
def cleanupOnlyProfile (allocation : Allocation) : Profile where
  repository := allocation.request.repository
  template := allocation.vmName
  runnerLabel := allocation.runnerLabel
  jobName := ""
  allowedWorkflows := []
  allowedEvents := []
  allowedRefs := []
  requireProtectedRef := true
  network := .default
  cpuCount := 1
  memoryMb := 2048
  storageMb := 40960
  bootTimeoutSeconds := 300
  idleTimeoutSeconds := 300
  jobTimeoutSeconds := 300
  cleanupTimeoutSeconds := 300
  warmTemplate := none
  regenerationWorkflow := none
  hot := none
  reap := false

/-- The allocation's configured profile, or the cleanup-only one. -/
def profileOrCleanupOnly (config : Config) (allocation : Allocation) : Profile :=
  match profile config allocation.request with
  | .ok profile => profile
  | .error _ => cleanupOnlyProfile allocation

/-- Cancel by identity alone. -/
def cancelById (id : AllocationId) : Manager (Except ManagerError Allocation) := do
  match ← perform (Op.beginCancel id) with
  | .notFound => pure (.error (.notFound id))
  | .settled => get id
  | .await =>
    perform (Op.awaitTerminal id)
    get id
  | .drive allocation =>
    let config ← perform Op.currentConfig
    let terminalized ← ensureTerminal allocation (profileOrCleanupOnly config allocation) .cancelled
    perform (Op.endTerminalizing id)
    match terminalized with
    | .error e => pure (.error e)
    | .ok _ => get id

/-! ## Recovery -/

/-- Reconcile one interrupted record. -/
def recoverAllocation (config : Config) (allocation : Allocation) : Manager Unit := do
  let _ ← setError allocation.id "daemon restarted during allocation"
  let _ ← ensureTerminal allocation (profileOrCleanupOnly config allocation) .failed
  pure ()

/-- Verify one surviving machine and return it to the pool, or evict it. -/
def isHotAdoptable (guest : HotGuest) (isPresent : Bool) (hot : Option HotConfig) :
    Manager Unit :=
  if !isPresent then ensureHotForgotten guest
  else
    match guest.drainReason with
    | some reason => ensureHotEvicted guest reason
    | none =>
      match hot with
      | none => ensureHotEvicted guest .configReloaded
      | some _ => do
        match ← perform (Op.hotReset guest) with
        | .error _ => ensureHotEvicted guest .unverifiable
        | .ok _ =>
          let now ← perform Op.unixTime
          let adopted := match guest.ensureReleased now with
            | .ok released => released
            | .error _ => guest
          match adopted.ensureState .idle now with
          | .error _ => ensureHotEvicted guest .unverifiable
          | .ok idle =>
            match ← perform (Op.hotSave (.copy guest) idle) with
            | .error _ => ensureHotEvicted guest .unverifiable
            | .ok _ => pure ()

/-- Reconcile every durable hot record against the host. -/
def ensureHotConsistent : Manager Unit := do
  match ← perform Op.hotLoadAll with
  | .error _ => pure ()
  | .ok guests =>
    if guests.isEmpty then pure ()
    else
      let config ← perform Op.currentConfig
      match ← perform Op.machines with
      | .error _ => pure ()
      | .ok machines =>
        forEach guests fun guest =>
          if guest.state.isTerminal then do
            let _ ← perform (Op.hotRemove guest.vmName)
            pure ()
          else
            isHotAdoptable guest (machines.any (·.name = guest.vmName.value))
              (config.enabledHot guest.profile)

/-- Load the durable allocations, clean interrupted work, reconcile the pool,
and start serving. -/
def recover : Manager Unit := do
  let config ← perform Op.currentConfig
  match ← perform Op.loadRecent with
  | .error _ => pure ()
  | .ok allocations =>
    match ← perform (Op.loadEntries allocations) with
    | .error _ => pure ()
    | .ok _ =>
      forEach (allocations.filter fun allocation => !allocation.state.isTerminal)
        (recoverAllocation config)
      let _ ← perform Op.ensureRecovered
      ensureHotConsistent
      perform Op.serve

end FlanForge
