import FlanForge.Core.Claims
import FlanForge.Orm.HotStore

/-!
# Admission

Whether a request fits beside what the host already runs. The fold reads
the live entries, a host listing and the hot records it is given, and has
no state of its own: the non-terminal allocations are charged with their
recorded size, a guest still running under a terminal record as an orphan,
a machine nobody owns as foreign, and every pool machine with its record's
own size.
-/

namespace FlanForge

/-! ## Machines, entries, errors -/

inductive MachineState
  | running
  | stopped
  | other
  deriving DecidableEq, Repr

inductive MachineOwnership
  | owned
  | foreign
  | unknown
  deriving DecidableEq, Repr

/-- One machine the host reports, whoever owns it. -/
structure HostMachine where
  name : String
  state : MachineState
  size : Option GuestSize
  ownership : MachineOwnership
  /-- Seconds since the machine was made, where the backend can tell. -/
  ageSeconds : Option UInt64 := none
  deriving DecidableEq

/-- Running, and owned by this service. -/
def HostMachine.isOwnedRunning (machine : HostMachine) : Bool :=
  machine.state = .running && machine.ownership = .owned

/-- One allocation the manager holds in memory. -/
structure Entry where
  allocation : Allocation
  /-- The cancellation token has been triggered. -/
  isCancelled : Bool
  /-- A worker task is listening to the token. -/
  isSupervised : Bool
  /-- One caller is driving the entry to a terminal state. -/
  isTerminalizing : Bool
  deriving DecidableEq

/-- The entries are keyed by the allocation's identity. -/
def Entry.id (entry : Entry) : AllocationId := entry.allocation.id

/-- Why admission refused. -/
inductive BusyReason
  | serialized
  | slots
  | budget
  | probeFailed
  | regenerating
  deriving DecidableEq, Repr

/-- Why a backend call failed. -/
inductive WorkerError
  | failed (message : String)
  | capacity (message : String)
  deriving DecidableEq, Repr

namespace WorkerError

def new (message : String) : WorkerError := failed (boundedText message 512)

def isCapacity : WorkerError → Bool
  | failed _ => false
  | capacity _ => true

def message : WorkerError → String
  | failed text => text
  | capacity text => text

end WorkerError

inductive ManagerError
  | unknownProfile (name : String)
  | busy (reason : BusyReason) (holder : Option AllocationId)
  | notFound (id : AllocationId)
  | duplicateAllocation (id : AllocationId)
  | invalidVmName (error : IdentifierError)
  | unknownHotGuest (vmName : String)
  | invalidRunnerLabel (error : IdentifierError)
  | requestExceedsProfile
  | invalidRequest
  | shuttingDown
  | invalidRunnerId
  | authorization (error : AuthorizationError)
  | transition (error : StateTransitionError)
  | store (error : StoreError)
  | worker (error : WorkerError)
  deriving DecidableEq

def IdentifierError.message : IdentifierError → String
  | length kind min max =>
    kind ++ " must be between " ++ toString min ++ " and " ++ toString max ++ " ASCII characters"
  | character kind => kind ++ " contains an invalid character"
  | repository => "repository must have the form owner/name"
  | vmPrefix => "VM prefix must end with '-'"

def AuthorizationError.message : AuthorizationError → String
  | repository => "repository claim is not authorized"
  | runIdentity => "run identity does not match the request"
  | workflow => "workflow claim is not authorized"
  | event => "event claim is not authorized"
  | gitRef => "git ref claim is not authorized"
  | protectedRef => "a protected ref is required"
  | subject => "subject claim is inconsistent"
  | malformedClaims => "OIDC claims are malformed"

/-- The name a state prints under. -/
def AllocationState.debug : AllocationState → String
  | requested => "Requested"
  | preparing => "Preparing"
  | booting => "Booting"
  | registering => "Registering"
  | waitingForJob => "WaitingForJob"
  | ready => "Ready"
  | running => "Running"
  | cleaning => "Cleaning"
  | completed => "Completed"
  | failed => "Failed"
  | cancelled => "Cancelled"

def ManagerError.message : ManagerError → String
  | unknownProfile name => "unknown profile " ++ name
  | busy _ _ => "allocation capacity is busy"
  | notFound id => "allocation " ++ id.value ++ " was not found"
  | duplicateAllocation id => "duplicate allocation ID " ++ id.value ++ " in durable state"
  | invalidVmName e => "invalid generated VM name: " ++ e.message
  | unknownHotGuest vmName => "no hot guest record names " ++ vmName
  | invalidRunnerLabel e => "invalid generated runner label: " ++ e.message
  | requestExceedsProfile => "request exceeds its profile ceiling"
  | invalidRequest => "allocation request is structurally invalid"
  | shuttingDown => "service is shutting down"
  | invalidRunnerId => "runner ID must be positive"
  | authorization e => e.message
  | transition e =>
    "invalid allocation state transition from " ++ e.source.debug ++ " to " ++ e.target.debug
  | store e => "database operation failed: " ++ e.message
  | worker e => e.message

def busy (reason : BusyReason) (holder : Option AllocationId) : ManagerError := .busy reason holder

/-! ## The fold -/

/-- What a group of guests takes from the host. -/
structure CommittedCapacity where
  active : ℕ := 0
  cpuCount : UInt32 := 0
  memoryMb : UInt32 := 0
  storageMb : UInt64 := 0
  deriving DecidableEq

/-- Charge one more guest, saturating. -/
def CommittedCapacity.charge (total : CommittedCapacity) (size : GuestSize) :
    CommittedCapacity where
  active := total.active + 1
  cpuCount := saturatingAdd32 total.cpuCount size.cpuCount.toUInt32
  memoryMb := saturatingAdd32 total.memoryMb size.memoryMb
  storageMb := saturatingAdd64 total.storageMb size.storageMb

/-- Add one more guest to what the allocations commit: the slots are counted
apart, the processors are the plain machine addition. -/
def CommittedCapacity.commit (total : CommittedCapacity) (size : GuestSize) :
    CommittedCapacity where
  active := total.active
  cpuCount := total.cpuCount + size.cpuCount.toUInt32
  memoryMb := saturatingAdd32 total.memoryMb size.memoryMb
  storageMb := saturatingAdd64 total.storageMb size.storageMb

/-- The allocations that are not terminal. -/
def activeAllocations (entries : List Entry) : List Allocation :=
  (entries.map (·.allocation)).filter fun allocation => !allocation.state.isTerminal

/-- One producer per profile. -/
def ensureSoleProducer (entries : List Entry) (profile : ProfileName) (mode : AllocationMode) :
    Except ManagerError Unit :=
  if mode ≠ .regenerate then .ok ()
  else
    match (entries.map (·.allocation)).find? fun allocation =>
        !allocation.state.isTerminal && allocation.mode = .regenerate &&
          allocation.request.profile = profile with
    | some holder => .error (busy .regenerating (some holder.id))
    | none => .ok ()

/-- The machine is owned and bears one of the names. -/
def isOwnedName (machine : HostMachine) (names : List String) : Bool :=
  machine.ownership = .owned && names.contains machine.name

/-- The names the pool holds: a live record whose machine the host reports
running and owned. -/
def hotNames (hot : List HotGuest) (machines : List HostMachine) : List String :=
  let owned := (machines.filter HostMachine.isOwnedRunning).map (·.name)
  ((hot.filter (·.state.isHoldingMachine)).map (·.vmName.value)).filter fun name =>
    owned.contains name

/-- Running machines that no live entry owns and the pool does not hold. -/
def unownedRunning (active : List Allocation) (machines : List HostMachine)
    (hotNames : List String) : List HostMachine :=
  machines.filter fun machine =>
    machine.state = .running && !isOwnedName machine (active.map (·.vmName.value)) &&
      !hotNames.contains machine.name

def foreignRunning (active : List Allocation) (machines : List HostMachine)
    (hotNames : List String) : ℕ :=
  (unownedRunning active machines hotNames).length

/-- The size a profile asks for now. -/
def profileSize (config : Config) (name : ProfileName) : Option GuestSize :=
  (config.profile? name).map fun profile =>
    ⟨profile.cpuCount, profile.memoryMb, profile.storageMb⟩

/-- The largest value of each dimension over all profiles. -/
def largestProfileSize (config : Config) : Option GuestSize :=
  match config.profiles.map (·.2) with
  | [] => none
  | first :: profiles =>
    some (profiles.foldl
      (fun largest profile =>
        ⟨max largest.cpuCount profile.cpuCount, max largest.memoryMb profile.memoryMb,
          max largest.storageMb profile.storageMb⟩)
      ⟨first.cpuCount, first.memoryMb, first.storageMb⟩)

/-- The size an allocation is charged with: its recorded one, or a
conservative guess for a record without. -/
def chargedSize (config : Config) (allocation : Allocation) : Option GuestSize :=
  (allocation.size.or (profileSize config allocation.request.profile)).or
    (largestProfileSize config)

/-- What the given allocations commit. -/
def committedCapacity (active : List Allocation) (config : Config) : CommittedCapacity :=
  (active.filterMap (chargedSize config)).foldl CommittedCapacity.commit { active := active.length }

/-- A terminal record whose guest was created under that name. -/
def isTerminalGuest (name : String) (allocation : Allocation) : Bool :=
  allocation.state.isTerminal && allocation.vmCreated && allocation.vmName.value = name

/-- Guests still running under a terminal record. -/
def orphanCapacity (entries : List Entry) (active : List Allocation) (machines : List HostMachine)
    (config : Config) (hotNames : List String) : CommittedCapacity :=
  let orphans := ((unownedRunning active machines hotNames).filter (·.ownership = .owned)).filterMap
    fun machine => (entries.map (·.allocation)).find? (isTerminalGuest machine.name)
  committedCapacity orphans config

/-- The names of the guests that terminal records created. -/
def terminalNames (entries : List Entry) : List String :=
  ((entries.map (·.allocation)).filter fun allocation =>
    allocation.state.isTerminal && allocation.vmCreated).map (·.vmName.value)

/-- The machines neither a record nor the pool accounts for. -/
def foreignMachines (entries : List Entry) (active : List Allocation) (machines : List HostMachine)
    (hotNames : List String) : List HostMachine :=
  (unownedRunning active machines hotNames).filter fun machine =>
    !isOwnedName machine (terminalNames entries)

/-- The charge of those of them with a known size, and whether there is one
without. -/
def foreignCapacity (entries : List Entry) (active : List Allocation) (machines : List HostMachine)
    (hotNames : List String) : CommittedCapacity × Bool :=
  let foreign := foreignMachines entries active machines hotNames
  ((foreign.filterMap (·.size)).foldl CommittedCapacity.charge {},
    foreign.any fun machine => machine.size.isNone)

/-- Both names an allocation can hold: its own guest's and the pool machine's
it reused. -/
def heldNames (allocation : Allocation) : List String :=
  allocation.vmName.value :: (allocation.origin.hotVmName.map (·.value)).toList

/-- The pool machines no active allocation already accounts for. -/
def hotCharged (hot : List HotGuest) (active : List Allocation) (hotNames : List String) :
    List HotGuest :=
  let claimed := active.flatMap heldNames
  hot.filter fun guest =>
    guest.state.isHoldingMachine &&
      (hotNames.contains guest.vmName.value || guest.state = .provisioning) &&
      !claimed.contains guest.vmName.value

def hotCapacity (hot : List HotGuest) (active : List Allocation) (hotNames : List String) :
    CommittedCapacity :=
  ((hotCharged hot active hotNames).map (·.size)).foldl CommittedCapacity.charge {}

/-- Admit under the running-VM limit and the host budget, or say why not. -/
def ensureCapacity (entries : List Entry) (config : Config) (requested : GuestSize)
    (machines : List HostMachine) (hot : List HotGuest) : Except ManagerError Unit :=
  let active := activeAllocations entries
  let holder := active.head?.map (·.id)
  let names := hotNames hot machines
  let foreign := foreignRunning active machines names
  let committed := committedCapacity active config
  let orphaned := orphanCapacity entries active machines config names
  let pooled := hotCapacity hot active names
  let (foreignCapacity, hasUnknownForeignSize) := foreignCapacity entries active machines names
  if foreign + committed.active + pooled.active + 1 > config.runtime.maxRunningVms.toNat then
    .error (busy .slots holder)
  else
    match config.runtime.hostCpuCount, config.runtime.hostMemoryMb with
    | some hostCpuCount, some hostMemoryMb =>
      if hasUnknownForeignSize then .error (busy .budget holder)
      else
        let cpuCount :=
          saturatingAdd32 (saturatingAdd32 (saturatingAdd32 (saturatingAdd32 committed.cpuCount
            orphaned.cpuCount) foreignCapacity.cpuCount) pooled.cpuCount)
            requested.cpuCount.toUInt32
        let memoryMb :=
          saturatingAdd32 (saturatingAdd32 (saturatingAdd32 (saturatingAdd32 committed.memoryMb
            orphaned.memoryMb) foreignCapacity.memoryMb) pooled.memoryMb) requested.memoryMb
        let storageMb :=
          saturatingAdd64 (saturatingAdd64 (saturatingAdd64 (saturatingAdd64 committed.storageMb
            orphaned.storageMb) foreignCapacity.storageMb) pooled.storageMb) requested.storageMb
        let reservedStorageMb := saturatingAdd64 storageMb config.runtime.storageReserve
        if cpuCount > hostCpuCount.toUInt32 || memoryMb > hostMemoryMb ||
            config.runtime.hostStorageMb.any (reservedStorageMb > ·) then
          .error (busy .budget holder)
        else .ok ()
    -- an unset budget keeps one allocation at a time
    | _, _ => if committed.active = 0 then .ok () else .error (busy .serialized holder)

/-! ## When the fold accepts -/

/-- The slots `ensureCapacity` counts before it adds the request. -/
def slotTotal (entries : List Entry) (config : Config) (machines : List HostMachine)
    (hot : List HotGuest) : ℕ :=
  foreignRunning (activeAllocations entries) machines (hotNames hot machines) +
    (committedCapacity (activeAllocations entries) config).active +
      (hotCapacity hot (activeAllocations entries) (hotNames hot machines)).active

/-- Two charges together, saturating. -/
def CommittedCapacity.plus (total added : CommittedCapacity) : CommittedCapacity where
  active := total.active + added.active
  cpuCount := saturatingAdd32 total.cpuCount added.cpuCount
  memoryMb := saturatingAdd32 total.memoryMb added.memoryMb
  storageMb := saturatingAdd64 total.storageMb added.storageMb

/-- The host's budget has room for the charge. -/
def CommittedCapacity.Fits (config : Config) (total : CommittedCapacity) : Prop :=
  (∀ cpuCount ∈ config.runtime.hostCpuCount, total.cpuCount ≤ cpuCount.toUInt32) ∧
    (∀ memoryMb ∈ config.runtime.hostMemoryMb, total.memoryMb ≤ memoryMb) ∧
    ∀ storageMb ∈ config.runtime.hostStorageMb,
      saturatingAdd64 total.storageMb config.runtime.storageReserve ≤ storageMb

/-- What the four folds and the request come to. -/
def chargeTotal (entries : List Entry) (config : Config) (requested : GuestSize)
    (machines : List HostMachine) (hot : List HotGuest) : CommittedCapacity :=
  let active := activeAllocations entries
  let names := hotNames hot machines
  ((((committedCapacity active config).plus
    (orphanCapacity entries active machines config names)).plus
    (foreignCapacity entries active machines names).1).plus (hotCapacity hot active names)).charge
      requested

/-- A request is accepted within the slots, and with a whole budget where no size
is unknown and the total fits, without one where nothing is active. -/
theorem ensureCapacity_eq_ok {entries : List Entry} {config : Config} {requested : GuestSize}
    {machines : List HostMachine} {hot : List HotGuest} :
    ensureCapacity entries config requested machines hot = .ok () ↔
      slotTotal entries config machines hot + 1 ≤ config.runtime.maxRunningVms.toNat ∧
      (config.runtime.hostCpuCount.isSome = true → config.runtime.hostMemoryMb.isSome = true →
        (foreignCapacity entries (activeAllocations entries) machines (hotNames hot machines)).2 =
            false ∧ (chargeTotal entries config requested machines hot).Fits config) ∧
      (config.runtime.hostCpuCount = none ∨ config.runtime.hostMemoryMb = none →
        (committedCapacity (activeAllocations entries) config).active = 0) := by
  unfold ensureCapacity chargeTotal CommittedCapacity.Fits
  simp only [← slotTotal.eq_1, gt_iff_lt]
  by_cases hslots : config.runtime.maxRunningVms.toNat < slotTotal entries config machines hot + 1
  · simp [hslots, Nat.not_le.mpr hslots]
  simp only [hslots, if_false, Nat.not_lt.mp hslots, true_and]
  generalize foreignCapacity entries (activeAllocations entries) machines (hotNames hot machines) =
    foreign
  obtain ⟨sized, hasUnknown⟩ := foreign
  cases config.runtime.hostCpuCount <;> cases config.runtime.hostMemoryMb <;>
    cases config.runtime.hostStorageMb <;> cases hasUnknown <;>
    simp [CommittedCapacity.plus, CommittedCapacity.charge, and_assoc]

/-! ## The inputs of the fold -/

def isHotConfigured (config : Config) : Bool :=
  config.runtime.maxHotVms > 0 || config.profiles.any fun entry => entry.2.hot.any (·.enabled)

/-- An unreadable hot store refuses only when hot is configured somewhere. -/
def hotSnapshot (loaded : Except StoreError (List HotGuest)) (config : Config) :
    Except ManagerError (List HotGuest) :=
  match loaded with
  | .ok hot => .ok hot
  | .error _ => if isHotConfigured config then .error (busy .probeFailed none) else .ok []

/-- Raise the storage to the base's size, clamped to the validated ceiling. -/
def floored (size : GuestSize) (baseMb : UInt64) : GuestSize :=
  { size with storageMb := max size.storageMb (min baseMb GuestSize.maxStorageMb) }

/-! ## What a request resolves to -/

def profile (config : Config) (request : AllocationRequest) : Except ManagerError Profile :=
  match config.profile? request.profile with
  | some profile => .ok profile
  | none => .error (.unknownProfile request.profile.value)

/-- The one VM name an allocation may ever own, from its run identity. -/
def vmName (config : Config) (request : AllocationRequest) : Except ManagerError VmName :=
  match Identifier.new vmNameRules (config.runtime.vmPrefix.value ++ request.profile.value ++ "-" ++
      toString request.runId.toNat ++ "-" ++ toString request.runAttempt.toNat) with
  | .ok name => .ok name
  | .error e => .error (.invalidVmName e)

/-- The live allocation of the same run attempt, if one is still going. -/
def idempotent (entries : List Entry) (request : AllocationRequest) : Option Allocation :=
  (entries.map (·.allocation)).find? fun allocation =>
    !allocation.state.isTerminal && allocation.request.isSameAttempt request

end FlanForge
