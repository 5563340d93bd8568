import FlanForge.Common.RelyGuarantee
import FlanForge.Core.Image
import FlanForge.Routes.CreateBody
import FlanForge.Manager.History

/-!
# The manager's state and its operations

The state the manager's tasks share: the configuration, the durable tables,
the entries under their lock, the probe cache, and the host. Every point
where the code awaits something outside itself — a store, the backend, the
lock — is one operation, and an operation is atomic. A section that takes
the entries lock and gives it back without awaiting anything is one
operation too; only `create` awaits under the lock, so the lock has a holder
only there.

The environment answers: whether a store or backend call fails, what the
clock says, what the backend's own run does. One clock reading stands for
the readings of one synchronous stretch of code. A failed store write leaves
the table as it was.

`History` (`Manager.History`) stands beside the state. The operations
`note` mark the entry and exit of a function for it and do nothing else.
-/

namespace FlanForge

/-! ## Data -/

/-- What the backend can do at all. -/
structure Backend where
  hotGuests : Bool := true
  warmImages : Bool := true
  /-- The source is recorded by the worker and not at creation. -/
  isCloneSourceEvidenceDeferred : Bool := false
  deriving DecidableEq

/-- One thing the backend's `run` does to the manager's records or to the
host. -/
inductive WorkerStep
  /-- Clone the guest; whatever sits under the allocation's name goes. -/
  | clone
  | transition (state : AllocationState)
  | setRunnerId (runnerId : Int64)
  | setVmCreated
  | setSource (source : CloneSource)
  | setCloneSource (source : CloneSource) (warmGeneration : Option UInt64)
  deriving DecidableEq

/-- The backends report the states of a working guest; the ones of teardown
are the manager's. -/
def WorkerStep.isReported : WorkerStep → Bool
  | transition state => state ≠ .requested && state ≠ .cleaning && !state.isTerminal
  | _ => true

/-- The steps of preparing a guest, which a reused machine is spared: it is
neither cloned over nor given another source. -/
def WorkerStep.isPreparing : WorkerStep → Bool
  | clone | setSource _ | setCloneSource .. => true
  | _ => false

/-- The tasks of the manager. -/
inductive Kind
  /-- A create request, as it was posted, with its verified claims. -/
  | create (body : CreateBody) (claims : ForgejoClaims)
  /-- The task `create` spawns for an allocation. -/
  | worker (allocation : Allocation) (profile : Profile)
  /-- An operator's or a workflow's cancel. -/
  | cancel (id : AllocationId)
  /-- The pool's part of a deleting sweep. -/
  | sweep
  /-- The reload watch, woken by a change of the configuration. -/
  | hotReload
  /-- An operator's drain or eviction of one machine. -/
  | hotDrain (vmName : VmName)
  | hotEvict (vmName : VmName)
  /-- The first task of a process. -/
  | recover

/-- Who owns the entry a cancel found. -/
inductive CancelTurn
  | notFound
  /-- Already terminal, or a worker listens to the token. -/
  | settled
  /-- Another cancel drives the entry. -/
  | await
  /-- This cancel drives the entry from now on. -/
  | drive (allocation : Allocation)

structure State where
  config : Config
  /-- The configuration the reload watch saw last. -/
  watched : Config
  backend : Backend
  /-- The hot table, the allocation table and the warm records. -/
  hot : HotTable
  allocations : List Allocation
  images : List WarmImageRecord
  entries : List Entry
  /-- The `create` that holds the entries lock. -/
  lock : Option TaskId
  quarantined : List ProfileName
  /-- The last host listing and when it was taken. -/
  probe : Option (ℕ × List HostMachine)
  /-- The monotonic clock, in nanoseconds. -/
  clock : ℕ
  isClosing : Bool
  host : List HostMachine
  /-- Recovery is over and requests are served. -/
  isServing : Bool
  history : History

/-- What the environment decides at one operation. -/
structure Answer where
  /-- Monotonic time that passes before the operation, in nanoseconds. -/
  elapsed : ℕ := 0
  /-- The wall clock, in seconds. -/
  now : UInt64 := 0
  /-- The store or backend call fails, with this text. -/
  failed : Bool := false
  message : String := ""
  isCapacity : Bool := false
  /-- A yes or no of the backend. -/
  flag : Bool := false
  fingerprint : Option BaseFingerprint := none
  storageMb : Option UInt64 := none
  availability : WarmAvailability := .ready
  /-- A fresh identity and a fresh label suffix. -/
  id : Option AllocationId := none
  label : String := ""
  /-- How many steps the backend's run takes, and the next of them. -/
  count : ℕ := 0
  step : WorkerStep := .setVmCreated

/-- The moves of the environment. -/
inductive Env
  /-- The host changes by itself. -/
  | host (machines : List HostMachine)
  /-- A promotion, a sweep or the reconciliation at startup writes the warm
  records; `promoted` are the profiles that leave the quarantine by it. -/
  | images (records : List WarmImageRecord) (promoted : List ProfileName)
  /-- A reload puts a valid configuration in force. -/
  | reload (config : Config)
  /-- A shutdown closes the manager and cancels what runs. -/
  | close

/-! ## Operations -/

inductive Op
  | currentConfig
  | configChange
  | unixTime
  | hotLoadAll
  | hotLoad (vmName : VmName)
  /-- Write a record; `base` says what it was made from. -/
  | hotSave (base : Base) (guest : HotGuest)
  | hotRemove (vmName : VmName)
  | saveAllocation (allocation : Allocation)
  | loadRecent
  | imageLoad (profile : ProfileName)
  | isWarmQuarantined (profile : ProfileName)
  | quarantineWarm (profile : ProfileName)
  | machines
  | probeCached
  | cacheProbe (machines : List HostMachine)
  | baseFingerprint (template : VmName)
  | baseStorageMb (profile : ProfileName) (source : CloneSource)
  | backend
  | warmAvailability (record : WarmImageRecord)
  | isUnclaimedImage (warm : VmName)
  /-- The pool takes the finished allocation's guest over. -/
  | hotRetain (guest : HotGuest) (allocation : Allocation)
  | hotReset (guest : HotGuest)
  | isHotLive (guest : HotGuest)
  /-- The backend destroys a pool machine. -/
  | hotEvict (guest : HotGuest)
  | workerRun (allocation : Allocation)
  | workerStep (allocation : Allocation)
  | cloneGuest (allocation : Allocation)
  | workerResult (allocation : Allocation)
  | cleanup (allocation : Allocation)
  | ensureRecovered
  | lockEntries
  | unlockEntries
  /-- Under the lock: whether the manager is closing. -/
  | isClosing
  | newAllocationId
  /-- Insert the entry, trim the history, release the lock, spawn the worker;
  `seen` is the snapshot of the pool the decision was made on. -/
  | commit (allocation : Allocation) (profile : Profile) (seen : List HotGuest)
  | readEntries
  | putAllocation (allocation : Allocation)
  | isCancelled (id : AllocationId)
  | beginCancel (id : AllocationId)
  | awaitTerminal (id : AllocationId)
  | endTerminalizing (id : AllocationId)
  | releaseSupervision (id : AllocationId)
  | loadEntries (allocations : List Allocation)
  | isTeardownBounded
  | serve
  | note (n : Note)

/-- What an operation answers. -/
abbrev Op.Res : Op → Type
  | .currentConfig => Config
  | .configChange => Config × Config
  | .unixTime => UInt64
  | .hotLoadAll => Except StoreError (List HotGuest)
  | .hotLoad _ => Except StoreError (Option HotGuest)
  | .hotSave _ _ => Except StoreError Unit
  | .hotRemove _ => Except StoreError Unit
  | .saveAllocation _ => Except StoreError Unit
  | .loadRecent => Except StoreError (List Allocation)
  | .imageLoad _ => Except StoreError (Option WarmImageRecord)
  | .isWarmQuarantined _ => Bool
  | .quarantineWarm _ => Unit
  | .machines => Except WorkerError (List HostMachine)
  | .probeCached => Option (List HostMachine)
  | .cacheProbe _ => Unit
  | .baseFingerprint _ => Option BaseFingerprint
  | .baseStorageMb _ _ => Option UInt64
  | .backend => Backend
  | .warmAvailability _ => Except WorkerError WarmAvailability
  | .isUnclaimedImage _ => Except WorkerError Bool
  | .hotRetain _ _ => Except WorkerError Unit
  | .hotReset _ => Except WorkerError Unit
  | .isHotLive _ => Bool
  | .hotEvict _ => Except WorkerError Unit
  | .workerRun _ => ℕ
  | .workerStep _ => WorkerStep
  | .cloneGuest _ => Except WorkerError Unit
  | .workerResult _ => Except WorkerError Unit
  | .cleanup _ => Except WorkerError Unit
  | .ensureRecovered => Except WorkerError Unit
  | .lockEntries => List Entry
  | .unlockEntries => Unit
  | .isClosing => Bool
  | .newAllocationId => AllocationId × String
  | .commit _ _ _ => Unit
  | .readEntries => List Entry
  | .putAllocation _ => Bool
  | .isCancelled _ => Bool
  | .beginCancel _ => CancelTurn
  | .awaitTerminal _ => Unit
  | .endTerminalizing _ => Unit
  | .releaseSupervision _ => Unit
  | .loadEntries _ => Except ManagerError Unit
  | .isTeardownBounded => Bool
  | .serve => Unit
  | .note _ => Unit

/-- The manager's programs. -/
abbrev Manager (α : Type) := Prog Op Op.Res α

/-! ## Pieces of the state -/

/-- Earlier updated, then earlier created, then the smaller identity. -/
def Entry.isOlder (left right : Entry) : Prop :=
  let (a, b) := (left.allocation, right.allocation)
  a.updatedAtUnix < b.updatedAtUnix ∨ (a.updatedAtUnix = b.updatedAtUnix ∧
    (a.createdAtUnix < b.createdAtUnix ∨
      (a.createdAtUnix = b.createdAtUnix ∧ a.id.value ≤ b.id.value)))

instance (left right : Entry) : Decidable (left.isOlder right) :=
  inferInstanceAs (Decidable (_ ∨ _))

/-- Trim the resident history to `limit`, the oldest terminal entries first. -/
def pruneTerminalHistory (entries : List Entry) (limit : ℕ) : List Entry :=
  let terminal := (entries.filter (·.allocation.state.isTerminal)).insertionSort Entry.isOlder
  let removed := (terminal.take (entries.length - limit)).map Entry.id
  entries.filter fun entry => !removed.contains entry.id

/-- The durable history a new process loads: the newest `limit` allocations and
every unfinished one beyond them. -/
def loadRecent (allocations : List Allocation) (limit : ℕ) : List Allocation :=
  let newest := (allocations.insertionSort fun a b =>
    b.updatedAtUnix < a.updatedAtUnix ∨
      (b.updatedAtUnix = a.updatedAtUnix ∧ b.id.value ≤ a.id.value)).take limit
  newest ++ allocations.filter fun a => !a.state.isTerminal && !newest.any (·.id = a.id)

/-- How much finished history stays resident. -/
def historyLimit : ℕ := 1000

/-- Every number of an allocation fits its column. -/
def Allocation.isStorable (a : Allocation) : Bool :=
  a.request.runId.toNat < 2 ^ 63 && a.createdAtUnix.toNat < 2 ^ 63 &&
    a.updatedAtUnix.toNat < 2 ^ 63 && a.size.all (fun size => size.storageMb.toNat < 2 ^ 63) &&
    a.hotAgeSeconds.all (fun age => age.toNat < 2 ^ 63) &&
    a.warmGeneration.all (fun generation => generation.toNat < 2 ^ 63)

namespace State

/-- Let monotonic time pass. -/
def tick (s : State) (elapsed : ℕ) : State := { s with clock := s.clock + elapsed }

/-- The allocation under an identity. -/
def allocation? (s : State) (id : AllocationId) : Option Allocation :=
  (Table.get Entry.id id s.entries).map (·.allocation)

/-- How long a listing may be reused, in nanoseconds. -/
def probeTtl (s : State) : ℕ := s.config.runtime.pollSeconds.toNat * 1000000000

/-- The cached listing, while it is younger than a poll interval. -/
def cachedListing (s : State) : Option (List HostMachine) :=
  match s.probe with
  | some (takenAt, machines) => if s.clock - takenAt < s.probeTtl then some machines else none
  | none => none

/-- The machine under a name is gone from the host. -/
def withoutMachine (s : State) (name : String) : State :=
  { s with host := s.host.filter fun machine => machine.name ≠ name }

end State

end FlanForge
