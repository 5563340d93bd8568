import FlanForge.Common.Service
import FlanForge.Libvirt.Guest

/-!
# Booting and tearing down a guest

The programs of the libvirt worker over `Libvirt.Guest`: what a boot leaves on
disk and in which order, the allocation's own cleanup, the destruction the
reaper and the eviction of a pool machine share, and the pool's gate. The
worker's two halves of a cleanup run side by side in the source; the runner's
deletion touches nothing of the host, so its place does not matter.

A new process finds what is on disk. It has no claims.
-/

namespace FlanForge

namespace Guest

/-- A sequence that stops at its first failure. -/
abbrev Task (α : Type) := ExceptT WorkerError (Prog GuestOp GuestOp.Res) α

/-- One operation by itself. -/
abbrev perform (op : GuestOp) : GuestProg op.Res := Prog.perform op

/-- A check that can stop the sequence. -/
def ensure (result : Except RuntimeError Unit) : Task Unit :=
  match result with
  | .ok _ => pure ()
  | .error e => throw (runtimeError e)

variable (site : Site)

/-! ## Ownership checks -/

/-- The reaper's check, without the service instance. -/
def ensureReapable (manifest : OwnershipManifest) (id : AllocationId) (name : String) :
    Except RuntimeError Unit := do
  checked manifest.ensureValid
  if manifest.allocationId ≠ id || manifest.domainName ≠ name ||
      manifest.knownHostsFile ≠ site.knownHosts id then
    .error (.ownership "durable allocation and libvirt manifest disagree")
  else manifest.ensureRecoveryArtifacts

def ensureMatches (manifest : OwnershipManifest) (id : AllocationId) (name : String) :
    Except RuntimeError Unit := do
  checked manifest.ensureValid
  if manifest.allocationId ≠ id || manifest.domainName ≠ name ||
      manifest.serviceInstance ≠ site.serviceInstance ||
      manifest.knownHostsFile ≠ site.knownHosts id then
    .error (.ownership "durable allocation and libvirt manifest disagree")
  else manifest.ensureRecoveryArtifacts

/-! ## Booting -/

/-- The manifest of a guest that is about to be made. -/
def intent (allocation : Allocation) (hostKeyAlias : String) : Task OwnershipManifest := do
  let (domainUuid, artifact) ← ExceptT.lift (perform (.newIdentities allocation.id))
  let now ← ExceptT.mk (perform .unixTime)
  let manifest : OwnershipManifest :=
    { schemaVersion := 1
      allocationId := allocation.id
      serviceInstance := site.serviceInstance
      domainName := allocation.vmName.value
      domainUuid := domainUuid
      macAddress := macFor allocation.id
      overlay := ⟨"root-" ++ artifact ++ ".qcow2", none⟩
      seed := ⟨"seed-" ++ artifact ++ ".img", none⟩
      hostKeyAlias := hostKeyAlias
      knownHostsFile := site.knownHosts allocation.id
      createdUnixSeconds := now }
  ensure (checked manifest.ensureValid)
  return manifest

/-- A manifest that cannot be saved leaves resources no durable record
authorizes, so they are destroyed before the error escapes. -/
def persistOrCleanup (manifest : OwnershipManifest) (id : AllocationId) : Task Unit :=
  ExceptT.mk do
    match ← perform (.saveOwnership id manifest) with
    | .ok _ => perform (.removeCheckpoint id)
    | .error e =>
      match ← perform (.cleanup manifest) with
      | .ok _ =>
        let _ ← perform (.removeCheckpoint id)
        return .error e
      | .error _ => return .error e

/-- Nothing durable is claimed before its record is. -/
def bootDomain (allocation : Allocation) : Task OwnershipManifest := do
  let hostKeyAlias ← ExceptT.mk (perform (.buildSeed allocation.id))
  ExceptT.mk (perform (.createDirectory allocation.id))
  let manifest ← intent site allocation hostKeyAlias
  ExceptT.mk (perform (.writeKnownHosts allocation.id))
  ExceptT.mk (perform (.saveOwnership allocation.id manifest))
  ExceptT.mk (perform (.ensureNotCancelled "before guest resource creation"))
  let manifest ← ExceptT.mk (perform (.create manifest))
  persistOrCleanup manifest allocation.id
  ExceptT.mk (perform (.ensureNotCancelled "after guest resource creation"))
  ExceptT.mk (perform (.define manifest))
  ExceptT.mk (perform (.setVmCreated allocation.id))
  ExceptT.mk (perform (.ensureNotCancelled "after domain definition"))
  ExceptT.mk (perform (.transition allocation.id .booting))
  ExceptT.mk (perform (.start manifest))
  return manifest

/-! ## Cleanup -/

inductive GuestCleanup
  | empty
  | owned (manifest : OwnershipManifest)
  | tombstoned

/-- The manifest with the keys the journal knows, saved before it is acted on. -/
def recoverKeys (id : AllocationId) (manifest : OwnershipManifest) : Task OwnershipManifest := do
  match ← ExceptT.mk (perform (.loadCheckpoint id)) with
  | none => return manifest
  | some checkpoint =>
    match mergeAllocation checkpoint manifest site.serviceInstance site.pool with
    | .error e => throw (runtimeError e)
    | .ok merged =>
      ExceptT.mk (perform (.saveOwnership id merged))
      return merged

/-- Destroy what the manifest names. Without a manifest, the tombstone has to
say that it was done, or nothing was ever made. -/
def cleanupGuest (allocation : Allocation) : Task GuestCleanup := do
  match ← ExceptT.mk (perform (.loadOwnership allocation.id)) with
  | none =>
    if !allocation.vmCreated then
      match ← ExceptT.mk (perform (.loadCheckpoint allocation.id)) with
      | some _ => throw (.new "volume checkpoint exists without allocation ownership")
      | none => return .empty
    else
      match ← ExceptT.mk (perform (.loadCleanup allocation.id)) with
      | none => throw (.new "ownership authority is absent for a created libvirt guest")
      | some tombstone =>
        ensure (tombstone.ensureMatches allocation.id allocation.vmName site.serviceInstance)
        ExceptT.mk (perform (.removeCheckpoint allocation.id))
        return .tombstoned
  | some manifest =>
    ensure (ensureMatches site manifest allocation.id allocation.vmName.value)
    let manifest ← recoverKeys site allocation.id manifest
    ExceptT.mk (perform (.cleanup manifest))
    return .owned manifest

/-- Everything but the tombstone and the directory itself. -/
def removeAuthorityFiles (id : AllocationId) : Task Unit := do
  if ← ExceptT.mk (perform (.statDirectory id)) then
    ExceptT.mk (perform (.removeTemporaries id))
    ExceptT.mk (perform (.removeFile id .knownHosts))
    ExceptT.mk (perform (.removeFile id .ownership))
    ExceptT.mk (perform (.removeFile id .checkpoint))
    ExceptT.mk (perform (.syncDirectory id))

def removeEmptyLocalState (id : AllocationId) : Task Unit := do
  removeAuthorityFiles id
  if ← ExceptT.mk (perform (.removeDirectory id)) then
    ExceptT.mk (perform .syncAllocations)

def finalizeLocalState (id : AllocationId) : GuestCleanup → Task Unit
  | .tombstoned => pure ()
  | .owned manifest => do
    ExceptT.mk (perform (.recordCleanup manifest))
    removeAuthorityFiles id
  | .empty => removeEmptyLocalState id

/-- Authority stays until the runner is deleted too, unless the guest was gone
before. -/
def finishCleanup (id : AllocationId) (guest : Except WorkerError GuestCleanup)
    (runner : Except WorkerError Unit) : Task Unit :=
  match guest with
  | .error e => throw e
  | .ok .tombstoned => pure ()
  | .ok guest =>
    match runner with
    | .error e => throw e
    | .ok _ => finalizeLocalState id guest

/-- The end of an allocation. A machine the pool holds is not the allocation's
to destroy. -/
def cleanup (allocation : Allocation) : Task Unit := ExceptT.mk do
  if allocation.origin.isHotReuse then perform (.deleteRunner allocation.id)
  else if ← perform (.isClaimed allocation.vmName) then perform (.deleteRunner allocation.id)
  else
    let guest ← (cleanupGuest site allocation).run
    let runner ← perform (.deleteRunner allocation.id)
    (finishCleanup allocation.id guest runner).run

/-! ## Destruction by manifest -/

/-- The first readable manifest that names the domain, in the order of the
directory. -/
def findIn (domainName : String) : List AllocationId → Task AllocationId
  | [] => throw (runtimeError (.ownership "no libvirt ownership manifest claims that domain"))
  | id :: ids => ExceptT.mk do
    match ← perform (.loadOwnership id) with
    | .ok (some manifest) =>
      if manifest.domainName = domainName then return .ok id else (findIn domainName ids).run
    | _ => (findIn domainName ids).run

def maxScannedAllocations : ℕ := 4096

/-- The allocation whose manifest claims the domain. -/
def findByDomain (domainName : String) : Task AllocationId := do
  let ids ← ExceptT.mk (perform .readAllocations)
  ExceptT.mk do
    match ← (findIn domainName (ids.take maxScannedAllocations)).run with
    | .ok id => return .ok id
    | .error e =>
      if ids.length > maxScannedAllocations then
        return .error
          (runtimeError (.manifest "libvirt state holds too many allocations to search"))
      else return .error e

def loadOwned (id : AllocationId) : Task OwnershipManifest := do
  match ← ExceptT.mk (perform (.loadOwnership id)) with
  | some manifest => return manifest
  | none => throw (.new "libvirt manifest is absent")

/-- The registration outlives the guest otherwise; a failure is only logged. -/
def deleteRegistration : Option Allocation → Task Unit
  | some allocation => do
    let _ ← ExceptT.lift (perform (.deleteRunner allocation.id))
  | none => pure ()

/-- Destroy everything one manifest claims, then retire its authority. -/
def ensureReaped (id : AllocationId) (name : VmName) (registration : Option Allocation) :
    Task Unit := do
  let manifest ← loadOwned id
  ensure (ensureReapable site manifest id name.value)
  ExceptT.mk (perform (.cleanup manifest))
  deleteRegistration registration
  ExceptT.mk (perform (.recordCleanup manifest))
  removeAuthorityFiles id

/-- The allocation a deletion may act on. -/
def reapableAllocation (authorization : ReapAuthorization) (name : VmName) : Task AllocationId :=
  match authorization with
  | .record id => pure id
  | .vmPrefix => findByDomain name.value
  | .staging _ | .image _ =>
    throw (.new "libvirt retires images on the sweep, never through a deletion")

def deleteVm (reserved : List String) (authorization : ReapAuthorization) (name : VmName)
    (registration : Option Allocation) : Task Unit := do
  if reserved.contains name.value then
    throw (.new "refusing to delete a name live configuration claims")
  let id ← reapableAllocation authorization name
  ensureReaped site id name registration

/-! ## The pool -/

/-- A channel to a machine the pool holds. -/
def bindHot (name : VmName) : Task OwnershipManifest := do
  let id ← findByDomain name.value
  let manifest ← loadOwned id
  ensure (ensureMatches site manifest id name.value)
  ExceptT.mk (perform (.useGuest manifest "address"))
  return manifest

/-- The recycle gate; a machine that comes back clean is the pool's. -/
def resetHot (name : VmName) : Task Unit := do
  let manifest ← bindHot site name
  ExceptT.mk (perform (.useGuest manifest "recycle gate"))
  ExceptT.lift (perform (.ensureClaimed name))

def retainHot (allocation : Allocation) (name : VmName) : Task Unit :=
  if allocation.vmName ≠ name then
    throw (.new "the hot record does not name this allocation's guest")
  else ExceptT.mk do
    perform (.ensureClaimed name)
    match ← (resetHot site name).run with
    | .ok _ => return .ok ()
    | .error e =>
      perform (.release name)
      return .error e

/-- Destroy a pool machine and everything its manifest claims. -/
def evictHot (name : VmName) : Task Unit := do
  ExceptT.lift (perform (.release name))
  let id ← findByDomain name.value
  ensureReaped site id name none

/-! ## A job -/

/-- A guest of its own, or the machine the manager placed the job on. -/
def prepare (allocation : Allocation) : Task OwnershipManifest :=
  match allocation.origin.hotVmName with
  | some name => bindHot site name
  | none => do
    ExceptT.mk (perform (.transition allocation.id .preparing))
    let manifest ← bootDomain site allocation
    ExceptT.mk (perform (.useGuest manifest "readiness"))
    return manifest

def run (allocation : Allocation) : Task Unit := do
  let manifest ← prepare site allocation
  ExceptT.mk (perform (.transition allocation.id .registering))
  ExceptT.mk (perform (.useGuest manifest "job"))

end Guest

/-! ## The service -/

/-- What the worker is asked for. -/
inductive GuestKind
  | run (allocation : Allocation)
  | cleanup (allocation : Allocation)
  | deleteVm (reserved : List String) (authorization : ReapAuthorization) (name : VmName)
      (registration : Option Allocation)
  | retainHot (allocation : Allocation) (name : VmName)
  | resetHot (name : VmName)
  | evictHot (name : VmName)

namespace Guest

/-- The result of a request goes to the manager. -/
def answered {α : Type} (task : Task α) : GuestProg Unit := do
  let _ ← task.run

def code (site : Site) : GuestKind → GuestProg Unit
  | .run allocation => answered (run site allocation)
  | .cleanup allocation => answered (cleanup site allocation)
  | .deleteVm reserved authorization name registration =>
    answered (deleteVm site reserved authorization name registration)
  | .retainHot allocation name => answered (retainHot site allocation name)
  | .resetHot name => answered (resetHot site name)
  | .evictHot name => answered (evictHot site name)

/-- The worker of a site. A new process has no claims and nothing to do before
it serves. -/
def service (site : Site) : Service GuestHost GuestOp GuestOp.Res GuestAnswer GuestKind where
  exec := guestExec site
  code := code site
  recovery := .ret true
  crash s := { s with claimed := [] }

/-- The record an allocation is handed over with is the durable one. -/
def isRecorded (site : Site) (s : GuestHost) (allocation : Allocation) : Bool :=
  allocation.vmName = site.vmName allocation.id && allocation.vmCreated = s.created.contains
    allocation.id

/-- What the manager asks for: with records as they are stored. -/
def requests (site : Site) : Conditions GuestHost GuestOp GuestAnswer GuestKind where
  call _ _ _ := true
  start s
    | .run allocation => isRecorded site s allocation
    | .cleanup allocation => isRecorded site s allocation
    | _ => true
  crash _ := true

/-- A new installation: nothing on disk, and the host's other domains and
volumes are not the service's. -/
structure Installed (site : Site) (s : GuestHost) : Prop where
  directories : s.directories = []
  created : s.created = []
  claimed : s.claimed = []
  domains : ∀ domain ∈ s.domains, ∀ id,
    domain.uuid ≠ site.domainUuid id ∧ domain.name ≠ (site.vmName id).value
  volumes : ∀ id, site.overlayName id ∉ s.volumes ∧ site.seedName id ∉ s.volumes

end Guest

end FlanForge
