import FlanForge.Common.Prog
import FlanForge.Reaper.Plan

/-!
# Making and recovering warm images

The manager's part of warm images: whether an allocation may produce the
next one and as which generation, the two ways a record is written, and the
reconciliation of records against the backend when a process starts. It is
written over `WarmPort`, what this code asks of the stores and the backend,
since the two backends answer it in their own way.

Log lines are left out. A record write can fail only in the store, so these
functions return the store's error.
-/

namespace FlanForge

variable {Op : Type} {Res : Op → Type}

/-- What a deletion is asked with: the name, what permits it, and the names
live configuration claims. -/
structure ReapRequest where
  name : VmName
  authorization : ReapAuthorization
  profile : Option Profile
  record : Option WarmImageRecord
  reserved : List String

/-- What a sweep knows about the profiles: the warm name each declares, and
those a record claims. -/
structure ImageSweep where
  isDryRun : Bool
  declared : List (ProfileName × VmName)
  claimed : List ProfileName

/-- What a sweep reports about one entry. -/
structure RetiredImage where
  profile : ProfileName
  generation : UInt64
  ageSeconds : UInt64
  isDeleted : Bool
  reason : String
  deriving DecidableEq

/-- What the manager's warm code asks of its stores and its backend. -/
structure WarmPort (Op : Type) (Res : Op → Type) where
  currentConfig : Prog Op Res Config
  load : ProfileName → Prog Op Res (Except StoreError (Option WarmImageRecord))
  save : WarmImageRecord → Prog Op Res (Except StoreError Unit)
  remove : ProfileName → Prog Op Res (Except StoreError Unit)
  /-- A promoted image is no longer quarantined. -/
  unquarantine : ProfileName → Prog Op Res Unit
  setRetention : AllocationId → RetentionOutcome → Prog Op Res (Except ManagerError Unit)
  /-- The host listing, which may be a poll interval old. -/
  hostMachines : Prog Op Res (Except WorkerError (List HostMachine))
  machines : Prog Op Res (Except WorkerError (List HostMachine))
  warmAvailability : Profile → WarmImageRecord → List HostMachine →
    Prog Op Res (Except WorkerError WarmAvailability)
  isUnclaimedImage : VmName → List HostMachine → Prog Op Res (Except WorkerError Bool)
  ensureWarmRestored : Profile → WarmImageRecord → Prog Op Res (Except WorkerError Unit)
  deleteVm : ReapRequest → Prog Op Res (Except WorkerError Unit)

/-! ## Records -/

/-- Write the record of a candidate or of a promoted image. -/
def recordWarmImage (port : WarmPort Op Res) (record : WarmImageRecord) :
    Prog Op Res (Except StoreError Unit) := do
  if record.state = .promoted then
    port.unquarantine record.profile
  port.save record

/-- The record of the generation that survives. -/
def revertedRecord (profile : ProfileName) (warmTemplate : VmName) (previous : WarmGeneration) :
    WarmImageRecord where
  profile := profile
  warmTemplate := warmTemplate
  generation := previous.generation
  baseFingerprint := previous.baseFingerprint
  producedBy := previous.producedBy
  producedAtUnix := previous.producedAtUnix
  state := .promoted
  previous := none

/-- Rewrite a profile's record as the generation that survives an abandoned
promotion, or drop it when none does. -/
def ensureWarmReverted (port : WarmPort Op Res) (profile : ProfileName) (warmTemplate : VmName) :
    Option WarmGeneration → Prog Op Res (Except StoreError Unit)
  | some previous => port.save (revertedRecord profile warmTemplate previous)
  | none => port.remove profile

/-! ## Authority to produce -/

/-- What retention may write. -/
structure RetentionPlan where
  warmTemplate : VmName
  generation : UInt64
  previous : Option WarmGeneration
  deriving DecidableEq

/-- What a record keeps of itself when the next generation replaces it. -/
def WarmImageRecord.toGeneration (record : WarmImageRecord) : WarmGeneration where
  generation := record.generation
  baseFingerprint := record.baseFingerprint
  producedBy := record.producedBy
  producedAtUnix := record.producedAtUnix

/-- The warm name an allocation may produce under this configuration: the
profile still declares it, and the guest was cloned from the template. -/
def producibleName (config : Config) (allocation : Allocation) : Option VmName :=
  (config.profile? allocation.request.profile).bind fun profile =>
    profile.warmTemplate.bind fun warm =>
      if profile.regenerationWorkflow.isNone then none
      else if allocation.source.all (·.name ≠ profile.template) then none
      else some warm

/-- The plan after a look at the record. -/
def RetentionPlan.after (warm : VmName) (record : Option WarmImageRecord) : RetentionPlan where
  warmTemplate := warm
  generation := record.elim 1 (·.generation + 1)
  previous := record.map (·.toGeneration)

/-- Re-read production authority at retention time. The name is compared with
the host only when the profile has no record at all. -/
def retentionPlan (port : WarmPort Op Res) (allocation : Allocation) :
    Prog Op Res (Except ManagerError (Option RetentionPlan)) := do
  if !allocation.isRetentionEligible then return .ok none
  match producibleName (← port.currentConfig) allocation with
  | none => return .ok none
  | some warm =>
    match ← port.load allocation.request.profile with
    | .error e => return .error (.store e)
    | .ok record =>
      match ← port.hostMachines with
      | .error e => return .error (.worker e)
      | .ok listing =>
        if record.isSome then return .ok (some (.after warm record))
        match ← port.isUnclaimedImage warm listing with
        | .error e => return .error (.worker e)
        | .ok true => return .ok none
        | .ok false => return .ok (some (.after warm record))

/-! ## Recovery -/

/-- The record becomes `promoted` as it stands. -/
def finalizeRecord (port : WarmPort Op Res) (record : WarmImageRecord) :
    Prog Op Res (Except StoreError Unit) :=
  port.save { record with state := .promoted }

def revertRecord (port : WarmPort Op Res) (record : WarmImageRecord) :
    Prog Op Res (Except StoreError Unit) :=
  ensureWarmReverted port record.profile record.warmTemplate record.previous

/-- Put the surviving generation back. The record reverts either way. -/
def restoreWarm (port : WarmPort Op Res) (profile : Profile) (record : WarmImageRecord) :
    Prog Op Res Unit := do
  let _ ← port.ensureWarmRestored profile record
  let _ ← revertRecord port record

def deleteStaged (port : WarmPort Op Res) (name : ProfileName) (profile : Profile)
    (record : WarmImageRecord) (staging : VmName) : Prog Op Res Unit := do
  let config ← port.currentConfig
  let _ ← port.deleteVm
    { name := staging
      authorization := .staging name
      profile := some profile
      record := some record
      reserved := reservedImageNames config }

/-- The producing allocation's history says that it was interrupted. -/
def markRetentionInterrupted (port : WarmPort Op Res) (record : WarmImageRecord) :
    Prog Op Res Unit := do
  let _ ← port.setRetention record.producedBy
    (.new .failed .promote "the daemon restarted during promotion" (some record.generation))

/-- Settle the record, once it is known whether the image under the warm name
and the candidate are there. -/
def settleRecord (port : WarmPort Op Res) (profile : Profile) (record : WarmImageRecord)
    (warmPresent stagingPresent : Bool) : Prog Op Res (Except StoreError Unit) :=
  if warmPresent && stagingPresent && record.state = .promoted then
    -- interrupted after it completed: only the candidate goes
    return .ok ()
  else if warmPresent && record.state = .staging && !stagingPresent then
    -- taken as finished but never recorded
    finalizeRecord port record
  else if warmPresent && record.state = .staging then do
    -- taken as interrupted before anything was retired
    let _ ← revertRecord port record
    return .ok ()
  else if !warmPresent then do
    restoreWarm port profile record
    return .ok ()
  else return .ok ()

/-- What follows for one record. -/
def reconcile (port : WarmPort Op Res) (name : ProfileName) (profile : Profile)
    (record : WarmImageRecord) (staging : VmName) (warmPresent stagingPresent : Bool) :
    Prog Op Res (Except ManagerError Unit) := do
  match ← settleRecord port profile record warmPresent stagingPresent with
  | .error e => return .error (.store e)
  | .ok _ =>
    if stagingPresent then deleteStaged port name profile record staging
    if record.state = .staging then markRetentionInterrupted port record
    return .ok ()

/-- One profile of the configuration. -/
def reconcileProfile (port : WarmPort Op Res) (machines : List HostMachine)
    (entry : ProfileName × Profile) : Prog Op Res (Except ManagerError Unit) := do
  let (name, profile) := entry
  if profile.warmTemplate.isNone then return .ok ()
  match ← port.load name with
  | .error e => return .error (.store e)
  | .ok none => return .ok ()
  | .ok (some record) =>
    match record.stagingName, record.previousName with
    | .ok staging, .ok _ =>
      match ← port.warmAvailability profile record machines with
      | .error _ => return .ok ()
      | .ok availability =>
        reconcile port name profile record staging
          (availability = .ready || availability = .busy)
          (machines.any fun machine => machine.name = staging.value)
    -- underivable names are skipped
    | _, _ => return .ok ()

/-- Reconcile each declaring profile's warm image against the backend. -/
def ensureWarmConsistent (port : WarmPort Op Res) (config : Config) :
    Prog Op Res (Except ManagerError Unit) := do
  match ← port.machines with
  | .error e => return .error (.worker e)
  | .ok machines => Prog.tryEach config.profiles (reconcileProfile port machines)

end FlanForge
