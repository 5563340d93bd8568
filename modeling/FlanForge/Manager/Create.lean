import FlanForge.Manager.Lifecycle

/-!
# Creating an allocation

`create` in the order of the source: authorize and resolve, free what the
pool holds in the way, probe the host and read the pool, and only then take
the entries lock for the fold, the claim and the commit. Everything the
fold reads about the host and the pool was read before the lock.
-/

namespace FlanForge

open Prog (perform)

/-! ## The clone source -/

structure SourceSelection where
  source : CloneSource
  warmGeneration : Option UInt64

def templateSource (profile : Profile) (baseFingerprint : Option BaseFingerprint)
    (fallbackReason : Option FallbackReason) : CloneSource :=
  ⟨profile.template, .template, baseFingerprint, fallbackReason⟩

/-- An image nobody recorded, or none at all. -/
def missingRecord (warm : VmName) : Manager FallbackReason := do
  match ← perform (Op.isUnclaimedImage warm) with
  | .ok true => pure .unclaimed
  | .ok false => pure .noRecord
  | .error _ => pure .absent

/-- The usable warm image of a record, or the reason it is not usable. -/
def recordedWarmSource (warm : VmName) (record : WarmImageRecord)
    (fingerprint : Option BaseFingerprint) : Manager (Except FallbackReason SourceSelection) :=
  if record.warmTemplate ≠ warm then pure (.error .repointed)
  else if record.state ≠ .promoted then pure (.error .notPromoted)
  else do
    match ← perform (Op.warmAvailability record) with
    | .error _ => pure (.error .absent)
    | .ok .busy => pure (.error .notStopped)
    | .ok .absent => pure (.error .absent)
    | .ok .ready =>
      match fingerprint with
      | none => pure (.error .fingerprintUnavailable)
      | some current =>
        if !isFingerprintMatch (some record.baseFingerprint) (some current) then
          pure (.error .staleBase)
        else
          pure (.ok ⟨⟨warm, .warm, some record.baseFingerprint, none⟩, some record.generation⟩)

/-- The profile's warm image, or the reason it is not usable. -/
def warmSource (name : ProfileName) (profile : Profile) (fingerprint : Option BaseFingerprint) :
    Manager (Except FallbackReason SourceSelection) :=
  match profile.warmTemplate with
  | none => pure (.error .notDeclared)
  | some warm => do
    let backend ← perform Op.backend
    if !backend.warmImages then pure (.error .unsupported)
    else
      let isQuarantined ← perform (Op.isWarmQuarantined name)
      if isQuarantined then pure (.error .quarantined)
      else
        match ← hostMachines with
        | .error _ => pure (.error .absent)
        | .ok _ =>
          match ← perform (Op.imageLoad name) with
          | .ok (some record) => recordedWarmSource warm record fingerprint
          | _ =>
            let reason ← missingRecord warm
            pure (.error reason)

/-- The clone source, failing toward the cold template. -/
def resolveSource (name : ProfileName) (profile : Profile) (mode : AllocationMode) :
    Manager SourceSelection := do
  let fingerprint ← perform (Op.baseFingerprint profile.template)
  if mode ≠ .warm then pure ⟨templateSource profile fingerprint none, none⟩
  else
    match ← warmSource name profile fingerprint with
    | .ok selection => pure selection
    | .error reason => pure ⟨templateSource profile fingerprint (some reason), none⟩

/-- The size, floored at the base the guest boots from. -/
def effectiveSize (size : GuestSize) (profile : ProfileName) (source : CloneSource) :
    Manager GuestSize := do
  match ← perform (Op.baseStorageMb profile source) with
  | none => pure size
  | some baseMb => pure (floored size baseMb)

/-! ## Authorization -/

/-- Everything `authorize` settled. -/
structure Resolved where
  profile : Profile
  size : GuestSize
  mode : AllocationMode
  source : SourceSelection
  lane : HotLane
  ageSeconds : Option UInt64

/-- Authorize the request against its profile and resolve what admission and
the record need. -/
def authorize (config : Config) (request : AllocationRequest) (options : RequestOptions)
    (claims : ForgejoClaims) : Manager (Except ManagerError Resolved) :=
  if !request.isValid then pure (.error .invalidRequest)
  else
    match profile config request with
    | .error e => pure (.error e)
    | .ok profile =>
      match claims.ensureAuthorized profile request with
      | .error e => pure (.error (.authorization e))
      | .ok _ =>
        match resolveSize options profile, resolveHotAge options.hot profile with
        | some size, some ageSeconds => do
          let mode := resolveMode options profile (claims.workflowFile.getD "")
          let source ← resolveSource request.profile profile mode
          let size ← effectiveSize size request.profile source.source
          pure (.ok ⟨profile, size, mode, source, .fromRefProtected claims.isRefProtected,
            ageSeconds⟩)
        | _, _ => pure (.error .requestExceedsProfile)

/-! ## The pool before admission -/

/-- The hot policy that admits a claim of this profile and lane, if any. -/
def hotContext (config : Config) (name : ProfileName) (profile : Profile) (lane : HotLane)
    (ageSeconds : Option UInt64) : Manager (Option HotContext) :=
  match profile.enabledHot with
  | none => pure none
  | some hot =>
    if config.runtime.maxHotVms = 0 || !hot.lanes.isLaneAdmitted lane then pure none
    else do
      let backend ← perform Op.backend
      if !backend.hotGuests then pure none
      else
        let fingerprint ← perform (Op.baseFingerprint profile.template)
        let warmGeneration ← promotedGeneration name
        pure (some ⟨hot, name, lane, fingerprint, warmGeneration, config.runtime.maxHotVms,
          ageSeconds⟩)

/-- The machines of the profile go first when the run asks for that. -/
def evictRequested (request : AllocationRequest) (options : RequestOptions) : Manager Unit :=
  if options.hot.isEvicting then ensureHotEvictedFor request.profile .evictRequested else pure ()

/-- Run what a `hot` request asks for before admission folds. -/
def prepareHot (config : Config) (request : AllocationRequest) (resolved : Resolved)
    (options : RequestOptions) : Manager (Option HotContext) := do
  evictRequested request options
  ensureHotYielded config resolved.size
  if (resolved.mode = .cold || resolved.mode = .warm) && options.hot.isRetaining then
    hotContext config request.profile resolved.profile resolved.lane resolved.ageSeconds
  else pure none

/-! ## Under the lock -/

/-- What admission built under the lock, ready to be committed. -/
structure Admitted where
  allocation : Allocation
  claim : Option HotClaim
  /-- The snapshot of the pool it was decided on. -/
  seen : List HotGuest

/-- The refusals of admission, in order: closing, a live predecessor, a second
producer, an unreadable host or pool, capacity. -/
def admission (config : Config) (request : AllocationRequest) (resolved : Resolved)
    (machines : Except WorkerError (List HostMachine))
    (hot : Except StoreError (List HotGuest)) (entries : List Entry) (isClosing : Bool) :
    Except (Except ManagerError Allocation) (List HotGuest) :=
  if isClosing then .error (.error .shuttingDown)
  else
    match idempotent entries request with
    | some existing => .error (.ok existing)
    | none =>
      match ensureSoleProducer entries request.profile resolved.mode with
      | .error e => .error (.error e)
      | .ok _ =>
        match machines with
        | .error _ => .error (.error (busy .probeFailed none))
        | .ok machines =>
          match hotSnapshot hot config with
          | .error e => .error (.error e)
          | .ok hot =>
            match ensureCapacity entries config resolved.size machines hot with
            | .error e => .error (.error e)
            | .ok _ => .ok hot

/-- The allocation's record, with what admission decided about its `hot`
request. -/
def buildAllocation (config : Config) (request : AllocationRequest) (options : RequestOptions)
    (resolved : Resolved) (context : Option HotContext) (backend : Backend) (entries : List Entry)
    (hot : List HotGuest) (id : AllocationId) (label : String) (now : UInt64) :
    Except ManagerError Admitted :=
  match Identifier.new runnerLabelRules (resolved.profile.runnerLabel.value ++ "-" ++ label) with
  | .error e => .error (.invalidRunnerLabel e)
  | .ok runnerLabel =>
    match vmName config request with
    | .error e => .error e
    | .ok vmName =>
      let allocation := Allocation.new id now request vmName runnerLabel resolved.mode resolved.size
      let allocation :=
        if backend.isCloneSourceEvidenceDeferred then allocation
        else allocation.setCloneSource resolved.source.source resolved.source.warmGeneration now
      let claim := context.bind fun context => planHotClaim entries hot context id now
      let decision : HotDecision :=
        ⟨claim, context, resolved.lane, resolved.ageSeconds, resolved.mode,
          config.runtime.maxHotVms⟩
      .ok ⟨decision.apply allocation options resolved.profile now, claim, hot⟩

/-- Give a claim back when its allocation never became durable. -/
def abandonHotClaim (claim : Option HotClaim) : Manager Unit :=
  match claim with
  | some (.reused _ guest _ _) => ensureHotDrained guest .resetFailed
  | _ => pure ()

/-- Commit the claim beside the allocation, and spawn the worker. -/
def commitAdmitted (admitted : Admitted) (profile : Profile) :
    Manager (Except ManagerError Allocation) := do
  match ← claimSaved with
  | .error e =>
    perform Op.unlockEntries
    pure (.error (.store e))
  | .ok _ =>
    match ← perform (Op.saveAllocation admitted.allocation) with
    | .error e =>
      abandonHotClaim admitted.claim
      perform Op.unlockEntries
      pure (.error (.store e))
    | .ok _ =>
      perform (Op.commit admitted.allocation profile admitted.seen)
      pure (.ok admitted.allocation)
where
  /-- The claimed record is stored first. -/
  claimSaved : Manager (Except StoreError Unit) :=
    match admitted.claim with
    | some (.reused base guest _ _) => perform (Op.hotSave (.copy base) guest)
    | _ => pure (.ok ())

/-- Everything `create` does while it holds the lock. -/
def createLocked (config : Config) (request : AllocationRequest) (options : RequestOptions)
    (resolved : Resolved) (context : Option HotContext)
    (machines : Except WorkerError (List HostMachine))
    (hot : Except StoreError (List HotGuest)) (entries : List Entry) :
    Manager (Except ManagerError Allocation) := do
  let isClosing ← perform Op.isClosing
  match admission config request resolved machines hot entries isClosing with
  | .error answer =>
    perform Op.unlockEntries
    pure answer
  | .ok hot =>
    let (id, label) ← perform Op.newAllocationId
    let now ← perform Op.unixTime
    let backend ← perform Op.backend
    match buildAllocation config request options resolved context backend entries hot id label
      now with
    | .error e =>
      perform Op.unlockEntries
      pure (.error e)
    | .ok admitted => commitAdmitted admitted resolved.profile

/-- Create an authorized allocation, or return its live predecessor. -/
def create (request : AllocationRequest) (options : RequestOptions) (claims : ForgejoClaims) :
    Manager (Except ManagerError Allocation) := do
  let config ← perform Op.currentConfig
  match ← authorize config request options claims with
  | .error e => pure (.error e)
  | .ok resolved =>
    let context ← prepareHot config request resolved options
    let machines ← hostMachines
    let hot ← perform Op.hotLoadAll
    let entries ← perform Op.lockEntries
    createLocked config request options resolved context machines hot entries

end FlanForge
