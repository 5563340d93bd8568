import FlanForge.Libvirt.Host

/-!
# Promotion on libvirt

The sequence that captures the guest of a regeneration as a new volume and
repoints the profile at it, its rollback, and the service they belong to:
regenerations and reloads one after the other, each of which can be cut
short at any call, and a recovery that runs when the process starts again.

The source's `?` is the `ExceptT` layer here: a step that fails ends the
sequence with what the rollback has to know. The reconciliation of image
imports, which belongs to the operator's commands, is left out.
-/

namespace FlanForge

namespace Libvirt

/-! ## Requests -/

/-- Everything one promotion needs. -/
structure WarmRequest where
  allocation : Allocation
  profile : ProfileName
  warmTemplate : VmName
  baseFingerprint : BaseFingerprint
  generation : UInt64
  previous : Option WarmGeneration
  virtualBytes : UInt64

/-- Where a promotion stopped. -/
structure Stopped where
  phase : RetentionPhase
  result : RetentionResult
  reason : String
  /-- The record was written as `staging`, or may have been. -/
  isRecordStaged : Bool

def stop (phase : RetentionPhase) (result : RetentionResult) (error : WorkerError) : Stopped :=
  ⟨phase, result, error.message, false⟩

def stopStaged (phase : RetentionPhase) (result : RetentionResult) (error : WorkerError) :
    Stopped :=
  { stop phase result error with isRecordStaged := true }

def outcome (result : RetentionResult) (phase : RetentionPhase) (reason : String)
    (generation : UInt64) : RetentionOutcome :=
  .new result phase reason (some generation)

/-- A sequence that stops at its first failure. -/
abbrev Promotion (α : Type) := ExceptT Stopped (Prog LibvirtOp LibvirtOp.Res) α

/-- One step, and what its failure is. -/
def attempt {α : Type} (stopped : WorkerError → Stopped)
    (step : LibvirtProg (Except WorkerError α)) :
    Promotion α :=
  ExceptT.mk do
    match ← step with
    | .ok a => return .ok a
    | .error e => return .error (stopped e)

/-- How many superseded generations halt production. -/
def maxRetainedWarmGenerations : ℕ := 3

/-- Refuse rather than grow the pool when too little could be retired. -/
def ensureRetirementHeadroom (published : Option PublishedWarm) : Except Stopped Unit :=
  let retained := published.elim 0 fun document => document.superseded.length
  if retained < maxRetainedWarmGenerations then .ok ()
  else
    .error
      { phase := .stage
        result := .skipped
        reason := "warm production is halted: " ++ toString retained ++
          " generation(s) are pinned by live or recoverable overlays"
        isRecordStaged := false }

/-- The rest of the budget, if there is one. -/
def remaining : Promotion Unit :=
  ExceptT.mk do
    if ← perform .remaining then return .ok ()
    else return .error ⟨.stage, .failed, "warm capture exceeded its budget", false⟩

def repoint (request : WarmRequest) (published : Option PublishedWarm) (current : VolumePointer) :
    Except WireError PublishedWarm :=
  match published with
  | some document =>
    document.repointed request.warmTemplate.value request.allocation.id current.producedAtUnix
      current
  | none =>
    PublishedWarm.new request.profile.value request.warmTemplate.value request.allocation.id
      current.producedAtUnix current

/-! ## The sequence -/

variable (request : WarmRequest) (captureId : String)

/-- Everything up to a candidate that was read back. Nothing here touches the
record or the pointer. -/
def captureCandidate : Promotion VolumePointer := do
  let published ← attempt (stop .stage .failed) (perform (.loadPointer request.profile))
  ensureRetirementHeadroom published
  remaining
  attempt (stop .verify .failed) (perform (.ensureRetentionMarker request.allocation.vmName))
  remaining
  attempt (stop .verify .failed) (perform (.ensureGeneralized request.allocation.vmName))
  remaining
  attempt (stop .stop .failed) (perform (.warmQuiesce request.allocation.vmName))
  remaining
  let staged ← attempt (stop .stage .failed) (perform (.warmCapture
    { allocation := request.allocation
      profile := request.profile.value
      captureId := captureId
      generation := request.generation
      virtualBytes := request.virtualBytes }))
  remaining
  attempt (stop .verify .rejected) (perform (.warmVerify
    { profile := request.profile.value
      captureId := captureId
      generation := request.generation
      producedAtUnix := staged.producedAtUnix
      virtualBytes := request.virtualBytes }))

/-- The record of this promotion in one of its two states. -/
def WarmRequest.record (state : WarmImageState) (now : UInt64) : WarmImageRecord where
  profile := request.profile
  warmTemplate := request.warmTemplate
  generation := request.generation
  baseFingerprint := request.baseFingerprint
  producedBy := request.allocation.id
  producedAtUnix := now
  state := state
  previous := request.previous

def record (state : WarmImageState) : LibvirtProg (Except WorkerError Unit) := do
  let now ← perform .unixTime
  match ← recordWarmImage port (request.record state now) with
  | .ok _ => return .ok ()
  | .error e => return .error (.new e.message)

/-- The document that is repointed is read again: the one of the pre-flight
gate may name generations a sweep retired since. -/
def publishCandidate (verified : VolumePointer) : LibvirtProg (Except WorkerError Unit) := do
  match ← perform (.loadPointer request.profile) with
  | .error e => return .error e
  | .ok published =>
    match repoint request published verified with
    | .error e => return .error (.new e.message)
    | .ok document => perform (.publishPointer document)

/-- The candidate is durable before the pointer moves. -/
def promote : Promotion Unit := do
  let verified ← captureCandidate request captureId
  attempt (stopStaged .verify .failed) (record request .staging)
  attempt (stopStaged .promote .failed) (publishCandidate request verified)
  attempt (stopStaged .promote .failed) (record request .promoted)
  -- the checkpoint has done its job; recovery is the backstop
  let _ ← ExceptT.lift (perform (.removeCheckpoint captureId))

/-! ## Rollback -/

/-- A staged record goes back to the generation that survives. -/
def revertStaged (stopped : Stopped) : LibvirtProg Unit := do
  if stopped.isRecordStaged then
    let _ ← ensureWarmReverted port request.profile request.warmTemplate request.previous

/-- The key the checkpoint recorded, if it can be read. -/
def recordedKey (loaded : Except WorkerError (Option VolumeCheckpoint)) : Option String :=
  loaded.toOption.join.bind (·.key)

/-- Delete the candidate and its checkpoint. No pointer is restored: it is
taken never to have moved. -/
def rollback (stopped : Stopped) : LibvirtProg Unit := do
  revertStaged request stopped
  let loaded ← perform (.loadCheckpoint captureId)
  match ← perform (.deleteVolume (recordedKey loaded) (warmVolumeName captureId)) with
  | .error _ => return ()
  | .ok _ =>
    let _ ← perform (.removeCheckpoint captureId)

/-! ## The whole -/

/-- What is left to do after the sequence stopped. A refusal at the pre-flight
gate made nothing to compensate for. -/
def compensate (stopped : Stopped) : LibvirtProg Unit :=
  if stopped.result = .skipped then return () else rollback request captureId stopped

/-- Verify, generalize, quiesce, capture, verify and repoint. -/
def retainWarm : LibvirtProg RetentionOutcome := do
  let captureId ← perform .newCaptureId
  match ← (promote request captureId).run with
  | .ok _ => return outcome .promoted .promote "warm image promoted" request.generation
  | .error stopped =>
    compensate request captureId stopped
    return outcome stopped.result stopped.phase stopped.reason request.generation

/-- The guest's disk size, when it fits. -/
def storageBytes (allocation : Allocation) (profile : Profile) : Option UInt64 :=
  let storageMb := allocation.size.elim profile.storageMb (·.storageMb)
  if storageMb.toNat * 1048576 < 2 ^ 64 then some (storageMb * 1048576) else none

/-- Why there is no request. -/
inductive RetentionRefusal
  | skipped (reason : String)
  | failed (reason : String)

/-- The request behind a plan. The profile is the one the allocation was created
with. -/
def retentionRequest (allocation : Allocation) (profile : Profile) (plan : RetentionPlan) :
    LibvirtProg (Except RetentionRefusal WarmRequest) := do
  if profile.warmTemplate ≠ some plan.warmTemplate then
    return .error (.skipped "the warm image name changed while the job ran")
  match allocation.source.bind (·.baseFingerprint) with
  | none => return .error (.skipped "the base fingerprint is unknown")
  | some baseFingerprint =>
    match ← perform (.loadManifest allocation.id) with
    | .error e => return .error (.failed e.message)
    | .ok _ =>
      match storageBytes allocation profile with
      | none => return .error (.failed "guest storage size overflows bytes")
      | some virtualBytes =>
        return .ok
          { allocation := allocation
            profile := allocation.request.profile
            warmTemplate := plan.warmTemplate
            baseFingerprint := baseFingerprint
            generation := plan.generation
            previous := plan.previous
            virtualBytes := virtualBytes }

/-- Every gate of retention, and where the sequence stopped. -/
def retain (allocation : Allocation) (profile : Profile) : LibvirtProg RetentionOutcome := do
  match ← retentionPlan port allocation with
  | .error _ => return .new .failed .verify "retention authority is unavailable" none
  | .ok none => return .new .skipped .verify "the profile no longer authorizes production" none
  | .ok (some plan) =>
    match ← retentionRequest allocation profile plan with
    | .error (.skipped reason) => return .new .skipped .verify reason none
    | .error (.failed _) =>
      return .new .failed .verify "retention authority is unavailable" none
    | .ok request => retainWarm request

def ensureRetained (allocation : Allocation) (profile : Profile) : LibvirtProg Unit := do
  if allocation.isRetentionEligible then
    let outcome ← retain allocation profile
    let _ ← perform (.setRetention allocation.id outcome)

/-! ## Recovery -/

/-- Every volume a live pointer names, by key and by name. -/
def referencedVolumeKeys (documents : List PublishedWarm) : List String :=
  (documents.flatMap fun document => document.pointers).flatMap fun pointer =>
    [pointer.volumeKey, pointer.volumeName]

/-- A volume that a pointer names was published, so only the checkpoint goes;
anything else is an interrupted capture. -/
def deleteUnpublished (referenced : List String) (captureId : String) (key : Option String) :
    LibvirtProg (Except WorkerError Unit) :=
  if referenced.contains (warmVolumeName captureId) || key.any (referenced.contains ·) then
    return .ok ()
  else perform (.deleteVolume key (warmVolumeName captureId))

def reconcileCapture (referenced : List String) (captureId : String) :
    LibvirtProg (Except WorkerError Unit) := do
  match ← perform (.loadCheckpoint captureId) with
  | .error e => return .error e
  | .ok none => return .ok ()
  | .ok (some checkpoint) =>
    match ← deleteUnpublished referenced captureId checkpoint.key with
    | .error e => return .error e
    | .ok _ => perform (.removeCheckpoint captureId)

/-- Reconcile the captures that a crash interrupted. -/
def ensureWarmRecovered : LibvirtProg (Except WorkerError Unit) := do
  match ← perform .loadAllPointers with
  | .error e => return .error e
  | .ok documents =>
    match ← perform .pendingCaptures with
    | .error e => return .error e
    | .ok captureIds => Prog.tryEach captureIds (reconcileCapture (referencedVolumeKeys documents))

/-- The backend first, whose failure is only logged, then the records. -/
def recovery : LibvirtProg Bool := do
  let config ← perform .currentConfig
  let _ ← ensureWarmRecovered
  match ← ensureWarmConsistent port config with
  | .ok _ => return true
  | .error _ => return false

/-- What the service takes. -/
inductive Kind
  /-- The end of an allocation's job, with the profile it was created with. -/
  | regenerate (allocation : Allocation) (profile : Profile)
  | reload (config : Config)

/-- Warm images on libvirt. All of the state survives a crash. -/
def service : Service LibvirtState LibvirtOp LibvirtOp.Res LibvirtAnswer Kind where
  exec := libvirtExec
  code
    | .regenerate allocation profile => ensureRetained allocation profile
    | .reload config => perform (.reload config)
  recovery := recovery
  crash s := s

end Libvirt

end FlanForge
