import FlanForge.Tart.Host

/-!
# Promotion on Tart

The sequence that turns the guest of a regeneration into the profile's warm
image, its rollback, and the service they belong to: regenerations and
reloads one after the other, each of which can be cut short at any command,
and a recovery that runs when the process starts again.

A budget that runs out is a failed or a late command; the texts of those
errors are the environment's.
-/

namespace FlanForge

namespace Tart

/-! ## Requests -/

/-- Everything one promotion needs. -/
structure RetentionRequest where
  allocation : Allocation
  profile : Profile
  warmTemplate : VmName
  baseFingerprint : BaseFingerprint
  generation : UInt64
  previous : Option WarmGeneration

/-- The three names one profile's promotion touches. -/
structure Names where
  warm : VmName
  staging : VmName
  previous : VmName

def derive (warm : VmName) : Except IdentifierError Names := do
  let staging ← warm.withSuffix stagingSuffix
  let previous ← warm.withSuffix previousSuffix
  return ⟨warm, staging, previous⟩

def outcome (result : RetentionResult) (phase : RetentionPhase) (reason : String)
    (generation : UInt64) : RetentionOutcome :=
  .new result phase reason (some generation)

variable (vmPrefix : VmPrefix) (request : RetentionRequest) (names : Names)

/-! ## The steps -/

def ensureStaged : TartProg (Except WorkerError Unit) := do
  if ← isStoppedImage names.staging then return .ok ()
  else return .error (.new "staged warm image is missing or not stopped")

/-- Retire the live image before publishing. -/
def retire : TartProg (Except WorkerError Unit) := do
  match ← deleteImage vmPrefix names.previous (some request.profile) none with
  | .error e => return .error e
  | .ok _ =>
    if ← isAbsentImage names.warm then return .ok ()
    else
      match ← cloneImage vmPrefix (.image names.warm) names.previous request.profile none with
      | .error e => return .error e
      | .ok _ => deleteImage vmPrefix names.warm (some request.profile) none

def publish : TartProg (Except WorkerError Unit) := do
  match ← cloneImage vmPrefix (.image names.staging) names.warm request.profile none with
  | .error e => return .error e
  | .ok _ => deleteImage vmPrefix names.staging (some request.profile) none

/-- The record of this promotion in one of its two states. -/
def RetentionRequest.record (state : WarmImageState) (now : UInt64) : WarmImageRecord where
  profile := request.allocation.request.profile
  warmTemplate := names.warm
  generation := request.generation
  baseFingerprint := request.baseFingerprint
  producedBy := request.allocation.id
  producedAtUnix := now
  state := state
  previous := request.previous

def record (state : WarmImageState) : TartProg (Except WorkerError Unit) := do
  let now ← perform .unixTime
  match ← recordWarmImage (port vmPrefix) (request.record names state now) with
  | .ok _ => return .ok ()
  | .error e => return .error (.new e.message)

/-- One step of the sequence and the phase a failure of it belongs to. -/
abbrev Step := RetentionPhase × TartProg (Except WorkerError Unit)

/-- Every step in order, up to the first that fails. -/
def runSteps : List Step → TartProg (Except (RetentionPhase × WorkerError) Unit)
  | [] => return .ok ()
  | (phase, step) :: steps => do
    match ← step with
    | .error e => return .error (phase, e)
    | .ok _ => runSteps steps

/-- The candidate is durable before anything is destroyed: its record belongs
to `verify`, since `retire` is the rollback's proof that the live image may be
gone. -/
def promote : TartProg (Except (RetentionPhase × WorkerError) Unit) :=
  runSteps
    [(.verify, perform (.retentionMarker request.allocation.vmName)),
      (.stop, perform (.stopGuest request.allocation.vmName)),
      (.stage, cloneImage vmPrefix (.guest request.allocation.vmName request.generation)
        names.staging request.profile none),
      (.verify, ensureStaged names),
      (.verify, record vmPrefix request names .staging),
      (.retire, retire vmPrefix request names),
      (.promote, publish vmPrefix request names),
      (.promote, record vmPrefix request names .promoted)]

/-! ## Rollback -/

/-- Which generation owns the live name after a failure. -/
inductive FailedAuthority
  | unchanged
  | previousLive
  | candidateLive
  | liveAbsent
  deriving DecidableEq, Repr

/-- Only retirement and publication can change which generation owns the live
name. -/
def failedAuthority : RetentionPhase → Bool → FailedAuthority
  | .promote, true => .candidateLive
  | .retire, true => .previousLive
  | .retire, false | .promote, false => .liveAbsent
  | _, _ => .unchanged

def dropCandidate : TartProg Unit := do
  let _ ← deleteImage vmPrefix names.staging (some request.profile) none

/-- Publication can fail after the candidate acquired the live name. -/
def finalizeLiveCandidate (phase : RetentionPhase) (error : WorkerError) :
    TartProg RetentionOutcome := do
  match ← record vmPrefix request names .promoted with
  | .ok _ =>
    return outcome .promoted phase
      ("warm image promoted; cleanup recovered after: " ++ error.message) request.generation
  | .error e =>
    return outcome .failed phase (error.message ++ "; candidate record failed: " ++ e.message)
      request.generation

def persistPrevious (phase : RetentionPhase) (error : WorkerError) : TartProg RetentionOutcome := do
  let profile := request.allocation.request.profile
  match request.previous, ← ensureWarmReverted (port vmPrefix) profile names.warm
    request.previous with
  | none, .error e =>
    return outcome .failed phase (error.message ++ "; authority cleanup failed: " ++ e.message)
      request.generation
  | none, .ok _ => return .new .failed phase error.message none
  | some _, .error e =>
    return outcome .failed phase (error.message ++ "; rollback record failed: " ++ e.message)
      request.generation
  | some previous, .ok _ => return .new .rolledBack phase error.message (some previous.generation)

/-- Restore only when the live name is gone. -/
def ensurePreviousRestored : TartProg (Except WorkerError Unit) := do
  if ← isAbsentImage names.warm then
    cloneImage vmPrefix (.image names.previous) names.warm request.profile none
  else return .ok ()

/-- Reconcile the live name and the record. -/
def rollback (phase : RetentionPhase) (error : WorkerError) : TartProg RetentionOutcome := do
  dropCandidate vmPrefix request names
  let isAbsent ← isAbsentImage names.warm
  match failedAuthority phase !isAbsent with
  | .unchanged => return outcome .failed phase error.message request.generation
  | .candidateLive => finalizeLiveCandidate vmPrefix request names phase error
  | .previousLive => persistPrevious vmPrefix request names phase error
  | .liveAbsent =>
    match ← ensurePreviousRestored vmPrefix request names with
    | .ok _ => persistPrevious vmPrefix request names phase error
    | .error e =>
      return outcome .failed phase (error.message ++ "; restore failed: " ++ e.message)
        request.generation

/-! ## The whole -/

/-- Stop, stage and promote the guest as the profile's warm image. -/
def retainWarm : TartProg RetentionOutcome := do
  match derive request.warmTemplate with
  | .error _ => return outcome .failed .stage "warm image names are underivable" request.generation
  | .ok names =>
    match ← perform (.lockImage request.allocation.request.profile) with
    | .error e => return outcome .failed .stage e.message request.generation
    | .ok _ =>
      match ← promote vmPrefix request names with
      | .ok _ => return outcome .promoted .promote "warm image promoted" request.generation
      | .error (phase, e) => rollback vmPrefix request names phase e

/-- The request behind a plan, or why there is none. The profile is the one the
allocation was created with. -/
def retentionRequest (allocation : Allocation) (profile : Profile) (plan : RetentionPlan) :
    Except String RetentionRequest :=
  if profile.warmTemplate ≠ some plan.warmTemplate then
    .error "the warm image name changed while the job ran"
  else
    match allocation.source.bind (·.baseFingerprint) with
    | none => .error "the base fingerprint is unknown"
    | some baseFingerprint =>
      .ok ⟨allocation, profile, plan.warmTemplate, baseFingerprint, plan.generation, plan.previous⟩

/-- Every gate of retention, and where the sequence stopped. -/
def retain (allocation : Allocation) (profile : Profile) : TartProg RetentionOutcome := do
  match ← retentionPlan (port vmPrefix) allocation with
  | .error _ => return .new .failed .verify "retention authority is unavailable" none
  | .ok none => return .new .skipped .verify "the profile no longer authorizes production" none
  | .ok (some plan) =>
    match retentionRequest allocation profile plan with
    | .error reason => return .new .skipped .verify reason none
    | .ok request => retainWarm vmPrefix request

def ensureRetained (allocation : Allocation) (profile : Profile) : TartProg Unit := do
  if allocation.isRetentionEligible then
    let outcome ← retain vmPrefix allocation profile
    let _ ← perform (.setRetention allocation.id outcome)

/-- What the service takes. -/
inductive Kind
  /-- The end of an allocation's job, with the profile it was created with. -/
  | regenerate (allocation : Allocation) (profile : Profile)
  | reload (config : Config)

/-- Recovery ends the process when it cannot read what it needs. -/
def recovery : TartProg Bool := do
  let config ← perform .currentConfig
  match ← ensureWarmConsistent (port vmPrefix) config with
  | .ok _ => return true
  | .error _ => return false

/-- Warm images on Tart. The records and the images survive a crash. -/
def service : Service TartState TartOp TartOp.Res TartAnswer Kind where
  exec := tartExec
  code
    | .regenerate allocation profile => ensureRetained vmPrefix allocation profile
    | .reload config => perform (.reload config)
  recovery := recovery vmPrefix
  crash s := { s with probe := none }

end Tart

end FlanForge
