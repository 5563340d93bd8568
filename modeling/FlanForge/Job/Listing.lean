import FlanForge.Core.Claims

/-!
# Listed jobs

What Forgejo lists of a repository's waiting and running jobs, and the two
readings of a listing: `selectJobHandle` binds at most one job to the signed
run, and `diagnoseJobs` says why a labelled search stays empty. The run
filter applies only where a listed job carries a run at all.

The log lines are left out, and with them the field a structurally invalid
job fails on.
-/

namespace FlanForge

/-! ## Errors -/

inductive ForgejoError
  | unavailable
  | transient (status : ℕ)
  | absent
  | malformed
  | api
  | configuration
  | credential
  deriving DecidableEq, Repr

namespace ForgejoError

/-- Polling the same request again can still succeed. -/
def isRetryable : ForgejoError → Bool
  | unavailable | transient _ => true
  | _ => false

def message : ForgejoError → String
  | unavailable => "Forgejo is unavailable"
  | transient status => "Forgejo returned a transient failure (" ++ toString status ++ ")"
  | absent => "Forgejo has no such resource"
  | malformed => "Forgejo returned a response this client cannot read"
  | api => "Forgejo rejected the runner operation"
  | configuration => "Forgejo configuration is invalid"
  | credential => "Forgejo credential file is invalid"

end ForgejoError

/-! ## Jobs -/

structure ActionRunJob where
  attempt : UInt32
  runId : Option Int64
  handle : String
  name : String
  runsOn : List String
  status : String
  deriving DecidableEq

/-- The bounded opaque shape of runner labels and of the job handle. -/
def isOpaqueToken (value : String) : Bool :=
  !value.isEmpty && value.utf8ByteSize ≤ 128 &&
    value.toList.all fun c => c.isAlphanum || c == '-' || c == '_' || c == '.' || c == ':'

/-- The signed identity a listed job must carry before it can be bound. -/
structure JobBinding where
  label : String
  jobName : String
  runId : UInt64

/-- The allocation label is the job's whole `runs-on`. -/
def isOnlyLabel (runsOn : List String) (label : String) : Bool :=
  match runsOn with
  | [only] => only = label
  | _ => false

namespace ActionRunJob

/-- The record's own validator. -/
def isValid (job : ActionRunJob) : Bool :=
  1 ≤ job.attempt && isOpaqueToken job.handle &&
    isLengthWithin job.name 1 128 && isText job.name &&
    !job.runsOn.isEmpty && job.runsOn.length ≤ 32 && job.runsOn.all isOpaqueToken &&
    isLengthWithin job.status 1 32 && isToken job.status

/-- The run a job belongs to; one that cannot be a real row is none. -/
def run (job : ActionRunJob) : Option UInt64 :=
  match job.runId with
  | some value => if 0 < value then some value.toUInt64 else none
  | none => none

end ActionRunJob

/-! ## Selection -/

/-- Why a job of the authorized run still cannot be bound. -/
inductive JobReject
  | structural
  | name
  | status
  | label
  | handle
  deriving DecidableEq, Repr

def jobReject (job : ActionRunJob) (binding : JobBinding) : Option JobReject :=
  if !job.isValid then some .structural
  else if job.name ≠ binding.jobName then some .name
  else if job.status ≠ "waiting" then some .status
  else if !isOnlyLabel job.runsOn binding.label then some .label
  else if !isOpaqueToken job.handle then some .handle
  else none

/-- The jobs of the signed run, or all of them where no job carries a run. -/
def authorizedJobs (jobs : List ActionRunJob) (binding : JobBinding) : List ActionRunJob :=
  if jobs.any (·.runId.isSome) then jobs.filter (·.run = some binding.runId) else jobs

/-- None is no error, more than one is. -/
def bindSole (authorized : List ActionRunJob) (binding : JobBinding) :
    Except ForgejoError (Option String) :=
  match authorized with
  | [] => .ok none
  | [job] => if (jobReject job binding).isSome then .error .api else .ok (some job.handle)
  | _ => .error .api

/-- Bind at most one listed job to the signed run. -/
def selectJobHandle (jobs : List ActionRunJob) (binding : JobBinding) :
    Except ForgejoError (Option String) :=
  if jobs.isEmpty then .ok none else bindSole (authorizedJobs jobs binding) binding

/-! ## Diagnosis -/

/-- What an unlabelled re-read says about the dependent job. -/
inductive JobDiagnosis
  | pending
  | unattributed
  | ambiguous
  | runsOnMismatch (runsOn : List String)
  deriving DecidableEq

def JobDiagnosis.reason : JobDiagnosis → String
  | pending => "no waiting job with the configured job name is queued for this run"
  | unattributed => "a waiting job with the configured job name is queued outside the signed run"
  | ambiguous => "more than one waiting job with the configured job name is queued in this run"
  | runsOnMismatch _ => "the dependent job's runs-on is not the allocation label alone"

/-- A job dispatched to the queue under the profile's configured name. -/
def isDependentJob (job : ActionRunJob) (binding : JobBinding) : Bool :=
  job.isValid && job.name = binding.jobName && job.status = "waiting"

/-- Blame the dependent job only on what no further polling can change. -/
def diagnoseJobs (jobs : List ActionRunJob) (binding : JobBinding) : JobDiagnosis :=
  let named := jobs.filter (isDependentJob · binding)
  if named.isEmpty then .pending
  else
    match named.filter (·.run = some binding.runId) with
    | [] => .unattributed
    | [job] =>
      if isOnlyLabel job.runsOn binding.label then .pending else .runsOnMismatch job.runsOn
    | _ => .ambiguous

end FlanForge
