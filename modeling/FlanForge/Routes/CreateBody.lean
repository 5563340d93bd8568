import FlanForge.Core.Config

/-!
# The body of a create request

What a workflow may post, the bounds it is checked against at ingress, and
the request and options it stands for. The profile's own ceilings are the
manager's to enforce; a lifetime of zero seconds does not pass here.
-/

namespace FlanForge

/-- A run identity, as a number or as text. -/
inductive RunId
  | number (value : UInt64)
  | text (value : String)
  deriving DecidableEq

def RunId.isValid : RunId → Bool
  | number value => 0 < value
  | text value => isPositiveDecimal value

/-- The number the identity stands for. -/
def RunId.value : RunId → Option UInt64
  | number value => some value
  | text value => parseU64 value

/-- The `hot` field: a flag, a lifetime, or the word `evict`. -/
inductive Hot
  | flag (value : Bool)
  | ageSeconds (value : UInt64)
  | action (value : String)
  deriving DecidableEq

namespace Hot

def isValid : Hot → Bool
  | flag _ => true
  | ageSeconds value => 1 ≤ value && value ≤ 604800
  | action value => value = "evict"

def intoRequest : Hot → Option HotRequest
  | flag false => some .untouched
  | flag true => some (.retain none)
  | ageSeconds value => if value = 0 then none else some (.retain (some value))
  | action value => if value = "evict" then some .evict else none

end Hot

structure CreateBody where
  profile : ProfileName
  repository : RepositoryName
  runId : RunId
  runAttempt : UInt32
  warm : Bool := false
  hot : Hot := .flag false
  cpuCount : Option UInt8 := none
  memoryMb : Option UInt32 := none
  deriving DecidableEq

namespace CreateBody

/-- The ingress bounds. -/
def isValid (body : CreateBody) : Bool :=
  body.runId.isValid && 1 ≤ body.runAttempt && body.hot.isValid &&
    body.cpuCount.all (fun cpu => 1 ≤ cpu && cpu ≤ 64) &&
    body.memoryMb.all (fun memory => 2048 ≤ memory && memory ≤ 131072)

/-- The request and options the body stands for; `none` is a bad request. -/
def intoParts (body : CreateBody) : Option (AllocationRequest × RequestOptions) :=
  match body.runId.value, body.hot.intoRequest with
  | some runId, some hot =>
    let request : AllocationRequest := ⟨body.profile, body.repository, runId, body.runAttempt⟩
    if runId = 0 || body.runAttempt = 0 || !request.isValid then none
    else some (request, ⟨body.warm, hot, body.cpuCount, body.memoryMb⟩)
  | _, _ => none

/-- What ingress lets through: sizes and lifetimes in range. -/
structure Admissible (options : RequestOptions) : Prop where
  cpu : options.cpuCount.all (fun cpu => 1 ≤ cpu && cpu ≤ 64) = true
  memory : options.memoryMb.all (fun memory => 2048 ≤ memory && memory ≤ 131072) = true
  age : ∀ ageSeconds, options.hot = .retain (some ageSeconds) →
    1 ≤ ageSeconds ∧ ageSeconds ≤ 604800

/-- **A body that passes ingress asks for nothing out of range.** -/
theorem admissible_of_intoParts {body : CreateBody} {request : AllocationRequest}
    {options : RequestOptions} (hvalid : body.isValid = true)
    (h : body.intoParts = some (request, options)) : Admissible options := by
  simp only [isValid, Bool.and_eq_true] at hvalid
  obtain ⟨⟨⟨-, hhot⟩, hcpu⟩, hmemory⟩ := hvalid
  simp only [intoParts] at h
  split at h
  · rename_i runId hot _ hintoRequest
    split at h
    · cases h
    · cases h
      refine ⟨hcpu, hmemory, fun age hage => ?_⟩
      obtain rfl : hot = .retain (some age) := hage
      cases hb : body.hot with
      | flag value => cases value <;> simp [hb, Hot.intoRequest] at hintoRequest
      | ageSeconds value =>
        simp only [hb, Hot.isValid, Bool.and_eq_true, decide_eq_true_eq] at hhot
        simp only [hb, Hot.intoRequest] at hintoRequest
        split at hintoRequest
        · cases hintoRequest
        · cases hintoRequest
          exact hhot
      | action value =>
        simp only [hb, Hot.intoRequest] at hintoRequest
        split at hintoRequest <;> cases hintoRequest
  · cases h

end CreateBody

end FlanForge
