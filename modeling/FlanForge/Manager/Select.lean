import Mathlib.Data.List.Sort
import FlanForge.Common.Pick
import FlanForge.Manager.Admission

/-!
# Selection in the hot pool

The pure decisions about the pool: why a record has to go (`drainReason`),
which machine a claim may take (`claimable`), whether the pool has room for
one more (`isPoolExpandable`), which idle machines a lane holds too many of
(`surplusIdle`), and the plan `create` makes under its lock (`planHotClaim`)
with what it writes on the allocation (`HotDecision.apply`).
-/

namespace FlanForge

/-! ## Bounds -/

/-- What a claim decision needs to know that the record cannot say. -/
structure HotPolicy where
  hot : HotConfig
  fingerprint : Option BaseFingerprint
  warmGeneration : Option UInt64
  now : UInt64

/-- Both fingerprints known, and different. -/
def isBaseChanged (recorded current : Option BaseFingerprint) : Bool :=
  match recorded, current with
  | some recorded, some current => !isFingerprintMatch (some recorded) (some current)
  | _, _ => false

/-- Why this machine may no longer take a claim, or `none` while it may. -/
def drainReason (guest : HotGuest) (policy : HotPolicy) : Option HotDrainReason :=
  if guest.state.isTerminal then none
  else
    let limit := min (guest.ageLimitSeconds.getD policy.hot.maxLifetimeSeconds)
      policy.hot.maxLifetimeSeconds
    if saturatingSub64 policy.now guest.bootedAtUnix ≥ limit then some .maxLifetime
    else if guest.jobsServed ≥ policy.hot.maxJobs then some .maxJobs
    else if isBaseChanged guest.source.baseFingerprint policy.fingerprint ||
        guest.warmGeneration ≠ policy.warmGeneration then some .staleBase
    else if guest.state = .idle &&
        saturatingSub64 policy.now guest.updatedAtUnix ≥ policy.hot.idleTtlSeconds then
      some .idleTtl
    else none

/-- Most jobs served first, then the smaller name. -/
def isPreferred (left right : HotGuest) : Bool :=
  right.jobsServed < left.jobsServed ||
    (left.jobsServed = right.jobsServed && left.vmName.value < right.vmName.value)

/-- A record a claim may take. -/
def isClaimable (profile : ProfileName) (lane : HotLane) (claimed : List String)
    (policy : HotPolicy) (guest : HotGuest) : Bool :=
  guest.isServing profile lane && !claimed.contains guest.vmName.value &&
    (drainReason guest policy).isNone

/-- The one machine a claim may take, or `none`. -/
def claimable (hot : List HotGuest) (profile : ProfileName) (lane : HotLane)
    (claimed : List String) (policy : HotPolicy) : Option HotGuest :=
  pickBy isPreferred (hot.filter (isClaimable profile lane claimed policy))

/-- The pool has room for one more machine, globally. -/
def isPoolExpandable (hot : List HotGuest) (maxHotVms : UInt8) (inFlight : List ProfileName) :
    Bool :=
  (hot.filter (·.state.isHoldingMachine)).length + inFlight.length < maxHotVms.toNat

/-- Longest idle first, then the smaller name. -/
def isStaler (left right : HotGuest) : Prop :=
  left.updatedAtUnix < right.updatedAtUnix ∨
    (left.updatedAtUnix = right.updatedAtUnix ∧ left.vmName.value ≤ right.vmName.value)

instance (left right : HotGuest) : Decidable (isStaler left right) :=
  inferInstanceAs (Decidable (_ ∨ _))

/-- Idle machines the lane holds beyond `maxIdle`, longest idle first. -/
def surplusIdle (hot : List HotGuest) (profile : ProfileName) (lane : HotLane)
    (config : HotConfig) : List HotGuest :=
  let idle := (hot.filter (·.isServing profile lane)).insertionSort isStaler
  idle.take (idle.length - config.maxIdle.toNat)

/-! ## Claims -/

/-- Everything a claim decision needs, read before the entries lock. -/
structure HotContext where
  hot : HotConfig
  name : ProfileName
  lane : HotLane
  fingerprint : Option BaseFingerprint
  warmGeneration : Option UInt64
  maxHotVms : UInt8
  ageSeconds : Option UInt64

def HotContext.policy (context : HotContext) (now : UInt64) : HotPolicy :=
  ⟨context.hot, context.fingerprint, context.warmGeneration, now⟩

/-- What admission decided about one `hot` request. -/
inductive HotClaim
  /-- An idle pool machine, already moved to `claimed`; `base` is the record
  the claim was made from. -/
  | reused (base guest : HotGuest) (origin : AllocationOrigin) (source : CloneSource)
  /-- No machine to reuse; this allocation's own guest is kept. -/
  | retain

/-- Names every non-terminal entry claims through its origin. -/
def liveHotNames (entries : List Entry) : List String :=
  (activeAllocations entries).filterMap fun allocation => allocation.origin.hotVmName.map (·.value)

/-- The machine an allocation leaves behind: the one it reused, or its own. -/
def Allocation.held (allocation : Allocation) : VmName :=
  allocation.origin.hotVmName.getD allocation.vmName

/-- Allocations that will retain a machine the snapshot does not show. -/
def inFlightRetentions (entries : List Entry) (hot : List HotGuest) : List ProfileName :=
  let recorded := (hot.filter (·.state.isHoldingMachine)).map (·.vmName.value)
  (((activeAllocations entries).filter fun allocation => allocation.hotLane.isSome).filter
    fun allocation => !recorded.contains allocation.held.value).map (·.request.profile)

/-- The record of a claimed machine: the claim, and the claiming run's own
lifetime when it asked for one. -/
def claimRecord (guest : HotGuest) (id : AllocationId) (ageSeconds : Option UInt64) (now : UInt64) :
    Except HotTransitionError HotGuest :=
  match guest.ensureClaimed id now with
  | .error e => .error e
  | .ok guest => .ok { guest with ageLimitSeconds := ageSeconds.or guest.ageLimitSeconds }

/-- Decide, under the entries lock, whether this allocation reuses a pool
machine and whether its own guest is retained afterwards. -/
def planHotClaim (entries : List Entry) (hot : List HotGuest) (context : HotContext)
    (id : AllocationId) (now : UInt64) : Option HotClaim :=
  match claimable hot context.name context.lane (liveHotNames entries) (context.policy now) with
  | some base =>
    match claimRecord base id context.ageSeconds now with
    | .error _ => none
    | .ok guest =>
      some (.reused base guest
        (.hotReuse guest.vmName guest.jobsServed guest.bootedAtUnix) guest.source)
  | none =>
    if isPoolExpandable hot context.maxHotVms (inFlightRetentions entries hot) then some .retain
    else none

/-- Why a `hot` request produced no pool machine, when the pool was not full. -/
def refusal (mode : AllocationMode) (profile : Profile) (lane : HotLane) (maxHotVms : UInt8) :
    HotRefusal :=
  if mode = .regenerate then .regeneration
  else
    match profile.enabledHot with
    | none => .notEnabled
    | some hot =>
      if !hot.lanes.isLaneAdmitted lane then .laneNotAdmitted
      else if maxHotVms = 0 then .poolFull
      else .unsupported

/-- What admission decided, in the shape the record takes it. -/
structure HotDecision where
  claim : Option HotClaim
  context : Option HotContext
  lane : HotLane
  ageSeconds : Option UInt64
  mode : AllocationMode
  maxHotVms : UInt8

def HotDecision.apply (decision : HotDecision) (allocation : Allocation) (options : RequestOptions)
    (profile : Profile) (now : UInt64) : Allocation :=
  match decision.claim with
  | some (.reused _ _ origin source) =>
    allocation.setHot (some decision.lane) origin (some source) decision.ageSeconds now
  | some .retain =>
    allocation.setHot (some decision.lane) .cloned none decision.ageSeconds now
  | none =>
    if options.hot.isRetaining then
      allocation.setHotRefused
        (match decision.context with
          | some _ => .poolFull
          | none => refusal decision.mode profile decision.lane decision.maxHotVms) now
    else allocation

/-- The machine a retained allocation leaves behind, as a fresh pool record:
the job it just ran is the machine's first. -/
def retainedRecord (allocation : Allocation) (lane : HotLane) (now : UInt64) : Option HotGuest :=
  match allocation.size, allocation.source with
  | some size, some source =>
    some { HotGuest.new allocation.vmName allocation.request.profile lane size source
      allocation.warmGeneration allocation.hotAgeSeconds now with jobsServed := 1 }
  | _, _ => none

/-- Profiles whose machines a reload invalidated: changed in a way a running
guest cannot absorb, or gone. -/
def drainedProfiles (previous next : Config) : List ProfileName :=
  (previous.profiles.filter fun entry =>
    (next.profile? entry.1).all fun replacement => isHotDrainingChange entry.2 replacement).map
      (·.1)

end FlanForge
