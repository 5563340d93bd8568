import FlanForge.Common.Words
import FlanForge.Core.Allocation

/-!
# Hot records

One durable record per hot machine. Its one cross-field invariant is that
only a `claimed` record names the allocation it is claimed by; the record's
validator checks it (`validateClaim`) together with the ranges of its
fields. The three operations that move a record — `ensureState`,
`ensureClaimed`, `ensureReleased` — take the time they stamp as an argument.
-/

namespace FlanForge

structure HotGuest where
  vmName : VmName
  profile : ProfileName
  lane : HotLane
  state : HotState
  size : GuestSize
  source : CloneSource
  warmGeneration : Option UInt64
  ageLimitSeconds : Option UInt64
  bootedAtUnix : UInt64
  updatedAtUnix : UInt64
  jobsServed : UInt32
  claimedBy : Option AllocationId
  drainReason : Option HotDrainReason
  deriving DecidableEq

namespace HotGuest

/-- A fresh record: the machine exists, the backend has not confirmed it. -/
def new (vmName : VmName) (profile : ProfileName) (lane : HotLane) (size : GuestSize)
    (source : CloneSource) (warmGeneration ageLimitSeconds : Option UInt64) (now : UInt64) :
    HotGuest where
  vmName := vmName
  profile := profile
  lane := lane
  state := .provisioning
  size := size
  source := source
  warmGeneration := warmGeneration
  ageLimitSeconds := ageLimitSeconds
  bootedAtUnix := now
  updatedAtUnix := now
  jobsServed := 0
  claimedBy := none
  drainReason := none

/-- Move the record along its state machine. -/
def ensureState (guest : HotGuest) (next : HotState) (now : UInt64) :
    Except HotTransitionError HotGuest :=
  if !guest.state.canTransitionTo next then .error ⟨guest.state, next⟩
  else .ok { guest with state := next, updatedAtUnix := now }

/-- Bind one allocation: the state and the claim move together. -/
def ensureClaimed (guest : HotGuest) (id : AllocationId) (now : UInt64) :
    Except HotTransitionError HotGuest :=
  if guest.state ≠ .idle then .error ⟨guest.state, .claimed⟩
  else
    match guest.ensureState .claimed now with
    | .error e => .error e
    | .ok guest => .ok { guest with claimedBy := some id }

/-- Release the claim into `recycling` and count the job. -/
def ensureReleased (guest : HotGuest) (now : UInt64) : Except HotTransitionError HotGuest :=
  if guest.state ≠ .claimed then .error ⟨guest.state, .recycling⟩
  else
    match guest.ensureState .recycling now with
    | .error e => .error e
    | .ok guest =>
      .ok { guest with claimedBy := none, jobsServed := saturatingAdd32 guest.jobsServed 1 }

/-- The machine is claimable for that profile and lane. -/
def isServing (guest : HotGuest) (profile : ProfileName) (lane : HotLane) : Bool :=
  guest.state = .idle && guest.profile = profile && guest.lane = lane

theorem isServing_iff {guest : HotGuest} {profile : ProfileName} {lane : HotLane} :
    guest.isServing profile lane = true ↔
      guest.state = .idle ∧ guest.profile = profile ∧ guest.lane = lane := by
  simp [isServing, and_assoc]

/-- Only a `claimed` record carries a claim, and every `claimed` record does. -/
def validateClaim (guest : HotGuest) : Bool :=
  guest.claimedBy.isSome = guest.state.isClaimBearing

/-- The record's own validator. -/
def isValid (guest : HotGuest) : Bool :=
  guest.size.isValid && guest.source.isValid && guest.warmGeneration.all (1 ≤ ·) &&
    guest.ageLimitSeconds.all (1 ≤ ·) && guest.validateClaim

/-! ## What the moves do -/

variable {guest guest' : HotGuest} {now : UInt64} {id : AllocationId} {next : HotState}

/-- The state machine answers with the moved record, or not at all. -/
theorem ensureState_eq_ok : guest.ensureState next now = .ok guest' ↔
    guest.state.canTransitionTo next = true ∧
      guest' = { guest with state := next, updatedAtUnix := now } := by
  by_cases h : guest.state.canTransitionTo next = true <;> simp [ensureState, h, eq_comm]

/-- A claim is exactly the move of an idle record. -/
theorem ensureClaimed_eq_ok : guest.ensureClaimed id now = .ok guest' ↔
    guest.state = .idle ∧
      guest' = { guest with state := .claimed, updatedAtUnix := now, claimedBy := some id } := by
  by_cases h : guest.state = .idle
  · simp [ensureClaimed, ensureState, h, HotState.canTransitionTo, eq_comm]
  · simp [ensureClaimed, h]

/-- A release is exactly the move of a claimed record. -/
theorem ensureReleased_eq_ok : guest.ensureReleased now = .ok guest' ↔
    guest.state = .claimed ∧
      guest' = { guest with
        state := .recycling, updatedAtUnix := now, claimedBy := none,
        jobsServed := saturatingAdd32 guest.jobsServed 1 } := by
  by_cases h : guest.state = .claimed
  · simp [ensureReleased, ensureState, h, HotState.canTransitionTo, eq_comm]
  · simp [ensureReleased, h]

/-- The validator apart from the claim: every field is in range. -/
def isInRange (guest : HotGuest) : Bool :=
  guest.size.isValid && guest.source.isValid && guest.warmGeneration.all (1 ≤ ·) &&
    guest.ageLimitSeconds.all (1 ≤ ·)

/-- A record is valid when its fields are in range and exactly a `claimed` one
names a claim. -/
theorem isValid_iff : guest.isValid = true ↔ guest.isInRange = true ∧
    (guest.claimedBy.isSome = true ↔ guest.state = .claimed) := by
  have h : guest.validateClaim = true ↔
      (guest.claimedBy.isSome = true ↔ guest.state = .claimed) := by
    cases hc : guest.claimedBy <;> cases hs : guest.state <;>
      simp [validateClaim, hc, hs, HotState.isClaimBearing]
  rw [← h]
  simp [isValid, isInRange]

end HotGuest

end FlanForge
