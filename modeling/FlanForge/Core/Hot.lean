import Mathlib.Algebra.Ring.Int.Defs
import Mathlib.Algebra.Ring.Nat

/-!
# The vocabulary of the hot pool

A *hot* machine is a guest that outlives the allocation that built it. This
module has the words its record and its requests are written in: the states
a record moves through, the reasons it stops taking claims, the lane it is
pinned to, what a workflow may ask for and why it is refused.
-/

namespace FlanForge

/-- Where a hot record stands. -/
inductive HotState
  | provisioning
  | idle
  | claimed
  | recycling
  | draining
  | evicted
  deriving DecidableEq, Repr

namespace HotState

/-- `evicted` is the only terminal state. -/
def isTerminal : HotState → Bool
  | evicted => true
  | _ => false

/-- The record still names a machine the host may be running. -/
def isHoldingMachine (s : HotState) : Bool := !s.isTerminal

/-- Only `claimed` may carry a claim. -/
def isClaimBearing : HotState → Bool
  | claimed => true
  | _ => false

/-- The edges of the record's state machine, and every self-loop. -/
def canTransitionTo (s next : HotState) : Bool :=
  if s = next then true
  else
    match s with
    | provisioning => next = idle || next = evicted
    | idle => next = claimed || next = draining || next = evicted
    | claimed => next = recycling || next = draining
    | recycling => next = idle || next = evicted
    | draining => next = evicted
    | evicted => false

end HotState

/-- Why a machine stopped taking claims. -/
inductive HotDrainReason
  | evictRequested
  | capacityPressure
  | maxLifetime
  | maxJobs
  | maxIdle
  | idleTtl
  | resetFailed
  | staleBase
  | configReloaded
  | machineGone
  | unverifiable
  | operatorRequest
  deriving DecidableEq, Repr

/-- A state change the record's state machine does not have. -/
structure HotTransitionError where
  source : HotState
  target : HotState
  deriving DecidableEq, Repr

/-- The trust lane a hot machine is pinned to. -/
inductive HotLane
  | protectedLane
  | unprotectedLane
  deriving DecidableEq, Repr

def HotLane.fromRefProtected (isRefProtected : Bool) : HotLane :=
  if isRefProtected then .protectedLane else .unprotectedLane

/-- Which lanes a profile admits hot reuse for. -/
inductive HotLanePolicy
  | none
  | protectedLane
  | any
  deriving DecidableEq, Repr

def HotLanePolicy.isLaneAdmitted : HotLanePolicy → HotLane → Bool
  | none, _ => false
  | protectedLane, lane => lane = .protectedLane
  | any, _ => true

/-- What a workflow asked the pool to do. -/
inductive HotRequest
  /-- The pool is left alone. -/
  | untouched
  /-- Reuse a retained machine, or keep this guest after the job. -/
  | retain (ageSeconds : Option UInt64)
  /-- Tear this profile's machines down first. -/
  | evict
  deriving DecidableEq

def HotRequest.isRetaining : HotRequest → Bool
  | retain _ => true
  | _ => false

def HotRequest.isEvicting : HotRequest → Bool
  | evict => true
  | _ => false

/-- Why a `hot` request produced no retained machine. -/
inductive HotRefusal
  | notEnabled
  | laneNotAdmitted
  | regeneration
  | unsupported
  | poolFull
  deriving DecidableEq, Repr

end FlanForge
