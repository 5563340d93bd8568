import FlanForge.Core.Identifiers
import FlanForge.Core.Hot

/-!
# Allocations

One allocation is one run attempt's guest, from the request to its terminal
state. The record, its lifecycle, its validation and the setters through
which it is changed; a setter that stamps the update time takes the time as
an argument. Left out is the retention outcome of a regeneration.
-/

namespace FlanForge

/-! ## Sizes and sources -/

/-- Guest sizing, resolved once beneath the profile ceiling. -/
structure GuestSize where
  cpuCount : UInt8
  memoryMb : UInt32
  storageMb : UInt64
  deriving DecidableEq

/-- The validated storage ceiling. -/
def GuestSize.maxStorageMb : UInt64 := 1048576

def GuestSize.isValid (size : GuestSize) : Bool :=
  1 ≤ size.cpuCount && size.cpuCount ≤ 64 &&
    2048 ≤ size.memoryMb && size.memoryMb ≤ 131072 &&
    16384 ≤ size.storageMb && size.storageMb ≤ 1048576

/-- What an allocation boots from and whether it may produce an image. -/
inductive AllocationMode
  | cold
  | warm
  | regenerate
  deriving DecidableEq, Repr

inductive CloneKind
  | template
  | warm
  deriving DecidableEq, Repr

/-- Why a warm request ended up on the profile template. -/
inductive FallbackReason
  | notDeclared
  | noRecord
  | repointed
  | absent
  | notStopped
  | staleBase
  | unclaimed
  | quarantined
  | notPromoted
  | fingerprintUnavailable
  | unsupported
  | storageTooSmall
  | unknown
  deriving DecidableEq, Repr

/-- The VM an allocation's guest was cloned from. -/
structure CloneSource where
  name : VmName
  kind : CloneKind
  baseFingerprint : Option BaseFingerprint
  fallbackReason : Option FallbackReason
  deriving DecidableEq

def CloneSource.isValid (source : CloneSource) : Bool :=
  source.baseFingerprint.all BaseFingerprint.isValid

/-- Where the guest an allocation ran on came from. -/
inductive AllocationOrigin
  | cloned
  | hotReuse (vmName : VmName) (jobsServed : UInt32) (bootedAtUnix : UInt64)
  deriving DecidableEq

namespace AllocationOrigin

def isHotReuse : AllocationOrigin → Bool
  | cloned => false
  | hotReuse .. => true

/-- The pool machine a claim bound. -/
def hotVmName : AllocationOrigin → Option VmName
  | cloned => none
  | hotReuse vmName _ _ => some vmName

end AllocationOrigin

/-! ## The lifecycle -/

inductive AllocationState
  | requested
  | preparing
  | booting
  | registering
  | waitingForJob
  | ready
  | running
  | cleaning
  | completed
  | failed
  | cancelled
  deriving DecidableEq, Repr

namespace AllocationState

def isTerminal : AllocationState → Bool
  | completed | failed | cancelled => true
  | _ => false

/-- The edges of the lifecycle, and every self-loop. -/
def canTransitionTo (s next : AllocationState) : Bool :=
  if s = next then true
  else
    match s with
    | requested => next = preparing || next = cleaning
    | preparing => next = booting || next = registering || next = cleaning
    | booting => next = registering || next = cleaning
    | registering => next = waitingForJob || next = cleaning
    | waitingForJob => next = ready || next = running || next = cleaning
    | ready => next = running || next = cleaning
    | running => next = cleaning
    | cleaning => next = completed || next = failed || next = cancelled
    | completed | failed | cancelled => false

/-- **A terminal state has no way out.** -/
theorem eq_of_canTransitionTo {s next : AllocationState} (hs : s.isTerminal = true)
    (h : s.canTransitionTo next = true) : next = s := by
  cases s <;> cases next <;> simp_all [isTerminal, canTransitionTo]

end AllocationState

/-- A lifecycle step the state machine does not have. -/
structure StateTransitionError where
  source : AllocationState
  target : AllocationState
  deriving DecidableEq, Repr

/-- Set only when the terminal state alone would misreport what happened. -/
inductive TerminalReason
  | capacity
  deriving DecidableEq, Repr

/-! ## Requests -/

structure AllocationRequest where
  profile : ProfileName
  repository : RepositoryName
  runId : UInt64
  runAttempt : UInt32
  deriving DecidableEq

namespace AllocationRequest

def isValid (request : AllocationRequest) : Bool :=
  1 ≤ request.runId && 1 ≤ request.runAttempt

/-- Two requests name the same run attempt of the same profile. -/
def isSameAttempt (a b : AllocationRequest) : Bool :=
  a.repository = b.repository && a.runId = b.runId && a.runAttempt = b.runAttempt &&
    a.profile = b.profile

/-- The attempt is the whole request. -/
theorem isSameAttempt_iff {a b : AllocationRequest} : a.isSameAttempt b = true ↔ a = b := by
  cases a
  cases b
  simp only [isSameAttempt, Bool.and_eq_true, decide_eq_true_eq, AllocationRequest.mk.injEq]
  exact ⟨fun ⟨⟨⟨hr, hi⟩, ha⟩, hp⟩ => ⟨hp, hr, hi, ha⟩, fun ⟨hp, hr, hi, ha⟩ => ⟨⟨⟨hr, hi⟩, ha⟩, hp⟩⟩

end AllocationRequest

/-! ## The record -/

structure Allocation where
  id : AllocationId
  request : AllocationRequest
  state : AllocationState
  vmName : VmName
  runnerLabel : RunnerLabel
  vmCreated : Bool
  runnerId : Option Int64
  createdAtUnix : UInt64
  updatedAtUnix : UInt64
  error : Option String
  mode : AllocationMode
  size : Option GuestSize
  source : Option CloneSource
  origin : AllocationOrigin
  /-- The lane the guest is retained into when its job ends. -/
  hotLane : Option HotLane
  hotRefusal : Option HotRefusal
  hotAgeSeconds : Option UInt64
  warmGeneration : Option UInt64
  terminalReason : Option TerminalReason
  deriving DecidableEq

/-- Cut a text to at most `maxBytes` UTF-8 bytes, at a character boundary. -/
def boundedText (value : String) (maxBytes : ℕ) : String :=
  if value.utf8ByteSize ≤ maxBytes then value
  else String.ofList (go value.toList 0)
where
  go : List Char → ℕ → List Char
    | [], _ => []
    | c :: cs, used =>
      if used + c.utf8Size ≤ maxBytes then c :: go cs (used + c.utf8Size) else []

def isErrorText (value : String) : Bool :=
  value.utf8ByteSize ≤ 512 && !value.toList.contains (Char.ofNat 0)

namespace Allocation

/-- The record's own validator. -/
def isValid (a : Allocation) : Bool :=
  a.request.isValid && a.runnerId.all (fun id => 1 ≤ id) && a.error.all isErrorText &&
    a.size.all GuestSize.isValid && a.source.all CloneSource.isValid &&
    a.hotAgeSeconds.all (1 ≤ ·) && a.warmGeneration.all (1 ≤ ·)

def new (id : AllocationId) (now : UInt64) (request : AllocationRequest) (vmName : VmName)
    (runnerLabel : RunnerLabel) (mode : AllocationMode) (size : GuestSize) : Allocation where
  id := id
  request := request
  state := .requested
  vmName := vmName
  runnerLabel := runnerLabel
  vmCreated := false
  runnerId := none
  createdAtUnix := now
  updatedAtUnix := now
  error := none
  mode := mode
  size := some size
  source := none
  origin := .cloned
  hotLane := none
  hotRefusal := none
  hotAgeSeconds := none
  warmGeneration := none
  terminalReason := none

/-- Move the allocation along its lifecycle. -/
def transition (a : Allocation) (state : AllocationState) (now : UInt64) :
    Except StateTransitionError Allocation :=
  if !a.state.canTransitionTo state then .error ⟨a.state, state⟩
  else .ok { a with state := state, updatedAtUnix := now }

def setRunnerId (a : Allocation) (runnerId : Int64) (now : UInt64) : Allocation :=
  { a with runnerId := some runnerId, updatedAtUnix := now }

def setVmCreated (a : Allocation) (now : UInt64) : Allocation :=
  { a with vmCreated := true, updatedAtUnix := now }

def setError (a : Allocation) (error : String) (now : UInt64) : Allocation :=
  { a with error := some (boundedText error 512), updatedAtUnix := now }

def setSource (a : Allocation) (source : CloneSource) (now : UInt64) : Allocation :=
  { a with
    warmGeneration := if source.kind ≠ .warm then none else a.warmGeneration
    source := some source
    updatedAtUnix := now }

/-- The source and generation proven at the clone; a template never keeps a
planned warm generation. -/
def setCloneSource (a : Allocation) (source : CloneSource) (warmGeneration : Option UInt64)
    (now : UInt64) : Allocation :=
  { a with
    warmGeneration := if source.kind = .warm then warmGeneration else none
    source := some source
    updatedAtUnix := now }

/-- What admission decided about the allocation's `hot` request. -/
def setHot (a : Allocation) (lane : Option HotLane) (origin : AllocationOrigin)
    (source : Option CloneSource) (ageSeconds : Option UInt64) (now : UInt64) : Allocation :=
  { a with
    source := source.or a.source
    origin := origin
    hotLane := lane
    hotAgeSeconds := ageSeconds
    hotRefusal := none
    updatedAtUnix := now }

def setHotRefused (a : Allocation) (refusal : HotRefusal) (now : UInt64) : Allocation :=
  { a with hotLane := none, hotRefusal := some refusal, updatedAtUnix := now }

/-- The guest is kept when the job ends: it was reused, or it is retained. -/
def isHot (a : Allocation) : Bool := a.hotLane.isSome || a.origin.isHotReuse

/-- A regeneration that completed; the remaining gates are the profile's. -/
def isRetentionEligible (a : Allocation) : Bool := a.mode = .regenerate && a.vmCreated

/-- The host was full, not broken. -/
def setCapacityBusy (a : Allocation) (now : UInt64) : Allocation :=
  { a with terminalReason := some .capacity, updatedAtUnix := now }

end Allocation

end FlanForge
