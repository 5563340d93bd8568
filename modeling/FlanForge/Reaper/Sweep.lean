import FlanForge.Common.Service
import FlanForge.Common.Table
import FlanForge.Warm.Retention

/-!
# The sweep and its warm records

A sweep reads configuration, records, host and allocations once, deletes what
the planner found, one deletion at a time and against a fresh plan each, and
drops at last the warm records whose images are all gone. Deletions take
minutes. What the last part decides with comes from three moments: the records
and the listing from the start of the pass, the configuration and the
allocations from its end, and the record it removes is whatever is stored then.

Others move between any two operations of the pass: a reload, an admission, a
step of an allocation, a record written by a regeneration that is not over, a
change of the host. They are part of each answer. A deleting pass leaves notes
of how far it has come, and each removal is kept with what it was made against.
-/

namespace FlanForge

/-! ## What a pass decides -/

/-- A live profile points at the image of the record. -/
def isReferenced (config : Config) (record : WarmImageRecord) : Bool :=
  (config.profile? record.profile).bind (·.warmTemplate) = some record.warmTemplate

/-- An image the record names is on the host. -/
def isPresent (record : WarmImageRecord) (machines : List HostMachine) : Bool :=
  [record.warmTemplate, record.stagingName.toOption.getD record.warmTemplate,
    record.previousName.toOption.getD record.warmTemplate].any fun name =>
      machines.any (·.name = name.value)

/-- An unfinished regeneration of the profile. -/
def Allocation.isRegenerating (allocation : Allocation) (profile : ProfileName) : Bool :=
  !allocation.state.isTerminal && allocation.mode = .regenerate &&
    allocation.request.profile = profile

def regeneratingProfiles (allocations : List Allocation) : List ProfileName :=
  (allocations.filter fun allocation =>
    !allocation.state.isTerminal && allocation.mode = .regenerate).map (·.request.profile)

/-- What one pass decided about the warm records. -/
structure PrunePlan where
  prunable : List ProfileName
  claimed : List ProfileName

/-- Nothing points at it, nothing it names is there, and nobody regenerates it. -/
def isPrunable (config : Config) (regenerating : List ProfileName) (machines : List HostMachine)
    (record : WarmImageRecord) : Bool :=
  !isReferenced config record && !isPresent record machines && !regenerating.contains record.profile

def PrunePlan.of (config : Config) (regenerating : List ProfileName) (machines : List HostMachine)
    (images : List WarmImageRecord) : PrunePlan where
  prunable := (images.filter (isPrunable config regenerating machines)).map (·.profile)
  claimed := (images.filter (!isPrunable config regenerating machines ·)).map (·.profile)

/-- Prefix-owned names the sweep had to drop because they have no age. -/
def unagedCandidates (inputs : ReapInputs) : List String :=
  (inputs.machines.filter fun machine => machine.ageSeconds.isNone &&
    isPrefixed inputs.config machine.name && !(protectedNames inputs).contains machine.name).map
      (·.name)

/-- Why a pass could plan nothing. -/
inductive SweepInertReason
  | ageUndeterminable
  deriving DecidableEq, Repr

def inertReason (machines : List HostMachine) : Option SweepInertReason :=
  if !machines.isEmpty && machines.all (·.ageSeconds.isNone) then some .ageUndeterminable else none

structure SweepReport where
  planned : List ReapCandidate
  deleted : List String
  skipped : List String
  unaged : List String
  prunedRecords : List ProfileName
  retiredImages : List RetiredImage
  inertReason : Option SweepInertReason
  finishedAtUnix : UInt64

/-! ## State -/

/-- How far a deleting pass has come: with the records it loaded, and the host
when it began to plan the prune. -/
inductive SweepPhase
  | idle
  | begun
  | loaded (records : List WarmImageRecord)
  | planned (records : List WarmImageRecord) (machines : List HostMachine)

/-- A removal, with the record that was stored, the configuration and the
allocations at that moment, and the host when it was planned. -/
structure Removal where
  record : Option WarmImageRecord
  config : Config
  allocations : List Allocation
  machines : List HostMachine

structure SweepState where
  config : Config
  allocations : List Allocation
  images : List WarmImageRecord
  hot : List HotGuest
  machines : List HostMachine
  phase : SweepPhase
  removals : List Removal

/-- The stored record of a profile. -/
def SweepState.image (s : SweepState) (profile : ProfileName) : Option WarmImageRecord :=
  Table.get WarmImageRecord.profile profile s.images

/-- What others do between two operations of the pass. -/
inductive SweepMove
  | reload (config : Config)
  | admitted (allocation : Allocation)
  | transition (id : AllocationId) (state : AllocationState)
  /-- A regeneration writes its record. -/
  | save (record : WarmImageRecord)
  /-- A regeneration is rolled back with nothing before it, or another pass
  prunes. -/
  | remove (profile : ProfileName)
  | host (machines : List HostMachine)

namespace Sweep

/-- One step of an allocation's lifecycle. -/
def advance (id : AllocationId) (state : AllocationState) (allocation : Allocation) : Allocation :=
  if allocation.id = id && allocation.state.canTransitionTo state
    then { allocation with state := state }
  else allocation

def move (s : SweepState) : SweepMove → Option SweepState
  | .reload config => some { s with config := config }
  | .admitted allocation => some { s with allocations := allocation :: s.allocations }
  | .transition id state => some { s with allocations := s.allocations.map (advance id state) }
  | .save record =>
    if s.allocations.any (·.isRegenerating record.profile) then
      some { s with images := Table.put WarmImageRecord.profile record s.images }
    else none
  | .remove profile =>
    some { s with images := Table.erase WarmImageRecord.profile profile s.images }
  | .host machines => some { s with machines := machines }

def moves : SweepState → List SweepMove → Option SweepState
  | s, [] => some s
  | s, m :: ms => (move s m).bind (moves · ms)

end Sweep

/-! ## Operations -/

structure SweepAnswer where
  outcome : CallOutcome := .done
  message : String := ""
  now : UInt64 := 1
  retired : List RetiredImage := []
  /-- What others did before the operation. -/
  moves : List SweepMove := []

/-- The notes of a deleting pass. -/
inductive SweepNote
  | sweepBegins
  | planBegins
  | sweepEnds

inductive SweepOp
  | note (note : SweepNote)
  | ensureHotBounded
  | currentConfig
  | loadImages
  | loadHot
  | machines
  | allocationSnapshot
  | deleteVm (request : ReapRequest)
  | removeImage (profile : ProfileName)
  | sweepImages (request : ImageSweep)
  | unixTime

abbrev SweepOp.Res : SweepOp → Type
  | .note _ => Unit
  | .ensureHotBounded => Unit
  | .currentConfig => Config
  | .loadImages => Except StoreError (List WarmImageRecord)
  | .loadHot => Except StoreError (List HotGuest)
  | .machines => Except WorkerError (List HostMachine)
  | .allocationSnapshot => List Allocation
  | .deleteVm _ => Except WorkerError Unit
  | .removeImage _ => Except StoreError Unit
  | .sweepImages _ => Except WorkerError (List RetiredImage)
  | .unixTime => UInt64

abbrev SweepProg (α : Type) := Prog SweepOp SweepOp.Res α

namespace SweepAnswer

variable (a : SweepAnswer)

/-- What the store reports. -/
def stored {α : Type} (value : α) : Except StoreError α :=
  if a.outcome = .done then .ok value else .error ⟨a.message⟩

/-- What the backend reports. -/
def reported {α : Type} (value : α) : Except WorkerError α :=
  if a.outcome = .done then .ok value else .error (.new a.message)

end SweepAnswer

namespace Sweep

/-- The phase after a note. -/
def noted (s : SweepState) : SweepNote → SweepPhase
  | .sweepBegins => .begun
  | .planBegins =>
    match s.phase with
    | .loaded records => .planned records s.machines
    | phase => phase
  | .sweepEnds => .idle

/-- The records a deleting pass works on are the ones it loads first. -/
def phaseLoaded (s : SweepState) : SweepPhase :=
  match s.phase with
  | .begun => .loaded s.images
  | phase => phase

/-- The removal of a profile's record, as it happens now. -/
def removalOf (s : SweepState) (profile : ProfileName) : Removal where
  record := s.image profile
  config := s.config
  allocations := s.allocations
  machines :=
    match s.phase with
    | .planned _ machines => machines
    | _ => s.machines

def act : (op : SweepOp) → SweepAnswer → SweepState → SweepState × op.Res
  | .note note, _, s => ({ s with phase := noted s note }, ())
  | .ensureHotBounded, _, s => (s, ())
  | .currentConfig, _, s => (s, s.config)
  | .loadImages, a, s =>
    (if a.outcome = .done then { s with phase := phaseLoaded s } else s, a.stored s.images)
  | .loadHot, a, s => (s, a.stored s.hot)
  | .machines, a, s => (s, a.reported s.machines)
  | .allocationSnapshot, _, s => (s, s.allocations)
  | .deleteVm request, a, s =>
    (if a.outcome = .failed then s
      else { s with machines := s.machines.filter (·.name ≠ request.name.value) }, a.reported ())
  | .removeImage profile, a, s =>
    (if a.outcome = .failed then s
      else
        { s with
          images := Table.erase WarmImageRecord.profile profile s.images
          removals := removalOf s profile :: s.removals },
      a.stored ())
  | .sweepImages _, a, s => (s, a.reported a.retired)
  | .unixTime, a, s => (s, a.now)

def exec (op : SweepOp) (a : SweepAnswer) (s : SweepState) : Option (SweepState × op.Res) :=
  (moves s a.moves).map (act op a)

/-! ## The pass -/

/-- One operation by itself. -/
abbrev perform (op : SweepOp) : SweepProg op.Res := Prog.perform op

/-- A sequence that stops at its first failure. -/
abbrev Task (α : Type) := ExceptT ManagerError (Prog SweepOp SweepOp.Res) α

def loadImages : Task (List WarmImageRecord) := ExceptT.mk do
  return (← perform .loadImages).mapError .store

def loadHot : Task (List HotGuest) := ExceptT.mk do
  return (← perform .loadHot).mapError .store

def listMachines : Task (List HostMachine) := ExceptT.mk do
  return (← perform .machines).mapError .worker

/-- The profile a deletion is authorized for. -/
def authorizedProfile : ReapAuthorization → Option ProfileName
  | .staging profile => some profile
  | .image profile => some profile
  | .record _ => none
  | .vmPrefix => none

/-- What the deletion of a candidate asks for. -/
def reapRequest (config : Config) (images : List WarmImageRecord) (allocations : List Allocation)
    (name : VmName) (authorization : ReapAuthorization) : ReapRequest where
  name := name
  authorization := authorization
  profile :=
    match authorization with
    | .record id =>
      match allocations.find? (·.id = id) with
      | some allocation => config.profile? allocation.request.profile
      | none => none
    | _ => (authorizedProfile authorization).bind config.profile?
  record := (authorizedProfile authorization).bind fun profile => images.find? (·.profile = profile)
  reserved := reservedImageNames config

/-- Delete one candidate, if a fresh plan still has it. -/
def reap (candidate : ReapCandidate) : Task Bool :=
  match Identifier.new vmNameRules candidate.name with
  | .error _ => pure false
  | .ok name => do
    let config ← ExceptT.lift (perform .currentConfig)
    let images ← loadImages
    let hot ← loadHot
    let allocations ← ExceptT.lift (perform .allocationSnapshot)
    let machines ← listMachines
    let fresh := planSweep ⟨config, machines, allocations, images, hot⟩
    if !fresh.any (fun current =>
        current.name = candidate.name && current.authorization = candidate.authorization) then
      return false
    ExceptT.mk do
      return (← perform (.deleteVm (reapRequest config images allocations name
        candidate.authorization))).mapError .worker
    return true

/-- The names that were deleted and those that were not. -/
def reapAll : List ReapCandidate → SweepProg (List String × List String)
  | [] => return ([], [])
  | candidate :: candidates => do
    let r ← (reap candidate).run
    let (deleted, skipped) ← reapAll candidates
    match r with
    | .ok true => return (candidate.name :: deleted, skipped)
    | _ => return (deleted, candidate.name :: skipped)

def planPrunedRecords (images : List WarmImageRecord) (machines : List HostMachine) :
    SweepProg PrunePlan := do
  let config ← perform .currentConfig
  let allocations ← perform .allocationSnapshot
  return .of config (regeneratingProfiles allocations) machines images

/-- Drop the records, whatever is stored under the profiles now. -/
def applyPrunedRecords : List ProfileName → SweepProg (List ProfileName)
  | [] => return []
  | profile :: profiles => do
    let r ← perform (.removeImage profile)
    let pruned ← applyPrunedRecords profiles
    match r with
    | .ok _ => return profile :: pruned
    | .error _ => return pruned

def sweepWarmImages (isDryRun : Bool) (claimed : List ProfileName) :
    SweepProg (List RetiredImage) := do
  let config ← perform .currentConfig
  let declared := config.profiles.filterMap fun (name, profile) =>
    profile.warmTemplate.map (name, ·)
  match ← perform (.sweepImages ⟨isDryRun, declared, claimed⟩) with
  | .ok retired => return retired
  | .error _ => return []

/-- A pass from its first read to its report. -/
def body (isDryRun : Bool) : Task SweepReport := do
  let config ← ExceptT.lift (perform .currentConfig)
  let images ← loadImages
  let hot ← loadHot
  let machines ← listMachines
  let allocations ← ExceptT.lift (perform .allocationSnapshot)
  let inputs : ReapInputs := ⟨config, machines, allocations, images, hot⟩
  let planned := planSweep inputs
  let (deleted, skipped) ← ExceptT.lift (if isDryRun then pure ([], []) else reapAll planned)
  ExceptT.lift (perform (.note .planBegins))
  let plan ← ExceptT.lift (planPrunedRecords images machines)
  let pruned ← ExceptT.lift (if isDryRun then pure [] else applyPrunedRecords plan.prunable)
  let retired ← ExceptT.lift (sweepWarmImages isDryRun plan.claimed)
  let now ← ExceptT.lift (perform .unixTime)
  return ⟨planned, deleted, skipped, unagedCandidates inputs, pruned, retired,
    inertReason machines, now⟩

/-- Lifecycle bounds come first, and only on a deleting pass. -/
def sweep (isDryRun : Bool) : Task SweepReport := ExceptT.mk do
  if isDryRun then (body true).run
  else
    perform .ensureHotBounded
    perform (.note .sweepBegins)
    let report ← (body false).run
    perform (.note .sweepEnds)
    return report

/-- The manager as its sweeps see it. A process that stops takes its pass along. -/
def service : Service SweepState SweepOp SweepOp.Res SweepAnswer Bool where
  exec := exec
  code isDryRun := do
    let _ ← (sweep isDryRun).run
  recovery := .ret true
  crash s := { s with phase := .idle }

end Sweep

end FlanForge
