import FlanForge.Common.Service
import FlanForge.Common.Table
import FlanForge.Warm.Retention

/-!
# The Tart host

Tart addresses an image by its name, and the images of one library are the
whole of the state promotion works on. Each image is represented by its name
and the generation its disk holds; a guest that runs is a disk too, and
holds the generation its regeneration is about to make. Machines that no
warm name refers to are left out: every function here looks a listing up by
one of the reserved names.

A `tart` command is atomic. It is `done`, it `failed` without an effect, or
it is `late`: it took effect and was reported as failed all the same, as
when its deadline passed while it finished. A write of the store is done or
failed. The allocations' histories and the quarantine of unusable images are
written here and read elsewhere, so they are not part of the state.
-/

namespace FlanForge

/-! ## State and operations -/

/-- One image of the library: what its disk holds. -/
structure TartImage where
  name : VmName
  generation : UInt64
  deriving DecidableEq

/-- A disk that can be cloned. -/
inductive TartDisk
  /-- The guest of a regeneration, with the generation it is to become. -/
  | guest (vmName : VmName) (generation : UInt64)
  | image (name : VmName)
  deriving DecidableEq

def TartDisk.name : TartDisk → VmName
  | guest vmName _ => vmName
  | image name => name

structure TartState where
  config : Config
  records : List WarmImageRecord
  images : List TartImage
  /-- The last listing the manager took. -/
  probe : Option (List HostMachine)

namespace TartState

variable (s : TartState)

/-- The generation under a name. -/
def image (name : VmName) : Option UInt64 :=
  (Table.get TartImage.name name s.images).map (·.generation)

/-- The profile's record. -/
def record (profile : ProfileName) : Option WarmImageRecord :=
  Table.get WarmImageRecord.profile profile s.records

def putImage (image : TartImage) : TartState :=
  { s with images := Table.put TartImage.name image s.images }

def eraseImage (name : VmName) : TartState :=
  { s with images := Table.erase TartImage.name name s.images }

def putRecord (record : WarmImageRecord) : TartState :=
  { s with records := Table.put WarmImageRecord.profile record s.records }

def eraseRecord (profile : ProfileName) : TartState :=
  { s with records := Table.erase WarmImageRecord.profile profile s.records }

/-- What a disk holds, if it is there. -/
def content : TartDisk → Option UInt64
  | .guest _ generation => some generation
  | .image name => s.image name

/-- What the host reports; the images named in `running` are not stopped. -/
def listing (running : List String) : List HostMachine :=
  s.images.map fun image =>
    { name := image.name.value
      state := if running.contains image.name.value then .running else .stopped
      size := none
      ownership := .foreign }

end TartState

/-- What the environment decides at one operation. -/
structure TartAnswer where
  outcome : CallOutcome := .done
  message : String := ""
  now : UInt64 := 0
  running : List String := []
  /-- The listing is the one taken before. -/
  isCached : Bool := false

inductive TartOp
  | currentConfig
  | load (profile : ProfileName)
  | save (record : WarmImageRecord)
  | remove (profile : ProfileName)
  | unquarantine (profile : ProfileName)
  | setRetention (id : AllocationId) (outcome : RetentionOutcome)
  | hostMachines
  | list
  | clone (source : TartDisk) (destination : VmName)
  | stop (name : VmName)
  | delete (name : VmName)
  /-- The marker the workflow leaves in the guest. -/
  | retentionMarker (vmName : VmName)
  | stopGuest (vmName : VmName)
  | lockImage (profile : ProfileName)
  | unixTime
  /-- A reload puts a configuration in force. -/
  | reload (config : Config)

abbrev TartOp.Res : TartOp → Type
  | .currentConfig => Config
  | .load _ => Except StoreError (Option WarmImageRecord)
  | .save _ => Except StoreError Unit
  | .remove _ => Except StoreError Unit
  | .unquarantine _ => Unit
  | .setRetention _ _ => Except ManagerError Unit
  | .hostMachines => Except WorkerError (List HostMachine)
  | .list => Except WorkerError (List HostMachine)
  | .clone _ _ => Except WorkerError Unit
  | .stop _ => Except WorkerError Unit
  | .delete _ => Except WorkerError Unit
  | .retentionMarker _ => Except WorkerError Unit
  | .stopGuest _ => Except WorkerError Unit
  | .lockImage _ => Except WorkerError Unit
  | .unixTime => UInt64
  | .reload _ => Unit

abbrev TartProg (α : Type) := Prog TartOp TartOp.Res α

namespace TartAnswer

variable (a : TartAnswer)

/-- What a command reports. -/
def reported {α : Type} (value : α) : Except WorkerError α :=
  if a.outcome = .done then .ok value else .error (.new a.message)

/-- What the store reports. -/
def stored {α : Type} (value : α) : Except StoreError α :=
  if a.outcome = .done then .ok value else .error ⟨a.message⟩

end TartAnswer

/-- What one operation does. -/
def tartExec : (op : TartOp) → TartAnswer → TartState → Option (TartState × op.Res)
  | .currentConfig, _, s => some (s, s.config)
  | .load profile, a, s => some (s, a.stored (s.record profile))
  | .save record, a, s =>
    some (if a.outcome = .done then s.putRecord record else s, a.stored ())
  | .remove profile, a, s =>
    some (if a.outcome = .done then s.eraseRecord profile else s, a.stored ())
  | .unquarantine _, _, s => some (s, ())
  | .setRetention id _, a, s =>
    some (s, if a.outcome = .done then .ok () else .error (.notFound id))
  | .hostMachines, a, s =>
    match a.isCached, s.probe with
    | true, some machines => some (s, .ok machines)
    | _, _ =>
      some (if a.outcome = .done then { s with probe := some (s.listing a.running) } else s,
        a.reported (s.listing a.running))
  | .list, a, s => some (s, a.reported (s.listing a.running))
  | .clone source destination, a, s =>
    match s.content source, s.image destination with
    -- a clone needs its source and a free name
    | some generation, none =>
      some (if a.outcome = .failed then s else s.putImage ⟨destination, generation⟩, a.reported ())
    | _, _ => some (s, .error (.new a.message))
  | .stop _, a, s => some (s, a.reported ())
  | .delete name, a, s =>
    if (s.image name).isSome then
      some (if a.outcome = .failed then s else s.eraseImage name, a.reported ())
    else some (s, .error (.new a.message))
  | .retentionMarker _, a, s => some (s, a.reported ())
  | .stopGuest _, a, s => some (s, a.reported ())
  | .lockImage _, a, s => some (s, a.reported ())
  | .unixTime, a, s => some (s, a.now)
  | .reload config, _, s => some ({ s with config := config }, ())

/-! ## The client -/

/-- The name is inside the service prefix. -/
def isOwned (vmPrefix : VmPrefix) (name : VmName) : Bool :=
  (stripHead vmPrefix.value.toList name.value.toList).isSome

/-- Exactly the names the declaring profile and the image record name. -/
def ensureImageWritable (vmPrefix : VmPrefix) (name : VmName) (profile : Option Profile)
    (record : Option WarmImageRecord) : Except WorkerError Unit :=
  if isOwned vmPrefix name then
    .error (.new "refusing to write an image inside the service VM prefix")
  else if profile.any fun profile => name = profile.template then
    .error (.new "refusing to overwrite a configured template")
  else
    let declared := ((profile.bind (·.warmTemplate)).toList ++
      (record.map (·.warmTemplate)).toList).flatMap derivedNames
    if declared.contains name then .ok ()
    else .error (.new "refusing to write an undeclared image name")

namespace Tart

/-- One operation by itself. -/
abbrev perform (op : TartOp) : TartProg op.Res := Prog.perform op

variable (vmPrefix : VmPrefix)

def isAbsentImage (name : VmName) : TartProg Bool := do
  match ← perform .list with
  | .ok machines => return !machines.any fun machine => machine.name = name.value
  | .error _ => return false

def isStoppedImage (name : VmName) : TartProg Bool := do
  match ← perform .list with
  | .ok machines =>
    return machines.any fun machine => machine.name = name.value && machine.state = .stopped
  | .error _ => return false

def cloneImage (source : TartDisk) (destination : VmName) (profile : Profile)
    (record : Option WarmImageRecord) : TartProg (Except WorkerError Unit) := do
  match ensureImageWritable vmPrefix destination (some profile) record with
  | .error e => return .error e
  | .ok _ =>
    if isOwned vmPrefix source.name then perform (.clone source destination)
    else
      match ensureImageWritable vmPrefix source.name (some profile) record with
      | .error e => return .error e
      | .ok _ => perform (.clone source destination)

/-- A failed stop never withholds the delete that follows. -/
def stopListed (name : VmName) (state : MachineState) : TartProg Unit := do
  if state = .running then
    let _ ← perform (.stop name)

/-- Delete a listed machine. A failed delete of a machine that is gone is a
delete. -/
def removeNamed (name : VmName) (state : MachineState) : TartProg (Except WorkerError Unit) := do
  stopListed name state
  match ← perform (.delete name) with
  | .ok _ => return .ok ()
  | .error e => if ← isAbsentImage name then return .ok () else return .error e

def deleteImage (name : VmName) (profile : Option Profile) (record : Option WarmImageRecord) :
    TartProg (Except WorkerError Unit) := do
  match ensureImageWritable vmPrefix name profile record with
  | .error e => return .error e
  | .ok _ =>
    match ← perform .list with
    | .error e => return .error e
    | .ok machines =>
      match machines.find? fun machine => machine.name = name.value with
      | none => return .ok ()
      | some machine => removeNamed name machine.state

/-! ## What the manager asks of it -/

/-- The image under the record's name, from the listing the caller holds. -/
def warmAvailability (record : WarmImageRecord) (listing : List HostMachine) : WarmAvailability :=
  match listing.find? fun machine => machine.name = record.warmTemplate.value with
  | none => .absent
  | some machine => if machine.state = .stopped then .ready else .busy

/-- An image sits under the name. -/
def isUnclaimedImage (name : VmName) (listing : List HostMachine) : Bool :=
  listing.any fun machine => machine.name = name.value

/-- Clone the retained generation back over the live name. -/
def ensureWarmRestored (profile : Profile) (record : WarmImageRecord) :
    TartProg (Except WorkerError Unit) := do
  match record.previousName with
  | .error e => return .error (.new e.message)
  | .ok previous =>
    if ← isAbsentImage previous then
      return .error (.new "no warm image survives this profile; allocations boot cold")
    else cloneImage vmPrefix (.image previous) record.warmTemplate profile none

/-- Delete an image the manager authorized. Clones of the service are outside
this model. -/
def deleteVm (request : ReapRequest) : TartProg (Except WorkerError Unit) := do
  if request.reserved.contains request.name.value then
    return .error (.new "refusing to delete a name live configuration claims")
  if request.profile.isNone && request.record.isNone then
    return .error (.new "image deletion needs a profile or a record that claims the name")
  deleteImage vmPrefix request.name request.profile request.record

/-- Tart behind the manager's warm code. -/
def port : WarmPort TartOp TartOp.Res where
  currentConfig := perform .currentConfig
  load profile := perform (.load profile)
  save record := perform (.save record)
  remove profile := perform (.remove profile)
  unquarantine profile := perform (.unquarantine profile)
  setRetention id outcome := perform (.setRetention id outcome)
  hostMachines := perform .hostMachines
  machines := perform .list
  warmAvailability _ record listing := return .ok (warmAvailability record listing)
  isUnclaimedImage name listing := return .ok (isUnclaimedImage name listing)
  ensureWarmRestored profile record := ensureWarmRestored vmPrefix profile record
  deleteVm request := deleteVm vmPrefix request

end Tart

end FlanForge
