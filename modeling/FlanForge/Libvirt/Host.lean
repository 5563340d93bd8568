import FlanForge.Common.Service
import FlanForge.Common.Table
import FlanForge.Libvirt.Pointer
import FlanForge.Warm.Retention

/-!
# The libvirt host

What promotion, recovery and retirement work on: the volumes of the
configured pool, the pointer documents, the checkpoints of captures, the
warm records, and the published cold bases. The domains of the host and
their overlays enter in two places: a listing, and the volumes that some
overlay is backed by, both of which the environment gives.

A call of the helper and a write of a file or of the store are atomic. A
call is `done`, it `failed` without an effect, or it is `late`: it took
effect and was reported as failed. That is how a pointer document is
replaced when the directory sync after its rename fails. Two calls of the
helper work through several volumes or files, and can stop between them
(`LibvirtAnswer.progress`). The documents are those that can be read;
one that cannot is moved aside and read as absent.

`captures` is a ghost: which allocation's overlay a warm volume was made
from.
-/

namespace FlanForge

/-! ## State -/

/-- A volume of the pool. -/
structure Volume where
  name : String
  key : String
  capacity : UInt64
  deriving DecidableEq

/-- The durable trace of a capture: what was about to be made, and its key once
it is known. -/
structure VolumeCheckpoint where
  captureId : String
  profile : String
  key : Option String
  deriving DecidableEq

/-- The name a capture gives its volume. Identities are never used again, so
neither are the names. -/
def warmVolumeName (captureId : String) : String := "warm-" ++ captureId ++ ".qcow2"

/-- Whose overlay a warm volume was made from. -/
structure Capture where
  volumeName : String
  allocation : Allocation

structure LibvirtState where
  config : Config
  pool : String
  volumes : List Volume
  documents : List PublishedWarm
  checkpoints : List VolumeCheckpoint
  records : List WarmImageRecord
  /-- Published cold bases, in the order of their directory. -/
  bases : List VolumePointer
  /-- The last reading of the clock. -/
  now : UInt64
  captures : List Capture

namespace LibvirtState

variable (s : LibvirtState)

def volume (name : String) : Option Volume := s.volumes.find? fun volume => volume.name = name

/-- The pointer document of a profile. -/
def document (profile : ProfileName) : Option PublishedWarm :=
  Table.get (fun document : PublishedWarm => document.profile) profile.value s.documents

/-- The profile's record. -/
def record (profile : ProfileName) : Option WarmImageRecord :=
  Table.get WarmImageRecord.profile profile s.records

def checkpoint (captureId : String) : Option VolumeCheckpoint :=
  Table.get VolumeCheckpoint.captureId captureId s.checkpoints

/-- The allocation whose overlay a volume was made from. -/
def origin (volumeName : String) : Option Allocation :=
  (Table.get Capture.volumeName volumeName s.captures).map (·.allocation)

def putDocument (document : PublishedWarm) : LibvirtState :=
  { s with documents := Table.put (fun document => document.profile) document s.documents }

def eraseDocument (profile : ProfileName) : LibvirtState :=
  { s with
    documents := Table.erase (fun document : PublishedWarm => document.profile) profile.value
      s.documents }

def putRecord (record : WarmImageRecord) : LibvirtState :=
  { s with records := Table.put WarmImageRecord.profile record s.records }

def eraseRecord (profile : ProfileName) : LibvirtState :=
  { s with records := Table.erase WarmImageRecord.profile profile s.records }

def putCheckpoint (checkpoint : VolumeCheckpoint) : LibvirtState :=
  { s with checkpoints := Table.put VolumeCheckpoint.captureId checkpoint s.checkpoints }

def eraseCheckpoint (captureId : String) : LibvirtState :=
  { s with checkpoints := Table.erase VolumeCheckpoint.captureId captureId s.checkpoints }

def eraseVolume (volume : Volume) : LibvirtState :=
  { s with volumes := s.volumes.erase volume }

/-- A new volume, made from an allocation's overlay. -/
def addCapture (volume : Volume) (allocation : Allocation) : LibvirtState :=
  { s with
    volumes := volume :: s.volumes
    captures := s.captures ++ [⟨volume.name, allocation⟩] }

/-- A fresh identity names nothing that is there or ever was. -/
def isFresh (captureId : String) : Bool :=
  (s.volume (warmVolumeName captureId)).isNone && (s.checkpoint captureId).isNone &&
    (s.origin (warmVolumeName captureId)).isNone

end LibvirtState

/-! ## Operations -/

/-- What a capture is asked with; the allocation is the one whose ownership
manifest names the overlay. -/
structure WarmCaptureRequest where
  allocation : Allocation
  profile : String
  captureId : String
  generation : UInt64
  virtualBytes : UInt64

structure WarmVerifyRequest where
  profile : String
  captureId : String
  generation : UInt64
  producedAtUnix : UInt64
  virtualBytes : UInt64

/-- What the environment decides at one operation. -/
structure LibvirtAnswer where
  outcome : CallOutcome := .done
  message : String := ""
  now : UInt64 := 0
  machines : List HostMachine := []
  captureId : String := ""
  /-- The key the pool gives a new volume. -/
  key : String := ""
  /-- How far a call of the helper came that failed. -/
  progress : ℕ := 0
  /-- The keys of the volumes some overlay is backed by. -/
  referenced : List String := []

inductive LibvirtOp
  | currentConfig
  | load (profile : ProfileName)
  | save (record : WarmImageRecord)
  | remove (profile : ProfileName)
  | unquarantine (profile : ProfileName)
  | setRetention (id : AllocationId) (outcome : RetentionOutcome)
  | hostMachines
  | machines
  | unixTime
  /-- A new random identity. -/
  | newCaptureId
  | loadManifest (id : AllocationId)
  | loadPointer (profile : ProfileName)
  | loadAllPointers
  | publishPointer (document : PublishedWarm)
  | removePointer (profile : ProfileName)
  | publishedBases
  | checkSource (pointer : VolumePointer)
  /-- Whether any of the promotion's budget is left. -/
  | remaining
  | ensureRetentionMarker (vmName : VmName)
  | ensureGeneralized (vmName : VmName)
  | warmQuiesce (vmName : VmName)
  | warmCapture (request : WarmCaptureRequest)
  | warmVerify (request : WarmVerifyRequest)
  | warmRetire (candidates protectedPointers : List VolumePointer)
  | loadCheckpoint (captureId : String)
  | removeCheckpoint (captureId : String)
  | pendingCaptures
  | deleteVolume (key : Option String) (name : String)
  /-- A reload puts a configuration in force. -/
  | reload (config : Config)

abbrev LibvirtOp.Res : LibvirtOp → Type
  | .currentConfig => Config
  | .load _ => Except StoreError (Option WarmImageRecord)
  | .save _ => Except StoreError Unit
  | .remove _ => Except StoreError Unit
  | .unquarantine _ => Unit
  | .setRetention _ _ => Except ManagerError Unit
  | .hostMachines => Except WorkerError (List HostMachine)
  | .machines => Except WorkerError (List HostMachine)
  | .unixTime => UInt64
  | .newCaptureId => String
  | .loadManifest _ => Except WorkerError Unit
  | .loadPointer _ => Except WorkerError (Option PublishedWarm)
  | .loadAllPointers => Except WorkerError (List PublishedWarm)
  | .publishPointer _ => Except WorkerError Unit
  | .removePointer _ => Except WorkerError Unit
  | .publishedBases => Except WorkerError (List VolumePointer)
  | .checkSource _ => Except WorkerError Unit
  | .remaining => Bool
  | .ensureRetentionMarker _ => Except WorkerError Unit
  | .ensureGeneralized _ => Except WorkerError Unit
  | .warmQuiesce _ => Except WorkerError Unit
  | .warmCapture _ => Except WorkerError VolumePointer
  | .warmVerify _ => Except WorkerError VolumePointer
  | .warmRetire _ _ => Except WorkerError (List String)
  | .loadCheckpoint _ => Except WorkerError (Option VolumeCheckpoint)
  | .removeCheckpoint _ => Except WorkerError Unit
  | .pendingCaptures => Except WorkerError (List String)
  | .deleteVolume _ _ => Except WorkerError Unit
  | .reload _ => Unit

abbrev LibvirtProg (α : Type) := Prog LibvirtOp LibvirtOp.Res α

namespace LibvirtAnswer

variable (a : LibvirtAnswer)

/-- What a call reports. -/
def reported {α : Type} (value : α) : Except WorkerError α :=
  if a.outcome = .done then .ok value else .error (.new a.message)

/-- What the store reports. -/
def stored {α : Type} (value : α) : Except StoreError α :=
  if a.outcome = .done then .ok value else .error ⟨a.message⟩

/-- A write, which may be reported as failed when it was not. -/
def written (before after : LibvirtState) : LibvirtState :=
  if a.outcome = .failed then before else after

end LibvirtAnswer

/-! ## What the helper does -/

/-- Why a candidate is refused before anything is looked up. -/
def ensureRetirable (pool : String) (protectedPointers : List VolumePointer) :
    List VolumePointer → Except WorkerError Unit
  | [] => .ok ()
  | candidate :: candidates =>
    if candidate.pool ≠ pool then
      .error (.new "retirement candidate belongs to another storage pool")
    else if protectedPointers.any (·.isSameVolume candidate) then
      .error (.new "retirement candidate is a protected generation")
    else ensureRetirable pool protectedPointers candidates

/-- Delete a candidate that nothing refers to; whether it is gone. -/
def deleteIfUnreferenced (referenced : List String) (s : LibvirtState) (candidate : VolumePointer) :
    Except WorkerError (LibvirtState × Bool) :=
  match s.volume candidate.volumeName with
  | none => .ok (s, true)
  | some volume =>
    if volume.key ≠ candidate.volumeKey then
      .error (.new "retirement candidate disagrees with the configured-pool volume")
    else if referenced.contains volume.key then .ok (s, false)
    else .ok (s.eraseVolume volume, true)

/-- Every candidate in order; the keys of those that are gone. -/
def deleteUnreferenced (referenced : List String) :
    List VolumePointer → LibvirtState → LibvirtState × Except WorkerError (List String)
  | [], s => (s, .ok [])
  | candidate :: candidates, s =>
    match deleteIfUnreferenced referenced s candidate with
    | .error e => (s, .error e)
    | .ok (s, isGone) =>
      match deleteUnreferenced referenced candidates s with
      | (s, .error e) => (s, .error e)
      | (s, .ok deleted) =>
        (s, .ok (if isGone then candidate.volumeKey :: deleted else deleted))

/-- Prove and delete in one call. -/
def retireVolumes (a : LibvirtAnswer) (candidates protectedPointers : List VolumePointer)
    (s : LibvirtState) : LibvirtState × Except WorkerError (List String) :=
  match ensureRetirable s.pool protectedPointers candidates with
  | .error e => (s, .error e)
  | .ok _ =>
    if a.outcome = .done then deleteUnreferenced a.referenced candidates s
    else ((deleteUnreferenced a.referenced (candidates.take a.progress) s).1, .error
      (.new a.message))

/-- The pool holds the pointer's volume as the pointer describes it. -/
def LibvirtState.hasVolume (s : LibvirtState) (pointer : VolumePointer) : Bool :=
  pointer.pool = s.pool && (s.volume pointer.volumeName).any fun volume =>
    volume.key = pointer.volumeKey && volume.capacity = pointer.virtualBytes

/-- A pointer that passed its validation. -/
def checkPointer (pointer : VolumePointer) : Except WorkerError VolumePointer :=
  match pointer.ensureValid with
  | .ok _ => .ok pointer
  | .error e => .error (.new e.message)

/-- Flatten an overlay into a new volume. The journal entry comes first, then
the volume, then its key in the journal; a volume whose key cannot be recorded
is deleted again, which can fail too. -/
def captureVolume (a : LibvirtAnswer) (request : WarmCaptureRequest) (s : LibvirtState) :
    LibvirtState × Except WorkerError VolumePointer :=
  let name := warmVolumeName request.captureId
  let journaled (key : Option String) (s : LibvirtState) : LibvirtState :=
    s.putCheckpoint ⟨request.captureId, request.profile, key⟩
  let created : LibvirtState :=
    (journaled none s).addCapture ⟨name, a.key, request.virtualBytes⟩ request.allocation
  let failure : Except WorkerError VolumePointer := .error (.new a.message)
  if (s.checkpoint request.captureId).isSome then
    (s, .error (.new "volume creation checkpoint already exists"))
  else if s.volumes.any fun volume => volume.name = name || volume.key = a.key then
    -- the pool does not make a volume twice
    (journaled none s, failure)
  else
    match a.outcome, a.progress with
    | .failed, 0 => (s, failure)
    | .failed, 1 => (journaled none s, failure)
    | .failed, 2 => (created, failure)
    | .failed, _ => (journaled a.key s, failure)
    | .late, _ => (journaled a.key created, failure)
    | .done, _ =>
      (journaled a.key created,
        checkPointer ⟨s.pool, name, a.key, request.virtualBytes, request.generation, a.now⟩)

/-- Read the captured volume back. Whether it is standalone is the
environment's answer. -/
def verifyVolume (a : LibvirtAnswer) (request : WarmVerifyRequest) (s : LibvirtState) :
    Except WorkerError VolumePointer :=
  let name := warmVolumeName request.captureId
  match s.checkpoint request.captureId with
  | none => .error (.new "warm capture has no durable checkpoint")
  | some checkpoint =>
    if checkpoint.profile ≠ request.profile then .error (.new a.message)
    else
      match checkpoint.key with
      | none => .error (.new "warm checkpoint records no volume key")
      | some key =>
        if (s.volume name).any fun volume =>
            volume.key = key && volume.capacity = request.virtualBytes then
          if a.outcome = .done then
            checkPointer ⟨s.pool, name, key, request.virtualBytes, request.generation,
              request.producedAtUnix⟩
          else .error (.new a.message)
        else .error (.new "captured warm volume disagrees with its checkpoint")

/-- Delete one owned volume by its name, and by its key when one is known. -/
def deleteExact (a : LibvirtAnswer) (key : Option String) (name : String) (s : LibvirtState) :
    LibvirtState × Except WorkerError Unit :=
  match s.volume name with
  | none => (s, a.reported ())
  | some volume =>
    if key.any (· ≠ volume.key) then
      (s, .error (.new "configured-pool volume disagrees with the ownership manifest"))
    else (a.written s (s.eraseVolume volume), a.reported ())

/-- What one operation does. -/
def libvirtExec : (op : LibvirtOp) → LibvirtAnswer → LibvirtState → Option (LibvirtState × op.Res)
  | .currentConfig, _, s => some (s, s.config)
  | .load profile, a, s => some (s, a.stored (s.record profile))
  | .save record, a, s => some (a.written s (s.putRecord record), a.stored ())
  | .remove profile, a, s => some (a.written s (s.eraseRecord profile), a.stored ())
  | .unquarantine _, _, s => some (s, ())
  | .setRetention id _, a, s =>
    some (s, if a.outcome = .done then .ok () else .error (.notFound id))
  | .hostMachines, a, s => some (s, a.reported a.machines)
  | .machines, a, s => some (s, a.reported a.machines)
  | .unixTime, a, s => some ({ s with now := a.now }, a.now)
  | .newCaptureId, a, s => if s.isFresh a.captureId then some (s, a.captureId) else none
  | .loadManifest _, a, s => some (s, a.reported ())
  | .loadPointer profile, a, s => some (s, a.reported (s.document profile))
  | .loadAllPointers, a, s => some (s, a.reported s.documents)
  | .publishPointer document, a, s => some (a.written s (s.putDocument document), a.reported ())
  | .removePointer profile, a, s => some (a.written s (s.eraseDocument profile), a.reported ())
  | .publishedBases, a, s => some (s, a.reported s.bases)
  | .checkSource pointer, a, s =>
    some (s, if s.hasVolume pointer then a.reported () else .error (.new a.message))
  | .remaining, a, s => some (s, a.outcome = .done)
  | .ensureRetentionMarker _, a, s => some (s, a.reported ())
  | .ensureGeneralized _, a, s => some (s, a.reported ())
  | .warmQuiesce _, a, s => some (s, a.reported ())
  | .warmCapture request, a, s => some (captureVolume a request s)
  | .warmVerify request, a, s => some (s, verifyVolume a request s)
  | .warmRetire candidates protectedPointers, a, s =>
    some (retireVolumes a candidates protectedPointers s)
  | .loadCheckpoint captureId, a, s => some (s, a.reported (s.checkpoint captureId))
  | .removeCheckpoint captureId, a, s => some (a.written s (s.eraseCheckpoint captureId),
    a.reported ())
  | .pendingCaptures, a, s => some (s, a.reported (s.checkpoints.map (·.captureId)))
  | .deleteVolume key name, a, s => some (deleteExact a key name s)
  | .reload config, _, s => some ({ s with config := config }, ())

namespace Libvirt

/-- One operation by itself. -/
abbrev perform (op : LibvirtOp) : LibvirtProg op.Res := Prog.perform op

/-! ## What the manager asks of it -/

/-- Answered from the durable pointer, never from a name: the generations of
the record and of the pointer must agree. -/
def warmPointerAvailability (record : WarmImageRecord) :
    LibvirtProg (Except WorkerError WarmAvailability) := do
  match ← perform (.loadPointer record.profile) with
  | .error e => return .error e
  | .ok none => return .ok .absent
  | .ok (some document) =>
    if document.generation ≠ record.generation ||
        document.logicalName ≠ record.warmTemplate.value then return .ok .absent
    match ← perform (.checkSource document.current) with
    | .ok _ => return .ok .ready
    | .error _ => return .ok .absent

/-- Make the surviving generation current again. A pointer with nothing that
matches is left as it is. -/
def ensurePointerRestored (record : WarmImageRecord) : LibvirtProg (Except WorkerError Unit) := do
  match ← perform (.loadPointer record.profile) with
  | .error e => return .error e
  | .ok none =>
    return .error (.new "no warm pointer survives this profile; allocations boot cold")
  | .ok (some document) =>
    match record.previous with
    | none =>
      return .error
        (.new "no earlier generation survives this profile; leaving the pointer untouched")
    | some previous =>
      if document.generation = previous.generation then return .ok ()
      match document.restored previous.generation with
      | .error _ =>
        return .error
          (.new "no superseded generation matches the record; leaving the pointer untouched")
      | .ok restored => perform (.publishPointer restored)

/-- Images are retired on the sweep, never through a deletion. Clones of the
service are outside this model. -/
def deleteVm (request : ReapRequest) : LibvirtProg (Except WorkerError Unit) :=
  if request.reserved.contains request.name.value then
    return .error (.new "refusing to delete a name live configuration claims")
  else
    return .error (.new "libvirt retires images on the sweep, never through a deletion")

/-- Libvirt behind the manager's warm code. No image is addressed by its name
here, so none can be unclaimed. -/
def port : WarmPort LibvirtOp LibvirtOp.Res where
  currentConfig := perform .currentConfig
  load profile := perform (.load profile)
  save record := perform (.save record)
  remove profile := perform (.remove profile)
  unquarantine profile := perform (.unquarantine profile)
  setRetention id outcome := perform (.setRetention id outcome)
  hostMachines := perform .hostMachines
  machines := perform .machines
  warmAvailability _ record _ := warmPointerAvailability record
  isUnclaimedImage _ _ := return .ok false
  ensureWarmRestored _ record := ensurePointerRestored record
  deleteVm := deleteVm

end Libvirt

end FlanForge
