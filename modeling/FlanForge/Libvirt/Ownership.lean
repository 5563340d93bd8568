import FlanForge.Libvirt.Host

/-!
# Ownership documents

What a guest of the service leaves on disk. The ownership manifest names the
domain and the two volumes of an allocation, and is the only authority over
them. The volume checkpoint is the helper's journal: which of the two volumes
it made, with their keys. The cleanup tombstone says that everything the
manifest named is gone. A live domain repeats its ownership in its metadata.

The documents and their checks are as the source has them. An identity is
the canonical text of a UUID. Only allocations own a checkpoint here, so its
owner is an allocation and its roles are the overlay and the seed.
-/

namespace FlanForge

/-- The identity nothing has. -/
def isNilUuid (value : String) : Bool := value = "00000000-0000-0000-0000-000000000000"

inductive RuntimeError
  | libvirt (operation message : String)
  | ownership (message : String)
  | manifest (message : String)
  deriving DecidableEq

/-- The error as the worker reports it. -/
def RuntimeError.message : RuntimeError → String
  | .libvirt operation message => "libvirt " ++ operation ++ " failed: " ++ message
  | .ownership message => "libvirt ownership check failed: " ++ message
  | .manifest message => "libvirt manifest is invalid: " ++ message

/-! ## The manifest -/

/-- A volume of an allocation, with its key once it is known. -/
structure Artifact where
  name : String
  key : Option String
  deriving DecidableEq

structure OwnershipManifest where
  schemaVersion : UInt8
  allocationId : AllocationId
  serviceInstance : String
  domainName : String
  domainUuid : String
  macAddress : String
  overlay : Artifact
  seed : Artifact
  hostKeyAlias : String
  knownHostsFile : String
  createdUnixSeconds : UInt64
  deriving DecidableEq

def isMac (value : String) : Bool :=
  value.utf8ByteSize = 17 && (splitAll ':' value.toList).length = 6 &&
    (splitAll ':' value.toList).all fun part => part.length = 2 &&
      part.all fun c => c.isDigit || ('a' ≤ c && c ≤ 'f') || ('A' ≤ c && c ≤ 'F')

def isNormalAbsolute (path : String) (maximumBytes : ℕ) : Bool :=
  path.toList.head? = some '/' && path.utf8ByteSize ≤ maximumBytes && !hasPair '/' path.toList &&
    !(splitAll '/' path.toList).any fun segment => segment = ['.'] || segment = ['.', '.']

/-- The identity in the name of a volume. -/
def artifactId (value start stop : String) : Option String :=
  match stripHead start.toList value.toList with
  | none => none
  | some rest =>
    match stripTail stop.toList rest with
    | none => none
    | some id =>
      if isUuidText (String.ofList id) && !isNilUuid (String.ofList id) then some (String.ofList id)
      else none

namespace OwnershipManifest

variable (manifest : OwnershipManifest)

/-- The checks of the manifest, in the order of the source, with the field each
one names. -/
def checks : List (Bool × String) :=
  [(manifest.schemaVersion = 1, "schema_version"),
   (!manifest.allocationId.isNil, "allocation_id"),
   (!isNilUuid manifest.serviceInstance, "service_instance"),
   (!isNilUuid manifest.domainUuid, "domain_uuid"),
   (manifest.createdUnixSeconds ≠ 0, "created_unix_seconds"),
   (isSafeName manifest.domainName 128, "domain_name"),
   (isSafeName manifest.overlay.name 128, "overlay.name"),
   (isSafeName manifest.seed.name 128, "seed.name"),
   (isMac manifest.macAddress, "mac_address"),
   (isSafeName manifest.hostKeyAlias 128, "host_key_alias"),
   (isNormalAbsolute manifest.knownHostsFile 4096, "known_hosts_file"),
   (manifest.overlay.key.all (isSafeKey · 1024), "overlay.key"),
   (manifest.seed.key.all (isSafeKey · 1024), "seed.key")]

/-- The first check that fails. -/
def ensureValid : Except WireError Unit :=
  match manifest.checks.find? (!·.1) with
  | some (_, field) => .error ⟨"libvirt ownership manifest", field⟩
  | none => .ok ()

/-- Both volumes carry the same identity. -/
def ensureRecoveryArtifacts : Except RuntimeError Unit :=
  let overlay := artifactId manifest.overlay.name "root-" ".qcow2"
  let seed := artifactId manifest.seed.name "seed-" ".img"
  if overlay = none || overlay ≠ seed then
    .error (.ownership "durable allocation artifact identities disagree")
  else .ok ()

def hasKeys : Bool := manifest.overlay.key.isSome && manifest.seed.key.isSome

end OwnershipManifest

/-- The reason a wire check failed, as an error of the runtime. -/
def checked (result : Except WireError Unit) : Except RuntimeError Unit :=
  match result with
  | .ok _ => .ok ()
  | .error e => .error (.manifest e.message)

/-! ## The checkpoint -/

inductive CheckpointVolumeRole
  | overlay
  | seed
  deriving DecidableEq

structure CheckpointVolume where
  role : CheckpointVolumeRole
  name : String
  key : String
  deriving DecidableEq

structure AllocationCheckpoint where
  schemaVersion : UInt8
  serviceInstance : String
  pool : String
  allocationId : AllocationId
  volumes : List CheckpointVolume
  deriving DecidableEq

namespace AllocationCheckpoint

/-- The journal before the first volume is made. -/
def new (serviceInstance pool : String) (id : AllocationId) : AllocationCheckpoint :=
  ⟨1, serviceInstance, pool, id, []⟩

variable (checkpoint : AllocationCheckpoint)

def volume (role : CheckpointVolumeRole) : Option CheckpointVolume :=
  checkpoint.volumes.find? (·.role = role)

/-- No volume shares its role, its name or its key with one before it. -/
def isDistinct : List CheckpointVolume → Bool
  | [] => true
  | volume :: rest => isDistinct rest && rest.all fun other =>
      other.role ≠ volume.role && other.name ≠ volume.name && other.key ≠ volume.key

/-- The names carry one identity, as far as they are there. -/
def hasAllocationNames : Bool :=
  let overlay := (checkpoint.volume .overlay).map fun volume =>
    artifactId volume.name "root-" ".qcow2"
  let seed := (checkpoint.volume .seed).map fun volume => artifactId volume.name "seed-" ".img"
  match overlay, seed with
  | some overlay, some seed => overlay.isSome && seed.isSome && overlay = seed
  | some overlay, none => overlay.isSome
  | none, some seed => seed.isSome
  | none, none => true

def checks : List (Bool × String) :=
  [(checkpoint.schemaVersion = 1 && !isNilUuid checkpoint.serviceInstance &&
      isSafeName checkpoint.pool 128 && checkpoint.volumes.length ≤ 2, "structure"),
   (!checkpoint.allocationId.isNil, "owner"),
   (checkpoint.volumes.all fun volume =>
      isSafeName volume.name 128 && isSafeKey volume.key 4096, "volume"),
   (isDistinct checkpoint.volumes, "duplicate volume"),
   (checkpoint.hasAllocationNames, "allocation volume name")]

def ensureValid : Except WireError Unit :=
  match checkpoint.checks.find? (!·.1) with
  | some (_, field) => .error ⟨"libvirt volume checkpoint", field⟩
  | none => .ok ()

/-- Add one volume that was made. -/
def record (volume : CheckpointVolume) : Except WireError AllocationCheckpoint :=
  match checkpoint.volume volume.role with
  | some existing =>
    if existing = volume then .ok checkpoint
    else .error ⟨"libvirt volume checkpoint", "role collision"⟩
  | none =>
    let recorded := { checkpoint with volumes := checkpoint.volumes ++ [volume] }
    match recorded.ensureValid with
    | .ok _ => .ok recorded
    | .error e => .error e

/-- The journal is this allocation's, and about these volumes. -/
def ensureAllocation (serviceInstance pool : String) (id : AllocationId)
    (overlayName seedName : String) : Except WireError Unit :=
  match checkpoint.ensureValid with
  | .error e => .error e
  | .ok _ =>
    if checkpoint.serviceInstance ≠ serviceInstance || checkpoint.pool ≠ pool ||
        checkpoint.allocationId ≠ id ||
        checkpoint.volumes.any fun volume =>
          match volume.role with
          | .overlay => volume.name ≠ overlayName
          | .seed => volume.name ≠ seedName
    then .error ⟨"libvirt volume checkpoint", "allocation binding"⟩
    else .ok ()

end AllocationCheckpoint

/-- Take the key of a volume over from the journal. -/
def mergeArtifact (artifact : Artifact) : Option CheckpointVolume → Except RuntimeError Artifact
  | none => .ok artifact
  | some volume =>
    if artifact.name ≠ volume.name || artifact.key.any (· ≠ volume.key) then
      .error (.ownership "volume checkpoint disagrees with durable allocation ownership")
    else .ok { artifact with key := some volume.key }

/-- Take the keys over from the journal. The result is validated again. -/
def mergeAllocation (checkpoint : AllocationCheckpoint) (manifest : OwnershipManifest)
    (serviceInstance pool : String) : Except RuntimeError OwnershipManifest := do
  match checkpoint.ensureAllocation serviceInstance pool manifest.allocationId
      manifest.overlay.name manifest.seed.name with
  | .error e => .error (.ownership e.message)
  | .ok _ =>
    let overlay ← mergeArtifact manifest.overlay (checkpoint.volume .overlay)
    let seed ← mergeArtifact manifest.seed (checkpoint.volume .seed)
    let merged := { manifest with overlay := overlay, seed := seed }
    checked merged.ensureValid
    return merged

/-! ## The tombstone -/

structure CleanupTombstone where
  schemaVersion : UInt8
  allocationId : AllocationId
  serviceInstance : String
  domainName : String
  domainUuid : String
  cleanedUnixSeconds : UInt64
  deriving DecidableEq

namespace CleanupTombstone

variable (tombstone : CleanupTombstone)

/-- What is written once everything the manifest names is gone. -/
def new (manifest : OwnershipManifest) (now : UInt64) : CleanupTombstone :=
  ⟨1, manifest.allocationId, manifest.serviceInstance, manifest.domainName,
    manifest.domainUuid, now⟩

def checks : List (Bool × String) :=
  [(tombstone.schemaVersion = 1, "schema_version"),
   (!tombstone.allocationId.isNil, "allocation_id"),
   (!isNilUuid tombstone.serviceInstance, "service_instance"),
   (!isNilUuid tombstone.domainUuid, "domain_uuid"),
   (isSafeName tombstone.domainName 128, "domain_name"),
   (tombstone.cleanedUnixSeconds ≠ 0, "cleaned_unix_seconds")]

def ensureValid : Except WireError Unit :=
  match tombstone.checks.find? (!·.1) with
  | some (_, field) => .error ⟨"libvirt cleanup tombstone", field⟩
  | none => .ok ()

/-- The tombstone is the manifest's. -/
def ensureMatchesManifest (manifest : OwnershipManifest) : Except RuntimeError Unit :=
  if tombstone.allocationId ≠ manifest.allocationId ||
      tombstone.serviceInstance ≠ manifest.serviceInstance ||
      tombstone.domainName ≠ manifest.domainName || tombstone.domainUuid ≠ manifest.domainUuid then
    .error (.ownership "cleanup tombstone and ownership manifest disagree")
  else .ok ()

/-- The tombstone is the allocation's. -/
def ensureMatches (id : AllocationId) (vmName : VmName) (serviceInstance : String) :
    Except RuntimeError Unit :=
  match tombstone.ensureValid with
  | .error e => .error (.manifest e.message)
  | .ok _ =>
    if tombstone.allocationId ≠ id || tombstone.domainName ≠ vmName.value ||
        tombstone.serviceInstance ≠ serviceInstance then
      .error (.ownership "cleanup tombstone and durable allocation disagree")
    else .ok ()

end CleanupTombstone

/-! ## The domain's metadata -/

/-- The ownership a domain is defined with. -/
structure DomainMetadata where
  allocation : AllocationId
  serviceInstance : String
  domain : String
  overlay : String
  seed : String
  deriving DecidableEq

def ensureMetadataMatches (metadata : DomainMetadata) (manifest : OwnershipManifest) :
    Except RuntimeError Unit :=
  match manifest.overlay.key, manifest.seed.key with
  | none, _ => .error (.ownership "overlay key is absent")
  | some _, none => .error (.ownership "seed key is absent")
  | some overlay, some seed =>
    if metadata = ⟨manifest.allocationId, manifest.serviceInstance, manifest.domainUuid,
      overlay, seed⟩
    then .ok ()
    else .error (.ownership "live domain metadata does not match the durable manifest")

end FlanForge
