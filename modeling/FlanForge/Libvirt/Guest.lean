import FlanForge.Libvirt.Ownership
import FlanForge.Reaper.Plan

/-!
# Guests and their state directories

The host as booting and tearing down a guest sees it: one state directory an
allocation, the domains, the volumes of the pool, the flag of the manager
that a guest was created, and the pool's claims, which are only in memory.

Every call of the helper and every step on a file can fail, and a step that
failed may have happened all the same (`CallOutcome`). The helper's calls
work through several volumes, and a write goes through a temporary file, so
a failure can also come in between (`GuestAnswer.progress` and the `Left`
fields). Calls succeed only on what is there: the checks of the source come
first, whatever the answer.

A `Site` fixes what does not change: the service instance, the pool and the
key it gives each volume, and the identities. The random identities of a boot
are a function of the allocation, since a directory is only made once.
-/

namespace FlanForge

/-! ## Site -/

structure Site where
  stateDir : String
  serviceInstance : String
  pool : String
  /-- The key the pool gives the volume of a name. -/
  keyOf : String → String
  /-- The guest name of an allocation, which its record never changes. -/
  vmName : AllocationId → VmName
  /-- The identity a boot draws for the domain. -/
  domainUuid : AllocationId → String
  /-- The identity a boot draws for the two volumes. -/
  artifact : AllocationId → String
  domainUuid_injective : Function.Injective domainUuid
  artifact_injective : Function.Injective artifact
  artifact_canonical : ∀ id, isUuidText (artifact id) = true
  artifact_ne_nil : ∀ id, id.isNil = false → isNilUuid (artifact id) = false

namespace Site

variable (site : Site)

def overlayName (id : AllocationId) : String := "root-" ++ site.artifact id ++ ".qcow2"

def seedName (id : AllocationId) : String := "seed-" ++ site.artifact id ++ ".img"

/-- The host-key anchor in an allocation's state directory. -/
def knownHosts (id : AllocationId) : String :=
  site.stateDir ++ "/libvirt/allocations/" ++ id.value ++ "/known_hosts"

end Site

/-- The address is a function of the identity: its last five bytes. -/
def macFor (id : AllocationId) : String :=
  "02:" ++ String.ofList (pairs (id.value.toList.drop 26))
where
  pairs : List Char → List Char
    | a :: b :: c :: rest => a :: b :: ':' :: pairs (c :: rest)
    | rest => rest

/-! ## State -/

/-- The temporary files an interrupted write can leave. -/
inductive Temporary
  | ownership
  | cleanup
  | checkpoint
  deriving DecidableEq

/-- The files that carry authority. -/
inductive AuthorityFile
  | knownHosts
  | ownership
  | checkpoint
  deriving DecidableEq

/-- One allocation's state directory. -/
structure AllocationDir where
  id : AllocationId
  ownership : Option OwnershipManifest := none
  knownHosts : Bool := false
  checkpoint : Option AllocationCheckpoint := none
  tombstone : Option CleanupTombstone := none
  temporaries : List Temporary := []
  deriving DecidableEq

namespace AllocationDir

variable (directory : AllocationDir)

def entries : ℕ :=
  directory.ownership.toList.length + directory.knownHosts.toNat +
    directory.checkpoint.toList.length + directory.tombstone.toList.length +
    directory.temporaries.length

/-- Without the temporaries of one kind. -/
def swept (kind : Temporary) : AllocationDir :=
  { directory with temporaries := directory.temporaries.filter (· ≠ kind) }

/-- With a temporary that was not removed. -/
def littered (kind : Temporary) : AllocationDir :=
  { directory with temporaries := directory.temporaries ++ [kind] }

def remove : AuthorityFile → AllocationDir
  | .knownHosts => { directory with knownHosts := false }
  | .ownership => { directory with ownership := none }
  | .checkpoint => { directory with checkpoint := none }

end AllocationDir

structure Domain where
  name : String
  uuid : String
  metadata : DomainMetadata
  isActive : Bool
  deriving DecidableEq

structure GuestHost where
  directories : List AllocationDir
  domains : List Domain
  /-- The names of the pool's volumes. -/
  volumes : List String
  /-- The allocations whose record says that a guest was created. -/
  created : List AllocationId
  /-- The machines the pool claims. -/
  claimed : List VmName

namespace GuestHost

variable (s : GuestHost)

def directory (id : AllocationId) : Option AllocationDir :=
  Table.get AllocationDir.id id s.directories

/-- The manifest in an allocation's directory. -/
def ownership (id : AllocationId) : Option OwnershipManifest :=
  (s.directory id).bind (·.ownership)

def putDirectory (directory : AllocationDir) : GuestHost :=
  { s with directories := Table.put AllocationDir.id directory s.directories }

def eraseDirectory (id : AllocationId) : GuestHost :=
  { s with directories := Table.erase AllocationDir.id id s.directories }

def domain (uuid : String) : Option Domain := s.domains.find? (·.uuid = uuid)

/-- Start or stop a domain. -/
def setActive (uuid : String) (isActive : Bool) : GuestHost :=
  { s with
    domains := s.domains.map fun domain =>
      if domain.uuid = uuid then { domain with isActive := isActive } else domain }

def eraseDomain (uuid : String) : GuestHost :=
  { s with domains := s.domains.filter (·.uuid ≠ uuid) }

def eraseVolume (name : String) : GuestHost :=
  { s with volumes := s.volumes.filter (· ≠ name) }

/-- With a new volume, if it is left there. -/
def addVolume (name : String) (isLeft : Bool) : GuestHost :=
  if isLeft then { s with volumes := name :: s.volumes } else s

end GuestHost

/-! ## Operations -/

/-- What the environment decides at one operation. -/
structure GuestAnswer where
  outcome : CallOutcome := .done
  message : String := ""
  now : UInt64 := 1
  /-- The directories in the order they are read. -/
  order : List AllocationId := []
  hostKeyAlias : String := "guest"
  /-- How far a call came that failed. -/
  progress : ℕ := 0
  overlayLeft : Bool := false
  seedLeft : Bool := false
  temporaryLeft : Bool := false

inductive GuestOp
  | buildSeed (id : AllocationId)
  | newIdentities (id : AllocationId)
  | unixTime
  | ensureNotCancelled (boundary : String)
  | transition (id : AllocationId) (state : AllocationState)
  | setVmCreated (id : AllocationId)
  | createDirectory (id : AllocationId)
  | writeKnownHosts (id : AllocationId)
  | readAllocations
  | loadOwnership (id : AllocationId)
  | saveOwnership (id : AllocationId) (manifest : OwnershipManifest)
  | loadCheckpoint (id : AllocationId)
  | removeCheckpoint (id : AllocationId)
  | loadCleanup (id : AllocationId)
  | recordCleanup (manifest : OwnershipManifest)
  | statDirectory (id : AllocationId)
  | removeTemporaries (id : AllocationId)
  | removeFile (id : AllocationId) (file : AuthorityFile)
  | syncDirectory (id : AllocationId)
  | removeDirectory (id : AllocationId)
  | syncAllocations
  /-- The helper's calls. -/
  | create (manifest : OwnershipManifest)
  | define (manifest : OwnershipManifest)
  | start (manifest : OwnershipManifest)
  | cleanup (manifest : OwnershipManifest)
  | deleteRunner (id : AllocationId)
  | isClaimed (name : VmName)
  | ensureClaimed (name : VmName)
  | release (name : VmName)
  /-- Everything that needs the guest itself: its address, its readiness, the
  channel into it, the recycle gate, and the job. -/
  | useGuest (manifest : OwnershipManifest) (purpose : String)

abbrev GuestOp.Res : GuestOp → Type
  | .buildSeed _ => Except WorkerError String
  | .newIdentities _ => String × String
  | .unixTime => Except WorkerError UInt64
  | .readAllocations => Except WorkerError (List AllocationId)
  | .loadOwnership _ => Except WorkerError (Option OwnershipManifest)
  | .loadCheckpoint _ => Except WorkerError (Option AllocationCheckpoint)
  | .loadCleanup _ => Except WorkerError (Option CleanupTombstone)
  | .statDirectory _ => Except WorkerError Bool
  | .removeDirectory _ => Except WorkerError Bool
  | .create _ => Except WorkerError OwnershipManifest
  | .isClaimed _ => Bool
  | .ensureClaimed _ => Unit
  | .release _ => Unit
  | _ => Except WorkerError Unit

abbrev GuestProg (α : Type) := Prog GuestOp GuestOp.Res α

namespace GuestAnswer

variable (a : GuestAnswer)

def failure {α : Type} : Except WorkerError α := .error (.new a.message)

def reported {α : Type} (value : α) : Except WorkerError α :=
  if a.outcome = .done then .ok value else a.failure

/-- A step that may be reported as failed when it was not. -/
def written (before after : GuestHost) : GuestHost :=
  if a.outcome = .failed then before else after

end GuestAnswer

/-- An error of the runtime, as the worker sees it. -/
def runtimeError (e : RuntimeError) : WorkerError := .new e.message

/-- An error of the helper, as the worker sees it. -/
def helperError (e : RuntimeError) : WorkerError :=
  .new ("libvirt helper failed (" ++ code e ++ "): " ++ e.message)
where
  code : RuntimeError → String
    | .libvirt _ _ => "Libvirt"
    | .ownership _ => "Ownership"
    | .manifest _ => "Manifest"

/-- More entries than a state directory has. -/
def tooManyEntries : WorkerError := runtimeError (.manifest "allocation state has too many entries")

/-! ## Files -/

section Files

variable (a : GuestAnswer) (s : GuestHost)

/-- Replace the manifest: sweep, write a temporary, rename, sync. -/
def saveOwnership (id : AllocationId) (manifest : OwnershipManifest) :
    GuestHost × Except WorkerError Unit :=
  match manifest.ensureValid with
  | .error e => (s, .error (runtimeError (.manifest e.message)))
  | .ok _ =>
    match s.directory id with
    | none => (s, .error (runtimeError (.manifest "No such file or directory")))
    | some directory =>
      if directory.entries > 32 then (s, .error tooManyEntries)
      else
        let swept := directory.swept .ownership
        match a.outcome, a.progress with
        | .done, _ => (s.putDirectory { swept with ownership := some manifest }, .ok ())
        | .late, _ => (s.putDirectory { swept with ownership := some manifest }, a.failure)
        | .failed, 0 => (s, a.failure)
        | .failed, 1 => (s.putDirectory swept, a.failure)
        | .failed, _ => (s.putDirectory (swept.littered .ownership), a.failure)

def loadCleanup (id : AllocationId) : GuestHost × Except WorkerError (Option CleanupTombstone) :=
  match s.directory id with
  | none => (s, a.reported none)
  | some directory =>
    if directory.entries > 32 then (s, .error tooManyEntries)
    else if a.outcome ≠ .done && a.progress = 0 then (s, a.failure)
    else (s.putDirectory (directory.swept .cleanup), a.reported directory.tombstone)

/-- Write the tombstone, unless it is there: sweep, write a temporary, link,
remove the temporary, sync. -/
def recordCleanup (manifest : OwnershipManifest) : GuestHost × Except WorkerError Unit :=
  match s.directory manifest.allocationId with
  | none => (s, .error (runtimeError (.manifest "No such file or directory")))
  | some directory =>
    if directory.entries > 32 then (s, .error tooManyEntries)
    else if a.outcome = .failed && a.progress = 0 then (s, a.failure)
    else
      let swept := directory.swept .cleanup
      match directory.tombstone with
      | some tombstone =>
        (s.putDirectory swept,
          match tombstone.ensureMatchesManifest manifest with
          | .error e => .error (runtimeError e)
          | .ok _ => a.reported ())
      | none =>
        let tombstone := CleanupTombstone.new manifest a.now
        match tombstone.ensureValid with
        | .error e => (s.putDirectory swept, .error (runtimeError (.manifest e.message)))
        | .ok _ =>
          let buried := { swept with tombstone := some tombstone }
          match a.outcome with
          | .done => (s.putDirectory buried, .ok ())
          | .late =>
            (s.putDirectory (if a.temporaryLeft then buried.littered .cleanup else buried),
              a.failure)
          | .failed =>
            (s.putDirectory (if a.temporaryLeft then swept.littered .cleanup else swept), a.failure)

def removeTemporaries (id : AllocationId) : GuestHost × Except WorkerError Unit :=
  match s.directory id with
  | none => (s, a.reported ())
  | some directory =>
    if directory.entries > 32 then (s, .error (.new "allocation state has too many entries"))
    else if a.outcome = .done then (s.putDirectory { directory with temporaries := [] }, .ok ())
    else
      (s.putDirectory { directory with temporaries := directory.temporaries.drop a.progress },
        a.failure)

def removeFile (id : AllocationId) (file : AuthorityFile) : GuestHost × Except WorkerError Unit :=
  match s.directory id with
  | none => (s, a.reported ())
  | some directory => (a.written s (s.putDirectory (directory.remove file)), a.reported ())

/-- Whether the directory was there and is gone now. -/
def removeDirectory (id : AllocationId) : GuestHost × Except WorkerError Bool :=
  match s.directory id with
  | none => (s, a.reported false)
  | some directory =>
    if directory.entries ≠ 0 then (s, .error (.new "allocation state directory is not empty"))
    else (a.written s (s.eraseDirectory id), a.reported true)

def removeCheckpoint (id : AllocationId) : GuestHost × Except WorkerError Unit :=
  match s.directory id with
  | none => (s, .error (runtimeError (.manifest "No such file or directory")))
  | some directory =>
    (a.written s (s.putDirectory { directory with checkpoint := none }), a.reported ())

def createDirectory (id : AllocationId) : GuestHost × Except WorkerError Unit :=
  match s.directory id with
  | some _ => (s, .error (runtimeError (.manifest "File exists")))
  | none => (a.written s (s.putDirectory { id := id }), a.reported ())

def writeKnownHosts (id : AllocationId) : GuestHost × Except WorkerError Unit :=
  match s.directory id with
  | none => (s, .error (runtimeError (.manifest "No such file or directory")))
  | some directory =>
    if directory.knownHosts then (s, .error (runtimeError (.manifest "File exists")))
    else (a.written s (s.putDirectory { directory with knownHosts := true }), a.reported ())

end Files

/-! ## The helper -/

/-- The manifest with the keys of its volumes. -/
def Site.keyed (site : Site) (manifest : OwnershipManifest) : OwnershipManifest :=
  { manifest with
    overlay := { manifest.overlay with key := some (site.keyOf manifest.overlay.name) }
    seed := { manifest.seed with key := some (site.keyOf manifest.seed.name) } }

section Helper

variable (site : Site) (a : GuestAnswer) (s : GuestHost) (manifest : OwnershipManifest)

/-- A journal, and what is there of the volumes and of the journal's temporary. -/
def leaveResources (directory : AllocationDir) (journal : Option AllocationCheckpoint)
    (temporaryLeft overlayLeft seedLeft : Bool) : GuestHost :=
  let journaled := { directory with checkpoint := journal }
  ((s.putDirectory (if temporaryLeft then journaled.littered .checkpoint else journaled)).addVolume
    manifest.overlay.name overlayLeft).addVolume manifest.seed.name seedLeft

/-- Make the two volumes. The journal is opened first, and each volume is
recorded in it once it is made; what a failure leaves behind of the volumes is
the answer's. The keys are checked against the manifest at the very end. -/
def createResources : GuestHost × Except WorkerError OwnershipManifest :=
  let refused (e : RuntimeError) : GuestHost × Except WorkerError OwnershipManifest :=
    (s, .error (helperError e))
  let opened := AllocationCheckpoint.new site.serviceInstance site.pool manifest.allocationId
  match manifest.ensureValid, s.directory manifest.allocationId, opened.ensureValid with
  | .error e, _, _ => refused (.manifest e.message)
  | .ok _, none, _ => refused (.manifest "No such file or directory")
  | .ok _, some _, .error e => refused (.manifest e.message)
  | .ok _, some directory, .ok _ =>
    let leave := leaveResources s manifest directory
    if manifest.serviceInstance ≠ site.serviceInstance then
      refused (.ownership "allocation checkpoint service instance disagrees with the helper")
    else if directory.checkpoint.isSome then
      refused (.ownership "volume creation checkpoint already exists")
    else if s.volumes.contains manifest.overlay.name || s.volumes.contains manifest.seed.name then
      (leave (some opened) a.temporaryLeft false false, a.failure)
    else
      match opened.record ⟨.overlay, manifest.overlay.name, site.keyOf manifest.overlay.name⟩ with
      | .error e =>
        (leave (some opened) a.temporaryLeft a.overlayLeft false,
          .error (helperError (.manifest e.message)))
      | .ok halfway =>
        match halfway.record ⟨.seed, manifest.seed.name, site.keyOf manifest.seed.name⟩ with
        | .error e =>
          (leave (some halfway) a.temporaryLeft a.overlayLeft a.seedLeft,
            .error (helperError (.manifest e.message)))
        | .ok complete =>
          match a.outcome, a.progress with
          | .failed, 0 => (leave none a.temporaryLeft false false, a.failure)
          | .failed, 1 => (leave (some opened) a.temporaryLeft a.overlayLeft false, a.failure)
          | .failed, 2 => (leave (some halfway) a.temporaryLeft a.overlayLeft a.seedLeft, a.failure)
          | .failed, _ => (leave (some complete) a.temporaryLeft a.overlayLeft a.seedLeft,
            a.failure)
          | _, _ =>
            (leave (some complete) false true true,
              match (site.keyed manifest).ensureValid with
              | .error e => .error (helperError (.manifest e.message))
              | .ok _ => a.reported (site.keyed manifest))

/-- The volume is there and is the manifest's. -/
def ensureVolume (artifact : Artifact) (missing : String) : Except RuntimeError Unit :=
  match artifact.key with
  | none => .error (.ownership missing)
  | some key =>
    if !s.volumes.contains artifact.name then
      .error (.libvirt "owned volume lookup" "Storage volume not found")
    else if key ≠ site.keyOf artifact.name then
      .error (.ownership "configured-pool volume disagrees with the ownership manifest")
    else .ok ()

/-- The domain a manifest describes. -/
def describedDomain (overlay seed : String) : Domain where
  name := manifest.domainName
  uuid := manifest.domainUuid
  metadata := ⟨manifest.allocationId, manifest.serviceInstance, manifest.domainUuid, overlay, seed⟩
  isActive := false

def defineDomain : GuestHost × Except WorkerError Unit :=
  let refused (e : RuntimeError) : GuestHost × Except WorkerError Unit :=
    (s, .error (helperError e))
  match manifest.ensureValid with
  | .error e => refused (.manifest e.message)
  | .ok _ =>
    if s.domains.any (·.name = manifest.domainName) then
      refused (.ownership "refusing to replace an existing libvirt domain")
    else
      match ensureVolume site s manifest.overlay "overlay key is absent",
          ensureVolume site s manifest.seed "seed key is absent",
          manifest.overlay.key, manifest.seed.key with
      | .error e, _, _, _ => refused e
      | .ok _, .error e, _, _ => refused e
      | .ok _, .ok _, some overlay, some seed =>
        if s.domains.any (·.uuid = manifest.domainUuid) then
          refused (.libvirt "domain definition" "domain is already defined")
        else
          (a.written s { s with domains := describedDomain manifest overlay seed :: s.domains },
            a.reported ())
      | .ok _, .ok _, _, _ => refused (.ownership "overlay key is absent")

/-- The domain under the manifest's identity is the manifest's. -/
def ensureDomain (domain : Domain) : Except RuntimeError Unit :=
  if domain.name ≠ manifest.domainName || domain.uuid ≠ manifest.domainUuid then
    .error (.ownership "live domain identity disagrees with its manifest")
  else ensureMetadataMatches domain.metadata manifest

def startDomain : GuestHost × Except WorkerError Unit :=
  match s.domain manifest.domainUuid with
  | none => (s, .error (helperError (.libvirt "domain lookup" "Domain not found")))
  | some domain =>
    match ensureDomain manifest domain with
    | .error e => (s, .error (helperError e))
    | .ok _ =>
      (a.written s (s.setActive manifest.domainUuid true), a.reported ())

/-- A volume under the expected name with another key is not ours. -/
def ensureIdentity (artifact : Artifact) : Except RuntimeError Unit :=
  if s.volumes.contains artifact.name && artifact.key.any (· ≠ site.keyOf artifact.name) then
    .error (.ownership "configured-pool volume disagrees with the ownership manifest")
  else .ok ()

/-- Delete one owned volume; one that is not there is no failure. -/
def deleteArtifact (artifact : Artifact) (isDeleted : Bool) : GuestHost :=
  match ensureIdentity site s artifact with
  | .error _ => s
  | .ok _ => if isDeleted then s.eraseVolume artifact.name else s

/-- Seed and overlay, each tried whatever becomes of the other. -/
def cleanupArtifacts : GuestHost × Except WorkerError Unit :=
  let isDone := a.outcome = .done
  let s' := deleteArtifact site s manifest.seed (isDone || !a.seedLeft)
  let s' := deleteArtifact site s' manifest.overlay (isDone || !a.overlayLeft)
  (s',
    match ensureIdentity site s manifest.seed, ensureIdentity site s manifest.overlay with
    | .ok _, .ok _ => a.reported ()
    | .error e, .ok _ => .error (helperError e)
    | .ok _, .error e => .error (helperError e)
    | .error seed, .error overlay =>
      .error (helperError (.libvirt "allocation volume cleanup"
        ("seed: " ++ seed.message ++ "; overlay: " ++ overlay.message))))

/-- Stop and undefine the domain, then delete its volumes. A domain that is not
there is no failure. -/
def cleanupResources : GuestHost × Except WorkerError Unit :=
  let refused (e : RuntimeError) : GuestHost × Except WorkerError Unit :=
    (s, .error (helperError e))
  match manifest.ensureValid, manifest.ensureRecoveryArtifacts with
  | .error e, _ => refused (.manifest e.message)
  | .ok _, .error e => refused e
  | .ok _, .ok _ =>
    match (s.domain manifest.domainUuid).elim (.ok ()) (ensureDomain manifest) with
    | .error e => refused e
    | .ok _ =>
      if a.outcome ≠ .done && a.progress = 0 then (s, a.failure)
      else if a.outcome ≠ .done && a.progress = 1 then
        (s.setActive manifest.domainUuid false, a.failure)
      else cleanupArtifacts site a (s.eraseDomain manifest.domainUuid) manifest

end Helper

/-! ## What one operation does -/

def guestExec (site : Site) : (op : GuestOp) → GuestAnswer → GuestHost → Option (GuestHost × op.Res)
  | .buildSeed _, a, s => some (s, a.reported a.hostKeyAlias)
  | .newIdentities id, _, s => some (s, (site.domainUuid id, site.artifact id))
  | .unixTime, a, s => some (s, a.reported a.now)
  | .ensureNotCancelled _, a, s => some (s, a.reported ())
  | .transition _ _, a, s => some (s, a.reported ())
  | .setVmCreated id, a, s => some (a.written s { s with created := id :: s.created },
    a.reported ())
  | .createDirectory id, a, s => some (createDirectory a s id)
  | .writeKnownHosts id, a, s => some (writeKnownHosts a s id)
  | .readAllocations, a, s =>
    if a.order.isPerm (s.directories.map (·.id)) then some (s, a.reported a.order) else none
  | .loadOwnership id, a, s => some (s, a.reported (s.ownership id))
  | .saveOwnership id manifest, a, s => some (saveOwnership a s id manifest)
  | .loadCheckpoint id, a, s => some (s, a.reported ((s.directory id).bind (·.checkpoint)))
  | .removeCheckpoint id, a, s => some (removeCheckpoint a s id)
  | .loadCleanup id, a, s => some (loadCleanup a s id)
  | .recordCleanup manifest, a, s => some (recordCleanup a s manifest)
  | .statDirectory id, a, s => some (s, a.reported (s.directory id).isSome)
  | .removeTemporaries id, a, s => some (removeTemporaries a s id)
  | .removeFile id file, a, s => some (removeFile a s id file)
  | .syncDirectory id, a, s =>
    some (s, if (s.directory id).isSome then a.reported ()
      else .error (.new "cannot sync allocation state"))
  | .removeDirectory id, a, s => some (removeDirectory a s id)
  | .syncAllocations, a, s => some (s, a.reported ())
  | .create manifest, a, s => some (createResources site a s manifest)
  | .define manifest, a, s => some (defineDomain site a s manifest)
  | .start manifest, a, s => some (startDomain a s manifest)
  | .cleanup manifest, a, s => some (cleanupResources site a s manifest)
  | .deleteRunner _, a, s => some (s, a.reported ())
  | .isClaimed name, _, s => some (s, s.claimed.contains name)
  | .ensureClaimed name, _, s => some ({ s with claimed := name :: s.claimed }, ())
  | .release name, _, s => some ({ s with claimed := s.claimed.filter (· ≠ name) }, ())
  | .useGuest manifest _, a, s =>
    some (s, match s.domain manifest.domainUuid with
      | none => .error (helperError (.libvirt "domain lookup" "Domain not found"))
      | some domain =>
        match ensureDomain manifest domain with
        | .error e => .error (helperError e)
        | .ok _ => a.reported ())

end FlanForge
