import Mathlib.Data.List.Perm.Subperm
import FlanForge.Libvirt.Teardown

/-!
# What a boot or a teardown leaves when it is cut short

`Inv` is what holds of the host between any two operations of the worker. Every
document in a state directory is its allocation's. A domain of the service is
described by a manifest that knows both keys, a volume of the service is named
by one, and an allocation whose guest was created has a manifest or a
tombstone. `Spares` says what one allocation's programs leave alone: the
domains, the volumes and the directories of all the others.
-/

namespace FlanForge

open List

/-! ## Names -/

/-- The identity in a generated name. -/
theorem artifactId_append {id : String} (start stop : String) (hid : isUuidText id = true)
    (hnil : isNilUuid id = false) : artifactId (start ++ id ++ stop) start stop = some id := by
  simp [artifactId, stripHead_append, stripTail_eq_some.mpr, hid, hnil]

namespace Site

variable (site : Site)

theorem artifact_name_injective (start stop : String) :
    Function.Injective fun id => start ++ site.artifact id ++ stop := by
  intro id id' h
  have h := congrArg String.toList h
  simp only [String.toList_append, append_cancel_right_eq, append_cancel_left_eq] at h
  exact site.artifact_injective (String.toList_inj.mp h)

theorem overlayName_injective : Function.Injective site.overlayName :=
  site.artifact_name_injective "root-" ".qcow2"

theorem seedName_injective : Function.Injective site.seedName :=
  site.artifact_name_injective "seed-" ".img"

theorem overlayName_ne_seedName (id id' : AllocationId) :
    site.overlayName id ≠ site.seedName id' := by
  intro h
  have h := congrArg (fun name => name.toList.head?) h
  simp [overlayName, seedName] at h

end Site

/-! ## Documents -/

/-- A list of checks, the first of which that fails is named. -/
theorem find_failed_eq_none {checks : List (Bool × String)} :
    checks.find? (!·.1) = none ↔ ∀ check ∈ checks, check.1 = true := by
  simp [List.find?_eq_none]

theorem OwnershipManifest.ensureValid_eq_ok {manifest : OwnershipManifest} :
    manifest.ensureValid = .ok () ↔ ∀ check ∈ manifest.checks, check.1 = true := by
  rw [← find_failed_eq_none]
  unfold OwnershipManifest.ensureValid
  split
  · rename_i h
    simp [h]
  · rename_i h
    simp [h]

variable {tombstone : CleanupTombstone}

theorem CleanupTombstone.ensureValid_eq_ok :
    tombstone.ensureValid = .ok () ↔ ∀ check ∈ tombstone.checks, check.1 = true := by
  rw [← find_failed_eq_none]
  unfold CleanupTombstone.ensureValid
  split
  · rename_i h
    simp [h]
  · rename_i h
    simp [h]

namespace Site

/-- The manifest is the one this allocation's boot makes, with or without the
keys. -/
structure Owns (site : Site) (id : AllocationId) (manifest : OwnershipManifest) : Prop where
  valid : manifest.ensureValid = .ok ()
  allocationId : manifest.allocationId = id
  serviceInstance : manifest.serviceInstance = site.serviceInstance
  domainName : manifest.domainName = (site.vmName id).value
  domainUuid : manifest.domainUuid = site.domainUuid id
  overlay : manifest.overlay.name = site.overlayName id
  seed : manifest.seed.name = site.seedName id
  knownHostsFile : manifest.knownHostsFile = site.knownHosts id
  overlayKey : ∀ key, manifest.overlay.key = some key → key = site.keyOf manifest.overlay.name
  seedKey : ∀ key, manifest.seed.key = some key → key = site.keyOf manifest.seed.name

/-- The journal is this allocation's and names nothing but its volumes. -/
structure Journals (site : Site) (id : AllocationId) (checkpoint : AllocationCheckpoint) :
    Prop where
  valid : checkpoint.ensureValid = .ok ()
  serviceInstance : checkpoint.serviceInstance = site.serviceInstance
  pool : checkpoint.pool = site.pool
  allocationId : checkpoint.allocationId = id
  overlay : ∀ volume ∈ checkpoint.volumes, volume.role = .overlay →
    volume.name = site.overlayName id ∧ volume.key = site.keyOf volume.name
  seed : ∀ volume ∈ checkpoint.volumes, volume.role = .seed →
    volume.name = site.seedName id ∧ volume.key = site.keyOf volume.name

/-- The tombstone is this allocation's. -/
structure Buries (site : Site) (id : AllocationId) (tombstone : CleanupTombstone) : Prop where
  valid : tombstone.ensureValid = .ok ()
  allocationId : tombstone.allocationId = id
  serviceInstance : tombstone.serviceInstance = site.serviceInstance
  domainName : tombstone.domainName = (site.vmName id).value
  domainUuid : tombstone.domainUuid = site.domainUuid id

variable {site : Site} {id : AllocationId} {manifest : OwnershipManifest}

theorem Owns.ensureRecoveryArtifacts (h : site.Owns id manifest) :
    manifest.ensureRecoveryArtifacts = .ok () := by
  have hnil : id.isNil = false := by
    have := OwnershipManifest.ensureValid_eq_ok.mp h.valid
      (!manifest.allocationId.isNil, "allocation_id")
      (by simp [OwnershipManifest.checks])
    simpa [h.allocationId] using this
  have hoverlay : artifactId (site.overlayName id) "root-" ".qcow2" = some (site.artifact id) :=
    artifactId_append _ _ (site.artifact_canonical id) (site.artifact_ne_nil id hnil)
  have hseed : artifactId (site.seedName id) "seed-" ".img" = some (site.artifact id) :=
    artifactId_append _ _ (site.artifact_canonical id) (site.artifact_ne_nil id hnil)
  simp [OwnershipManifest.ensureRecoveryArtifacts, h.overlay, h.seed, hoverlay, hseed]

theorem Owns.ensureReapable (h : site.Owns id manifest) :
    Guest.ensureReapable site manifest id (site.vmName id).value = .ok () := by
  simp [Guest.ensureReapable, checked, h.valid, h.allocationId, h.domainName, h.knownHostsFile,
    h.ensureRecoveryArtifacts]
  rfl

theorem Owns.ensureMatches (h : site.Owns id manifest) :
    Guest.ensureMatches site manifest id (site.vmName id).value = .ok () := by
  simp [Guest.ensureMatches, checked, h.valid, h.allocationId, h.domainName, h.knownHostsFile,
    h.serviceInstance, h.ensureRecoveryArtifacts]
  rfl

theorem Buries.ensureMatchesManifest (ht : site.Buries id tombstone) (h : site.Owns id manifest) :
    tombstone.ensureMatchesManifest manifest = .ok () := by
  simp [CleanupTombstone.ensureMatchesManifest, ht.allocationId, ht.serviceInstance, ht.domainName,
    ht.domainUuid, h.allocationId, h.serviceInstance, h.domainName, h.domainUuid]

theorem Buries.ensureMatches (ht : site.Buries id tombstone) :
    tombstone.ensureMatches id (site.vmName id) site.serviceInstance = .ok () := by
  simp [CleanupTombstone.ensureMatches, ht.valid, ht.allocationId, ht.serviceInstance,
    ht.domainName]

/-- What a tombstone takes over from the manifest. -/
theorem Owns.buries (h : site.Owns id manifest) {now : UInt64}
    (hvalid : (CleanupTombstone.new manifest now).ensureValid = .ok ()) :
    site.Buries id (.new manifest now) :=
  ⟨hvalid, h.allocationId, h.serviceInstance, h.domainName, h.domainUuid⟩

/-- A valid manifest with a clock that runs makes a valid tombstone. -/
theorem Owns.tombstone_valid (h : site.Owns id manifest) {now : UInt64} (hnow : now ≠ 0) :
    (CleanupTombstone.new manifest now).ensureValid = .ok () := by
  have hchecks := OwnershipManifest.ensureValid_eq_ok.mp h.valid
  simp only [OwnershipManifest.checks, forall_mem_cons] at hchecks
  rw [CleanupTombstone.ensureValid_eq_ok]
  simp only [CleanupTombstone.checks, CleanupTombstone.new, forall_mem_cons]
  obtain ⟨-, hid, hinstance, hdomain, -, hname, -⟩ := hchecks
  exact ⟨by decide, hid, hinstance, hdomain, hname, decide_eq_true hnow, by simp⟩

end Site

/-! ## The invariant -/

namespace Guest

/-- The documents of a directory are its allocation's. No kind of temporary file
lies there twice. -/
structure InOrder (site : Site) (id : AllocationId) (directory : AllocationDir) : Prop where
  isAt : directory.id = id
  ownership : ∀ manifest, directory.ownership = some manifest → site.Owns id manifest
  checkpoint : ∀ checkpoint, directory.checkpoint = some checkpoint → site.Journals id checkpoint
  tombstone : ∀ tombstone, directory.tombstone = some tombstone → site.Buries id tombstone
  temporaries : directory.temporaries.Nodup

/-- The domain is the one of this allocation. -/
structure IsDomain (site : Site) (id : AllocationId) (domain : Domain) : Prop where
  name : domain.name = (site.vmName id).value
  uuid : domain.uuid = site.domainUuid id
  metadata : domain.metadata = ⟨id, site.serviceInstance, site.domainUuid id,
    site.keyOf (site.overlayName id), site.keyOf (site.seedName id)⟩

/-- What a directory has to hold, given the rest of the host. -/
structure Fits (site : Site) (s : GuestHost) (id : AllocationId)
    (directory : Option AllocationDir) :
    Prop where
  inOrder : ∀ d, directory = some d → InOrder site id d
  created : id ∈ s.created →
    ∃ d, directory = some d ∧ (d.ownership.isSome = true ∨ d.tombstone.isSome = true)
  domains : ∀ domain ∈ s.domains, domain.uuid = site.domainUuid id →
    ∃ manifest, directory.bind (·.ownership) = some manifest ∧ manifest.hasKeys = true
  volumes : site.overlayName id ∈ s.volumes ∨ site.seedName id ∈ s.volumes →
    (directory.bind (·.ownership)).isSome = true

structure Inv (site : Site) (s : GuestHost) : Prop where
  fits : ∀ id, Fits site s id (s.directory id)
  domains : ∀ domain ∈ s.domains,
    (∀ id, domain.uuid ≠ site.domainUuid id ∧ domain.name ≠ (site.vmName id).value) ∨
      ∃ id, IsDomain site id domain

/-- What the programs of one allocation leave alone. -/
structure Spares (site : Site) (id : AllocationId) (s s' : GuestHost) : Prop where
  domains : ∀ domain ∈ s.domains, domain.uuid ≠ site.domainUuid id → domain ∈ s'.domains
  volumes : ∀ name ∈ s.volumes, name ≠ site.overlayName id → name ≠ site.seedName id →
    name ∈ s'.volumes
  directories : ∀ other, other ≠ id → s'.directory other = s.directory other

theorem Spares.refl (site : Site) (id : AllocationId) (s : GuestHost) : Spares site id s s :=
  ⟨fun _ h _ => h, fun _ h _ _ => h, fun _ _ => rfl⟩

/-- In order, and nothing of the others was touched. -/
structure Kept (site : Site) (id : AllocationId) (start s : GuestHost) : Prop where
  inv : Inv site s
  spares : Spares site id start s

/-- Nothing of the allocation's guest is left. -/
structure Cleared (site : Site) (id : AllocationId) (s : GuestHost) : Prop where
  domains : ∀ domain ∈ s.domains, domain.uuid ≠ site.domainUuid id
  overlay : site.overlayName id ∉ s.volumes
  seed : site.seedName id ∉ s.volumes

variable {site : Site} {id : AllocationId} {start s s' : GuestHost} {a : GuestAnswer}
variable {d d' : AllocationDir} {m : OwnershipManifest} {other : AllocationId} {artifact : Artifact}
variable {isDeleted : Bool}

/-! ## Directories -/

theorem directory_putDirectory_self : (s.putDirectory d).directory d.id = some d :=
  Table.get_put_self

theorem directory_putDirectory_of_ne (h : d.id ≠ other) :
    (s.putDirectory d).directory other = s.directory other :=
  Table.get_put_of_ne h

theorem directory_eraseDirectory_self : (s.eraseDirectory id).directory id = none :=
  Table.get_erase_self

theorem directory_eraseDirectory_of_ne (h : id ≠ other) :
    (s.eraseDirectory id).directory other = s.directory other :=
  Table.get_erase_of_ne h

theorem id_of_directory (h : s.directory id = some d) : d.id = id := Table.key_of_get h

/-- A directory in order is far below the limit on its entries. -/
theorem InOrder.entries_le (h : InOrder site id d) : d.entries ≤ 7 := by
  have htemporaries : d.temporaries.length ≤ 3 := by
    have hsub : d.temporaries ⊆ [.ownership, .cleanup, .checkpoint] := by
      intro kind _
      cases kind <;> simp
    simpa using (subperm_of_subset h.temporaries hsub).length_le
  have hownership : d.ownership.toList.length ≤ 1 := by cases d.ownership <;> simp
  have hcheckpoint : d.checkpoint.toList.length ≤ 1 := by cases d.checkpoint <;> simp
  have htombstone : d.tombstone.toList.length ≤ 1 := by cases d.tombstone <;> simp
  have hknown : d.knownHosts.toNat ≤ 1 := Bool.toNat_le _
  unfold AllocationDir.entries
  omega

theorem InOrder.not_tooMany (h : InOrder site id d) : ¬ d.entries > 32 := by
  have := h.entries_le
  omega

theorem InOrder.swept (h : InOrder site id d) (kind : Temporary) : InOrder site id (d.swept kind) :=
  ⟨h.isAt, h.ownership, h.checkpoint, h.tombstone, h.temporaries.filter _⟩

theorem InOrder.littered {kind : Temporary} (h : InOrder site id d) (hkind : kind ∉ d.temporaries) :
    InOrder site id (d.littered kind) := by
  refine ⟨h.isAt, h.ownership, h.checkpoint, h.tombstone, ?_⟩
  simp only [AllocationDir.littered, nodup_append, mem_singleton, forall_eq]
  exact ⟨h.temporaries, by simp, fun kind' hkind' heq => hkind (heq ▸ hkind')⟩

theorem InOrder.swept_littered (h : InOrder site id d) (kind : Temporary) :
    InOrder site id ((d.swept kind).littered kind) :=
  (h.swept kind).littered (by simp [AllocationDir.swept])

/-- A directory that holds what the old one did, as far as the host asks. -/
theorem Fits.replace (h : Fits site s id (some d)) (hd' : InOrder site id d')
    (hownership : ∀ m, d.ownership = some m → ∃ m', d'.ownership = some m' ∧
      (m.hasKeys = true → m'.hasKeys = true))
    (htombstone : d.tombstone.isSome = true → d'.tombstone.isSome = true) :
    Fits site s id (some d') := by
  refine ⟨fun _ heq => by cases heq; exact hd', fun hid => ?_, fun domain hdomain huuid => ?_,
    fun hvolume => ?_⟩
  · obtain ⟨_, heq, hown | htomb⟩ := h.created hid
    · cases heq
      obtain ⟨m, hm⟩ := Option.isSome_iff_exists.mp hown
      obtain ⟨m', hm', -⟩ := hownership m hm
      exact ⟨d', rfl, .inl (by simp [hm'])⟩
    · cases heq
      exact ⟨d', rfl, .inr (htombstone htomb)⟩
  · obtain ⟨m, hm, hkeys⟩ := h.domains domain hdomain huuid
    obtain ⟨m', hm', hkeys'⟩ := hownership m (by simpa using hm)
    exact ⟨m', by simpa using hm', hkeys' hkeys⟩
  · obtain ⟨m, hm⟩ := Option.isSome_iff_exists.mp (h.volumes hvolume)
    obtain ⟨m', hm', -⟩ := hownership m (by simpa using hm)
    simp [hm']

/-- A directory with the same manifest and tombstone. -/
theorem Fits.same (h : Fits site s id (some d)) (hd' : InOrder site id d')
    (hownership : d'.ownership = d.ownership) (htombstone : d'.tombstone = d.tombstone) :
    Fits site s id (some d') :=
  h.replace hd' (fun m hm => ⟨m, by rw [hownership, hm], fun hkeys => hkeys⟩)
    (by rw [htombstone]; exact fun h => h)

namespace Kept

variable (h : Kept site id start s)
include h

theorem fits : Fits site s id (s.directory id) := h.inv.fits id

theorem inOrder (hd : s.directory id = some d) : InOrder site id d :=
  h.fits.inOrder d hd

/-- Only the allocation's directory changes, and what it holds fits. -/
theorem setDirectory {directory : Option AllocationDir} (hfits : Fits site s id directory)
    (hself : s'.directory id = directory)
    (hothers : ∀ other, other ≠ id → s'.directory other = s.directory other)
    (hcreated : s'.created = s.created) (hdomains : s'.domains = s.domains)
    (hvolumes : s'.volumes = s.volumes) : Kept site id start s' := by
  refine ⟨⟨fun other => ?_, hdomains ▸ h.inv.domains⟩, hdomains ▸ h.spares.domains,
    hvolumes ▸ h.spares.volumes, fun other hne =>
      (hothers other hne).trans (h.spares.directories other hne)⟩
  have hother : Fits site s other (s'.directory other) := by
    by_cases heq : other = id
    · rwa [heq, hself]
    · exact hothers other heq ▸ h.inv.fits other
  exact ⟨hother.inOrder, hcreated ▸ hother.created, hdomains ▸ hother.domains,
    hvolumes ▸ hother.volumes⟩

theorem put (hfits : Fits site s id (some d)) : Kept site id start (s.putDirectory d) := by
  have hid : d.id = id := (hfits.inOrder d rfl).isAt
  exact h.setDirectory hfits (hid ▸ directory_putDirectory_self)
    (fun _ hne => directory_putDirectory_of_ne (hid ▸ hne.symm)) rfl rfl rfl

theorem erase (hfits : Fits site s id none) : Kept site id start (s.eraseDirectory id) :=
  h.setDirectory hfits directory_eraseDirectory_self
    (fun _ hne => directory_eraseDirectory_of_ne hne.symm) rfl rfl rfl

/-- Domains and volumes of the allocation go, and nothing else changes. -/
theorem shrink (hdirectories : s'.directories = s.directories) (hcreated : s'.created = s.created)
    (hdomains : s'.domains ⊆ s.domains) (hvolumes : s'.volumes ⊆ s.volumes)
    (hdomains' : ∀ domain ∈ s.domains, domain.uuid ≠ site.domainUuid id → domain ∈ s'.domains)
    (hvolumes' : ∀ name ∈ s.volumes, name ≠ site.overlayName id → name ≠ site.seedName id →
      name ∈ s'.volumes) : Kept site id start s' := by
  have hdirectory : ∀ other, s'.directory other = s.directory other := fun other => by
    simp only [GuestHost.directory, hdirectories]
  refine ⟨⟨fun other => ?_, fun domain hdomain => h.inv.domains domain (hdomains hdomain)⟩,
    fun domain hdomain hne => hdomains' _ (h.spares.domains domain hdomain hne) hne,
    fun name hname h₁ h₂ => hvolumes' _ (h.spares.volumes name hname h₁ h₂) h₁ h₂,
      fun other hne => ?_⟩
  · have hother := h.inv.fits other
    rw [hdirectory]
    exact ⟨hother.inOrder, fun hid => hother.created (hcreated ▸ hid),
      fun domain hdomain => hother.domains domain (hdomains hdomain),
      fun hvolume => hother.volumes (hvolume.imp (hvolumes ·) (hvolumes ·))⟩
  · rw [hdirectory]
    exact h.spares.directories other hne

/-- A domain is started or stopped. -/
theorem setActive (isActive : Bool) :
    Kept site id start (s.setActive (site.domainUuid id) isActive) := by
  have hfrom : ∀ domain ∈ (s.setActive (site.domainUuid id) isActive).domains, ∃ before ∈ s.domains,
      domain.name = before.name ∧ domain.uuid = before.uuid ∧
        domain.metadata = before.metadata := by
    intro domain hdomain
    simp only [GuestHost.setActive, mem_map] at hdomain
    obtain ⟨before, hbefore, rfl⟩ := hdomain
    refine ⟨before, hbefore, ?_⟩
    split <;> exact ⟨rfl, rfl, rfl⟩
  refine ⟨⟨fun other => ?_, fun domain hdomain => ?_⟩, fun domain hdomain hne => ?_,
    h.spares.volumes, h.spares.directories⟩
  · have hother := h.inv.fits other
    refine ⟨hother.inOrder, hother.created, fun domain hdomain huuid => ?_, hother.volumes⟩
    obtain ⟨before, hbefore, -, hsame, -⟩ := hfrom domain hdomain
    exact hother.domains before hbefore (hsame ▸ huuid)
  · obtain ⟨before, hbefore, hname, huuid, hmetadata⟩ := hfrom domain hdomain
    rw [hname, huuid]
    refine (h.inv.domains before hbefore).imp_right fun ⟨other, hother⟩ => ⟨other, ?_⟩
    exact ⟨hname ▸ hother.name, huuid ▸ hother.uuid, hmetadata ▸ hother.metadata⟩
  · have hmem := h.spares.domains domain hdomain hne
    simp only [GuestHost.setActive, mem_map]
    exact ⟨domain, hmem, if_neg hne⟩

/-- A volume of the allocation appears, which a manifest names. -/
theorem addVolume (hown : (s.ownership id).isSome = true) {name : String}
    (hname : name = site.overlayName id ∨ name = site.seedName id) (isLeft : Bool) :
    Kept site id start (s.addVolume name isLeft) := by
  unfold GuestHost.addVolume
  split
  · refine ⟨⟨fun other => ?_, h.inv.domains⟩, h.spares.domains,
      fun name hname h₁ h₂ => mem_cons_of_mem _ (h.spares.volumes name hname h₁ h₂),
      h.spares.directories⟩
    have hother := h.inv.fits other
    refine ⟨hother.inOrder, hother.created, hother.domains, fun hvolume => ?_⟩
    by_cases heq : other = id
    · subst heq
      exact hown
    · refine hother.volumes (hvolume.imp (fun hmem => ?_) fun hmem => ?_)
      · rcases mem_cons.mp hmem with hmem | hmem
        · rcases hname with rfl | rfl
          · exact absurd (site.overlayName_injective hmem) heq
          · exact absurd hmem (site.overlayName_ne_seedName _ _)
        · exact hmem
      · rcases mem_cons.mp hmem with hmem | hmem
        · rcases hname with rfl | rfl
          · exact absurd hmem.symm (site.overlayName_ne_seedName _ _)
          · exact absurd (site.seedName_injective hmem) heq
        · exact hmem
  · exact h

/-- The allocation's domain is defined; its manifest knows both keys. -/
theorem addDomain {domain : Domain} (hdomain : IsDomain site id domain)
    (hown : s.ownership id = some m) (hkeys : m.hasKeys = true) :
    Kept site id start { s with domains := domain :: s.domains } := by
  refine ⟨⟨fun other => ?_, ?_⟩,
    fun before hbefore hne => mem_cons_of_mem _ (h.spares.domains before hbefore hne),
    h.spares.volumes, h.spares.directories⟩
  · have hother := h.inv.fits other
    refine ⟨hother.inOrder, hother.created, fun before hbefore huuid => ?_, hother.volumes⟩
    rcases mem_cons.mp hbefore with rfl | hbefore
    · have heq : other = id := site.domainUuid_injective (huuid.symm.trans hdomain.uuid)
      exact heq ▸ ⟨m, hown, hkeys⟩
    · exact hother.domains before hbefore huuid
  · simp only [forall_mem_cons]
    exact ⟨.inr ⟨id, hdomain⟩, h.inv.domains⟩

/-- The record says that the guest was created. -/
theorem addCreated (hown : (s.ownership id).isSome = true) :
    Kept site id start { s with created := id :: s.created } := by
  refine ⟨⟨fun other => ?_, h.inv.domains⟩, h.spares.domains, h.spares.volumes,
    h.spares.directories⟩
  have hother := h.inv.fits other
  refine ⟨hother.inOrder, fun hmem => ?_, hother.domains, hother.volumes⟩
  by_cases heq : other = id
  · subst heq
    obtain ⟨m, hm⟩ := Option.isSome_iff_exists.mp hown
    obtain ⟨d, hd, hm⟩ := Option.bind_eq_some_iff.mp hm
    exact ⟨d, hd, .inl (by simp [hm])⟩
  · exact hother.created ((mem_cons.mp hmem).resolve_left heq)

/-- The claims are no part of it. -/
theorem setClaimed (claimed : List VmName) : Kept site id start { s with claimed := claimed } :=
  ⟨⟨fun other => ⟨(h.inv.fits other).inOrder, (h.inv.fits other).created,
    (h.inv.fits other).domains, (h.inv.fits other).volumes⟩, h.inv.domains⟩,
    h.spares.domains, h.spares.volumes, h.spares.directories⟩

theorem written (h' : Kept site id start s') : Kept site id start (a.written s s') := by
  unfold GuestAnswer.written
  split
  · exact h
  · exact h'

/-- Nothing the host asks of the directory changes. -/
theorem putSame (hd : s.directory id = some d) (hd' : InOrder site id d')
    (hownership : d'.ownership = d.ownership) (htombstone : d'.tombstone = d.tombstone) :
    Kept site id start (s.putDirectory d') :=
  h.put ((hd ▸ h.fits : Fits site s id (some d)).same hd' hownership htombstone)

theorem putSwept (hd : s.directory id = some d) (kind : Temporary) :
    Kept site id start (s.putDirectory (d.swept kind)) :=
  h.putSame hd ((h.inOrder hd).swept kind) rfl rfl

theorem putSweptLittered (hd : s.directory id = some d) (kind : Temporary) :
    Kept site id start (s.putDirectory ((d.swept kind).littered kind)) :=
  h.putSame hd ((h.inOrder hd).swept_littered kind) rfl rfl

end Kept

/-! ## Operations on files -/

theorem reported_eq_ok {α : Type} {value r : α} (h : a.reported value = .ok r) :
    a.outcome = .done ∧ value = r := by
  unfold GuestAnswer.reported at h
  split at h
  · rename_i hdone
    cases h
    exact ⟨hdone, rfl⟩
  · cases h

section Files

variable (h : Kept site id start s)
include h

theorem kept_saveOwnership (hm : site.Owns id m)
    (hkeys : ∀ m', s.ownership id = some m' → m'.hasKeys = true → m.hasKeys = true) :
    Kept site id start (saveOwnership a s id m).1 := by
  unfold saveOwnership
  rw [hm.valid]
  dsimp only
  split
  · exact h
  · rename_i d hd
    have horder := h.inOrder hd
    have hfits : Fits site s id (some d) := hd ▸ h.fits
    have hsaved : Kept site id start
        (s.putDirectory { d.swept .ownership with ownership := some m }) := by
      refine h.put
        (hfits.replace ⟨horder.isAt, fun _ heq => ?_, horder.checkpoint, horder.tombstone,
        (horder.swept .ownership).temporaries⟩ (fun m' hm' => ⟨m, rfl, hkeys m' ?_⟩)
          fun htomb => htomb)
      · cases heq
        exact hm
      · simp [GuestHost.ownership, hd, hm']
    rw [if_neg horder.not_tooMany]
    split
    · exact hsaved
    · exact hsaved
    · exact h
    · exact h.putSwept hd .ownership
    · exact h.putSweptLittered hd .ownership

theorem kept_loadCleanup : Kept site id start (loadCleanup a s id).1 := by
  unfold loadCleanup
  split
  · exact h
  · rename_i d hd
    rw [if_neg (h.inOrder hd).not_tooMany]
    split
    · exact h
    · exact h.putSwept hd .cleanup

theorem kept_removeCheckpoint : Kept site id start (removeCheckpoint a s id).1 := by
  unfold removeCheckpoint
  split
  · exact h
  · rename_i d hd
    have horder := h.inOrder hd
    exact h.written (h.putSame hd ⟨horder.isAt, horder.ownership, nofun, horder.tombstone,
      horder.temporaries⟩ rfl rfl)

theorem kept_recordCleanup (hm : site.Owns id m) : Kept site id start (recordCleanup a s m).1 := by
  unfold recordCleanup
  rw [hm.allocationId]
  split
  · exact h
  · rename_i d hd
    have horder := h.inOrder hd
    have hfits : Fits site s id (some d) := hd ▸ h.fits
    rw [if_neg horder.not_tooMany]
    split
    · exact h
    · dsimp only
      split
      · exact h.putSwept hd .cleanup
      · rename_i hnone
        split
        · exact h.putSwept hd .cleanup
        · rename_i hvalid
          have hburied : InOrder site id
              { d.swept .cleanup with tombstone := some (.new m a.now) } :=
            ⟨horder.isAt, horder.ownership, horder.checkpoint,
              fun _ heq => by cases heq; exact hm.buries hvalid,
              (horder.swept .cleanup).temporaries⟩
          have hput : ∀ d', InOrder site id d' → d'.ownership = d.ownership →
              d'.tombstone.isSome = true → Kept site id start (s.putDirectory d') :=
            fun d' hd' hown htomb => h.put (hfits.replace hd'
              (fun m hm => ⟨m, by rw [hown, hm], fun hkeys => hkeys⟩) fun _ => htomb)
          split
          · exact hput _ hburied rfl rfl
          · split
            · exact hput _ (hburied.littered (by simp [AllocationDir.swept])) rfl rfl
            · exact hput _ hburied rfl rfl
          · split
            · exact h.putSweptLittered hd .cleanup
            · exact h.putSwept hd .cleanup

theorem kept_removeTemporaries : Kept site id start (removeTemporaries a s id).1 := by
  unfold removeTemporaries
  split
  · exact h
  · rename_i d hd
    have horder := h.inOrder hd
    rw [if_neg horder.not_tooMany]
    split
    · exact h.putSame hd ⟨horder.isAt, horder.ownership, horder.checkpoint, horder.tombstone,
        nodup_nil⟩ rfl rfl
    · exact h.putSame hd ⟨horder.isAt, horder.ownership, horder.checkpoint, horder.tombstone,
        horder.temporaries.sublist (drop_sublist _ _)⟩ rfl rfl

/-- The manifest is removed once nothing of the guest is left and, where one was
created, a tombstone says so. -/
theorem kept_removeFile (file : AuthorityFile)
    (hretired : file = .ownership → Cleared site id s ∧
      (id ∈ s.created → ∃ d, s.directory id = some d ∧ d.tombstone.isSome = true)) :
    Kept site id start (removeFile a s id file).1 := by
  unfold removeFile
  split
  · exact h
  · rename_i d hd
    have horder := h.inOrder hd
    refine h.written ?_
    cases file with
    | knownHosts =>
      exact h.putSame hd ⟨horder.isAt, horder.ownership, horder.checkpoint, horder.tombstone,
        horder.temporaries⟩ rfl rfl
    | checkpoint =>
      exact h.putSame hd ⟨horder.isAt, horder.ownership, nofun, horder.tombstone,
        horder.temporaries⟩ rfl rfl
    | ownership =>
      obtain ⟨hcleared, htombstone⟩ := hretired rfl
      refine h.put ⟨fun _ heq => ?_, fun hid => ?_, fun domain hdomain huuid => ?_,
        fun hvolume => ?_⟩
      · cases heq
        exact ⟨horder.isAt, nofun, horder.checkpoint, horder.tombstone, horder.temporaries⟩
      · obtain ⟨d', hd', htomb⟩ := htombstone hid
        cases hd.symm.trans hd'
        exact ⟨_, rfl, .inr htomb⟩
      · exact absurd huuid (hcleared.domains domain hdomain)
      · exact absurd hvolume (not_or.mpr ⟨hcleared.overlay, hcleared.seed⟩)

theorem kept_removeDirectory : Kept site id start (removeDirectory a s id).1 := by
  unfold removeDirectory
  split
  · exact h
  · rename_i d hd
    split
    · exact h
    · rename_i hentries
      have hempty : d.ownership = none ∧ d.tombstone = none := by
        have hzero : d.entries = 0 := Decidable.not_not.mp hentries
        unfold AllocationDir.entries at hzero
        constructor
        · cases hown : d.ownership with
          | none => rfl
          | some m => simp [hown] at hzero
        · cases htomb : d.tombstone with
          | none => rfl
          | some t => simp [htomb] at hzero
      have hfits : Fits site s id (some d) := hd ▸ h.fits
      refine h.written
        (h.erase ⟨nofun, fun hid => ?_, fun domain hdomain huuid => ?_, fun hvolume => ?_⟩)
      · obtain ⟨_, heq, hsome⟩ := hfits.created hid
        cases heq
        simp [hempty.1, hempty.2] at hsome
      · obtain ⟨m, hm, -⟩ := hfits.domains domain hdomain huuid
        simp [hempty.1] at hm
      · have := hfits.volumes hvolume
        simp [hempty.1] at this

theorem kept_createDirectory : Kept site id start (createDirectory a s id).1 := by
  unfold createDirectory
  split
  · exact h
  · rename_i hnone
    have hfits : Fits site s id none := hnone ▸ h.fits
    refine h.written (h.put ⟨fun _ heq => ?_, fun hid => ?_, fun domain hdomain huuid => ?_,
      fun hvolume => ?_⟩)
    · cases heq
      exact ⟨rfl, nofun, nofun, nofun, nodup_nil⟩
    · obtain ⟨_, heq, -⟩ := hfits.created hid
      cases heq
    · obtain ⟨_, heq, -⟩ := hfits.domains domain hdomain huuid
      cases heq
    · exact absurd (hfits.volumes hvolume) (by simp)

theorem kept_writeKnownHosts : Kept site id start (writeKnownHosts a s id).1 := by
  unfold writeKnownHosts
  split
  · exact h
  · rename_i d hd
    have horder := h.inOrder hd
    split
    · exact h
    · exact h.written (h.putSame hd ⟨horder.isAt, horder.ownership, horder.checkpoint,
        horder.tombstone, horder.temporaries⟩ rfl rfl)

end Files

theorem saveOwnership_ok (hd : s.directory id = some d)
    (hok : (saveOwnership a s id m).2 = .ok ()) :
    (saveOwnership a s id m).1 = s.putDirectory
    { d.swept .ownership with ownership := some m } := by
  unfold saveOwnership at hok ⊢
  rw [hd] at hok ⊢
  revert hok
  split
  · exact nofun
  · dsimp only
    split
    · exact nofun
    · split
      · exact fun _ => rfl
      · exact fun _ => rfl
      all_goals exact nofun

/-- A tombstone is there once it is recorded. -/
theorem recordCleanup_ok (hm : site.Owns id m) (hok : (recordCleanup a s m).2 = .ok ()) :
    ∃ d, (recordCleanup a s m).1.directory id = some d ∧ d.tombstone.isSome = true := by
  revert hok
  unfold recordCleanup
  rw [hm.allocationId]
  split
  · exact nofun
  · rename_i d hd
    have hid : d.id = id := id_of_directory hd
    have hself : ∀ d', d'.id = id → (s.putDirectory d').directory id = some d' :=
      fun d' hd' => hd' ▸ directory_putDirectory_self
    split
    · exact nofun
    · split
      · exact nofun
      · dsimp only
        split
        · rename_i tombstone htombstone
          exact fun _ => ⟨_, hself _ hid, by simp [AllocationDir.swept, htombstone]⟩
        · split
          · exact nofun
          · split
            · exact fun _ => ⟨_, hself _ hid, rfl⟩
            all_goals exact nofun

theorem createDirectory_ok (hok : (createDirectory a s id).2 = .ok ()) :
    (createDirectory a s id).1.directory id = some { id := id } := by
  revert hok
  unfold createDirectory
  split
  · exact nofun
  · intro hok
    obtain ⟨hdone, -⟩ := reported_eq_ok hok
    simp only [GuestAnswer.written, hdone, reduceCtorEq, if_false]
    exact directory_putDirectory_self (d := { id := id })

theorem writeKnownHosts_ok (hd : s.directory id = some d)
    (hok : (writeKnownHosts a s id).2 = .ok ()) :
    (writeKnownHosts a s id).1.directory id = some { d with knownHosts := true } := by
  revert hok
  unfold writeKnownHosts
  rw [hd]
  dsimp only
  split
  · exact nofun
  · intro hok
    obtain ⟨hdone, -⟩ := reported_eq_ok hok
    simp only [GuestAnswer.written, hdone, reduceCtorEq, if_false]
    have hid : d.id = id := id_of_directory hd
    exact hid ▸ directory_putDirectory_self (d := { d with knownHosts := true })

/-! ## The helper's calls -/

/-- What the journal records of a manifest is the allocation's. -/
theorem journals_new
    (hvalid : (AllocationCheckpoint.new site.serviceInstance site.pool id).ensureValid = .ok ()) :
    site.Journals id (.new site.serviceInstance site.pool id) :=
  ⟨hvalid, rfl, rfl, rfl, nofun, nofun⟩

theorem journals_record {checkpoint recorded : AllocationCheckpoint} {volume : CheckpointVolume}
    (hc : site.Journals id checkpoint)
    (hoverlay : volume.role = .overlay →
      volume.name = site.overlayName id ∧ volume.key = site.keyOf volume.name)
    (hseed : volume.role = .seed →
      volume.name = site.seedName id ∧ volume.key = site.keyOf volume.name)
    (h : checkpoint.record volume = .ok recorded) : site.Journals id recorded := by
  unfold AllocationCheckpoint.record at h
  split at h
  · split at h
    · cases h
      exact hc
    · cases h
  · dsimp only at h
    split at h
    · rename_i hvalid
      cases h
      refine ⟨hvalid, hc.serviceInstance, hc.pool, hc.allocationId, fun v hv => ?_, fun v hv => ?_⟩
      · rcases mem_append.mp hv with hv | hv
        · exact hc.overlay v hv
        · rw [mem_singleton.mp hv]
          exact hoverlay
      · rcases mem_append.mp hv with hv | hv
        · exact hc.seed v hv
        · rw [mem_singleton.mp hv]
          exact hseed
    · cases h

theorem owns_keyed (hm : site.Owns id m) (hvalid : (site.keyed m).ensureValid = .ok ()) :
    site.Owns id (site.keyed m) where
  valid := hvalid
  allocationId := hm.allocationId
  serviceInstance := hm.serviceInstance
  domainName := hm.domainName
  domainUuid := hm.domainUuid
  overlay := hm.overlay
  seed := hm.seed
  knownHostsFile := hm.knownHostsFile
  overlayKey _ h := (Option.some.inj h).symm
  seedKey _ h := (Option.some.inj h).symm

theorem ownership_putDirectory (hid : d.id = id) : (s.putDirectory d).ownership id =
    d.ownership := by
  simp [GuestHost.ownership, ← hid, directory_putDirectory_self]

theorem ownership_addVolume (name : String) (isLeft : Bool) :
    (s.addVolume name isLeft).ownership id = s.ownership id := by
  unfold GuestHost.addVolume
  split <;> rfl

/-- A journal of the allocation and some of its volumes are left, and the
manifest names them. -/
theorem kept_leaveResources (h : Kept site id start s) (hm : site.Owns id m)
    (hd : s.directory id = some d) (hown : d.ownership = some m) (htemporaries : d.temporaries = [])
    {journal : Option AllocationCheckpoint}
    (hjournal : ∀ checkpoint, journal = some checkpoint → site.Journals id checkpoint)
    (temporaryLeft overlayLeft seedLeft : Bool) :
    Kept site id start (leaveResources s m d journal temporaryLeft overlayLeft seedLeft) := by
  have horder := h.inOrder hd
  have horder' : InOrder site id { d with checkpoint := journal } :=
    ⟨horder.isAt, horder.ownership, hjournal, horder.tombstone, horder.temporaries⟩
  unfold leaveResources
  obtain ⟨d', hd', hown', hput⟩ : ∃ d', (if temporaryLeft = true
      then AllocationDir.littered { d with checkpoint := journal } .checkpoint
      else { d with checkpoint := journal }) = d' ∧ d'.ownership = some m ∧
        (d'.id = id ∧ Kept site id start (s.putDirectory d')) := by
    refine ⟨_, rfl, ?_⟩
    split
    · exact ⟨hown, horder.isAt, h.putSame hd (horder'.littered (by simp [htemporaries])) rfl rfl⟩
    · exact ⟨hown, horder.isAt, h.putSame hd horder' rfl rfl⟩
  have hsome : ((s.putDirectory d').ownership id).isSome = true := by
    rw [ownership_putDirectory hput.1, hown']
    rfl
  simp only [hd']
  refine (hput.2.addVolume hsome (.inl hm.overlay) overlayLeft).addVolume ?_ (.inr hm.seed) seedLeft
  rw [ownership_addVolume]
  exact hsome

theorem kept_createResources (h : Kept site id start s) (hm : site.Owns id m)
    (hd : s.directory id = some d) (hown : d.ownership = some m)
    (htemporaries : d.temporaries = []) :
    Kept site id start (createResources site a s m).1 := by
  have hleave : ∀ {journal : Option AllocationCheckpoint},
      (∀ c, journal = some c → site.Journals id c) → ∀ temporaryLeft overlayLeft seedLeft,
        Kept site id start (leaveResources s m d journal temporaryLeft overlayLeft seedLeft) :=
    kept_leaveResources h hm hd hown htemporaries
  unfold createResources
  rw [hm.valid, hm.allocationId, hd]
  dsimp only
  split
  · exact h
  · exact h
  · exact h
  · rename_i hdirectory hvalid
    cases hdirectory
    have hopened : ∀ c, some (AllocationCheckpoint.new site.serviceInstance site.pool id) = some c →
        site.Journals id c := fun c hc => Option.some.inj hc ▸ journals_new hvalid
    split
    · exact h
    split
    · exact h
    split
    · exact hleave hopened a.temporaryLeft false false
    split
    · exact hleave hopened a.temporaryLeft a.overlayLeft false
    · rename_i halfway hhalfway
      have hhalf : site.Journals id halfway := journals_record (hopened _ rfl)
        (fun _ => ⟨hm.overlay, rfl⟩) (fun h => by cases h) hhalfway
      split
      · exact hleave (fun c hc => Option.some.inj hc ▸ hhalf) _ _ _
      · rename_i complete hcomplete
        have hfull : site.Journals id complete := journals_record hhalf (fun h => by cases h)
          (fun _ => ⟨hm.seed, rfl⟩) hcomplete
        split
        · exact hleave (fun _ h => by cases h) a.temporaryLeft false false
        · exact hleave hopened a.temporaryLeft a.overlayLeft false
        · exact hleave (fun c hc => Option.some.inj hc ▸ hhalf) _ _ _
        · exact hleave (fun c hc => Option.some.inj hc ▸ hfull) _ _ _
        · exact hleave (fun c hc => Option.some.inj hc ▸ hfull) false true true

/-- What a boot knows once the volumes are made. -/
theorem createResources_ok {m' : OwnershipManifest} (hm : site.Owns id m)
    (hd : s.directory id = some d) (hok : (createResources site a s m).2 = .ok m') :
    m' = site.keyed m ∧ m'.ensureValid = .ok () ∧
      (createResources site a s m).1.ownership id = d.ownership := by
  have hid : d.id = id := id_of_directory hd
  revert hok
  unfold createResources
  rw [hm.valid, hm.allocationId, hd]
  dsimp only
  split
  · exact nofun
  · exact nofun
  · exact nofun
  · rename_i hdirectory hvalid
    cases hdirectory
    split
    · exact nofun
    split
    · exact nofun
    split
    · exact nofun
    split
    · exact nofun
    split
    · exact nofun
    split
    · exact nofun
    · exact nofun
    · exact nofun
    · exact nofun
    · split
      · exact nofun
      · rename_i hkeyed
        intro hok
        obtain ⟨-, rfl⟩ := reported_eq_ok hok
        refine ⟨rfl, hkeyed, ?_⟩
        unfold leaveResources
        rw [ownership_addVolume, ownership_addVolume]
        exact ownership_putDirectory (d := { d with checkpoint := _ }) hid

theorem kept_defineDomain (h : Kept site id start s) (hm : site.Owns id m)
    (hown : s.ownership id = some m) : Kept site id start (defineDomain site a s m).1 := by
  unfold defineDomain
  rw [hm.valid]
  dsimp only
  split
  · exact h
  · split
    · exact h
    · exact h
    · rename_i overlay seed _ _ hoverlay hseed
      split
      · exact h
      · refine h.written (h.addDomain ⟨hm.domainName, hm.domainUuid, ?_⟩ hown (by
          simp [OwnershipManifest.hasKeys, hoverlay, hseed]))
        simp only [describedDomain, hm.allocationId, hm.serviceInstance, hm.domainUuid,
          hm.overlayKey _ hoverlay, hm.seedKey _ hseed, hm.overlay, hm.seed]
    · exact h

theorem ownership_defineDomain : (defineDomain site a s m).1.ownership id = s.ownership id := by
  unfold defineDomain
  split
  · rfl
  · split
    · rfl
    · split
      · rfl
      · rfl
      · split
        · rfl
        · unfold GuestAnswer.written
          split <;> rfl
      · rfl

theorem kept_startDomain (h : Kept site id start s) (hm : site.Owns id m) :
    Kept site id start (startDomain a s m).1 := by
  unfold startDomain
  rw [hm.domainUuid]
  split
  · exact h
  · split
    · exact h
    · exact h.written (h.setActive true)

/-- Deleting one of the allocation's volumes. -/
theorem kept_deleteArtifact (h : Kept site id start s)
    (hname : artifact.name = site.overlayName id ∨ artifact.name = site.seedName id)
    (isDeleted : Bool) : Kept site id start (deleteArtifact site s artifact isDeleted) := by
  unfold deleteArtifact
  split
  · exact h
  · split
    · refine h.shrink rfl rfl (fun _ hd => hd) (fun _ hv => (mem_filter.mp hv).1)
        (fun _ hd _ => hd) fun name hname' h₁ h₂ => mem_filter.mpr ⟨hname', ?_⟩
      rcases hname with hname | hname <;> simpa [hname]
    · exact h

theorem kept_cleanupArtifacts (h : Kept site id start s) (hm : site.Owns id m) :
    Kept site id start (cleanupArtifacts site a s m).1 := by
  unfold cleanupArtifacts
  exact kept_deleteArtifact (kept_deleteArtifact h (.inr hm.seed) _) (.inl hm.overlay) _

theorem kept_eraseDomain (h : Kept site id start s) :
    Kept site id start (s.eraseDomain (site.domainUuid id)) :=
  h.shrink rfl rfl (fun _ hd => (mem_filter.mp hd).1) (fun _ hv => hv)
    (fun domain hdomain hne => mem_filter.mpr ⟨hdomain, by simpa using hne⟩) fun _ hv _ _ => hv

theorem kept_cleanupResources (h : Kept site id start s) (hm : site.Owns id m) :
    Kept site id start (cleanupResources site a s m).1 := by
  unfold cleanupResources
  rw [hm.valid, hm.ensureRecoveryArtifacts, hm.domainUuid]
  dsimp only
  split
  · exact h
  · split
    · exact h
    · split
      · exact h.setActive false
      · exact kept_cleanupArtifacts (kept_eraseDomain h) hm

/-! ## What is gone -/

theorem mem_deleteArtifact {name : String}
    (h : name ∈ (deleteArtifact site s artifact isDeleted).volumes) : name ∈ s.volumes := by
  unfold deleteArtifact at h
  split at h
  · exact h
  · split at h
    · exact (mem_filter.mp h).1
    · exact h

theorem not_mem_deleteArtifact (h : ensureIdentity site s artifact = .ok ()) :
    artifact.name ∉ (deleteArtifact site s artifact true).volumes := by
  simp [deleteArtifact, h, GuestHost.eraseVolume]

theorem domains_deleteArtifact :
    (deleteArtifact site s artifact isDeleted).domains = s.domains := by
  unfold deleteArtifact
  split
  · rfl
  · split <;> rfl

/-- A volume that is not the other one is checked as before. -/
theorem ensureIdentity_deleteArtifact {artifact other : Artifact}
    (h : ensureIdentity site s artifact = .ok ()) :
    ensureIdentity site (deleteArtifact site s other isDeleted) artifact = .ok () := by
  unfold ensureIdentity at h ⊢
  split at h
  · cases h
  · rename_i hno
    refine if_neg fun hyes => hno ?_
    simp only [Bool.and_eq_true, contains_iff_mem] at hyes ⊢
    exact ⟨mem_deleteArtifact hyes.1, hyes.2⟩

/-- **A cleanup that succeeds leaves nothing of the guest.** -/
theorem cleared_of_cleanupResources (hm : site.Owns id m)
    (hok : (cleanupResources site a s m).2 = .ok ()) :
    Cleared site id (cleanupResources site a s m).1 := by
  revert hok
  unfold cleanupResources
  rw [hm.valid, hm.ensureRecoveryArtifacts, hm.domainUuid]
  dsimp only
  split
  · exact nofun
  · split
    · exact nofun
    · split
      · exact nofun
      · unfold cleanupArtifacts
        dsimp only
        split
        · rename_i hseed hoverlay
          intro hok
          obtain ⟨hdone, -⟩ := reported_eq_ok hok
          simp only [hdone, decide_true, Bool.true_or]
          refine ⟨fun domain hdomain => ?_, ?_, fun hmem => ?_⟩
          · rw [domains_deleteArtifact, domains_deleteArtifact] at hdomain
            simpa using (mem_filter.mp hdomain).2
          · rw [← hm.overlay]
            exact not_mem_deleteArtifact (ensureIdentity_deleteArtifact hoverlay)
          · rw [← hm.seed] at hmem
            exact not_mem_deleteArtifact hseed (mem_deleteArtifact hmem)
        all_goals exact nofun

/-- Nothing of the guest is left and, where one was created, a tombstone says
so. -/
structure Retired (site : Site) (id : AllocationId) (s : GuestHost) : Prop where
  cleared : Cleared site id s
  buried : id ∈ s.created → ∃ d, s.directory id = some d ∧ d.tombstone.isSome = true

theorem Cleared.putDirectory (h : Cleared site id s) (d : AllocationDir) :
    Cleared site id (s.putDirectory d) := ⟨h.domains, h.overlay, h.seed⟩

theorem Retired.written (h : Retired site id s) (h' : Retired site id s') :
    Retired site id (a.written s s') := by
  unfold GuestAnswer.written
  split
  · exact h
  · exact h'

theorem Retired.put (h : Retired site id s) (hd : s.directory id = some d)
    (hid : d'.id = d.id) (htombstone : d'.tombstone = d.tombstone) :
    Retired site id (s.putDirectory d') := by
  refine ⟨h.cleared.putDirectory d', fun hcreated => ?_⟩
  obtain ⟨before, hbefore, hsome⟩ := h.buried hcreated
  cases hd.symm.trans hbefore
  have hid' : d'.id = id := hid.trans (id_of_directory hd)
  exact ⟨d', hid' ▸ directory_putDirectory_self, htombstone ▸ hsome⟩

theorem retired_removeTemporaries (h : Retired site id s) :
    Retired site id (removeTemporaries a s id).1 := by
  unfold removeTemporaries
  split
  · exact h
  · rename_i d hd
    split
    · exact h
    · split
      · exact h.put hd rfl rfl
      · exact h.put hd rfl rfl

theorem retired_removeFile (h : Retired site id s) (file : AuthorityFile) :
    Retired site id (removeFile a s id file).1 := by
  unfold removeFile
  split
  · exact h
  · rename_i d hd
    exact h.written (h.put hd (by cases file <;> rfl) (by cases file <;> rfl))

theorem cleared_recordCleanup (h : Cleared site id s) :
    Cleared site id (recordCleanup a s m).1 := by
  unfold recordCleanup
  split
  · exact h
  · split
    · exact h
    · split
      · exact h
      · dsimp only
        split
        · exact h.putDirectory _
        · split
          · exact h.putDirectory _
          · split <;> exact h.putDirectory _

end Guest

end FlanForge
