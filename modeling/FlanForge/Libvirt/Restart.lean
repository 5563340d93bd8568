import FlanForge.Libvirt.TeardownKeeps

/-!
# Tearing a guest down again

A teardown that was cut short is run again: by the manager's retry, by its
recovery, by the next sweep. `isRestartable` is when the second run succeeds if
all its calls do. Three cuts are left out of it. The destruction by manifest
cannot find its guest once the manifest is gone, though the tombstone is
there. For a guest that was never recorded as created, neither a tombstone
nor a checkpoint without a manifest is expected, and a complete teardown
leaves the one, one cut between two files the other. And the journal may
record a key that is too long for the manifest.
-/

namespace FlanForge

/-- The journal's keys fit into a manifest, which takes less of a key than the
journal does. -/
def AllocationCheckpoint.hasShortKeys (checkpoint : AllocationCheckpoint) : Bool :=
  checkpoint.volumes.all (isSafeKey ·.key 1024)

namespace Guest

/-- Every call succeeds, and the clock runs. -/
def succeeding : Conditions GuestHost GuestOp GuestAnswer GuestKind where
  call _ _ a := a.outcome = .done && a.now ≠ 0
  start _ _ := true
  crash _ := true

/-- A teardown of one allocation's guest. -/
inductive Teardown
  | cleanup (allocation : Allocation)
  | reap (id : AllocationId) (registration : Option Allocation)

namespace Teardown

/-- Whose guest it is. -/
def id : Teardown → AllocationId
  | cleanup allocation => allocation.id
  | reap id _ => id

def task (site : Site) : Teardown → Task Unit
  | cleanup allocation => Guest.cleanup site allocation
  | reap id registration => ensureReaped site id (site.vmName id) registration

/-- The allocation's record is the stored one. -/
def isRecorded (site : Site) (s : GuestHost) : Teardown → Bool
  | cleanup allocation => Guest.isRecorded site s allocation
  | reap _ _ => true

/-- The guest is the pool's, so that only the runner is deleted. -/
def isSpared (s : GuestHost) : Teardown → Bool
  | cleanup allocation => allocation.origin.isHotReuse || s.claimed.contains allocation.vmName
  | reap _ _ => false

end Teardown

/-- What the files have to look like for the second run to succeed. -/
def isRestartable (directory : Option AllocationDir) : Teardown → Bool
  | .cleanup allocation =>
    match directory with
    | none => true
    | some directory =>
      match directory.ownership with
      | some _ => directory.checkpoint.all AllocationCheckpoint.hasShortKeys
      | none =>
        allocation.vmCreated || (directory.checkpoint.isNone && directory.tombstone.isNone)
  | .reap _ _ => directory.any (·.ownership.isSome)

variable {site : Site} {id : AllocationId} {start s s' : GuestHost} {a : GuestAnswer}
variable {d d' : AllocationDir} {m : OwnershipManifest} {α β : Type} {Q : α → GuestHost → Prop}
variable {artifact : Artifact} {checkpoint : AllocationCheckpoint} {allocation : Allocation}
variable {teardown : Teardown}

/-! ## Rules -/

/-- The program succeeds, with `Q`. -/
def Succeeds (Q : α → GuestHost → Prop) : Except WorkerError α → GuestHost → Prop :=
  fun r s => ∃ v, r = .ok v ∧ Q v s

theorem completes_call {op : GuestOp} {F : GuestAnswer → GuestHost × op.Res}
    {R : op.Res → GuestHost → Prop} (hF : ∀ a, guestExec site op a s = some (F a))
    (h : ∀ a, a.outcome = .done → a.now ≠ 0 → R (F a).2 (F a).1) :
    (service site).Completes succeeding (perform op) R s := by
  refine ⟨⟨{}, rfl, ?_⟩, fun a s' r hcall hexec => ?_⟩
  · show (guestExec site op {} s).isSome = true
    rw [hF]
    rfl
  · obtain ⟨hdone, hnow⟩ := Bool.and_eq_true_iff.mp hcall
    have hR := h a (of_decide_eq_true hdone) (of_decide_eq_true hnow)
    have heq : F a = (s', r) := Option.some.inj ((hF a).symm.trans hexec)
    rwa [heq] at hR

theorem succeeds_bind {x : Task α} {f : α → Task β} {R : Except WorkerError β → GuestHost → Prop}
    (hx : (service site).Completes succeeding x.run (Succeeds Q) s)
    (hf : ∀ v s, Q v s → (service site).Completes succeeding (f v).run R s) :
    (service site).Completes succeeding (x >>= f).run R s := by
  refine .bind hx fun r s' hr => ?_
  obtain ⟨v, rfl, hv⟩ := hr
  exact hf v s' hv

theorem succeeds_pure {v : α} (hv : Q v s) :
    (service site).Completes succeeding (pure v : Task α).run (Succeeds Q) s := ⟨v, rfl, hv⟩

theorem succeeds_ensure {result : Except RuntimeError Unit} (h : result = .ok ()) :
    (service site).Completes succeeding (ensure result).run (Succeeds fun _ s' => s' = s) s := by
  subst h
  exact ⟨(), rfl, rfl⟩

theorem reported_done {value : α} (hdone : a.outcome = .done) : a.reported value = .ok value := by
  simp [GuestAnswer.reported, hdone]

theorem written_done (hdone : a.outcome = .done) : a.written s s' = s' := by
  simp [GuestAnswer.written, hdone]

/-! ## Files -/

/-- What is left of a directory without its authority. -/
def AllocationDir.retired (d : AllocationDir) : AllocationDir :=
  { id := d.id, tombstone := d.tombstone }

theorem completes_removeAuthorityFiles (hsome : ∀ d, s.directory id = some d → ¬ d.entries > 32) :
    (service site).Completes succeeding (removeAuthorityFiles id).run
      (Succeeds fun _ s' => s'.directory id = (s.directory id).map AllocationDir.retired) s := by
  unfold removeAuthorityFiles
  refine succeeds_bind (Q := fun isThere s' => s' = s ∧ isThere = (s.directory id).isSome)
    (completes_call (fun _ => rfl) fun a hdone _ => ⟨_, reported_done hdone, rfl, rfl⟩)
    fun isThere s₁ hs => ?_
  obtain ⟨rfl, rfl⟩ := hs
  cases hd : s₁.directory id with
  | none => exact succeeds_pure hd
  | some d =>
    have hid : d.id = id := id_of_directory hd
    have hput : ∀ {s : GuestHost} {d' : AllocationDir}, d'.id = id →
        (s.putDirectory d').directory id = some d' := fun hid' => hid' ▸ directory_putDirectory_self
    have hfile : ∀ file s d, s.directory id = some d → d.id = id →
        (service site).Completes succeeding (perform (.removeFile id file))
          (Succeeds fun _ s' => s'.directory id = some (d.remove file)) s := by
      intro file s d hd hid
      refine completes_call (fun _ => rfl) fun a hdone _ => ⟨(), ?_, ?_⟩
      · simp [removeFile, hd, reported_done hdone]
      · simp only [removeFile, hd, written_done hdone]
        exact hput (by cases file <;> exact hid)
    refine succeeds_bind (Q := fun _ s' => s'.directory id = some { d with temporaries := [] })
      (completes_call (fun _ => rfl) fun a hdone _ => ⟨(), ?_, ?_⟩) fun _ s₂ hd₂ => ?_
    · simp [removeTemporaries, hd, hsome d hd, hdone]
    · simp only [removeTemporaries, hd, if_neg (hsome d hd), hdone, if_true]
      exact hput hid
    refine succeeds_bind (hfile .knownHosts s₂ _ hd₂ hid) fun _ s₃ hd₃ => ?_
    refine succeeds_bind (hfile .ownership s₃ _ hd₃ hid) fun _ s₄ hd₄ => ?_
    refine succeeds_bind (hfile .checkpoint s₄ _ hd₄ hid) fun _ s₅ hd₅ => ?_
    exact completes_call (fun _ => rfl) fun a hdone _ =>
      ⟨(), by simp [hd₅, reported_done hdone], hd₅⟩

/-- With nothing but authority in it, the directory goes too. -/
theorem completes_removeEmptyLocalState (hsome : ∀ d, s.directory id = some d → ¬ d.entries > 32)
    (hunburied : ∀ d, s.directory id = some d → d.tombstone = none) :
    (service site).Completes succeeding (removeEmptyLocalState id).run
      (Succeeds fun _ _ => True) s := by
  unfold removeEmptyLocalState
  refine succeeds_bind (completes_removeAuthorityFiles hsome) fun _ s₁ hs₁ => ?_
  refine succeeds_bind (Q := fun _ _ => True) (completes_call (fun _ => rfl) fun a hdone _ => ?_)
    fun isGone s₂ _ => ?_
  · cases hd : s.directory id with
    | none => exact ⟨false, by simp [removeDirectory, hs₁, hd, reported_done hdone], trivial⟩
    | some d =>
      have hempty : (AllocationDir.retired d).entries = 0 := by
        simp [AllocationDir.retired, AllocationDir.entries, hunburied d hd]
      exact ⟨true, by simp [removeDirectory, hs₁, hd, hempty, reported_done hdone], trivial⟩
  · cases isGone with
    | false => exact succeeds_pure trivial
    | true => exact completes_call (fun _ => rfl) fun a hdone _ =>
      ⟨(), reported_done hdone, trivial⟩

/-- The tombstone is written, or it is there, and the rest goes. -/
theorem completes_retire (h : Kept site id start s) (hsome : (s.directory id).isSome = true)
    (hm : site.Owns id m) : (service site).Completes succeeding
      (ExceptT.mk (perform (.recordCleanup m)) >>= fun _ => removeAuthorityFiles id : Task Unit).run
      (Succeeds fun _ _ => True) s := by
  obtain ⟨d, hd⟩ := Option.isSome_iff_exists.mp hsome
  have horder := h.inOrder hd
  refine succeeds_bind (Q := fun _ s' => Kept site id start s')
    (completes_call (fun _ => rfl) fun a hdone hnow => ⟨(), ?_, kept_recordCleanup h hm⟩)
    fun _ s₁ h₁ => (completes_removeAuthorityFiles fun _ hd => (h₁.inOrder hd).not_tooMany).mono
      fun r s' ⟨v, hv, _⟩ => ⟨v, hv, trivial⟩
  cases htombstone : d.tombstone with
  | none =>
    simp [recordCleanup, hm.allocationId, hd, horder.not_tooMany, hdone, htombstone,
      hm.tombstone_valid hnow]
  | some tombstone =>
    simp [recordCleanup, hm.allocationId, hd, horder.not_tooMany, hdone, htombstone,
      (horder.tombstone _ htombstone).ensureMatchesManifest hm, reported_done hdone]

/-! ## The guest -/

/-- A key that is known is the volume's. -/
theorem ensureIdentity_of_key
    (hkey : ∀ key, artifact.key = some key → key = site.keyOf artifact.name) :
    ensureIdentity site s artifact = .ok () := by
  refine if_neg fun h => ?_
  obtain ⟨-, hany⟩ := Bool.and_eq_true_iff.mp h
  obtain ⟨key, hsome, hne⟩ := Option.any_eq_true _ _ |>.mp hany
  exact of_decide_eq_true hne (hkey key hsome)

/-- **A domain under the allocation's identity is the one its manifest
describes.** -/
theorem ensureDomain_of_owned (h : Kept site id start s) (hown : s.ownership id = some m)
    {domain : Domain} (hdomain : s.domain m.domainUuid = some domain) :
    ensureDomain m domain = .ok () := by
  have hm := owns_of_ownership h hown
  have hmem : domain ∈ s.domains := List.mem_of_find?_eq_some hdomain
  have huuid : domain.uuid = site.domainUuid id := by
    rw [← hm.domainUuid]
    simpa using List.find?_some hdomain
  obtain ⟨m', hm', hkeys⟩ := h.fits.domains domain hmem huuid
  cases hown.symm.trans hm'
  rcases h.inv.domains domain hmem with hforeign | ⟨other, hother⟩
  · exact absurd huuid (hforeign id).1
  · obtain rfl : other = id := site.domainUuid_injective (hother.uuid.symm.trans huuid)
    obtain ⟨hoverlay, hseed⟩ := Bool.and_eq_true_iff.mp hkeys
    obtain ⟨overlay, hoverlay⟩ := Option.isSome_iff_exists.mp hoverlay
    obtain ⟨seed, hseed⟩ := Option.isSome_iff_exists.mp hseed
    simp [ensureDomain, ensureMetadataMatches, hother.name, hother.uuid, hother.metadata,
      hm.domainName, hm.domainUuid, hm.allocationId, hm.serviceInstance, hoverlay, hseed,
      hm.overlayKey _ hoverlay, hm.seedKey _ hseed, hm.overlay, hm.seed]

theorem directories_deleteArtifact {isDeleted : Bool} :
    (deleteArtifact site s artifact isDeleted).directories = s.directories := by
  unfold deleteArtifact
  split
  · rfl
  · split <;> rfl

/-- The helper touches no state directory. -/
theorem directories_cleanupResources :
    (cleanupResources site a s m).1.directories = s.directories := by
  unfold cleanupResources
  split
  · rfl
  · rfl
  · split
    · rfl
    · split
      · rfl
      · split
        · rfl
        · simp only [cleanupArtifacts, directories_deleteArtifact]
          rfl

/-- The helper finds nothing to refuse. -/
theorem completes_cleanupResources (h : Kept site id start s) (hown : s.ownership id = some m) :
    (service site).Completes succeeding (perform (.cleanup m))
      (Succeeds fun _ s' => Kept site id start s' ∧ (s'.directory id).isSome = true) s := by
  have hm := owns_of_ownership h hown
  have hdirectory : (s.directory id).isSome = true := by
    obtain ⟨d, hd, -⟩ := Option.bind_eq_some_iff.mp hown
    simp [hd]
  have hdomain : (s.domain m.domainUuid).elim (.ok ()) (ensureDomain m) = .ok () := by
    cases hd : s.domain m.domainUuid with
    | none => rfl
    | some domain => exact ensureDomain_of_owned h hown hd
  refine completes_call (fun _ => rfl) fun a hdone _ => ⟨(), ?_, kept_cleanupResources h hm, ?_⟩
  · simp [cleanupResources, hm.valid, hm.ensureRecoveryArtifacts, hdomain, hdone, cleanupArtifacts,
      ensureIdentity_of_key hm.overlayKey, ensureIdentity_of_key hm.seedKey, reported_done hdone]
  · simp only [GuestHost.directory, directories_cleanupResources]
    exact hdirectory

/-- A key the journal knows is the one the manifest may have. -/
theorem mergeArtifact_eq_ok {volume : Option CheckpointVolume}
    (hvolume : ∀ v, volume = some v → v.name = artifact.name ∧ v.key = site.keyOf v.name)
    (hkey : ∀ key, artifact.key = some key → key = site.keyOf artifact.name) :
    ∃ merged, mergeArtifact artifact volume = .ok merged := by
  cases volume with
  | none => exact ⟨artifact, rfl⟩
  | some volume =>
    obtain ⟨hname, hvolumeKey⟩ := hvolume volume rfl
    refine ⟨{ artifact with key := some volume.key }, if_neg fun h => ?_⟩
    rcases Bool.or_eq_true_iff.mp h with hne | hany
    · exact of_decide_eq_true hne hname.symm
    · obtain ⟨key, hsome, hne⟩ := Option.any_eq_true _ _ |>.mp hany
      exact of_decide_eq_true hne (by rw [hkey key hsome, hvolumeKey, hname])

/-- A merged key fits if the manifest's did and the journal's do. -/
theorem isShort_of_merge {artifact merged : Artifact} {role : CheckpointVolumeRole}
    (hmerge : mergeArtifact artifact (checkpoint.volume role) = .ok merged)
    (hbefore : (artifact.key.all (isSafeKey · 1024)) = true)
    (hshort : checkpoint.hasShortKeys = true) : (merged.key.all (isSafeKey · 1024)) = true := by
  cases hmerged : merged.key with
  | none => rfl
  | some key =>
    rcases (hasKeys_of_merge hmerge).2.2 key hmerged with hkey | ⟨volume, hvolume, rfl⟩
    · simpa [hkey] using hbefore
    · exact List.all_eq_true.mp hshort volume (mem_of_volume hvolume).1

/-- **Keys that are short enough are taken over.** -/
theorem mergeAllocation_eq_ok (hm : site.Owns id m) (hc : site.Journals id checkpoint)
    (hshort : checkpoint.hasShortKeys = true) :
    ∃ merged, mergeAllocation checkpoint m site.serviceInstance site.pool = .ok merged := by
  have hbound : checkpoint.ensureAllocation site.serviceInstance site.pool m.allocationId
      m.overlay.name m.seed.name = .ok () := by
    unfold AllocationCheckpoint.ensureAllocation
    rw [hc.valid, hc.serviceInstance, hc.pool, hc.allocationId, hm.allocationId, hm.overlay,
      hm.seed]
    refine if_neg ?_
    simp only [ne_eq, not_true_eq_false, decide_false, Bool.false_or, List.any_eq_true, not_exists,
      not_and, Bool.not_eq_true]
    intro volume hvolume
    cases hrole : volume.role with
    | overlay => simp [(hc.overlay volume hvolume hrole).1]
    | seed => simp [(hc.seed volume hvolume hrole).1]
  have hoverlayVolume : ∀ v, checkpoint.volume .overlay = some v →
      v.name = m.overlay.name ∧ v.key = site.keyOf v.name := fun v hv => by
    rw [hm.overlay]
    exact hc.overlay v (mem_of_volume hv).1 (mem_of_volume hv).2
  have hseedVolume : ∀ v, checkpoint.volume .seed = some v →
      v.name = m.seed.name ∧ v.key = site.keyOf v.name := fun v hv => by
    rw [hm.seed]
    exact hc.seed v (mem_of_volume hv).1 (mem_of_volume hv).2
  obtain ⟨overlay, hoverlay⟩ := mergeArtifact_eq_ok hoverlayVolume hm.overlayKey
  obtain ⟨seed, hseed⟩ := mergeArtifact_eq_ok hseedVolume hm.seedKey
  have hchecks := OwnershipManifest.ensureValid_eq_ok.mp hm.valid
  have hvalid : OwnershipManifest.ensureValid { m with overlay := overlay, seed := seed } =
    .ok () := by
    rw [OwnershipManifest.ensureValid_eq_ok]
    simp only [OwnershipManifest.checks, List.forall_mem_cons] at hchecks ⊢
    obtain ⟨h₁, h₂, h₃, h₄, h₅, h₆, h₇, h₈, h₉, h₁₀, h₁₁, hoverlayKey, hseedKey, hnil⟩ := hchecks
    exact ⟨h₁, h₂, h₃, h₄, h₅, h₆, (hasKeys_of_merge hoverlay).1 ▸ h₇,
      (hasKeys_of_merge hseed).1 ▸ h₈, h₉, h₁₀, h₁₁, isShort_of_merge hoverlay hoverlayKey hshort,
      isShort_of_merge hseed hseedKey hshort, hnil⟩
  refine ⟨{ m with overlay := overlay, seed := seed }, ?_⟩
  simp only [mergeAllocation, hbound, hoverlay, hseed, bind, Except.bind, hvalid, checked]
  rfl

/-- The keys of the journal are in the manifest. -/
theorem completes_recoverKeys (h : Kept site id start s) (hd : s.directory id = some d)
    (hown : d.ownership = some m)
    (hshort : d.checkpoint.all AllocationCheckpoint.hasShortKeys = true) :
    (service site).Completes succeeding (recoverKeys site id m).run
      (Succeeds fun merged s' => Kept site id start s' ∧ s'.ownership id = some merged) s := by
  have horder := h.inOrder hd
  have hm := horder.ownership m hown
  have hid : d.id = id := id_of_directory hd
  have howned : s.ownership id = some m := by simp [GuestHost.ownership, hd, hown]
  unfold recoverKeys
  refine succeeds_bind (Q := fun c s' => s' = s ∧ c = d.checkpoint)
    (completes_call (fun _ => rfl) fun a hdone _ => ⟨_, reported_done hdone, rfl, by simp [hd]⟩)
    fun c s₁ hs => ?_
  obtain ⟨rfl, rfl⟩ := hs
  cases hc : d.checkpoint with
  | none => exact succeeds_pure ⟨h, howned⟩
  | some checkpoint =>
    have hjournals := horder.checkpoint checkpoint hc
    obtain ⟨merged, hmerge⟩ := mergeAllocation_eq_ok hm hjournals (by simpa [hc] using hshort)
    obtain ⟨hmerged, hkeys⟩ := owns_of_merge hm hjournals hmerge
    simp only [hmerge]
    refine succeeds_bind (Q := fun _ s' => Kept site id start s' ∧ s'.ownership id = some merged)
      (completes_call (fun _ => rfl) fun a hdone _ => ?_) fun _ s₂ hs₂ => succeeds_pure hs₂
    have hok : (saveOwnership a s₁ id merged).2 = .ok () := by
      simp [saveOwnership, hmerged.valid, hd, horder.not_tooMany, hdone]
    refine ⟨(), hok, kept_saveOwnership h hmerged fun m' hm' => ?_, ?_⟩
    · cases howned.symm.trans hm'
      exact hkeys
    · rw [saveOwnership_ok hd hok]
      exact ownership_putDirectory (d := { d.swept .ownership with ownership := some merged }) hid

/-- How the guest's own cleanup ends when it succeeds. -/
def Finishes (site : Site) (id : AllocationId) (s : GuestHost) : GuestCleanup → Prop
  | .empty => ∀ d, s.directory id = some d → d.tombstone = none
  | .owned manifest => site.Owns id manifest ∧ (s.directory id).isSome = true
  | .tombstoned => True

theorem completes_cleanupGuest (h : Kept site allocation.id start s)
    (hrecorded : isRecorded site s allocation = true)
    (hrestartable : isRestartable (s.directory allocation.id) (.cleanup allocation) = true) :
    (service site).Completes succeeding (cleanupGuest site allocation).run
      (Succeeds fun g s' => Kept site allocation.id start s' ∧ Finishes site allocation.id s' g)
        s := by
  obtain ⟨hname, hcreated⟩ := Bool.and_eq_true_iff.mp hrecorded
  have hname : allocation.vmName = site.vmName allocation.id := of_decide_eq_true hname
  unfold cleanupGuest
  refine succeeds_bind (Q := fun o s' => s' = s ∧ o = s.ownership allocation.id)
    (completes_call (fun _ => rfl) fun a hdone _ => ⟨_, reported_done hdone, rfl, rfl⟩)
    fun o s₁ hs => ?_
  obtain ⟨rfl, rfl⟩ := hs
  cases hown : s₁.ownership allocation.id with
  | some manifest =>
    obtain ⟨d, hd, hdown⟩ := Option.bind_eq_some_iff.mp hown
    have hm := (h.inOrder hd).ownership manifest hdown
    dsimp only
    refine succeeds_bind (succeeds_ensure (hname ▸ hm.ensureMatches)) fun _ s₂ hs => ?_
    subst hs
    refine succeeds_bind (completes_recoverKeys h hd hdown ?_) fun merged s₃ hs₃ => ?_
    · simpa [isRestartable, hd, hdown] using hrestartable
    obtain ⟨h₃, hmerged⟩ := hs₃
    refine succeeds_bind (completes_cleanupResources h₃ hmerged) fun _ s₄ hs₄ => ?_
    exact succeeds_pure ⟨hs₄.1, owns_of_ownership h₃ hmerged, hs₄.2⟩
  | none =>
    have hnotOwned : ∀ d, s₁.directory allocation.id = some d → d.ownership = none := by
      intro d hd
      simpa [GuestHost.ownership, hd] using hown
    cases hvm : allocation.vmCreated with
    | false =>
      -- nothing was ever created: neither the journal nor a tombstone is expected
      have hbare : ∀ d, s₁.directory allocation.id = some d →
          d.checkpoint = none ∧ d.tombstone = none := by
        intro d hd
        simpa [isRestartable, hd, hnotOwned d hd, hvm] using hrestartable
      refine succeeds_bind (Q := fun c s' => s' = s₁ ∧ c = none)
        (completes_call (fun _ => rfl) fun a hdone _ => ⟨_, reported_done hdone, rfl, ?_⟩)
        fun c s₂ hs => ?_
      · cases hd : s₁.directory allocation.id with
        | none => rfl
        | some d => exact (hbare d hd).1
      · obtain ⟨rfl, rfl⟩ := hs
        exact succeeds_pure ⟨h, fun d hd => (hbare d hd).2⟩
    | true =>
      -- the tombstone has to be there, since the manifest is not
      obtain ⟨d, hd, hauthority⟩ := h.fits.created (by simpa [hvm] using hcreated)
      have horder := h.inOrder hd
      obtain ⟨tombstone, htombstone⟩ := Option.isSome_iff_exists.mp
        (hauthority.resolve_left (by simp [hnotOwned d hd]))
      have hid : d.id = allocation.id := id_of_directory hd
      refine succeeds_bind (Q := fun t s' => t = some tombstone ∧ Kept site allocation.id start s' ∧
          (s'.directory allocation.id).isSome = true)
        (completes_call (fun _ => rfl) fun a hdone _ =>
          ⟨some tombstone, ?_, rfl, kept_loadCleanup h, ?_⟩)
        fun t s₂ hs => ?_
      · simp [loadCleanup, hd, horder.not_tooMany, hdone, htombstone, reported_done hdone]
      · simp only [loadCleanup, hd, if_neg horder.not_tooMany, hdone, ne_eq, not_true_eq_false,
          decide_false, Bool.false_and, Bool.false_eq_true, if_false]
        have hput := directory_putDirectory_self (s := s₁) (d := d.swept .cleanup)
        rw [show (d.swept .cleanup).id = allocation.id from hid] at hput
        simp [hput]
      obtain ⟨rfl, h₂, hsome⟩ := hs
      obtain ⟨d₂, hd₂⟩ := Option.isSome_iff_exists.mp hsome
      refine succeeds_bind (succeeds_ensure (hname ▸ (horder.tombstone _ htombstone).ensureMatches))
        fun _ s₃ hs => ?_
      subst hs
      refine succeeds_bind (Q := fun _ s' => Kept site allocation.id start s')
        (completes_call (fun _ => rfl) fun a hdone _ => ⟨(), ?_, kept_removeCheckpoint h₂⟩)
        fun _ s₄ h₄ => succeeds_pure ⟨h₄, trivial⟩
      simp [removeCheckpoint, hd₂, reported_done hdone]

/-- The pool's machine keeps its guest; any other is destroyed and retired. -/
theorem completes_cleanup (h : Kept site allocation.id start s)
    (hrecorded : isRecorded site s allocation = true)
    (hrestartable : Teardown.isSpared s (.cleanup allocation) ||
      isRestartable (s.directory allocation.id) (.cleanup allocation)) :
    (service site).Completes succeeding (cleanup site allocation).run
    (Succeeds fun _ _ => True) s := by
  have hrunner : ∀ s, (service site).Completes succeeding (perform (.deleteRunner allocation.id))
      (Succeeds fun _ s' => s' = s) s :=
    fun s => completes_call (fun _ => rfl) fun a hdone _ => ⟨(), reported_done hdone, rfl⟩
  have hruns : ∀ s, (service site).Completes succeeding (perform (.deleteRunner allocation.id))
      (Succeeds fun _ _ => True) s :=
    fun s => (hrunner s).mono fun _ _ ⟨v, hv, _⟩ => ⟨v, hv, trivial⟩
  unfold cleanup
  split
  · exact hruns s
  · rename_i hreuse
    refine .bind (Q := fun b s' => s' = s ∧ b = s.claimed.contains allocation.vmName)
      (completes_call (fun _ => rfl) fun a _ _ => ⟨rfl, rfl⟩) fun isClaimed s₁ hs => ?_
    obtain ⟨rfl, rfl⟩ := hs
    split
    · exact hruns _
    · rename_i hclaimed
      have hguest : isRestartable (s₁.directory allocation.id) (.cleanup allocation) = true := by
        simpa only [Teardown.isSpared, hreuse, hclaimed, Bool.false_or] using hrestartable
      refine .bind (completes_cleanupGuest h hrecorded hguest) fun r s₂ hr => ?_
      obtain ⟨guest, rfl, h₂, hfinishes⟩ := hr
      refine .bind (hrunner s₂) fun r s₃ hr => ?_
      obtain ⟨_, rfl, rfl⟩ := hr
      cases guest with
      | tombstoned => exact succeeds_pure trivial
      | empty =>
        exact completes_removeEmptyLocalState (fun _ hd => (h₂.inOrder hd).not_tooMany) hfinishes
      | owned manifest => exact completes_retire h₂ hfinishes.2 hfinishes.1

/-- With its manifest there, a guest is destroyed and retired. -/
theorem completes_ensureReaped (h : Kept site id start s) (hown : s.ownership id = some m)
    (registration : Option Allocation) :
    (service site).Completes succeeding (ensureReaped site id (site.vmName id) registration).run
      (Succeeds fun _ _ => True) s := by
  have hm := owns_of_ownership h hown
  unfold ensureReaped loadOwned
  refine succeeds_bind (Q := fun m' s' => s' = s ∧ m' = m) ?_ fun m' s₁ hs => ?_
  · refine succeeds_bind (Q := fun o s' => s' = s ∧ o = some m)
      (completes_call (fun _ => rfl) fun a hdone _ => ⟨_, reported_done hdone, rfl, hown⟩)
      fun o s₁ hs => ?_
    obtain ⟨rfl, rfl⟩ := hs
    exact succeeds_pure ⟨rfl, rfl⟩
  obtain ⟨rfl, rfl⟩ := hs
  refine succeeds_bind (succeeds_ensure hm.ensureReapable) fun _ s₂ hs => ?_
  subst hs
  refine succeeds_bind (completes_cleanupResources h hown) fun _ s₃ hs₃ => ?_
  refine succeeds_bind (Q := fun _ s' => s' = s₃) ?_ fun _ s₄ hs => ?_
  · cases registration with
    | none => exact succeeds_pure rfl
    | some allocation =>
      refine succeeds_bind (Q := fun _ s' => s' = s₃) ?_ fun _ s₄ hs => succeeds_pure hs
      exact .bind (Q := fun _ s' => s' = s₃) (completes_call (fun _ => rfl)
        fun a hdone _ => rfl) fun r s₄ hs => ⟨r, rfl, hs⟩
  · subst hs
    exact completes_retire hs₃.1 hs₃.2 hm

/-- What a run of a teardown leaves alone, wherever it stops. -/
theorem spares_teardown (h : Inv site s) (hrecorded : teardown.isRecorded site s = true)
    (G : Conditions GuestHost GuestOp GuestAnswer GuestKind) :
    (service site).Keeps G (Spares site teardown.id s) (teardown.task site).run
      (fun _ s' => Spares site teardown.id s s') s := by
  cases teardown with
  | cleanup allocation =>
    obtain ⟨-, hcreated⟩ := Bool.and_eq_true_iff.mp hrecorded
    exact ((keeps_cleanup (h.kept allocation.id) (of_decide_eq_true hcreated)).weaken
      fun _ hkept => hkept.spares).mono fun _ _ hgoes => hgoes.1.spares
  | reap id registration =>
    exact ((keeps_ensureReaped (h.kept id) _ registration).weaken
      fun _ hkept => hkept.spares).mono fun _ _ hgoes => hgoes.1.spares

/-- **A teardown can be run again** from whatever an earlier one left: it
succeeds if its calls do and its files are `isRestartable`, and whatever becomes
of its calls, it touches nothing of any other allocation. -/
theorem teardown_restartable {site : Site} {w : Process GuestHost GuestOp GuestOp.Res}
    (hw : Service.Reachable (service site) (requests site) (Installed site) w)
    {t : Teardown} (hrecorded : t.isRecorded site w.state = true) :
    ((t.isSpared w.state || isRestartable (w.state.directory t.id) t) = true →
      (service site).Completes succeeding (t.task site).run
        (fun r s' => r = .ok () ∧ Spares site t.id w.state s') w.state) ∧
      (service site).Keeps .free (Spares site t.id w.state) (t.task site).run
        (fun _ s' => Spares site t.id w.state s') w.state := by
  have hinv : Inv site w.state := (recoverable site).inv hw
  refine ⟨fun hrestartable => ?_, spares_teardown hinv hrecorded .free⟩
  suffices hcompletes : (service site).Completes succeeding (t.task site).run
      (Succeeds fun _ _ => True) w.state from
    (hcompletes.and_keeps (spares_teardown hinv hrecorded succeeding)).mono
      fun r s' ⟨⟨_, hok, _⟩, hspares⟩ => ⟨hok, hspares⟩
  cases t with
  | cleanup allocation => exact completes_cleanup (hinv.kept allocation.id) hrecorded hrestartable
  | reap id registration =>
    obtain ⟨d, hd, hsome⟩ := Option.any_eq_true _ _ |>.mp (by simpa [Teardown.isSpared,
      isRestartable, Teardown.id] using hrestartable)
    obtain ⟨m, hm⟩ := Option.isSome_iff_exists.mp hsome
    exact completes_ensureReaped (hinv.kept id) (m := m) (by simp [GuestHost.ownership, hd, hm])
      registration

/-! ## Teardowns that are refused -/

/-- A pool of files; every allocation is one of run 7. -/
def sampleSite : Site where
  stateDir := "/var/lib/flanforge"
  serviceInstance := "00000000-0000-0000-0000-0000000000aa"
  pool := "guests"
  keyOf name := "/pool/" ++ name
  vmName _ := sampleMachine
  domainUuid id := id.value
  artifact id := id.value
  domainUuid_injective a b h := by
    cases a
    cases b
    simpa using h
  artifact_injective a b h := by
    cases a
    cases b
    simpa using h
  artifact_canonical id := id.canonical
  artifact_ne_nil _ h := h

def emptyGuestHost : GuestHost := ⟨[], [], [], [], []⟩

theorem emptyGuestHost_installed : Installed sampleSite emptyGuestHost :=
  ⟨rfl, rfl, rfl, nofun, fun _ => ⟨nofun, nofun⟩⟩

/-- The record of the run, with whether its guest was created. -/
def recorded (vmCreated : Bool) : Allocation :=
  { sampleAllocation .cold with vmCreated := vmCreated }

/-- Calls that succeed. -/
def fine (n : ℕ) : List GuestAnswer := List.replicate n {}

/-- A call that fails. -/
def failing : GuestAnswer := { outcome := .failed, message := "cancelled", progress := 3 }

/-- A run with these answers. -/
def serve (kind : GuestKind) (answers : List GuestAnswer) :
    List (Occurrence GuestAnswer GuestKind) := .start kind :: answers.map .run

/-- The guest's volumes are made and its domain is not: the cleanup goes through,
and its result is lost. -/
def lostResult : List (Occurrence GuestAnswer GuestKind) :=
  serve (.run (recorded false)) (fine 11 ++ [failing]) ++ serve (.cleanup (recorded false))
    (fine 12)

/-- The volumes are not complete, and the cleanup is cut between two files. -/
def cutBetweenFiles : List (Occurrence GuestAnswer GuestKind) :=
  serve (.run (recorded false)) (fine 8 ++ [failing]) ++
    serve (.cleanup (recorded false)) (fine 11) ++ [.crash]

/-- The guest runs its job and is destroyed, and the result is lost. -/
def reapedOnce : List (Occurrence GuestAnswer GuestKind) :=
  serve (.run (recorded false)) (fine 20) ++
    serve (.deleteVm [] (.record firstId) sampleMachine none) (fine 9)

/-- Whether the teardown stops with this error when all its calls succeed. -/
def isRefused (teardown : Teardown) (message : String) (answers : List GuestAnswer)
    (w : Process GuestHost GuestOp GuestOp.Res) : Bool :=
  teardown.isRecorded sampleSite w.state &&
    ((service sampleSite).perform succeeding (teardown.task sampleSite).run w.state answers).any
      fun r => match r.1 with
        | .error e => e = .new message
        | .ok _ => false

/-- Some run leaves files on which the teardown is refused. -/
def IsStuck (teardown : Teardown) (message : String) : Prop :=
  ∃ w, Service.Reachable (service sampleSite) (requests sampleSite) (Installed sampleSite) w ∧
    teardown.isRecorded sampleSite w.state = true ∧
    ∃ s', (service sampleSite).Ends succeeding (teardown.task sampleSite).run w.state
      (.error (.new message)) s'

theorem isStuck_of_replay {message : String} (events : List (Occurrence GuestAnswer GuestKind))
    (answers : List GuestAnswer)
    (h : ((service sampleSite).replay (requests sampleSite) ⟨emptyGuestHost, .ret true⟩ events).any
      (isRefused teardown message answers) = true) : IsStuck teardown message := by
  obtain ⟨w, hw, hcheck⟩ := Service.exists_reachable emptyGuestHost_installed events h
  obtain ⟨hrecorded, hrefused⟩ := Bool.and_eq_true_iff.mp hcheck
  obtain ⟨⟨r, s'⟩, hperform, hr⟩ := Option.any_eq_true _ _ |>.mp hrefused
  cases r with
  | ok _ => cases hr
  | error e =>
    obtain rfl : e = .new message := of_decide_eq_true hr
    exact ⟨w, hw, hrecorded, s', Service.ends_of_perform hperform⟩

/-- Three teardowns that cannot be run again: one that went through and whose
result was lost, one that was cut between two files, both of a guest that was
never recorded as created, and a destruction by manifest. -/
theorem teardown_stuck :
    IsStuck (.cleanup (recorded false)) "allocation state directory is not empty" ∧
      IsStuck (.cleanup (recorded false)) "volume checkpoint exists without allocation ownership" ∧
      IsStuck (.reap firstId none) "libvirt manifest is absent" :=
  ⟨isStuck_of_replay lostResult (fine 11) (by decide +kernel),
    isStuck_of_replay cutBetweenFiles (fine 4) (by decide +kernel),
    isStuck_of_replay reapedOnce (fine 1) (by decide +kernel)⟩

/-- A guest that runs, whose cleanup is cut after its manifest is gone. -/
def cutShort : List (Occurrence GuestAnswer GuestKind) :=
  serve (.run (recorded false)) (fine 20) ++ serve (.cleanup (recorded true)) (fine 10) ++ [.crash]

/-- The teardown may be run again, with only the tombstone left. -/
def isCut (w : Process GuestHost GuestOp GuestOp.Res) : Bool :=
  (w.state.directory firstId).any (fun d => d.ownership.isNone && d.tombstone.isSome) &&
    (isRecorded sampleSite w.state (recorded true) &&
      isRestartable (w.state.directory firstId) (.cleanup (recorded true)))

/-- A guest that was recorded as created is torn down again from its tombstone. -/
theorem teardown_restartable_cutShort :
    ∃ w, Service.Reachable (service sampleSite) (requests sampleSite) (Installed sampleSite) w ∧
      isCut w = true ∧
      ∃ s', (service sampleSite).Ends succeeding (cleanup sampleSite (recorded true)).run w.state
        (.ok ()) s' := by
  have hrun : ((service sampleSite).replay (requests sampleSite) ⟨emptyGuestHost, .ret true⟩
      cutShort).any isCut = true := by decide +kernel
  obtain ⟨w, hw, hcut⟩ := Service.exists_reachable emptyGuestHost_installed cutShort hrun
  obtain ⟨-, hcheck⟩ := Bool.and_eq_true_iff.mp hcut
  obtain ⟨hrecorded, hrestartable⟩ := Bool.and_eq_true_iff.mp hcheck
  have hcompletes := (teardown_restartable hw (t := .cleanup (recorded true)) hrecorded).1
    (Bool.or_eq_true_iff.mpr (.inr hrestartable))
  obtain ⟨r, s', hends, rfl, -⟩ := hcompletes.exists_ends
  exact ⟨w, hw, hcut, s', hends⟩

end Guest

end FlanForge
