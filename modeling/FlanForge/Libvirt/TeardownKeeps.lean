import FlanForge.Libvirt.GuestKeeps

/-!
# Every program of the worker can be cut short

Each program of `Libvirt.Teardown` keeps the invariant at every operation,
whatever fails on the way, and the programs of one allocation spare all the
others. A boot writes the manifest before anything it names is made, and a
teardown removes it after everything it names is gone; between the two a
tombstone is written.
-/

namespace FlanForge

namespace Guest

variable {site : Site} {id : AllocationId} {start s s' : GuestHost} {a : GuestAnswer}
variable {d d' : AllocationDir} {m : OwnershipManifest}

/-! ## Rules -/

variable {G : Conditions GuestHost GuestOp GuestAnswer GuestKind} {α β : Type}
variable {I : GuestHost → Prop} {Q : α → GuestHost → Prop} {checkpoint : AllocationCheckpoint}
variable {allocation : Allocation}

/-- The program goes on with `Q` or stops with an error, and keeps the host in
order. -/
def Goes (site : Site) (id : AllocationId) (start : GuestHost) (Q : α → GuestHost → Prop) :
    Except WorkerError α → GuestHost → Prop :=
  fun r s => Kept site id start s ∧ ∀ v, r = .ok v → Q v s

/-- Wherever it stops, the program has kept the host in order; where it goes on,
it goes on with `Q`. -/
abbrev Proceeds (G : Conditions GuestHost GuestOp GuestAnswer GuestKind) (site : Site)
    (id : AllocationId) (start : GuestHost) (p : GuestProg (Except WorkerError α))
    (Q : α → GuestHost → Prop) (s : GuestHost) : Prop :=
  (service site).Keeps G (Kept site id start) p (Goes site id start Q) s

theorem Kept.goes {r : Except WorkerError α} (h : Kept site id start s)
    (hQ : ∀ v, r = .ok v → Q v s) : Kept site id start s ∧ Goes site id start Q r s := ⟨h, h, hQ⟩

/-- One operation, by what it does. -/
theorem keeps_call {op : GuestOp} {F : GuestAnswer → GuestHost × op.Res}
    {R : op.Res → GuestHost → Prop} (hF : ∀ a, guestExec site op a s = some (F a))
    (h : ∀ a, I (F a).1 ∧ R (F a).2 (F a).1) : (service site).Keeps G I (perform op) R s := by
  refine .perform fun a s' r _ hexec => ?_
  have heq : F a = (s', r) := Option.some.inj ((hF a).symm.trans hexec)
  have := h a
  rwa [heq] at this

theorem goes_bind {x : Task α} {f : α → Task β} {Q' : β → GuestHost → Prop}
    (hx : Proceeds G site id start x.run Q s)
    (hf : ∀ v s, Kept site id start s → Q v s →
      Proceeds G site id start (f v).run Q' s) :
    Proceeds G site id start (x >>= f).run Q' s :=
  .tryBind hx (fun v s hv => hf v s hv.1 (hv.2 v rfl)) fun _ _ he =>
    ⟨he.1, fun _ h => by cases h⟩

theorem goes_pure {v : α} (h : Kept site id start s) (hv : Q v s) :
    Proceeds G site id start (pure v : Task α).run Q s :=
  ⟨h, fun _ heq => by cases heq; exact hv⟩

theorem goes_throw {e : WorkerError} (h : Kept site id start s) :
    Proceeds G site id start (throw e : Task α).run Q s :=
  ⟨h, fun _ heq => by cases heq⟩

/-- A check changes nothing; what follows knows that it passed. -/
theorem goes_ensure {result : Except RuntimeError Unit} (h : Kept site id start s) :
    Proceeds G site id start (ensure result).run (fun _ s' => s' = s ∧ result = .ok ()) s := by
  unfold ensure
  split
  · exact goes_pure h ⟨rfl, rfl⟩
  · exact goes_throw h

/-- A call that changes nothing and reports a value. -/
theorem goes_reported {value : α} (h : Kept site id start s) (hv : Q value s) :
    Goes site id start Q (a.reported value) s := by
  refine ⟨h, fun v hok => ?_⟩
  obtain ⟨-, rfl⟩ := reported_eq_ok hok
  exact hv

theorem keeps_removeAuthorityFiles (h : Kept site id start s) (hretired : Retired site id s) :
    Proceeds G site id start (removeAuthorityFiles id).run (fun _ s' => Cleared site id s') s := by
  have hfile : ∀ file s, Kept site id start s → Retired site id s →
      Proceeds G site id start (perform (.removeFile id file))
        (fun _ s' => Retired site id s') s := by
    intro file s h hretired
    refine keeps_call (fun _ => rfl) fun a => ?_
    exact (kept_removeFile h file fun _ => ⟨hretired.cleared, hretired.buried⟩).goes
      fun _ _ => retired_removeFile hretired file
  unfold removeAuthorityFiles
  refine goes_bind (Q := fun _ s' => Retired site id s')
    (keeps_call (fun _ => rfl) fun a => ⟨h, goes_reported h hretired⟩)
      fun isThere s h hretired => ?_
  cases isThere with
  | false => exact goes_pure h hretired.cleared
  | true =>
    refine goes_bind (Q := fun _ s' => Retired site id s')
      (keeps_call (fun _ => rfl) fun a => ?_) fun _ s h hretired => ?_
    · exact (kept_removeTemporaries h).goes fun _ _ => retired_removeTemporaries hretired
    refine goes_bind (hfile .knownHosts s h hretired) fun _ s h hretired => ?_
    refine goes_bind (hfile .ownership s h hretired) fun _ s h hretired => ?_
    refine goes_bind (hfile .checkpoint s h hretired) fun _ s h hretired => ?_
    exact keeps_call (fun _ => rfl) fun a => ⟨h, h, fun _ _ => hretired.cleared⟩

theorem keeps_removeEmptyLocalState (h : Kept site id start s) (hretired : Retired site id s) :
    Proceeds G site id start (removeEmptyLocalState id).run (fun _ _ => True) s := by
  unfold removeEmptyLocalState
  refine goes_bind (keeps_removeAuthorityFiles h hretired) fun _ s h _ => ?_
  refine goes_bind (Q := fun _ _ => True) (keeps_call (fun _ => rfl) fun a => ?_)
    fun isGone s h _ => ?_
  · exact (kept_removeDirectory h).goes fun _ _ => trivial
  · cases isGone with
    | false => exact goes_pure h trivial
    | true => exact keeps_call (fun _ => rfl) fun a => ⟨h, h, fun _ _ => trivial⟩

/-- The tombstone, then the rest. -/
theorem keeps_retire (h : Kept site id start s) (hm : site.Owns id m)
    (hcleared : Cleared site id s) :
    Proceeds G site id start
      (ExceptT.mk (perform (.recordCleanup m)) >>= fun _ => removeAuthorityFiles id : Task Unit).run
      (fun _ s' => Cleared site id s') s := by
  refine goes_bind (Q := fun _ s' => Retired site id s') (keeps_call (fun _ => rfl) fun a => ?_)
    fun _ s h hretired => keeps_removeAuthorityFiles h hretired
  exact (kept_recordCleanup h hm).goes
    fun _ hok => ⟨cleared_recordCleanup hcleared, fun _ => recordCleanup_ok hm hok⟩

/-- What a cleanup of the guest establishes. -/
def Outcome (site : Site) (id : AllocationId) (s : GuestHost) : GuestCleanup → Prop
  | .empty => Retired site id s
  | .owned manifest => site.Owns id manifest ∧ Cleared site id s
  | .tombstoned => True

theorem keeps_finishCleanup (h : Kept site id start s) {guest : Except WorkerError GuestCleanup}
    {runner : Except WorkerError Unit} (hguest : ∀ g, guest = .ok g → Outcome site id s g) :
    Proceeds G site id start (finishCleanup id guest runner).run (fun _ _ => True) s := by
  cases guest with
  | error e => exact goes_throw h
  | ok guest =>
    have hguest := hguest guest rfl
    cases guest with
    | tombstoned => exact goes_pure h trivial
    | empty =>
      cases runner with
      | error e => exact goes_throw h
      | ok _ => exact keeps_removeEmptyLocalState h hguest
    | owned manifest =>
      cases runner with
      | error e => exact goes_throw h
      | ok _ =>
        exact (keeps_retire h hguest.1 hguest.2).mono fun _ _ hgoes => ⟨hgoes.1, fun _ _ => trivial⟩

/-! ### The guest's own cleanup -/

theorem hasKeys_of_merge {artifact merged : Artifact} {volume : Option CheckpointVolume}
    (h : mergeArtifact artifact volume = .ok merged) :
    merged.name = artifact.name ∧ (artifact.key.isSome = true → merged.key.isSome = true) ∧
      ∀ key, merged.key = some key → artifact.key = some key ∨ ∃ v, volume = some v ∧
        key = v.key := by
  cases volume with
  | none =>
    cases h
    exact ⟨rfl, fun h => h, fun _ h => .inl h⟩
  | some volume =>
    simp only [mergeArtifact] at h
    split at h
    · cases h
    · cases h
      exact ⟨rfl, fun _ => rfl, fun _ h => .inr ⟨volume, rfl, (Option.some.inj h).symm⟩⟩

theorem mem_of_volume {role : CheckpointVolumeRole} {volume : CheckpointVolume}
    (h : checkpoint.volume role = some volume) :
    volume ∈ checkpoint.volumes ∧ volume.role = role :=
  ⟨List.mem_of_find?_eq_some h, by simpa using List.find?_some h⟩

/-- **The journal's keys are the volumes' keys**, so a merged manifest is still
the allocation's. -/
theorem owns_of_merge {merged : OwnershipManifest} (hm : site.Owns id m)
    (hc : site.Journals id checkpoint)
    (h : mergeAllocation checkpoint m site.serviceInstance site.pool = .ok merged) :
    site.Owns id merged ∧ (m.hasKeys = true → merged.hasKeys = true) := by
  unfold mergeAllocation at h
  split at h
  · cases h
  · cases hoverlay : mergeArtifact m.overlay (checkpoint.volume .overlay) with
    | error e => simp [hoverlay, bind, Except.bind] at h
    | ok overlay =>
      cases hseed : mergeArtifact m.seed (checkpoint.volume .seed) with
      | error e => simp [hoverlay, hseed, bind, Except.bind] at h
      | ok seed =>
        cases hvalid :
          OwnershipManifest.ensureValid { m with overlay := overlay, seed := seed } with
        | error e => simp [hoverlay, hseed, hvalid, checked, bind, Except.bind] at h
        | ok _ =>
          simp only [hoverlay, hseed, hvalid, checked, bind, Except.bind, pure, Except.pure] at h
          cases h
          obtain ⟨hname, hkeep, hfrom⟩ := hasKeys_of_merge hoverlay
          obtain ⟨hname', hkeep', hfrom'⟩ := hasKeys_of_merge hseed
          refine ⟨⟨hvalid, hm.allocationId, hm.serviceInstance, hm.domainName, hm.domainUuid,
            hname.trans hm.overlay, hname'.trans hm.seed, hm.knownHostsFile, fun key hkey => ?_,
            fun key hkey => ?_⟩, fun hkeys => ?_⟩
          · rcases hfrom key hkey with hkey | ⟨v, hv, rfl⟩
            · rw [hname]
              exact hm.overlayKey key hkey
            · obtain ⟨hmem, hrole⟩ := mem_of_volume hv
              obtain ⟨hvname, hvkey⟩ := hc.overlay v hmem hrole
              rw [hvkey, hvname, hname, hm.overlay]
          · rcases hfrom' key hkey with hkey | ⟨v, hv, rfl⟩
            · rw [hname']
              exact hm.seedKey key hkey
            · obtain ⟨hmem, hrole⟩ := mem_of_volume hv
              obtain ⟨hvname, hvkey⟩ := hc.seed v hmem hrole
              rw [hvkey, hvname, hname', hm.seed]
          · simp only [OwnershipManifest.hasKeys, Bool.and_eq_true] at hkeys ⊢
            exact ⟨hkeep hkeys.1, hkeep' hkeys.2⟩

theorem owns_of_ownership (h : Kept site id start s) (hm : s.ownership id = some m) :
    site.Owns id m := by
  obtain ⟨d, hd, hm⟩ := Option.bind_eq_some_iff.mp hm
  exact (h.inOrder hd).ownership m hm

theorem goes_cleanup (h : Kept site id start s) (hm : site.Owns id m) :
    Proceeds G site id start (perform (.cleanup m)) (fun _ s' => Cleared site id s') s := by
  refine keeps_call (fun _ => rfl) fun a => ?_
  exact (kept_cleanupResources h hm).goes fun _ hok => cleared_of_cleanupResources hm hok

theorem cleared_of_unowned (h : Kept site id start s) (hown : s.ownership id = none) :
    Cleared site id s := by
  have hnone : ¬ (s.ownership id).isSome = true := by simp [hown]
  refine ⟨fun domain hdomain huuid => ?_, fun hmem => hnone (h.fits.volumes (.inl hmem)),
    fun hmem => hnone (h.fits.volumes (.inr hmem))⟩
  obtain ⟨m, hm, -⟩ := h.fits.domains domain hdomain huuid
  exact absurd (hown.symm.trans hm) (by simp)

theorem goes_loadCheckpoint (h : Kept site id start s) :
    Proceeds G site id start (perform (.loadCheckpoint id))
      (fun c s' => s' = s ∧ c = (s.directory id).bind (·.checkpoint)) s :=
  keeps_call (fun _ => rfl) fun _ => ⟨h, goes_reported h ⟨rfl, rfl⟩⟩

theorem keeps_recoverKeys (h : Kept site id start s) (hown : s.ownership id = some m) :
    Proceeds G site id start (recoverKeys site id m).run
      (fun merged _ => site.Owns id merged) s := by
  have howns := owns_of_ownership h hown
  unfold recoverKeys
  refine goes_bind (goes_loadCheckpoint h) fun checkpoint s₁ h₁ hs => ?_
  obtain ⟨rfl, hcheckpoint⟩ := hs
  cases checkpoint with
  | none => exact goes_pure h howns
  | some checkpoint =>
    obtain ⟨d, hd, hjournal⟩ := Option.bind_eq_some_iff.mp hcheckpoint.symm
    have hjournals := (h.inOrder hd).checkpoint checkpoint hjournal
    dsimp only
    split
    · exact goes_throw h
    · rename_i merged hmerge
      obtain ⟨hmerged, hkeys⟩ := owns_of_merge howns hjournals hmerge
      refine goes_bind (Q := fun _ _ => True) (keeps_call (fun _ => rfl) fun a => ?_)
        fun _ s₂ h₂ _ => goes_pure h₂ hmerged
      have hkept := kept_saveOwnership (a := a) h hmerged fun m' hm' => by
        rw [hown] at hm'
        cases hm'
        exact hkeys
      exact ⟨hkept, hkept, fun _ _ => trivial⟩

theorem keeps_cleanupGuest (h : Kept site allocation.id start s)
    (hcreated : allocation.vmCreated = s.created.contains allocation.id) :
    Proceeds G site allocation.id start (cleanupGuest site allocation).run
      (fun g s' => Outcome site allocation.id s' g) s := by
  unfold cleanupGuest
  refine goes_bind (Q := fun o s' => s' = s ∧ o = s.ownership allocation.id)
    (keeps_call (fun _ => rfl) fun a => ⟨h, goes_reported h ⟨rfl, rfl⟩⟩) fun o s₁ h₁ ho => ?_
  obtain ⟨rfl, rfl⟩ := ho
  cases hown : s₁.ownership allocation.id with
  | none =>
    dsimp only
    split
    · rename_i hnot
      refine goes_bind (goes_loadCheckpoint h) fun checkpoint s₂ h₂ hs => ?_
      obtain ⟨rfl, -⟩ := hs
      cases checkpoint with
      | some _ => exact goes_throw h
      | none =>
        refine goes_pure h ⟨cleared_of_unowned h hown, fun hmem => ?_⟩
        simp [hcreated, hmem] at hnot
    · refine goes_bind (Q := fun _ _ => True) (keeps_call (fun _ => rfl) fun a => ?_)
        fun tombstone s₂ h₂ _ => ?_
      · exact (kept_loadCleanup h).goes fun _ _ => trivial
      cases tombstone with
      | none => exact goes_throw h₂
      | some tombstone =>
        refine goes_bind (goes_ensure h₂) fun _ s₃ h₃ _ => ?_
        refine goes_bind (Q := fun _ _ => True) (keeps_call (fun _ => rfl) fun a => ?_)
          fun _ s₄ h₄ _ => goes_pure h₄ trivial
        exact (kept_removeCheckpoint h₃).goes fun _ _ => trivial
  | some manifest =>
    dsimp only
    refine goes_bind (goes_ensure h) fun _ s₂ h₂ hs => ?_
    obtain ⟨rfl, -⟩ := hs
    refine goes_bind (keeps_recoverKeys h hown) fun merged s₃ h₃ hmerged => ?_
    exact goes_bind (goes_cleanup h₃ hmerged) fun _ s₄ h₄ hcleared => goes_pure h₄
      ⟨hmerged, hcleared⟩

/-- **A cleanup can be cut short anywhere.** -/
theorem keeps_cleanup (h : Kept site allocation.id start s)
    (hcreated : allocation.vmCreated = s.created.contains allocation.id) :
    Proceeds G site allocation.id start (cleanup site allocation).run (fun _ _ => True) s := by
  have hrunner : ∀ s, Kept site allocation.id start s →
      Proceeds G site allocation.id start (perform (.deleteRunner allocation.id))
        (fun _ _ => True) s :=
    fun s h => keeps_call (fun _ => rfl) fun a => ⟨h, h, fun _ _ => trivial⟩
  unfold cleanup
  split
  · exact hrunner s h
  · refine .bind (Q := fun _ s' => s' = s) (keeps_call (fun _ => rfl) fun a => ⟨h, rfl⟩)
      fun isClaimed s₁ hs => ?_
    subst hs
    split
    · exact hrunner _ h
    · refine .bind (keeps_cleanupGuest h hcreated) fun guest s₂ hguest => ?_
      refine .bind (Q := fun _ s' => s' = s₂)
        (keeps_call (fun _ => rfl) fun a => ⟨hguest.1, rfl⟩) fun runner s₃ hs => ?_
      subst hs
      exact keeps_finishCleanup hguest.1 hguest.2

/-! ### Destruction by manifest -/

theorem keeps_findIn (hs : I s) (name : String) (ids : List AllocationId) :
    (service site).Keeps G I (findIn name ids).run (fun r s' => s' = s ∧
      ∀ found, r = .ok found → ∃ m, s.ownership found = some m ∧ m.domainName = name) s := by
  induction ids with
  | nil => exact ⟨rfl, fun _ h => by cases h⟩
  | cons id ids ih =>
    unfold findIn
    refine .bind (Q := fun r s' => s' = s ∧ ∀ o, r = .ok o → o = s.ownership id)
      (keeps_call (fun _ => rfl) fun a => ⟨hs, rfl, fun o ho => (reported_eq_ok ho).2.symm⟩)
      fun r s' hr => ?_
    obtain ⟨rfl, hr⟩ := hr
    match r, hr with
    | .error _, _ | .ok none, _ => exact ih
    | .ok (some m), hr =>
      dsimp only
      split
      · rename_i hname
        refine ⟨rfl, fun _ h => ?_⟩
        cases h
        exact ⟨m, (hr _ rfl).symm, hname⟩
      · exact ih

theorem keeps_findByDomain (hs : I s) (name : String) :
    (service site).Keeps G I (findByDomain name).run (fun r s' => s' = s ∧
      ∀ found, r = .ok found → ∃ m, s.ownership found = some m ∧ m.domainName = name) s := by
  unfold findByDomain
  refine .tryBind (P := fun _ s' => s' = s) ?_ (fun ids s' hs' => ?_)
    fun e s' hs' => ⟨hs', fun _ h => by cases h⟩
  · refine .perform fun a s' r _ hexec => ?_
    simp only [service, guestExec] at hexec
    split at hexec
    · cases hexec
      exact ⟨hs, rfl⟩
    · cases hexec
  · subst hs'
    refine .bind (keeps_findIn hs name _) fun r s' hr => ?_
    obtain ⟨rfl, hr⟩ := hr
    cases r with
    | ok id => exact ⟨rfl, hr⟩
    | error e =>
      dsimp only
      split <;> exact ⟨rfl, fun _ h => by cases h⟩

theorem keeps_loadOwned (hs : I s) (id : AllocationId) :
    (service site).Keeps G I (loadOwned id).run (fun r s' => s' = s ∧
      ∀ m, r = .ok m → s.ownership id = some m) s := by
  unfold loadOwned
  refine .tryBind (P := fun r s' => s' = s ∧ ∀ o, r = .ok o → o = s.ownership id)
    (keeps_call (fun _ => rfl) fun a => ⟨hs, rfl, fun o ho => (reported_eq_ok ho).2.symm⟩)
    (fun o s' ho => ?_) fun e s' he => ⟨he.1, fun _ h => by cases h⟩
  obtain ⟨rfl, ho⟩ := ho
  cases o with
  | none => exact ⟨rfl, fun _ h => by cases h⟩
  | some m => exact ⟨rfl, fun _ h => by cases h; exact (ho _ rfl).symm⟩

/-- **So can a destruction by manifest**, and once it is through, nothing of the
guest is left. -/
theorem keeps_ensureReaped (h : Kept site id start s) (name : VmName)
    (registration : Option Allocation) :
    Proceeds G site id start (ensureReaped site id name registration).run
      (fun _ s' => Cleared site id s') s := by
  unfold ensureReaped
  refine goes_bind (Q := fun m s' => s' = s ∧ s.ownership id = some m)
    ((keeps_loadOwned (I := Kept site id start) h id).mono fun r s' hr =>
      ⟨hr.1 ▸ h, fun m hm => ⟨hr.1, hr.2 m hm⟩⟩) fun m s₁ h₁ hm => ?_
  obtain ⟨rfl, hown⟩ := hm
  have howns := owns_of_ownership h hown
  refine goes_bind (goes_ensure h) fun _ s₂ h₂ hs => ?_
  obtain ⟨rfl, -⟩ := hs
  refine goes_bind (goes_cleanup h howns) fun _ s₃ h₃ hcleared => ?_
  refine goes_bind (Q := fun _ s' => Cleared site id s') ?_ fun _ s₄ h₄ hcleared =>
    keeps_retire h₄ howns hcleared
  cases registration with
  | none => exact goes_pure h₃ hcleared
  | some allocation =>
    refine goes_bind (Q := fun _ s' => Cleared site id s') ?_ fun _ s₄ h₄ hcleared =>
      goes_pure h₄ hcleared
    exact .bind (Q := fun _ s' => s' = s₃) (keeps_call (fun _ => rfl) fun a => ⟨h₃, rfl⟩)
      fun r s₄ hs => hs ▸ ⟨h₃, fun _ _ => hcleared⟩

/-! ### Booting -/

theorem ownership_removeCheckpoint : (removeCheckpoint a s id).1.ownership id = s.ownership id := by
  unfold removeCheckpoint
  split
  · rfl
  · rename_i d hd
    have hid : d.id = id := id_of_directory hd
    unfold GuestAnswer.written
    split
    · rfl
    · rw [ownership_putDirectory (d := { d with checkpoint := none }) hid]
      simp [GuestHost.ownership, hd]

theorem goes_removeCheckpoint (h : Kept site id start s) :
    Proceeds G site id start (perform (.removeCheckpoint id))
      (fun _ s' => s'.ownership id = s.ownership id) s := by
  refine keeps_call (fun _ => rfl) fun a => ?_
  exact (kept_removeCheckpoint h).goes fun _ _ => ownership_removeCheckpoint

/-- The manifest is saved, or its resources are destroyed as far as they can be. -/
theorem keeps_persistOrCleanup (h : Kept site id start s) (hm : site.Owns id m)
    (hkeys : m.hasKeys = true) (hown : (s.ownership id).isSome = true) :
    Proceeds G site id start (persistOrCleanup m id).run
      (fun _ s' => s'.ownership id = some m) s := by
  unfold persistOrCleanup
  refine .bind (Q := Goes site id start fun _ s' => s'.ownership id = some m)
    (keeps_call (fun _ => rfl) fun a => ?_) fun r s₁ hr => ?_
  · have hkept := kept_saveOwnership (a := a) h hm fun _ _ _ => hkeys
    refine ⟨hkept, hkept, fun _ hok => ?_⟩
    obtain ⟨m', hm'⟩ := Option.isSome_iff_exists.mp hown
    obtain ⟨d, hd, -⟩ := Option.bind_eq_some_iff.mp hm'
    have hid : d.id = id := id_of_directory hd
    rw [saveOwnership_ok hd hok]
    exact ownership_putDirectory (d := { d.swept .ownership with ownership := some m }) hid
  · cases r with
    | ok _ =>
      exact (goes_removeCheckpoint hr.1).mono fun r s₂ hr₂ =>
        ⟨hr₂.1, fun v hv => (hr₂.2 v hv).trans (hr.2 () rfl)⟩
    | error e =>
      refine .bind (goes_cleanup hr.1 hm) fun r s₂ hr₂ => ?_
      cases r with
      | ok _ =>
        exact .bind (goes_removeCheckpoint hr₂.1) fun _ s₃ hr₃ =>
          ⟨hr₃.1, fun _ h => by cases h⟩
      | error _ => exact ⟨hr₂.1, fun _ h => by cases h⟩

theorem keeps_intent (h : Kept site allocation.id start s)
    (hname : allocation.vmName = site.vmName allocation.id) (hostKeyAlias : String) :
    Proceeds G site allocation.id start (intent site allocation hostKeyAlias).run
      (fun m s' => s' = s ∧ site.Owns allocation.id m) s := by
  unfold intent
  refine goes_bind (Q := fun ids s' => s' = s ∧
    ids = (site.domainUuid allocation.id, site.artifact allocation.id)) ?_ fun ids s₁ h₁ hids => ?_
  · exact .bind (Q := fun ids s' => s' = s ∧
      ids = (site.domainUuid allocation.id, site.artifact allocation.id))
      (keeps_call (fun _ => rfl) fun a => ⟨h, rfl, rfl⟩)
      fun ids s₁ hids => ⟨hids.1 ▸ h, fun _ heq => by cases heq; exact hids⟩
  obtain ⟨rfl, rfl⟩ := hids
  refine goes_bind (Q := fun _ s' => s' = s₁)
    (keeps_call (fun _ => rfl) fun a => ⟨h, goes_reported h rfl⟩) fun now s₂ h₂ hs => ?_
  subst hs
  refine goes_bind (goes_ensure h) fun _ s₃ h₃ hs => ?_
  obtain ⟨rfl, hvalid⟩ := hs
  refine goes_pure h ⟨rfl, ?_⟩
  refine ⟨?_, rfl, rfl, by rw [hname], rfl, rfl, rfl, rfl, nofun, nofun⟩
  unfold checked at hvalid
  split at hvalid
  · rename_i hok
    exact hok
  · cases hvalid

/-- **A boot can be cut short anywhere**: nothing is made before its manifest is
on disk. -/
theorem keeps_bootDomain (h : Kept site allocation.id start s)
    (hname : allocation.vmName = site.vmName allocation.id) :
    Proceeds G site allocation.id start (bootDomain site allocation).run (fun _ _ => True) s := by
  have hcheck : ∀ s boundary, Kept site allocation.id start s →
      Proceeds G site allocation.id start (perform (.ensureNotCancelled boundary))
        (fun _ s' => s' = s) s :=
    fun s boundary h => keeps_call (fun _ => rfl) fun a => ⟨h, goes_reported h rfl⟩
  unfold bootDomain
  refine goes_bind (Q := fun _ _ => True)
    (keeps_call (fun _ => rfl) fun a => ⟨h, goes_reported h trivial⟩) fun hostKeyAlias s₁ h₁ _ => ?_
  refine goes_bind (Q := fun _ s' => s'.directory allocation.id = some { id := allocation.id })
    (keeps_call (fun _ => rfl) fun a => ?_) fun _ s₂ h₂ hd => ?_
  · exact (kept_createDirectory h₁).goes fun _ hok => createDirectory_ok hok
  refine goes_bind (keeps_intent h₂ hname hostKeyAlias) fun m s₃ h₃ hm => ?_
  obtain ⟨rfl, hm⟩ := hm
  refine goes_bind (Q := fun _ s' =>
      s'.directory allocation.id = some { id := allocation.id, knownHosts := true })
    (keeps_call (fun _ => rfl) fun a => ?_) fun _ s₄ h₄ hd => ?_
  · exact (kept_writeKnownHosts h₂).goes fun _ hok => writeKnownHosts_ok hd hok
  refine goes_bind (Q := fun _ s' => s'.directory allocation.id =
      some { id := allocation.id, knownHosts := true, ownership := some m })
    (keeps_call (fun _ => rfl) fun a => ?_) fun _ s₅ h₅ hd => ?_
  · have hkept := kept_saveOwnership (a := a) h₄ hm fun m' hm' => by
      simp [GuestHost.ownership, hd] at hm'
    refine ⟨hkept, hkept, fun _ hok => ?_⟩
    rw [saveOwnership_ok hd hok]
    exact directory_putDirectory_self
      (d := { id := allocation.id, knownHosts := true, ownership := some m })
  -- the manifest is on disk: from here on what is created is owned
  refine goes_bind (hcheck s₅ _ h₅) fun _ s₆ h₆ hs => ?_
  subst hs
  refine goes_bind (Q := fun m' s' => site.Owns allocation.id m' ∧ m'.hasKeys = true ∧
      (s'.ownership allocation.id).isSome = true)
    (keeps_call (fun _ => rfl) fun a => ?_) fun m' s₇ h₇ hm' => ?_
  · have hkept := kept_createResources (a := a) h₅ hm hd rfl rfl
    refine ⟨hkept, hkept, fun m' hok => ?_⟩
    obtain ⟨rfl, hvalid, hown⟩ := createResources_ok hm hd hok
    exact ⟨owns_keyed hm hvalid, rfl, by rw [hown]; rfl⟩
  obtain ⟨hm', hkeys, hown⟩ := hm'
  refine goes_bind (keeps_persistOrCleanup h₇ hm' hkeys hown) fun _ s₈ h₈ hown => ?_
  refine goes_bind (hcheck s₈ _ h₈) fun _ s₉ h₉ hs => ?_
  subst hs
  refine goes_bind (Q := fun _ s' => s'.ownership allocation.id = some m')
    (keeps_call (fun _ => rfl) fun a => ?_) fun _ s₁₀ h₁₀ hown => ?_
  · exact (kept_defineDomain h₈ hm' hown).goes fun _ _ => ownership_defineDomain.trans hown
  refine goes_bind (Q := fun _ _ => True) (keeps_call (fun _ => rfl) fun a => ?_)
    fun _ s₁₁ h₁₁ _ => ?_
  · exact (h₁₀.written (h₁₀.addCreated (by simp [hown]))).goes fun _ _ => trivial
  refine goes_bind (hcheck s₁₁ _ h₁₁) fun _ s₁₂ h₁₂ _ => ?_
  refine goes_bind (Q := fun _ _ => True)
    (keeps_call (fun _ => rfl) fun a => ⟨h₁₂, goes_reported h₁₂ trivial⟩) fun _ s₁₃ h₁₃ _ => ?_
  refine goes_bind (Q := fun _ _ => True) (keeps_call (fun _ => rfl) fun a => ?_)
    fun _ s₁₄ h₁₄ _ => goes_pure h₁₄ trivial
  exact (kept_startDomain h₁₃ hm').goes fun _ _ => trivial

/-! ## The service -/

theorem Inv.kept (h : Inv site s) (id : AllocationId) : Kept site id s s := ⟨h, .refl site id s⟩

theorem Inv.setClaimed (h : Inv site s) (claimed : List VmName) :
    Inv site { s with claimed := claimed } :=
  ((h.kept ⟨"00000000-0000-0000-0000-000000000000", by decide⟩).setClaimed claimed).inv

/-- A program of one allocation, as the service sees it. -/
theorem inv_of_goes {task : Task α}
    (h : Proceeds G site id start task.run Q s) :
    (service site).Keeps G (Inv site) task.run (fun _ s' => Inv site s') s :=
  (h.weaken fun _ hkept => hkept.inv).mono fun _ _ hgoes => hgoes.1.inv

theorem keeps_bindHot (h : Inv site s) (name : VmName) :
    (service site).Keeps G (Inv site) (bindHot site name).run (fun _ s' => s' = s) s := by
  unfold bindHot
  refine .tryBind (keeps_findByDomain h name.value) (fun id s₁ hid => ?_) fun _ _ he => he.1
  obtain ⟨rfl, -⟩ := hid
  refine .tryBind (keeps_loadOwned h id) (fun m s₂ hm => ?_) fun _ _ he => he.1
  obtain ⟨rfl, -⟩ := hm
  refine .tryBind (P := fun _ s' => s' = s₂) ?_ (fun _ s₃ hs => ?_) fun _ _ he => he
  · unfold ensure
    split <;> exact rfl
  subst hs
  exact .tryBind (P := fun _ s' => s' = s₃)
    (keeps_call (fun _ => rfl) fun a => ⟨h, rfl⟩) (fun _ _ hs => hs) fun _ _ he => he

theorem keeps_resetHot (h : Inv site s) (name : VmName) :
    (service site).Keeps G (Inv site) (resetHot site name).run (fun _ s' => Inv site s') s := by
  unfold resetHot
  refine .tryBind (keeps_bindHot h name) (fun m s₁ hs => ?_) fun _ _ he => he ▸ h
  subst hs
  refine .tryBind (P := fun _ s' => s' = s₁)
    (keeps_call (fun _ => rfl) fun a => ⟨h, rfl⟩) (fun _ s₂ hs => ?_) fun _ _ he => he ▸ h
  subst hs
  exact .bind (Q := fun _ s' => Inv site s')
    (keeps_call (fun _ => rfl) fun a => ⟨h.setClaimed _, h.setClaimed _⟩) fun _ _ hs => hs

theorem keeps_retainHot (h : Inv site s) (allocation : Allocation) (name : VmName) :
    (service site).Keeps G (Inv site) (retainHot site allocation name).run
      (fun _ s' => Inv site s') s := by
  unfold retainHot
  split
  · exact h
  · refine .bind (Q := fun _ s' => Inv site s')
      (keeps_call (fun _ => rfl) fun a => ⟨h.setClaimed _, h.setClaimed _⟩) fun _ s₁ h₁ => ?_
    refine .bind (keeps_resetHot h₁ name) fun r s₂ h₂ => ?_
    cases r with
    | ok _ => exact h₂
    | error e =>
      exact .bind (Q := fun _ s' => Inv site s')
        (keeps_call (fun _ => rfl) fun a => ⟨h₂.setClaimed _, h₂.setClaimed _⟩) fun _ _ hs => hs

theorem keeps_evictHot (h : Inv site s) (name : VmName) :
    (service site).Keeps G (Inv site) (evictHot site name).run (fun _ s' => Inv site s') s := by
  unfold evictHot
  refine .tryBind (P := fun _ s' => Inv site s') ?_ (fun _ s₁ h₁ => ?_) fun _ _ he => he
  · exact .bind (Q := fun _ s' => Inv site s')
      (keeps_call (fun _ => rfl) fun a => ⟨h.setClaimed _, h.setClaimed _⟩) fun _ _ hs => hs
  refine .tryBind (keeps_findByDomain h₁ name.value) (fun id s₂ hid => ?_)
    fun _ _ he => he.1 ▸ h₁
  obtain ⟨rfl, -⟩ := hid
  exact inv_of_goes (keeps_ensureReaped (h₁.kept id) name none)

theorem keeps_deleteVm (h : Inv site s) (reserved : List String) (authorization : ReapAuthorization)
    (name : VmName) (registration : Option Allocation) :
    (service site).Keeps G (Inv site) (deleteVm site reserved authorization name registration).run
      (fun _ s' => Inv site s') s := by
  have hreap : ∀ id s, Inv site s → (service site).Keeps G (Inv site)
      (ensureReaped site id name registration).run (fun _ s' => Inv site s') s :=
    fun id s h => inv_of_goes (keeps_ensureReaped (h.kept id) name registration)
  unfold deleteVm
  split
  · exact h
  refine .tryBind (P := fun _ s' => Inv site s') ?_ (fun id s₁ h₁ => hreap id s₁ h₁)
    fun _ _ he => he
  cases authorization with
  | record id => exact h
  | vmPrefix => exact (keeps_findByDomain h name.value).mono fun _ _ hr => hr.1 ▸ h
  | staging _ => exact h
  | image _ => exact h

theorem keeps_run (h : Inv site s) (hname : allocation.vmName = site.vmName allocation.id) :
    (service site).Keeps G (Inv site) (run site allocation).run (fun _ s' => Inv site s') s := by
  have hread : ∀ (op : GuestOp) s, Inv site s →
      (∀ a, ∃ r, guestExec site op a s = some (s, r)) →
      (service site).Keeps G (Inv site) (perform op) (fun _ s' => Inv site s') s := by
    intro op s h hop
    refine .perform fun a s' r _ hexec => ?_
    obtain ⟨r', hr'⟩ := hop a
    have heq : (s, r') = (s', r) := Option.some.inj (hr'.symm.trans hexec)
    cases heq
    exact ⟨h, h⟩
  have hprepare : (service site).Keeps G (Inv site) (prepare site allocation).run
      (fun _ s' => Inv site s') s := by
    unfold prepare
    split
    · exact (keeps_bindHot h _).mono fun _ _ hs => hs ▸ h
    · refine .tryBind (hread _ s h fun a => ⟨_, rfl⟩) (fun _ s₁ h₁ => ?_) fun _ _ he => he
      refine .tryBind (inv_of_goes (keeps_bootDomain (h₁.kept allocation.id) hname))
        (fun m s₂ h₂ => ?_) fun _ _ he => he
      exact .tryBind (hread _ s₂ h₂ fun a => ⟨_, rfl⟩) (fun _ _ hs => hs) fun _ _ he => he
  unfold run
  refine .tryBind hprepare (fun m s₁ h₁ => ?_) fun _ _ he => he
  refine .tryBind (hread _ s₁ h₁ fun a => ⟨_, rfl⟩) (fun _ s₂ h₂ => ?_) fun _ _ he => he
  exact hread _ s₂ h₂ fun a => ⟨_, rfl⟩

theorem Installed.inv (h : Installed site s) : Inv site s := by
  have hdirectory : ∀ id, s.directory id = none := fun id => by
    simp [GuestHost.directory, h.directories, Table.get]
  refine ⟨fun id => ⟨fun d hd => ?_, fun hid => ?_, fun domain hdomain huuid => ?_,
    fun hvolume => ?_⟩,
    fun domain hdomain => .inl (h.domains domain hdomain)⟩
  · rw [hdirectory] at hd
    cases hd
  · rw [h.created] at hid
    cases hid
  · exact absurd huuid (h.domains domain hdomain id).1
  · exact absurd hvolume (not_or.mpr (h.volumes id))

/-- **The worker keeps its host in order**, whatever fails and wherever the
process stops. -/
theorem recoverable (site : Site) :
    Service.Recoverable (service site) (requests site) (Installed site) (Inv site) where
  init s hs := hs.inv
  start kind s h hstart := by
    have hanswered : ∀ {α : Type} (task : Task α),
        (service site).Keeps (requests site) (Inv site) task.run (fun _ s' => Inv site s') s →
        (service site).Keeps (requests site) (Inv site) (answered task)
          (fun _ s' => Inv site s') s :=
      fun task h => h.bind fun _ _ hs => hs
    cases kind with
    | run allocation =>
      obtain ⟨hname, -⟩ := Bool.and_eq_true_iff.mp hstart
      exact hanswered _ (keeps_run h (of_decide_eq_true hname))
    | cleanup allocation =>
      obtain ⟨-, hcreated⟩ := Bool.and_eq_true_iff.mp hstart
      exact hanswered _ (inv_of_goes (keeps_cleanup (h.kept allocation.id)
        (of_decide_eq_true hcreated)))
    | deleteVm reserved authorization name registration =>
      exact hanswered _ (keeps_deleteVm h reserved authorization name registration)
    | retainHot allocation name => exact hanswered _ (keeps_retainHot h allocation name)
    | resetHot name => exact hanswered _ (keeps_resetHot h name)
    | evictHot name => exact hanswered _ (keeps_evictHot h name)
  crash s h _ := h.setClaimed []
  recovery s h _ := h.setClaimed []

end Guest

end FlanForge
