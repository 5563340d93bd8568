import FlanForge.Libvirt.Restart

/-!
# Evicting a machine of the pool

An eviction finds the machine by its name: the first manifest, in the order of
the directory, that names the domain. It destroys by what that manifest says,
and a domain that is not there is no failure. With one manifest of the name the
machine is gone when the eviction succeeds. A second one is left when the same
run is requested again while the machine is in the pool: its domain is refused,
and its cleanup takes the pool's claim on the name for its own and leaves the
volumes and the manifest. If the scan comes to that one first, the eviction
succeeds and the machine runs on.
-/

namespace FlanForge

namespace Guest

/-- At most one allocation has a manifest that names this domain. -/
def IsSole (s : GuestHost) (name : String) : Prop :=
  ∀ id id' m m', s.ownership id = some m → s.ownership id' = some m' →
    m.domainName = name → m'.domainName = name → id = id'

variable {site : Site} {id : AllocationId} {start s : GuestHost} {name : VmName}

/-- **A manifest that still names the domain is the evicted one's.** -/
theorem eq_of_evicted (hkept : Kept site id start s) (hsole : IsSole start name.value)
    {m : OwnershipManifest} (hfound : start.ownership id = some m) (hm : m.domainName = name.value)
    {other : AllocationId} (hname : (site.vmName other).value = name.value)
    (hother : (s.ownership other).isSome = true) : other = id := by
  by_contra hne
  obtain ⟨m', hm'⟩ := Option.isSome_iff_exists.mp hother
  have howned : start.ownership other = some m' := by
    rw [← hm']
    simp only [GuestHost.ownership, hkept.spares.directories other hne]
  have howns : site.Owns other m' := by
    obtain ⟨d, hd, hdown⟩ := Option.bind_eq_some_iff.mp hm'
    exact ((hkept.inv.fits other).inOrder d hd).ownership m' hdown
  exact hne (hsole other id m' m howned hfound (howns.domainName.trans hname) hm)

/-- Nothing of the machine is left: not its domain, and no volume of an
allocation of that name. -/
structure IsEvicted (site : Site) (name : VmName) (s : GuestHost) : Prop where
  domains : ∀ domain ∈ s.domains, domain.name ≠ name.value
  volumes : ∀ id, site.vmName id = name → site.overlayName id ∉ s.volumes ∧
    site.seedName id ∉ s.volumes

theorem isEvicted_of_cleared (hkept : Kept site id start s) (hcleared : Cleared site id s)
    (hsole : IsSole start name.value) {m : OwnershipManifest} (hfound : start.ownership id = some m)
    (hm : m.domainName = name.value) (howns : site.Owns id m) : IsEvicted site name s := by
  have hid : (site.vmName id).value = name.value := howns.domainName.symm.trans hm
  refine ⟨fun domain hdomain hname => ?_, fun other hother => ?_⟩
  · rcases hkept.inv.domains domain hdomain with hforeign | ⟨other, hother⟩
    · exact (hforeign id).2 (hname.trans hid.symm)
    · obtain ⟨m', hm', -⟩ := (hkept.inv.fits other).domains domain hdomain hother.uuid
      obtain rfl := eq_of_evicted hkept hsole hfound hm (hother.name.symm.trans hname)
        (by simp [GuestHost.ownership, hm'])
      exact hcleared.domains domain hdomain hother.uuid
  · have howned : ∀ {volume : String}, volume ∈ s.volumes →
        (volume = site.overlayName other ∨ volume = site.seedName other) → other = id := by
      intro volume hmem hvolume
      refine eq_of_evicted hkept hsole hfound hm
        (by rw [hother]) ((hkept.inv.fits other).volumes ?_)
      rcases hvolume with rfl | rfl
      · exact .inl hmem
      · exact .inr hmem
    refine ⟨fun hmem => ?_, fun hmem => ?_⟩
    · exact hcleared.overlay (howned hmem (.inl rfl) ▸ hmem)
    · exact hcleared.seed (howned hmem (.inr rfl) ▸ hmem)

/-- With one manifest of the name, an eviction that succeeds is one of the
machine. -/
theorem evictHot_spec {G : Conditions GuestHost GuestOp GuestAnswer GuestKind} (h : Inv site s)
    (hsole : IsSole s name.value) :
    (service site).Keeps G (Inv site) (evictHot site name).run
      (fun r s' => r = .ok () → IsEvicted site name s') s := by
  unfold evictHot
  refine .tryBind (P := fun _ s' => Inv site s' ∧ s'.directories = s.directories) ?_
    (fun _ s₁ h₁ => ?_) fun _ _ _ => nofun
  · exact .bind (Q := fun _ s' => Inv site s' ∧ s'.directories = s.directories)
      (keeps_call (fun _ => rfl) fun a => ⟨h.setClaimed _, h.setClaimed _, rfl⟩) fun _ _ hs => hs
  obtain ⟨h₁, hdirectories⟩ := h₁
  have hsole₁ : IsSole s₁ name.value := by
    simpa only [IsSole, GuestHost.ownership, GuestHost.directory, hdirectories] using hsole
  refine .tryBind (keeps_findByDomain h₁ name.value) (fun id s₂ hid => ?_)
    fun _ _ _ => nofun
  obtain ⟨rfl, hfound⟩ := hid
  obtain ⟨m, hm, hname⟩ := hfound id rfl
  have hkept := h₁.kept id
  refine ((keeps_ensureReaped hkept name none).weaken fun _ hkept => hkept.inv).mono
    fun r s' hgoes hok => ?_
  exact isEvicted_of_cleared hgoes.1 (hgoes.2 () hok) hsole₁ hm hname (owns_of_ownership hkept hm)

/-- **An eviction that succeeds leaves nothing of the machine**, if no other
allocation has a manifest of the name. -/
theorem evictHot_evicts {site : Site} {w : Process GuestHost GuestOp GuestOp.Res}
    (hw : Service.Reachable (service site) (requests site) (Installed site) w) {name : VmName}
    (hsole : IsSole w.state name.value) {s' : GuestHost}
    (hends : (service site).Ends .free (evictHot site name).run w.state (.ok ()) s') :
    (∀ domain ∈ s'.domains, domain.name ≠ name.value) ∧ ∀ id, site.vmName id = name →
      site.overlayName id ∉ s'.volumes ∧ site.seedName id ∉ s'.volumes := by
  have hevicted := (evictHot_spec ((recoverable site).inv hw) hsole).ends hends rfl
  exact ⟨hevicted.domains, hevicted.volumes⟩

/-! ## Two manifests of one name -/

/-- The first allocation runs its job and leaves its machine to the pool. -/
def pooled : List (Occurrence GuestAnswer GuestKind) :=
  serve (.run (recorded false)) (fine 20) ++
    serve (.retainHot (recorded true) sampleMachine)
      (fine 1 ++ ({ order := [firstId] } : GuestAnswer) :: fine 5) ++
    serve (.cleanup (recorded true)) (fine 2)

/-- The same run is requested again: the domain is refused, and the cleanup
spares what it takes for the pool's machine. -/
def requestedAgain : List (Occurrence GuestAnswer GuestKind) :=
  let again := { recorded false with id := secondId }
  pooled ++ serve (.run again) (fine 13) ++ serve (.cleanup again) (fine 2)

/-- The eviction, with this order of the directory. -/
def evicting (order : List AllocationId) : List GuestAnswer :=
  fine 1 ++ ({ order := order } : GuestAnswer) :: fine 10

/-- The answers make the eviction succeed, and leave what the check says. -/
def evicts (order : List AllocationId) (check : GuestHost → GuestHost → Bool)
    (w : Process GuestHost GuestOp GuestOp.Res) : Bool :=
  ((service sampleSite).perform .free (evictHot sampleSite sampleMachine).run w.state
    (evicting order)).any fun r => (match r.1 with
      | .ok _ => true
      | .error _ => false) && check w.state r.2

theorem exists_evicted (check : GuestHost → GuestHost → Bool)
    (events : List (Occurrence GuestAnswer GuestKind)) (order : List AllocationId)
    (h : ((service sampleSite).replay (requests sampleSite) ⟨emptyGuestHost, .ret true⟩ events).any
      (evicts order check) = true) :
    ∃ w s', Service.Reachable (service sampleSite) (requests sampleSite) (Installed sampleSite) w ∧
      (service sampleSite).Ends .free (evictHot sampleSite sampleMachine).run w.state (.ok ()) s' ∧
      check w.state s' = true := by
  obtain ⟨w, hw, hevicts⟩ := Service.exists_reachable emptyGuestHost_installed events h
  obtain ⟨⟨r, s'⟩, hperform, hr⟩ := Option.any_eq_true _ _ |>.mp hevicts
  obtain ⟨hok, hcheck⟩ := Bool.and_eq_true_iff.mp hr
  cases r with
  | error e => cases hok
  | ok _ => exact ⟨w, s', hw, Service.ends_of_perform hperform, hcheck⟩

/-- The machine runs on its own volumes. -/
def isRunning (s : GuestHost) : Bool :=
  s.domains.any (fun domain => domain.name = sampleMachine.value && domain.isActive) &&
    (s.volumes.contains (sampleSite.overlayName firstId) &&
      s.volumes.contains (sampleSite.seedName firstId))

/-- An eviction of the second manifest succeeds, and the machine runs on. -/
theorem evictHot_misses :
    ∃ w s', Service.Reachable (service sampleSite) (requests sampleSite) (Installed sampleSite) w ∧
      (service sampleSite).Ends .free (evictHot sampleSite sampleMachine).run w.state (.ok ()) s' ∧
      (∃ domain ∈ s'.domains, domain.name = sampleMachine.value ∧ domain.isActive = true) ∧
      sampleSite.overlayName firstId ∈ s'.volumes ∧ sampleSite.seedName firstId ∈ s'.volumes := by
  obtain ⟨w, s', hw, hends, hrunning⟩ :=
    exists_evicted (fun _ => isRunning) requestedAgain [secondId, firstId] (by decide +kernel)
  obtain ⟨hdomain, hvolumes⟩ := Bool.and_eq_true_iff.mp hrunning
  obtain ⟨domain, hmem, hdomain⟩ := List.any_eq_true.mp hdomain
  obtain ⟨hname, hactive⟩ := Bool.and_eq_true_iff.mp hdomain
  obtain ⟨hoverlay, hseed⟩ := Bool.and_eq_true_iff.mp hvolumes
  exact ⟨w, s', hw, hends, ⟨domain, hmem, of_decide_eq_true hname, hactive⟩,
    List.contains_iff_mem.mp hoverlay, List.contains_iff_mem.mp hseed⟩

/-- With one state directory there is one manifest. -/
theorem isSole_of_length {s : GuestHost} {name : String} (h : s.directories.length = 1) :
    IsSole s name := by
  obtain ⟨d, hd⟩ := List.length_eq_one_iff.mp h
  have hid : ∀ id m, s.ownership id = some m → id = d.id := by
    intro id m hm
    obtain ⟨d', hd', -⟩ := Option.bind_eq_some_iff.mp hm
    have hmem := Table.mem_of_get hd'
    rw [hd, List.mem_singleton] at hmem
    rw [← hmem, id_of_directory hd']
  exact fun id id' m m' hm hm' _ _ => (hid id m hm).trans (hid id' m' hm').symm

/-- A machine of the pool that ran is gone. -/
theorem evictHot_evicts_pooled :
    ∃ w s', Service.Reachable (service sampleSite) (requests sampleSite) (Installed sampleSite) w ∧
      isRunning w.state = true ∧
      (service sampleSite).Ends .free (evictHot sampleSite sampleMachine).run w.state (.ok ()) s' ∧
      ∀ domain ∈ s'.domains, domain.name ≠ sampleMachine.value := by
  obtain ⟨w, s', hw, hends, hcheck⟩ := exists_evicted
    (fun s _ => s.directories.length = 1 && isRunning s) pooled [firstId] (by decide +kernel)
  obtain ⟨hlength, hrunning⟩ := Bool.and_eq_true_iff.mp hcheck
  exact ⟨w, s', hw, hrunning, hends,
    (evictHot_evicts hw (isSole_of_length (of_decide_eq_true hlength)) hends).1⟩

end Guest

end FlanForge
