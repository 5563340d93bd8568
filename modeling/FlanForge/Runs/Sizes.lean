import FlanForge.Runs.Jobs

/-!
# The sizes of reused machines

A request is resolved to a size, and the allocation that reuses a pool
machine is charged with that size; the machine keeps the one it was built
with, and the claim compares neither. They agree as long as every request
of a profile is resolved to one size. A workflow that asks for another size
than the run before it is given a machine of the wrong size, and the fold
charges the size it asked for.
-/

namespace FlanForge

/-- Fits within the other size in every dimension. -/
def GuestSize.isWithin (size other : GuestSize) : Bool :=
  size.cpuCount ≤ other.cpuCount && size.memoryMb ≤ other.memoryMb &&
    size.storageMb ≤ other.storageMb

theorem GuestSize.isWithin_refl (size : GuestSize) : size.isWithin size = true := by
  simp [isWithin]

/-- The pool machine, among those that ever had the name under the profile,
the allocation works on. -/
def reusedMachine (s : State) (a : Allocation) : Option Pooled :=
  a.origin.hotVmName.bind fun vmName =>
    s.history.pooled.find? fun p => p.vmName = vmName && p.profile = a.request.profile

/-- The size of the guest the allocation works on: its own one's, or that of the
machine it reuses. -/
def machineSize (s : State) (a : Allocation) : Option GuestSize :=
  if a.origin.hotVmName.isSome then (reusedMachine s a).map (·.size) else a.size

/-- What the guests of the allocations really take in one dimension. -/
def machineSum (f : GuestSize → ℕ) (s : State) (l : List Allocation) : ℕ :=
  ((l.filterMap (machineSize s)).map f).sum

/-- Every request of a profile is resolved to one size. -/
def oneSize (sizes : ProfileName → GuestSize) : ManagerRegime where
  call _ _ op _ :=
    match op with
    | .commit a _ _ => a.size = some (sizes a.request.profile)
    | _ => true
  start _ _ := true
  env _ _ := true
  reboot _ := true

variable {w : Worlds} {t fresh : TaskId} {s s' : State} {op : Op} {spawned : Option Kind}
variable {sizes : ProfileName → GuestSize} {a x : Allocation} {guest : HotGuest}

/-- What a hand-over records of the guest. -/
theorem size_of_retainedRecord {lane : HotLane} {now : UInt64}
    (h : retainedRecord x lane now = some guest) :
    x.size = some guest.size ∧ guest.profile = x.request.profile := by
  unfold retainedRecord at h
  split at h
  · rename_i size _ hsize _
    cases h
    exact ⟨hsize, rfl⟩
  · cases h

/-- Allocations and machines of a profile all have its size. -/
structure SizesKept (sizes : ProfileName → GuestSize) (s : State) : Prop where
  admitted : ∀ a ∈ s.history.admitted, a.size = some (sizes a.request.profile)
  pooled : ∀ p ∈ s.history.pooled, p.size = sizes p.profile

/-- The guest that is handed over is its allocation's, which was admitted. -/
theorem SizesKept.handsOver {id : AllocationId} (hJ : SizesKept sizes s)
    (h : HandsOver t s id guest) : guest.size = sizes guest.profile := by
  obtain ⟨x, lane, now, -, -, -, hrecorded, hcreated, -, -, -, hguest⟩ := h
  obtain ⟨b, hb, hsame⟩ := hrecorded.admitted hcreated
  obtain ⟨hsize, hprofile⟩ := size_of_retainedRecord hguest
  have hadmitted := hJ.admitted b hb
  rw [← hsame.size, hsize, ← hsame.request, ← hprofile] at hadmitted
  exact Option.some.inj hadmitted

theorem sizesKept_of_run (hw : Run (oneSize sizes) w) : SizesKept sizes w.shared := by
  refine Run.invariant (J := SizesKept sizes) ?_ ?_ (fun _ _ h => ⟨h.admitted, h.pooled⟩) ?_
    (fun _ _ h _ => ⟨h.admitted, h.pooled⟩) hw
  · intro s hs
    constructor <;> simp [hs.history, History.initial]
  · intro w t fresh op ans s' spawned _ hJ hspec _ hcall he
    refine ⟨fun a ha => ?_, fun p hp => ?_⟩
    · rcases he.admitted_cases with ⟨h, -⟩ | ⟨b, profile, seen, rfl, h, -⟩
      · exact hJ.admitted a (h ▸ ha)
      · rw [h, List.mem_cons] at ha
        rcases ha with rfl | ha
        · exact of_decide_eq_true hcall
        · exact hJ.admitted a ha
    · rcases he.pooled_cases with h | ⟨id, guest, rfl, h⟩
      · exact hJ.pooled p (h ▸ hp)
      · rw [h, List.mem_cons] at hp
        rcases hp with rfl | hp
        · exact hJ.handsOver hspec
        · exact hJ.pooled p hp
  · intro s e s' hJ _ henv
    rcases henv.config with ⟨-, h⟩ | ⟨config, -, -, -, h⟩
    · exact ⟨h ▸ hJ.admitted, h ▸ hJ.pooled⟩
    · exact ⟨h ▸ hJ.admitted, h ▸ hJ.pooled⟩

/-! ## What is charged -/

theorem chargedSize_of_size {config : Config} {size : GuestSize} (h : a.size = some size) :
    chargedSize config a = some size := by
  simp [chargedSize, h]

/-- A machine an active allocation reuses is not charged again as a pool
machine. -/
theorem not_mem_hotCharged {active : List Allocation} {hot : List HotGuest} {names : List String}
    {vmName : VmName} (ha : a ∈ active) (horigin : a.origin.hotVmName = some vmName) :
    ∀ guest ∈ hotCharged hot active names, guest.vmName ≠ vmName := by
  rintro guest hguest rfl
  simp only [hotCharged, List.mem_filter, Bool.and_eq_true, Bool.not_eq_true',
    List.contains_eq_mem, decide_eq_false_iff_not] at hguest
  refine hguest.2.2 (List.mem_flatMap.mpr ⟨a, ha, ?_⟩)
  simp [heldNames, horigin]

theorem SizesKept.machineSize_eq (hJ : SizesKept sizes s) (ha : Recorded s.history a)
    (hsize : a.size = some (sizes a.request.profile)) : machineSize s a = a.size := by
  unfold machineSize
  split
  · rename_i hreuse
    obtain ⟨vmName, hv⟩ := Option.isSome_iff_exists.mp hreuse
    obtain ⟨p, hp, hname, hprofile, -⟩ := ha.reuse vmName hv
    obtain ⟨q, hq⟩ := Option.isSome_iff_exists.mp (show (reusedMachine s a).isSome = true by
      simp only [reusedMachine, hv, Option.bind_some, List.find?_isSome]
      exact ⟨p, hp, by simp [hname, hprofile]⟩)
    have hfound := hq
    simp only [reusedMachine, hv, Option.bind_some] at hfound
    have hsame := List.find?_some hfound
    simp only [Bool.and_eq_true, decide_eq_true_eq] at hsame
    rw [hq, hsize, Option.map_some, hJ.pooled q (List.mem_of_find?_eq_some hfound), hsame.2]
  · rfl

/-- **A reused machine has the size that was resolved and charged**, as long as
every request of a profile is resolved to one size: the machine is no smaller
than what the request asked for, the fold charges the machine's own size and
charges it once, and in a process under one configuration the guests of the
active allocations are within the budget by their real sizes. -/
theorem reused_machine_fits (hw : Run (oneSize sizes) w) :
    (∀ a ∈ w.shared.history.admitted, ∀ vmName, a.origin.hotVmName = some vmName →
      (∃ p ∈ w.shared.history.pooled, p.vmName = vmName ∧ p.profile = a.request.profile) ∧
      ∀ p ∈ w.shared.history.pooled, p.vmName = vmName → p.profile = a.request.profile →
        (∃ size, a.size = some size ∧ size.isWithin p.size = true) ∧
        ∀ config, chargedSize config a = some p.size) ∧
    (∀ a ∈ w.shared.active, ∀ vmName, a.origin.hotVmName = some vmName → ∀ hot names,
      ∀ guest ∈ hotCharged hot w.shared.active names, guest.vmName ≠ vmName) ∧
    (Run fixedConfig w →
      let runtime := w.shared.config.runtime
      (∀ cpuCount memoryMb, runtime.hostCpuCount = some cpuCount →
        runtime.hostMemoryMb = some memoryMb →
        machineSum (·.cpuCount.toNat) w.shared w.shared.active ≤ cpuCount.toNat ∧
          machineSum (·.memoryMb.toNat) w.shared w.shared.active ≤ memoryMb.toNat) ∧
      ∀ storageMb, runtime.hostStorageMb = some storageMb →
        machineSum (·.storageMb.toNat) w.shared w.shared.active + runtime.storageReserve.toNat ≤
          storageMb.toNat) := by
  have hkept := sizesKept_of_run hw
  refine ⟨fun a ha vmName hv => ⟨?_, fun p hp _ hprofile => ?_⟩,
    fun a ha vmName hv hot names => not_mem_hotCharged ha hv, fun hfixed => ?_⟩
  · obtain ⟨p, hp, hname, hprofile, -⟩ := (recorded_of_admitted hw a ha).reuse vmName hv
    exact ⟨p, hp, hname, hprofile⟩
  · have hsize : a.size = some p.size := by
      rw [hkept.admitted a ha, hkept.pooled p hp, hprofile]
    exact ⟨⟨p.size, hsize, p.size.isWithin_refl⟩, fun config => chargedSize_of_size hsize⟩
  · have hreal : ∀ f : GuestSize → ℕ,
        machineSum f w.shared w.shared.active = recordedSum f w.shared.active := by
      intro f
      unfold machineSum recordedSum
      congr 2
      refine List.filterMap_congr fun x hx => ?_
      obtain ⟨b, hb, hsame⟩ := liveAdmitted_of_run (fun _ => rfl) hfixed x hx
      refine hkept.machineSize_eq (hw.inv.held x (State.mem_active.mp hx).1) ?_
      rw [hsame.size, hkept.admitted b hb, hsame.request]
    have hbudget := (limited_of_run hfixed).budget
    simp only [hreal]
    exact ⟨hbudget.computing, hbudget.storage⟩

/-- A live allocation whose size stands in the relation to that of the machine it
reuses. -/
def reusesSized (holds : GuestSize → GuestSize → Bool) (w : Worlds) : Bool :=
  w.shared.active.any fun a => a ∈ w.shared.history.admitted &&
    a.size.any fun size => w.shared.history.pooled.any fun p =>
      a.origin.hotVmName = some p.vmName && p.profile = a.request.profile && holds size p.size

theorem reusesSized_iff {holds : GuestSize → GuestSize → Bool} (h : reusesSized holds w = true) :
    ∃ a ∈ w.shared.active, a ∈ w.shared.history.admitted ∧ ∃ size, a.size = some size ∧
      ∃ p ∈ w.shared.history.pooled, a.origin.hotVmName = some p.vmName ∧
        p.profile = a.request.profile ∧ holds size p.size = true := by
  obtain ⟨a, ha, hsame⟩ := List.any_eq_true.mp h
  simp only [Bool.and_eq_true, decide_eq_true_eq] at hsame
  obtain ⟨size, hsize, hp⟩ := Option.any_eq_true _ _ |>.mp hsame.2
  obtain ⟨p, hp, hsame'⟩ := List.any_eq_true.mp hp
  simp only [Bool.and_eq_true, decide_eq_true_eq] at hsame'
  exact ⟨a, ha, hsame.1, size, hsize, p, hp, hsame'.1.1, hsame'.1.2, hsame'.2⟩

/-- Two runs that ask for the profile's own size. -/
theorem reused_machine_fits_second : ∃ w, ∃ a ∈ w.shared.history.admitted,
    ∃ p ∈ w.shared.history.pooled, Run (oneSize fun _ => ⟨2, 4096, 16384⟩) w ∧
      a.origin.hotVmName = some p.vmName ∧ ∃ size, a.size = some size ∧
        size.isWithin p.size = true := by
  obtain ⟨w, hw, hcheck⟩ : ∃ w, Run (oneSize fun _ => ⟨2, 4096, 16384⟩) w ∧
      reusesSized (fun _ _ => true) w = true :=
    exists_run sampleState_started (firstJob ++ firstRelease ++ secondClaim) (by decide +kernel)
  obtain ⟨a, -, hadmitted, -, -, p, hp, horigin, hprofile, -⟩ := reusesSized_iff hcheck
  exact ⟨w, a, hadmitted, p, hp, hw, horigin,
    (((reused_machine_fits hw).1 a hadmitted p.vmName horigin).2 p hp rfl hprofile).1⟩

/-! ## Two runs of one profile that ask for different sizes -/

/-- Run 7 asks for one processor and leaves its machine in the pool. -/
def smallFirstJob : List Event :=
  .start (.create { sampleBody 7 (.flag true) with cpuCount := some 1 } (sampleClaims "7")) ::
    turns 0 18 { id := some firstId } ++ turns 1 17 { count := 1 } ++ firstRelease

/-- Run 8 asks for one processor and is given the machine of run 7. -/
def smallSecondClaim : List Event :=
  .start (.create { sampleBody 8 (.flag true) with cpuCount := some 1 } (sampleClaims "8")) ::
    turns 2 20 { id := some secondId }

/-- **The claim ignores the size.** A run that asked for two processors is given
a machine with one; and one that asked for one is given a machine with two,
of which the fold charges one and no pool record charges the other. -/
theorem claim_ignores_size :
    (∃ w, Run .free w ∧ ∃ a ∈ w.shared.active, ∃ p ∈ w.shared.history.pooled,
      a.origin.hotVmName = some p.vmName ∧ p.profile = a.request.profile ∧
        ∃ size, a.size = some size ∧ p.size.cpuCount < size.cpuCount) ∧
    ∃ w, Run .free w ∧ ∃ a ∈ w.shared.active, ∃ p ∈ w.shared.history.pooled,
      a.origin.hotVmName = some p.vmName ∧ p.profile = a.request.profile ∧
        (∀ config, ∃ size, chargedSize config a = some size ∧ size.cpuCount < p.size.cpuCount) ∧
        ∀ hot names, ∀ guest ∈ hotCharged hot w.shared.active names, guest.vmName ≠ p.vmName := by
  constructor
  · obtain ⟨w, hw, hcheck⟩ : ∃ w, Run .free w ∧
        reusesSized (fun size machine => machine.cpuCount < size.cpuCount) w = true :=
      exists_run sampleState_started (smallFirstJob ++ secondClaim) (by decide +kernel)
    obtain ⟨a, ha, -, size, hsize, p, hp, horigin, hprofile, hless⟩ := reusesSized_iff hcheck
    exact ⟨w, hw, a, ha, p, hp, horigin, hprofile, size, hsize, of_decide_eq_true hless⟩
  · obtain ⟨w, hw, hcheck⟩ : ∃ w, Run .free w ∧
        reusesSized (fun size machine => size.cpuCount < machine.cpuCount) w = true :=
      exists_run sampleState_started (firstJob ++ firstRelease ++ smallSecondClaim)
        (by decide +kernel)
    obtain ⟨a, ha, -, size, hsize, p, hp, horigin, hprofile, hless⟩ := reusesSized_iff hcheck
    exact ⟨w, hw, a, ha, p, hp, horigin, hprofile,
      fun config => ⟨size, chargedSize_of_size hsize, of_decide_eq_true hless⟩,
      fun hot names => not_mem_hotCharged ha horigin⟩

end FlanForge
