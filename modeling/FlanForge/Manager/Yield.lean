import FlanForge.Common.Words
import FlanForge.Manager.Pool

/-!
# Which machines a fold can do without

A yield frees the machines of `yieldCandidates` one by one. Freeing one
leaves the others candidates, and the fold without all of them is the same
before and after: so if the fold accepts without the candidates, it accepts
after at most as many evictions as there are candidates.
-/

namespace FlanForge

open List

variable {entries : List Entry} {config : Config} {size : GuestSize} {machines : List HostMachine}
variable {hot : List HotGuest} {name : String} {v : String} {active : List Allocation}

/-- The names of the machines that may give up their slot. -/
def yieldNames (entries : List Entry) (machines : List HostMachine) (hot : List HotGuest) :
    List String := (yieldCandidates entries machines hot).map (·.vmName.value)

/-- The fold would accept if the idle, unclaimed machines were gone. -/
def acceptsWithoutIdle (entries : List Entry) (config : Config) (size : GuestSize)
    (machines : List HostMachine) (hot : List HotGuest) : Bool :=
  let names := yieldNames entries machines hot
  (ensureCapacity entries config size (machines.filter fun machine => machine.name ∉ names)
    (hot.filter fun guest => guest.vmName.value ∉ names)).isOk

theorem mem_hotNames : v ∈ hotNames hot machines ↔
    (∃ guest ∈ hot, guest.state.isHoldingMachine = true ∧ guest.vmName.value = v) ∧
      ∃ machine ∈ machines, machine.isOwnedRunning = true ∧ machine.name = v := by
  simp [hotNames, and_assoc]

/-- The machines other than one. -/
abbrev freedMachines (name : String) (machines : List HostMachine) : List HostMachine :=
  machines.filter (·.name ≠ name)

/-- The records other than one. -/
abbrev freedHot (name : String) (hot : List HotGuest) : List HotGuest :=
  hot.filter (·.vmName.value ≠ name)

/-- A freed machine is not a pool machine any more, and the others still are. -/
theorem contains_hotNames_freed :
    (hotNames (freedHot name hot) (freedMachines name machines)).contains v =
      (decide (v ≠ name) && (hotNames hot machines).contains v) := by
  rw [Bool.eq_iff_iff, Bool.and_eq_true, contains_iff_mem, contains_iff_mem,
    decide_eq_true_eq, mem_hotNames, mem_hotNames]
  simp only [mem_filter, decide_eq_true_eq]
  constructor
  · rintro ⟨⟨g, ⟨hg, hne⟩, hholds, rfl⟩, machine, ⟨hm, -⟩, h⟩
    exact ⟨hne, ⟨g, hg, hholds, rfl⟩, machine, hm, h⟩
  · rintro ⟨hne, ⟨g, hg, hholds, rfl⟩, machine, hm, hruns, h⟩
    exact ⟨⟨g, ⟨hg, hne⟩, hholds, rfl⟩, machine, ⟨hm, by rwa [h]⟩, hruns, h⟩

/-- Freeing a machine takes one candidate away. -/
theorem yieldCandidates_freed :
    yieldCandidates entries (freedMachines name machines) (freedHot name hot) =
      freedHot name (yieldCandidates entries machines hot) := by
  simp only [yieldCandidates, filter_filter]
  refine filter_congr fun guest _ => ?_
  rw [contains_hotNames_freed]
  by_cases hname : guest.vmName.value = name <;> simp [hname]

theorem mem_yieldNames_freed :
    v ∈ yieldNames entries (freedMachines name machines) (freedHot name hot) ↔
      v ≠ name ∧ v ∈ yieldNames entries machines hot := by
  simp only [yieldNames, yieldCandidates_freed, mem_map, mem_filter, decide_eq_true_eq]
  constructor
  · rintro ⟨g, ⟨hg, hne⟩, rfl⟩
    exact ⟨hne, g, hg, rfl⟩
  · rintro ⟨hne, g, hg, rfl⟩
    exact ⟨g, ⟨hg, hne⟩, rfl⟩

/-! ## Freeing a machine the pool holds -/

namespace CommittedCapacity

/-- A charge that is at most the other, dimension by dimension. -/
structure AtMost (c c' : CommittedCapacity) : Prop where
  active : c.active ≤ c'.active
  cpuCount : c.cpuCount ≤ c'.cpuCount
  memoryMb : c.memoryMb ≤ c'.memoryMb
  storageMb : c.storageMb ≤ c'.storageMb

variable {c c' : CommittedCapacity} {l l' : List GuestSize}

theorem AtMost.refl (c : CommittedCapacity) : AtMost c c :=
  ⟨le_rfl, UInt32.le_refl _, UInt32.le_refl _, UInt64.le_refl _⟩

theorem AtMost.charge (h : AtMost c c') (size : GuestSize) :
    AtMost (c.charge size) (c'.charge size) :=
  ⟨Nat.succ_le_succ h.active, saturatingAdd32_mono h.cpuCount (UInt32.le_refl _),
    saturatingAdd32_mono h.memoryMb (UInt32.le_refl _),
    saturatingAdd64_mono h.storageMb (UInt64.le_refl _)⟩

theorem AtMost.charge_right (h : AtMost c c') (size : GuestSize) : AtMost c (c'.charge size) :=
  ⟨Nat.le_succ_of_le h.active, UInt32.le_trans h.cpuCount (le_saturatingAdd32 _ _),
    UInt32.le_trans h.memoryMb (le_saturatingAdd32 _ _),
    UInt64.le_trans h.storageMb (le_saturatingAdd64 _ _)⟩

theorem AtMost.plus {d d' : CommittedCapacity} (h : AtMost c c') (hd : AtMost d d') :
    AtMost (c.plus d) (c'.plus d') :=
  ⟨Nat.add_le_add h.active hd.active, saturatingAdd32_mono h.cpuCount hd.cpuCount,
    saturatingAdd32_mono h.memoryMb hd.memoryMb, saturatingAdd64_mono h.storageMb hd.storageMb⟩

theorem Fits.mono (h : c'.Fits config) (hle : AtMost c c') : c.Fits config :=
  ⟨fun cpuCount hc => UInt32.le_trans hle.cpuCount (h.1 cpuCount hc),
    fun memoryMb hm => UInt32.le_trans hle.memoryMb (h.2.1 memoryMb hm), fun storageMb hs =>
      UInt64.le_trans (saturatingAdd64_mono hle.storageMb (UInt64.le_refl _)) (h.2.2 storageMb hs)⟩

/-- Fewer guests are charged less. -/
theorem AtMost.foldl (hl : l.Sublist l') (h : AtMost c c') :
    AtMost (l.foldl CommittedCapacity.charge c) (l'.foldl CommittedCapacity.charge c') := by
  induction hl generalizing c c' with
  | slnil => exact h
  | cons size _ ih => exact ih (h.charge_right size)
  | cons_cons size _ ih => exact ih (h.charge size)

end CommittedCapacity

open CommittedCapacity (AtMost)

theorem unownedRunning_freed :
    unownedRunning active (freedMachines name machines)
        (hotNames (freedHot name hot) (freedMachines name machines)) =
      freedMachines name (unownedRunning active machines (hotNames hot machines)) := by
  simp only [unownedRunning, filter_filter]
  refine filter_congr fun machine _ => ?_
  rw [contains_hotNames_freed]
  by_cases hname : machine.name = name <;> simp [hname]

theorem hotCharged_freed :
    hotCharged (freedHot name hot) active
        (hotNames (freedHot name hot) (freedMachines name machines)) =
      freedHot name (hotCharged hot active (hotNames hot machines)) := by
  simp only [hotCharged, filter_filter]
  refine filter_congr fun guest _ => ?_
  rw [contains_hotNames_freed]
  by_cases hname : guest.vmName.value = name <;> simp [hname]

/-- A machine the pool holds is no orphan: where it is listed as owned and
running, it is charged to the pool. -/
theorem owned_unownedRunning_freed
    (hheld : ∃ guest ∈ hot, guest.state.isHoldingMachine = true ∧ guest.vmName.value = name) :
    (freedMachines name (unownedRunning active machines (hotNames hot machines))).filter
        (·.ownership = .owned) =
      (unownedRunning active machines (hotNames hot machines)).filter (·.ownership = .owned) := by
  rw [filter_filter]
  refine filter_congr fun machine hmachine => ?_
  simp only [unownedRunning, mem_filter, Bool.and_eq_true, Bool.not_eq_true',
    decide_eq_true_eq] at hmachine
  obtain ⟨hmem, ⟨hruns, -⟩, hfree⟩ := hmachine
  by_cases howned : machine.ownership = .owned
  · have hname : machine.name ≠ name := by
      rintro rfl
      rw [← Bool.not_eq_true, contains_iff_mem, mem_hotNames] at hfree
      exact hfree ⟨hheld, machine, hmem, by simp [HostMachine.isOwnedRunning, hruns, howned], rfl⟩
    simp [howned, hname]
  · simp [howned]

/-- **Freeing a machine the pool holds never makes the fold refuse.** -/
theorem ensureCapacity_freed
    (hheld : ∃ guest ∈ hot, guest.state.isHoldingMachine = true ∧ guest.vmName.value = name)
    (hok : ensureCapacity entries config size machines hot = .ok ()) :
    ensureCapacity entries config size (freedMachines name machines) (freedHot name hot) =
      .ok () := by
  have hforeign : foreignRunning (activeAllocations entries) (freedMachines name machines)
        (hotNames (freedHot name hot) (freedMachines name machines)) ≤
      foreignRunning (activeAllocations entries) machines (hotNames hot machines) := by
    rw [foreignRunning, unownedRunning_freed]
    exact length_filter_le _ _
  have horphan : orphanCapacity entries (activeAllocations entries) (freedMachines name machines)
        config (hotNames (freedHot name hot) (freedMachines name machines)) =
      orphanCapacity entries (activeAllocations entries) machines config
        (hotNames hot machines) := by
    simp only [orphanCapacity]
    rw [unownedRunning_freed, owned_unownedRunning_freed hheld]
  have hpooled : (hotCapacity (freedHot name hot) (activeAllocations entries)
        (hotNames (freedHot name hot) (freedMachines name machines))).AtMost
      (hotCapacity hot (activeAllocations entries) (hotNames hot machines)) := by
    rw [hotCapacity, hotCharged_freed]
    exact (AtMost.refl _).foldl (filter_sublist.map _)
  have hsized : (foreignCapacity entries (activeAllocations entries) (freedMachines name machines)
        (hotNames (freedHot name hot) (freedMachines name machines))).1.AtMost
      (foreignCapacity entries (activeAllocations entries) machines (hotNames hot machines)).1 := by
    simp only [foreignCapacity, foreignMachines]
    rw [unownedRunning_freed]
    exact (AtMost.refl _).foldl
      ((filter_sublist.filter _).filterMap _)
  have hunknown : (foreignCapacity entries (activeAllocations entries) (freedMachines name machines)
        (hotNames (freedHot name hot) (freedMachines name machines))).2 = true →
      (foreignCapacity entries (activeAllocations entries) machines (hotNames hot machines)).2 =
        true := by
    simp only [foreignCapacity, foreignMachines]
    rw [unownedRunning_freed]
    simp only [any_eq_true]
    rintro ⟨machine, hmem, hnone⟩
    exact ⟨machine, (filter_sublist.filter _).mem hmem, hnone⟩
  obtain ⟨hslots, hbudget, hserialized⟩ := ensureCapacity_eq_ok.mp hok
  refine ensureCapacity_eq_ok.mpr ⟨?_, fun hc hm => ?_, hserialized⟩
  · have := hpooled.active
    unfold slotTotal at hslots ⊢
    omega
  · obtain ⟨hknown, hfits⟩ := hbudget hc hm
    refine ⟨Bool.eq_false_iff.mpr fun h => Bool.eq_false_iff.mp hknown (hunknown h), hfits.mono ?_⟩
    simp only [chargeTotal, horphan]
    exact (((AtMost.refl _).plus hsized).plus hpooled).charge size

/-! ## The fold without the candidates -/

theorem isOk_eq_true {ε : Type} {x : Except ε Unit} : x.isOk = true ↔ x = .ok () := by
  cases x <;> simp [Except.isOk, Except.toBool]

/-- **The fold without the candidates still accepts when a machine is freed**, a
candidate or not. -/
theorem acceptsWithoutIdle_freed
    (hheld : ∃ guest ∈ hot, guest.state.isHoldingMachine = true ∧ guest.vmName.value = name)
    (h : acceptsWithoutIdle entries config size machines hot = true) :
    acceptsWithoutIdle entries config size (freedMachines name machines) (freedHot name hot) =
      true := by
  have hmachines : (freedMachines name machines).filter (fun machine => machine.name ∉
        yieldNames entries (freedMachines name machines) (freedHot name hot)) =
      freedMachines name (machines.filter fun machine => machine.name ∉
        yieldNames entries machines hot) := by
    simp only [filter_filter]
    refine filter_congr fun machine _ => ?_
    rw [Bool.eq_iff_iff]
    simp only [Bool.and_eq_true, decide_eq_true_eq, mem_yieldNames_freed]
    tauto
  have hhot : (freedHot name hot).filter (fun guest => guest.vmName.value ∉
        yieldNames entries (freedMachines name machines) (freedHot name hot)) =
      freedHot name (hot.filter fun guest => guest.vmName.value ∉
        yieldNames entries machines hot) := by
    simp only [filter_filter]
    refine filter_congr fun guest _ => ?_
    rw [Bool.eq_iff_iff]
    simp only [Bool.and_eq_true, decide_eq_true_eq, mem_yieldNames_freed]
    tauto
  rw [acceptsWithoutIdle, isOk_eq_true] at h ⊢
  rw [hmachines, hhot]
  by_cases hmem : name ∈ yieldNames entries machines hot
  · -- a candidate: it was left out already
    have hm : ∀ machine ∈ machines.filter fun machine => machine.name ∉
        yieldNames entries machines hot, decide (machine.name ≠ name) = true := by
      intro machine hmachine
      refine decide_eq_true fun hname => ?_
      exact of_decide_eq_true (mem_filter.mp hmachine).2 (hname ▸ hmem)
    have hg : ∀ guest ∈ hot.filter fun guest => guest.vmName.value ∉
        yieldNames entries machines hot, decide (guest.vmName.value ≠ name) = true := by
      intro guest hguest
      refine decide_eq_true fun hname => ?_
      exact of_decide_eq_true (mem_filter.mp hguest).2 (hname ▸ hmem)
    rwa [freedMachines, freedHot, filter_eq_self.mpr hm, filter_eq_self.mpr hg]
  · obtain ⟨guest, hguest, hholds, rfl⟩ := hheld
    exact ensureCapacity_freed ⟨guest, mem_filter.mpr ⟨hguest, decide_eq_true hmem⟩, hholds,
      rfl⟩ h

/-- Without candidates the fold accepts as it is. -/
theorem accepts_of_yieldNames_nil (h : acceptsWithoutIdle entries config size machines hot = true)
    (hnone : yieldCandidates entries machines hot = []) :
    ensureCapacity entries config size machines hot = .ok () := by
  rw [acceptsWithoutIdle, isOk_eq_true] at h
  simpa [yieldNames, hnone] using h

/-! ## Records that charge the same -/

section Relabelled

variable {f : HotGuest → HotGuest}

theorem hotNames_map (hname : ∀ g, (f g).vmName = g.vmName) (hstate : ∀ g, (f g).state = g.state) :
    hotNames (hot.map f) machines = hotNames hot machines := by
  simp [hotNames, filter_map, Function.comp_def, hname, hstate]

/-- What the pool is charged with is a matter of names, states and sizes. -/
theorem ensureCapacity_map (hname : ∀ g, (f g).vmName = g.vmName)
    (hstate : ∀ g, (f g).state = g.state) (hsize : ∀ g, (f g).size = g.size) :
    ensureCapacity entries config size machines (hot.map f) =
      ensureCapacity entries config size machines hot := by
  have hcharged : ∀ active names, hotCapacity (hot.map f) active names =
      hotCapacity hot active names := by
    simp [hotCapacity, hotCharged, filter_map, Function.comp_def, hname, hstate, hsize]
  simp only [ensureCapacity, hotNames_map hname hstate, hcharged]

theorem acceptsWithoutIdle_map (hname : ∀ g, (f g).vmName = g.vmName)
    (hstate : ∀ g, (f g).state = g.state) (hsize : ∀ g, (f g).size = g.size) :
    acceptsWithoutIdle entries config size machines (hot.map f) =
      acceptsWithoutIdle entries config size machines hot := by
  have hnames : yieldNames entries machines (hot.map f) = yieldNames entries machines hot := by
    simp only [yieldNames, yieldCandidates, hotNames_map hname hstate, filter_map,
      map_map, Function.comp_def, hname, hstate]
  have hrest : ((hot.map f).filter fun guest => guest.vmName.value ∉ yieldNames entries
    machines hot)
      = (hot.filter fun guest => guest.vmName.value ∉ yieldNames entries machines hot).map f := by
    simp only [filter_map, Function.comp_def, hname]
  simp only [acceptsWithoutIdle, hnames, hrest, ensureCapacity_map hname hstate hsize]

end Relabelled

end FlanForge
