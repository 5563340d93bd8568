import Mathlib.Data.List.Basic
import FlanForge.Core.Names
import FlanForge.Core.Sample
import FlanForge.Manager.Capacity
import FlanForge.Manager.Yield

/-!
# What admission charges

Four folds charge the host: the active allocations, the orphans of terminal
ones, the foreign machines and the pool. Each derives its own names, with its
own idea of what is owned and alive. A running machine is covered when an
active allocation stands for it, by its own name or, for a pool machine, by
its origin. The folds partition the rest: what is not covered takes one slot
and is charged once, as an orphan, as foreign or as pooled, unless it is a
foreign machine of unknown size, which refuses the request. Beside them the
pool charges the records that are still being provisioned.
-/

namespace FlanForge

open List

/-! ## The partition -/

/-- An active allocation stands for the machine. -/
def isCovered (active : List Allocation) (hot : List HotGuest) (machine : HostMachine) : Bool :=
  machine.ownership = .owned &&
    ((active.map (·.vmName.value)).contains machine.name ||
      (((hot.filter (·.state.isHoldingMachine)).map (·.vmName.value)).contains machine.name &&
        active.any fun allocation => allocation.origin.hotVmName.any (·.value = machine.name)))

/-- The running machines no active allocation stands for. -/
def uncoveredRunning (active : List Allocation) (machines : List HostMachine)
    (hot : List HotGuest) : List HostMachine :=
  machines.filter fun machine => machine.state = .running && !isCovered active hot machine

/-- The records still being provisioned whose machine is not listed as running
and owned, and whose name no active allocation bears. -/
def reservedRecords (active : List Allocation) (machines : List HostMachine)
    (hot : List HotGuest) : List HotGuest :=
  hot.filter fun guest => guest.state = .provisioning &&
    !(machines.any fun machine => machine.isOwnedRunning && machine.name = guest.vmName.value) &&
      !(active.flatMap heldNames).contains guest.vmName.value

section Partition

variable {entries : List Entry} {config : Config} {active : List Allocation}
variable {machines : List HostMachine} {hot : List HotGuest} {machine : HostMachine}

/-- With distinct names, the machine that bears a pool name is the owned one. -/
theorem mem_hotNames_of_machine (hmachines : (machines.map (·.name)).Nodup)
    (hmem : machine ∈ machines) : machine.name ∈ hotNames hot machines ↔
      machine.isOwnedRunning = true ∧
        ∃ guest ∈ hot, guest.state.isHoldingMachine = true ∧ guest.vmName.value = machine.name := by
  rw [mem_hotNames]
  constructor
  · rintro ⟨hguest, other, hother, howned, hname⟩
    obtain rfl := inj_on_of_nodup_map hmachines hother hmem hname
    exact ⟨howned, hguest⟩
  · rintro ⟨howned, hguest⟩
    exact ⟨hguest, machine, hmem, howned, rfl⟩

theorem mem_names_holding {name : String} :
    name ∈ (hot.filter (·.state.isHoldingMachine)).map (·.vmName.value) ↔
      ∃ guest ∈ hot, guest.state.isHoldingMachine = true ∧ guest.vmName.value = name := by
  simp only [mem_map, mem_filter, and_assoc]

/-- Outside the pool, what is not covered is what no live entry owns. -/
theorem filter_uncovered_unpooled (hmachines : (machines.map (·.name)).Nodup) :
    (uncoveredRunning active machines hot).filter
        (fun machine => !(hotNames hot machines).contains machine.name) =
      unownedRunning active machines (hotNames hot machines) := by
  rw [uncoveredRunning, unownedRunning, filter_filter]
  refine filter_congr fun machine hmem => ?_
  have hnames : machine.name ∈ hotNames hot machines ↔ _ := mem_hotNames_of_machine hmachines hmem
  by_cases hpool : machine.name ∈ hotNames hot machines
  · simp [hpool]
  by_cases hrunning : machine.state = .running
  · by_cases howned : machine.ownership = .owned
    · -- an owned machine outside the pool has no record that holds it
      have hrecords :
          machine.name ∉ (hot.filter (·.state.isHoldingMachine)).map (·.vmName.value) := by
        intro hrecord
        have hlisted : machine.isOwnedRunning = true := by
          simp [HostMachine.isOwnedRunning, hrunning, howned]
        exact hpool (hnames.mpr ⟨hlisted, mem_names_holding.mp hrecord⟩)
      simp [isCovered, isOwnedName, -mem_map, hpool, hrunning, howned, hrecords]
    · simp [isCovered, isOwnedName, howned, hpool, hrunning]
  · simp [hrunning]

/-- The allocation's own name, or its origin's. -/
theorem mem_heldNames {name : String} : name ∈ active.flatMap heldNames ↔
    name ∈ active.map (·.vmName.value) ∨
      (active.any fun allocation => allocation.origin.hotVmName.any (·.value = name)) = true := by
  simp only [heldNames, mem_flatMap, mem_cons, Option.mem_toList, Option.map_eq_some_iff,
    mem_map, any_eq_true, Option.any_eq_true, decide_eq_true_eq]
  constructor
  · rintro ⟨a, ha, rfl | ⟨machine, hmachine, rfl⟩⟩
    · exact .inl ⟨a, ha, rfl⟩
    · exact .inr ⟨a, ha, machine, hmachine, rfl⟩
  · rintro (⟨a, ha, rfl⟩ | ⟨a, ha, machine, hmachine, rfl⟩)
    · exact ⟨a, ha, .inl rfl⟩
    · exact ⟨a, ha, .inr ⟨machine, hmachine, rfl⟩⟩

/-- A pool machine is covered when an active allocation holds its name. -/
theorem isCovered_of_pooled (active : List Allocation) (hmachines : (machines.map (·.name)).Nodup)
    (hmem : machine ∈ machines) (hpool : machine.name ∈ hotNames hot machines) :
    machine.state = .running ∧
      (isCovered active hot machine = true ↔ machine.name ∈ active.flatMap heldNames) := by
  obtain ⟨hlisted, hguest⟩ := (mem_hotNames_of_machine hmachines hmem).mp hpool
  simp only [HostMachine.isOwnedRunning, Bool.and_eq_true, decide_eq_true_eq] at hlisted
  have hrecords := mem_names_holding.mpr hguest
  refine ⟨hlisted.1, ?_⟩
  rw [mem_heldNames]
  simp [isCovered, -mem_map, hlisted.2, hrecords]

/-- In the pool, what is not covered is what the pool charges. -/
theorem perm_uncovered_pooled (active : List Allocation) (hmachines : (machines.map (·.name)).Nodup)
    (hhot : (hot.map (·.vmName)).Nodup) :
    (((uncoveredRunning active machines hot).filter
        fun machine => (hotNames hot machines).contains machine.name).map (·.name)).Perm
      (((hotCharged hot active (hotNames hot machines)).filter
        fun guest => (hotNames hot machines).contains guest.vmName.value).map
          (·.vmName.value)) := by
  have hvalues : (hot.map (·.vmName.value)).Nodup := by
    have hmap := hhot.map (f := fun name : VmName => name.value) fun _ _ h => Identifier.ext_value h
    rwa [map_map] at hmap
  refine (perm_ext_iff_of_nodup ?_ ?_).mpr fun name => ?_
  · exact ((filter_sublist.trans filter_sublist).map _).nodup hmachines
  · exact ((filter_sublist.trans filter_sublist).map _).nodup hvalues
  simp only [mem_map, mem_filter, uncoveredRunning, hotCharged, contains_eq_mem,
    Bool.and_eq_true, decide_eq_true_eq, Bool.not_eq_true', Bool.or_eq_true]
  constructor
  · rintro ⟨machine, ⟨⟨hmem, -, hfree⟩, hpool⟩, rfl⟩
    obtain ⟨-, guest, hguest, hholding, hname⟩ := (mem_hotNames_of_machine hmachines hmem).mp hpool
    have hheld := (isCovered_of_pooled active hmachines hmem hpool).2
    rw [hfree] at hheld
    refine ⟨guest, ⟨⟨hguest, ⟨hholding, .inl (hname ▸ hpool)⟩, ?_⟩, hname ▸ hpool⟩, hname⟩
    rw [hname]
    exact decide_eq_false fun hclaimed => absurd (hheld.mpr hclaimed) Bool.false_ne_true
  · rintro ⟨guest, ⟨⟨hguest, -, hfree⟩, hpool⟩, rfl⟩
    obtain ⟨-, machine, hmem, -, hname⟩ := mem_hotNames.mp hpool
    rw [← hname] at hpool
    obtain ⟨hrunning, hheld⟩ := isCovered_of_pooled active hmachines hmem hpool
    refine ⟨machine, ⟨⟨hmem, hrunning, ?_⟩, hpool⟩, hname⟩
    refine Bool.eq_false_iff.mpr fun hcovered => ?_
    exact of_decide_eq_false hfree (hname ▸ hheld.mp hcovered)

/-- What else the pool charges is still being provisioned. -/
theorem filter_charged_reserved :
    (hotCharged hot active (hotNames hot machines)).filter
        (fun guest => !(hotNames hot machines).contains guest.vmName.value) =
      reservedRecords active machines hot := by
  rw [hotCharged, reservedRecords, filter_filter]
  refine filter_congr fun guest hguest => ?_
  by_cases hstate : guest.state = .provisioning
  · have hprovisioning : HotState.provisioning.isHoldingMachine = true := rfl
    have hholding : guest.state.isHoldingMachine = true := hstate ▸ hprovisioning
    have hlisted : guest.vmName.value ∈ hotNames hot machines ↔ (machines.any fun machine =>
        machine.isOwnedRunning && machine.name = guest.vmName.value) = true := by
      rw [mem_hotNames]
      simp only [any_eq_true, Bool.and_eq_true, decide_eq_true_eq]
      exact ⟨fun h => h.2, fun h => ⟨⟨guest, hguest, hholding, rfl⟩, h⟩⟩
    by_cases hpool : guest.vmName.value ∈ hotNames hot machines
    · simp [hpool, hlisted.mp hpool]
    · simp [hpool, hstate, hprovisioning, Bool.eq_false_iff.mpr fun h => hpool (hlisted.mpr h)]
  · by_cases hpool : guest.vmName.value ∈ hotNames hot machines
    · simp [hpool, hstate]
    · simp [hpool, hstate]

/-- A fold of charges counts them. -/
theorem foldl_charge_active (sizes : List GuestSize) (total : CommittedCapacity) :
    (sizes.foldl CommittedCapacity.charge total).active = total.active + sizes.length := by
  induction sizes generalizing total with
  | nil => rfl
  | cons size sizes ih =>
    have hstep : (total.charge size).active = total.active + 1 := rfl
    rw [foldl_cons, ih, hstep, length_cons]
    omega

/-- **Slots count every machine once.** -/
theorem slotTotal_eq (hmachines : (machines.map (·.name)).Nodup)
    (hhot : (hot.map (·.vmName)).Nodup) :
    slotTotal entries config machines hot = (activeAllocations entries).length +
      (uncoveredRunning (activeAllocations entries) machines hot).length +
        (reservedRecords (activeAllocations entries) machines hot).length := by
  have hpooled : (hotCapacity hot (activeAllocations entries) (hotNames hot machines)).active =
      (hotCharged hot (activeAllocations entries) (hotNames hot machines)).length := by
    rw [hotCapacity, foldl_charge_active, length_map]
    exact Nat.zero_add _
  have hmachinesSplit := length_eq_length_filter_add
    (l := uncoveredRunning (activeAllocations entries) machines hot)
    fun machine => (hotNames hot machines).contains machine.name
  have hrecordsSplit := length_eq_length_filter_add
    (l := hotCharged hot (activeAllocations entries) (hotNames hot machines))
    fun guest => (hotNames hot machines).contains guest.vmName.value
  rw [filter_uncovered_unpooled hmachines] at hmachinesSplit
  rw [filter_charged_reserved] at hrecordsSplit
  have hpool := (perm_uncovered_pooled (activeAllocations entries) hmachines hhot).length_eq
  rw [length_map, length_map] at hpool
  rw [slotTotal, foreignRunning, committedCapacity_active, hpooled]
  omega

end Partition

/-! ## The charges -/

/-- The orphans, each with the terminal record it runs under. -/
def orphanGuests (entries : List Entry) (active : List Allocation) (machines : List HostMachine)
    (names : List String) : List (HostMachine × Allocation) :=
  ((unownedRunning active machines names).filter (·.ownership = .owned)).filterMap fun machine =>
    ((entries.map (·.allocation)).find? (isTerminalGuest machine.name)).map (machine, ·)

/-- What `orphanCapacity` charges: the machine's name and its record's size. -/
def orphanCharges (entries : List Entry) (active : List Allocation) (machines : List HostMachine)
    (config : Config) (names : List String) : List (String × GuestSize) :=
  (orphanGuests entries active machines names).filterMap fun orphan =>
    (chargedSize config orphan.2).map (orphan.1.name, ·)

/-- What `foreignCapacity` charges: those of them whose size is known. -/
def foreignCharges (entries : List Entry) (active : List Allocation) (machines : List HostMachine)
    (names : List String) : List (String × GuestSize) :=
  (foreignMachines entries active machines names).filterMap fun machine =>
    machine.size.map (machine.name, ·)

/-- What `hotCapacity` charges, the listed machines and the reservations. -/
def hotCharges (hot : List HotGuest) (active : List Allocation) (names : List String) :
    List (String × GuestSize) :=
  (hotCharged hot active names).map fun guest => (guest.vmName.value, guest.size)

section Charges

variable {entries : List Entry} {config : Config} {active : List Allocation}
variable {machines : List HostMachine} {hot : List HotGuest} {names : List String}

theorem chargedSize_isSome (hvalid : config.isValid = true) (a : Allocation) :
    ∃ size, chargedSize config a = some size := by
  have hprofiles := config.profiles_ne_nil_of_isValid hvalid
  obtain ⟨entry, profiles, hcons⟩ := exists_cons_of_ne_nil hprofiles
  have hlargest : ∃ size, largestProfileSize config = some size := by
    rw [largestProfileSize, hcons]
    exact ⟨_, rfl⟩
  obtain ⟨size, hsize⟩ := hlargest
  rw [chargedSize, hsize]
  cases allocation : a.size.or (profileSize config a.request.profile) with
  | none => exact ⟨size, rfl⟩
  | some recorded => exact ⟨recorded, rfl⟩

/-- The orphans' fold is over their charges, and each orphan has one. -/
theorem orphanCapacity_eq (hvalid : config.isValid = true) :
    orphanCapacity entries active machines config names =
      ((orphanCharges entries active machines config names).map (·.2)).foldl
        CommittedCapacity.commit
          { active := (orphanCharges entries active machines config names).length } := by
  have hguests : ((unownedRunning active machines names).filter (·.ownership = .owned)).filterMap
      (fun machine => (entries.map (·.allocation)).find? (isTerminalGuest machine.name)) =
        (orphanGuests entries active machines names).map (·.2) := by
    rw [orphanGuests, map_filterMap]
    refine filterMap_congr fun machine _ => ?_
    simp [Option.map_map, Function.comp_def]
  have hsizes : ((orphanGuests entries active machines names).map (·.2)).filterMap
      (chargedSize config) = (orphanCharges entries active machines config names).map (·.2) := by
    rw [orphanCharges, map_filterMap, filterMap_map]
    refine filterMap_congr fun orphan _ => ?_
    simp [Option.map_map, Function.comp_def]
  have hlength : (orphanCharges entries active machines config names).length =
      (orphanGuests entries active machines names).length := by
    refine filterMap_length_eq_length.mpr fun orphan _ => ?_
    obtain ⟨size, hsize⟩ := chargedSize_isSome hvalid orphan.2
    rw [hsize]
    rfl
  rw [orphanCapacity, hguests, committedCapacity, hsizes, hlength, length_map]

/-- The foreign fold is over their charges. -/
theorem foreignCapacity_eq :
    foreignCapacity entries active machines names =
      (((foreignCharges entries active machines names).map (·.2)).foldl CommittedCapacity.charge {},
        (foreignMachines entries active machines names).any (·.size.isNone)) := by
  have hsizes : (foreignMachines entries active machines names).filterMap (·.size) =
      (foreignCharges entries active machines names).map (·.2) := by
    rw [foreignCharges, map_filterMap]
    refine filterMap_congr fun machine _ => ?_
    simp [Option.map_map, Function.comp_def]
  rw [foreignCapacity, hsizes]

/-- The pool's fold is over its charges. -/
theorem hotCapacity_eq :
    hotCapacity hot active names =
      ((hotCharges hot active names).map (·.2)).foldl CommittedCapacity.charge {} := by
  rw [hotCapacity, hotCharges, map_map]
  rfl

/-- A terminal record is found for each of these names and for no other. -/
theorem find_isTerminalGuest_isSome (entries : List Entry) (name : String) :
    ((entries.map (·.allocation)).find? (isTerminalGuest name)).isSome = true ↔
      name ∈ terminalNames entries := by
  simp only [terminalNames, List.find?_isSome, isTerminalGuest, mem_map, mem_filter,
    Bool.and_eq_true, decide_eq_true_eq]
  constructor
  · rintro ⟨a, ha, hguest, hname⟩
    exact ⟨a, ⟨ha, hguest⟩, hname⟩
  · rintro ⟨a, ⟨ha, hguest⟩, hname⟩
    exact ⟨a, ha, hguest, hname⟩

/-- The names of the orphans' charges. -/
theorem map_orphanCharges (hvalid : config.isValid = true) :
    (orphanCharges entries active machines config names).map (·.1) =
      ((unownedRunning active machines names).filter fun machine =>
        isOwnedName machine (terminalNames entries)).map (·.name) := by
  rw [orphanCharges, orphanGuests, map_filterMap, filterMap_filterMap,
    filterMap_filter, ← filterMap_eq_map (f := fun machine : HostMachine => machine.name),
    filterMap_filter]
  refine filterMap_congr fun machine _ => ?_
  have hfound := find_isTerminalGuest_isSome entries machine.name
  by_cases howned : machine.ownership = .owned
  · cases hguest : (entries.map (·.allocation)).find? (isTerminalGuest machine.name) with
    | none =>
      rw [hguest] at hfound
      have hother := mt hfound.mpr Bool.false_ne_true
      simp [isOwnedName, howned, hother]
    | some a =>
      rw [hguest] at hfound
      obtain ⟨size, hsize⟩ := chargedSize_isSome hvalid a
      simp [isOwnedName, howned, hfound.mp rfl, hsize]
  · simp [isOwnedName, howned]

/-- With every size known, the names of the foreign charges. -/
theorem map_foreignCharges
    (hsizes : ∀ machine ∈ foreignMachines entries active machines names,
      machine.size.isSome = true) :
    (foreignCharges entries active machines names).map (·.1) =
      (foreignMachines entries active machines names).map (·.name) := by
  rw [foreignCharges, map_filterMap, ← filterMap_eq_map]
  refine filterMap_congr fun machine hmem => ?_
  obtain ⟨size, hsize⟩ := Option.isSome_iff_exists.mp (hsizes machine hmem)
  rw [hsize]
  rfl

/-- The pool charges of machines that are listed as running and owned. -/
def pooledCharges (hot : List HotGuest) (active : List Allocation) (machines : List HostMachine) :
    List (String × GuestSize) :=
  (hotCharges hot active (hotNames hot machines)).filter fun charge =>
    (hotNames hot machines).contains charge.1

/-- The other pool charges are the reservations'. -/
theorem hotCharges_perm :
    (hotCharges hot active (hotNames hot machines)).Perm
      (pooledCharges hot active machines ++ (reservedRecords active machines hot).map
        fun guest => (guest.vmName.value, guest.size)) := by
  rw [← filter_charged_reserved, pooledCharges]
  refine (filter_append_perm
    (fun charge => (hotNames hot machines).contains charge.1) _).symm.trans ?_
  rw [hotCharges, filter_map, filter_map]
  rfl

/-- **With every size known, each machine that is not covered is charged once**,
as an orphan, as foreign or as pooled. -/
theorem charges_perm (hvalid : config.isValid = true) (hmachines : (machines.map (·.name)).Nodup)
    (hhot : (hot.map (·.vmName)).Nodup)
    (hsizes : ∀ machine ∈ foreignMachines entries active machines (hotNames hot machines),
      machine.size.isSome = true) :
    ((orphanCharges entries active machines config (hotNames hot machines) ++
        foreignCharges entries active machines (hotNames hot machines) ++
          pooledCharges hot active machines).map (·.1)).Perm
      ((uncoveredRunning active machines hot).map (·.name)) := by
  have hpooled : (pooledCharges hot active machines).map (·.1) =
      ((hotCharged hot active (hotNames hot machines)).filter
        fun guest => (hotNames hot machines).contains guest.vmName.value).map (·.vmName.value) := by
    rw [pooledCharges, hotCharges, filter_map, map_map]
    rfl
  -- outside the pool a terminal record decides between orphan and foreign
  have houtside := (filter_append_perm
    (fun machine => isOwnedName machine (terminalNames entries))
    (unownedRunning active machines (hotNames hot machines))).map (·.name)
  have hsplit := (filter_append_perm
    (fun machine : HostMachine => (hotNames hot machines).contains machine.name)
    (uncoveredRunning active machines hot)).map (·.name)
  rw [map_append] at houtside hsplit
  rw [filter_uncovered_unpooled hmachines] at hsplit
  rw [map_append, map_append, map_orphanCharges hvalid, map_foreignCharges hsizes,
    hpooled]
  refine (houtside.append_right _).trans (perm_append_comm.trans ?_)
  exact ((perm_uncovered_pooled active hmachines hhot).symm.append_right _).trans hsplit

end Charges

/-! ## The comparison -/

section Comparison

variable {entries : List Entry} {config : Config} {requested : GuestSize}
variable {machines : List HostMachine} {hot : List HotGuest}

/-- The slots are what the first refusal is about. -/
theorem ensureCapacity_slots_iff :
    ensureCapacity entries config requested machines hot =
        .error (busy .slots ((activeAllocations entries).head?.map (·.id))) ↔
      config.runtime.maxRunningVms.toNat < slotTotal entries config machines hot + 1 := by
  unfold ensureCapacity
  simp only [← slotTotal.eq_1, gt_iff_lt]
  constructor
  · intro h
    by_contra hroom
    rw [if_neg hroom] at h
    split at h
    · split_ifs at h <;> cases h
    · split_ifs at h
      cases h
  · intro hfull
    rw [if_pos hfull]

/-- On the budget path an unknown size refuses. -/
theorem ensureCapacity_unknown {cpuCount : UInt8} {memoryMb : UInt32}
    (hroom : slotTotal entries config machines hot + 1 ≤ config.runtime.maxRunningVms.toNat)
    (hc : config.runtime.hostCpuCount = some cpuCount)
    (hm : config.runtime.hostMemoryMb = some memoryMb)
    (hunknown : ((foreignMachines entries (activeAllocations entries) machines
      (hotNames hot machines)).any (·.size.isNone)) = true) :
    ensureCapacity entries config requested machines hot =
      .error (busy .budget ((activeAllocations entries).head?.map (·.id))) := by
  have hslots :
      ¬ slotTotal entries config machines hot + 1 > config.runtime.maxRunningVms.toNat := by
    omega
  unfold ensureCapacity
  simp only [← slotTotal.eq_1, hc, hm, foreignCapacity_eq, hunknown, if_neg hslots, if_true]

/-- **Admission counts and charges every running machine once.** The slots are
the active allocations, the running machines none of them stands for and the
reservations of the pool. The three folds beside the committed one are over
their charges, and on the budget path these name each machine that is not
covered exactly once and their sum decides, or a foreign machine of unknown
size refuses the request. -/
theorem running_charged_once (entries : List Entry) (config : Config) (requested : GuestSize)
    (machines : List HostMachine) (hot : List HotGuest)
    (hvalid : config.isValid = true) (hmachines : (machines.map (·.name)).Nodup)
    (hhot : (hot.map (·.vmName)).Nodup) :
    let active := activeAllocations entries
    let names := hotNames hot machines
    let orphaned := orphanCharges entries active machines config names
    let foreign := foreignCharges entries active machines names
    let pooled := pooledCharges hot active machines
    let reserved := reservedRecords active machines hot
    let uncovered := uncoveredRunning active machines hot
    let holder := active.head?.map (·.id)
    let orphanTotal := (orphaned.map (·.2)).foldl CommittedCapacity.commit
      { active := orphaned.length }
    let foreignTotal := (foreign.map (·.2)).foldl CommittedCapacity.charge {}
    let hotTotal := ((hotCharges hot active names).map (·.2)).foldl CommittedCapacity.charge {}
    slotTotal entries config machines hot =
        active.length + uncovered.length + reserved.length ∧
    (ensureCapacity entries config requested machines hot = .error (busy .slots holder) ↔
      config.runtime.maxRunningVms.toNat < slotTotal entries config machines hot + 1) ∧
    orphanCapacity entries active machines config names = orphanTotal ∧
    (foreignCapacity entries active machines names).1 = foreignTotal ∧
    hotCapacity hot active names = hotTotal ∧
    (hotCharges hot active names).Perm
      (pooled ++ reserved.map fun guest => (guest.vmName.value, guest.size)) ∧
    (slotTotal entries config machines hot + 1 ≤ config.runtime.maxRunningVms.toNat →
      config.runtime.hostCpuCount.isSome = true → config.runtime.hostMemoryMb.isSome = true →
      (∃ machine ∈ foreignMachines entries active machines names, machine.size = none ∧
        ensureCapacity entries config requested machines hot = .error (busy .budget holder)) ∨
      ((orphaned ++ foreign ++ pooled).map (·.1)).Perm (uncovered.map (·.name)) ∧
        (∀ machine ∈ uncovered,
          ((orphaned ++ foreign ++ pooled).map (·.1)).count machine.name = 1) ∧
        (ensureCapacity entries config requested machines hot = .ok () ↔
          (((((committedCapacity active config).plus orphanTotal).plus foreignTotal).plus
            hotTotal).charge requested).Fits config)) := by
  refine ⟨slotTotal_eq hmachines hhot, ensureCapacity_slots_iff, orphanCapacity_eq hvalid,
    congrArg Prod.fst foreignCapacity_eq, hotCapacity_eq, hotCharges_perm, ?_⟩
  intro hroom hcpu hmemory
  obtain ⟨cpuCount, hc⟩ := Option.isSome_iff_exists.mp hcpu
  obtain ⟨memoryMb, hm⟩ := Option.isSome_iff_exists.mp hmemory
  by_cases hunknown : ∃ machine ∈ foreignMachines entries (activeAllocations entries) machines
      (hotNames hot machines), machine.size = none
  · obtain ⟨machine, hmem, hsize⟩ := hunknown
    refine .inl ⟨machine, hmem, hsize, ensureCapacity_unknown hroom hc hm ?_⟩
    exact any_eq_true.mpr ⟨machine, hmem, Option.isNone_iff_eq_none.mpr hsize⟩
  · have hsizes : ∀ machine ∈ foreignMachines entries (activeAllocations entries) machines
        (hotNames hot machines), machine.size.isSome = true := by
      intro machine hmem
      exact Option.isSome_iff_ne_none.mpr fun hsize => hunknown ⟨machine, hmem, hsize⟩
    have hperm := charges_perm hvalid hmachines hhot hsizes
    have hnodup : ((uncoveredRunning (activeAllocations entries) machines hot).map
        (·.name)).Nodup := (filter_sublist.map _).nodup hmachines
    refine .inr ⟨hperm, fun machine hmem => ?_, ?_⟩
    · rw [hperm.count_eq]
      exact count_eq_one_of_mem hnodup (mem_map_of_mem hmem)
    · -- the sum of the folds decides, since every size is known
      have hknown : (foreignMachines entries (activeAllocations entries) machines
          (hotNames hot machines)).any (·.size.isNone) = false := by
        simpa [Option.isSome_iff_ne_none] using hsizes
      simp [ensureCapacity_eq_ok, chargeTotal, hroom, hc, hm, hknown, orphanCapacity_eq hvalid,
        foreignCapacity_eq, hotCapacity_eq]

/-- An idle machine of the pool beside a box someone started by hand. -/
theorem pool_and_box_charged_once :
    let config : Config :=
      { sampleConfig with runtime := { sampleConfig.runtime with maxRunningVms := 4 } }
    let machines : List HostMachine :=
      [⟨"ff-p-7-1", .running, some ⟨2, 4096, 16384⟩, .owned, none⟩,
        ⟨"box", .running, some ⟨1, 2048, 8192⟩, .foreign, none⟩]
    let guest := HotGuest.new sampleMachine sampleProfileName .protectedLane ⟨2, 4096, 16384⟩
      ⟨⟨"base", by decide⟩, .template, none, none⟩ none none 1
    let hot := [{ guest with state := HotState.idle }]
    slotTotal [] config machines hot = 0 + 2 + 0 ∧
      (foreignCharges [] [] machines (hotNames hot machines) ++
        pooledCharges hot [] machines).map (·.1) = ["box", "ff-p-7-1"] ∧
      ((orphanCharges [] [] machines config (hotNames hot machines) ++
        foreignCharges [] [] machines (hotNames hot machines) ++
          pooledCharges hot [] machines).map (·.1)).count "box" = 1 := by
  intro config machines guest hot
  obtain ⟨hslots, -, -, -, -, -, hcharges⟩ := running_charged_once [] config
    ⟨2, 4096, 16384⟩ machines hot (by decide +kernel) (by decide) (by decide +kernel)
  refine ⟨hslots.trans (by decide +kernel), by decide +kernel, ?_⟩
  rcases hcharges (by decide +kernel) rfl rfl with ⟨machine, hmem, hsize, -⟩ | ⟨-, honce, -⟩
  · have hknown : ∀ machine ∈ foreignMachines [] [] machines (hotNames hot machines),
        machine.size ≠ none := by decide +kernel
    exact absurd hsize (hknown machine hmem)
  · exact honce ⟨"box", .running, some ⟨1, 2048, 8192⟩, .foreign, none⟩ (by decide +kernel)

end Comparison

end FlanForge
