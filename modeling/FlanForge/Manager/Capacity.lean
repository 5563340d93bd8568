import Mathlib.Algebra.Order.BigOperators.Group.List
import Mathlib.Algebra.Order.Group.Nat
import FlanForge.Manager.Active

/-!
# What the admission fold guarantees

`ensureCapacity` adds up four charges with saturating arithmetic and compares
the sums with the budget. A valid configuration keeps the budget far below
the point where the sums saturate, so an accepted request is one whose size
fits beside the recorded sizes of the active allocations, whatever the fold
charged besides them.
-/

namespace FlanForge

/-- What the allocations take in one dimension, by their recorded sizes. -/
def recordedSum (f : GuestSize → ℕ) (l : List Allocation) : ℕ := ((l.filterMap (·.size)).map f).sum

variable {config : Config} {l l' : List Allocation} {f : GuestSize → ℕ}

theorem recordedSum_append_singleton {a : Allocation} {size : GuestSize} (h : a.size = some size) :
    recordedSum f (l ++ [a]) = recordedSum f l + f size := by
  simp [recordedSum, h]

/-- A function of what admission fixed is kept where allocations only leave. -/
theorem map_sublist_of_fixed {β : Type} {g : Allocation → β}
    (hg : ∀ a b : Allocation, a.SameRun b → g b = g a)
    (h : (l'.map Allocation.fixed).Sublist (l.map Allocation.fixed)) :
    (l'.map g).Sublist (l.map g) := by
  obtain ⟨m, hm, heq⟩ := List.sublist_map_iff.mp h
  have hmap : l'.map g = m.map g := by
    clear h hm
    induction l' generalizing m with
    | nil => cases m <;> simp_all
    | cons a l' ih =>
      cases m with
      | nil => simp at heq
      | cons b m =>
        simp only [List.map_cons, List.cons.injEq] at heq ⊢
        exact ⟨hg b a (Allocation.sameRun_of_fixed heq.1), ih m heq.2⟩
  rw [hmap]
  exact hm.map g

theorem recordedSum_le_of_sublist (h : (l'.map Allocation.fixed).Sublist (l.map Allocation.fixed)) :
    recordedSum f l' ≤ recordedSum f l := by
  have hsizes := (map_sublist_of_fixed (g := (·.size)) (fun _ _ h => h.size) h).filterMap id
  simp only [List.filterMap_map, Function.id_comp] at hsizes
  exact (hsizes.map f).sum_le_sum fun _ _ => Nat.zero_le _

/-! ## The committed charge -/

/-- The charge of the committed sizes, next to the true sums: the processors
are exact while they fit the word, the others saturate. -/
theorem foldl_committed (sizes : List GuestSize) (total : CommittedCapacity) :
    let sum := sizes.foldl CommittedCapacity.commit total
    sum.active = total.active ∧
    (total.cpuCount.toNat + (sizes.map (·.cpuCount.toNat)).sum < 2 ^ 32 →
      sum.cpuCount.toNat = total.cpuCount.toNat + (sizes.map (·.cpuCount.toNat)).sum) ∧
    sum.memoryMb.toNat =
      min (total.memoryMb.toNat + (sizes.map (·.memoryMb.toNat)).sum) (2 ^ 32 - 1) ∧
    sum.storageMb.toNat =
      min (total.storageMb.toNat + (sizes.map (·.storageMb.toNat)).sum) (2 ^ 64 - 1) := by
  induction sizes generalizing total with
  | nil =>
    have := total.memoryMb.toNat_lt
    have := total.storageMb.toNat_lt
    refine ⟨rfl, fun _ => by simp, ?_, ?_⟩ <;> simp <;> omega
  | cons size sizes ih =>
    obtain ⟨hactive, hcpu, hmemory, hstorage⟩ := ih (total.commit size)
    simp only [List.foldl_cons, List.map_cons, List.sum_cons]
    refine ⟨hactive, fun hlt => ?_, ?_, ?_⟩
    · have hstep : (total.commit size).cpuCount.toNat =
          total.cpuCount.toNat + size.cpuCount.toNat := by
        rw [CommittedCapacity.commit, UInt32.toNat_add, UInt8.toNat_toUInt32, Nat.mod_eq_of_lt
          (by omega)]
      rw [hcpu (by rw [hstep]; omega), hstep]
      omega
    · rw [hmemory, CommittedCapacity.commit, toNat_saturatingAdd32]
      omega
    · rw [hstorage, CommittedCapacity.commit, toNat_saturatingAdd64]
      omega

/-- The charge of allocations that all have a recorded size. -/
theorem committedCapacity_of_sized (hsized : ∀ a ∈ l, a.size.isSome = true) :
    let committed := committedCapacity l config
    committed.active = l.length ∧
    (recordedSum (·.cpuCount.toNat) l < 2 ^ 32 →
      committed.cpuCount.toNat = recordedSum (·.cpuCount.toNat) l) ∧
    committed.memoryMb.toNat = min (recordedSum (·.memoryMb.toNat) l) (2 ^ 32 - 1) ∧
    committed.storageMb.toNat = min (recordedSum (·.storageMb.toNat) l) (2 ^ 64 - 1) := by
  have hcharged : l.filterMap (chargedSize config) = l.filterMap (·.size) :=
    List.filterMap_congr fun a ha => by
      obtain ⟨size, hsize⟩ := Option.isSome_iff_exists.mp (hsized a ha)
      simp [chargedSize, hsize]
  have h := foldl_committed (l.filterMap (·.size)) { active := l.length }
  simpa [committedCapacity, hcharged, recordedSum] using h

/-! ## Within the budget -/

/-- What validation says of the budget: it is whole, far from saturation, and
the reserve alone fits. -/
structure BudgetValid (runtime : RuntimeConfig) : Prop where
  memory : ∀ memoryMb, runtime.hostMemoryMb = some memoryMb → memoryMb.toNat ≤ 1048576
  storage : ∀ storageMb, runtime.hostStorageMb = some storageMb →
    storageMb.toNat ≤ 16777216 ∧ runtime.storageReserve.toNat ≤ storageMb.toNat
  whole : ∀ storageMb, runtime.hostStorageMb = some storageMb →
    ∃ cpuCount memoryMb, runtime.hostCpuCount = some cpuCount ∧ runtime.hostMemoryMb = some memoryMb

theorem ensureHostBudgetValid_of_isValid (h : config.isValid = true) :
    ensureHostBudgetValid config = .ok () := by
  have hok : config.ensureValid = .ok () := by
    unfold Config.isValid at h
    cases hv : config.ensureValid with
    | ok => rfl
    | error e =>
      rw [hv] at h
      cases h
  have hruntime : ensureRuntimeValid config = .ok () := by
    unfold Config.ensureValid at hok
    split_ifs at hok
    · obtain ⟨_, hempty, -⟩ := bind_eq_ok.mp hok
      cases hempty
    · exact (bind_eq_ok.mp hok).choose_spec.1
  unfold ensureRuntimeValid at hruntime
  cases hbackend : config.runtime.backend <;> cases hname : config.runtime.vmPrefix.ensureValid <;>
    simp only [hbackend, hname, bind_eq_ok, reduceCtorEq, false_and, exists_false,
      and_false] at hruntime
  · obtain ⟨-, -, -, -, -, -, -, -, hbudget⟩ := hruntime
    exact hbudget
  · obtain ⟨-, -, -, -, -, -, -, -, hbudget⟩ := hruntime
    exact hbudget

theorem ensureRange_eq_ok {field : String} {value min max : ℕ} {u : Unit} :
    ensureRange field value min max = .ok u ↔ min ≤ value ∧ value ≤ max := by
  simp [ensureRange]

theorem budgetValid_of_isValid (h : config.isValid = true) : BudgetValid config.runtime := by
  have hbudget := ensureHostBudgetValid_of_isValid h
  unfold ensureHostBudgetValid at hbudget
  cases hc : config.runtime.hostCpuCount <;> cases hm : config.runtime.hostMemoryMb <;>
    cases hs : config.runtime.hostStorageMb <;> cases hb : config.runtime.backend <;>
    simp [hc, hm, hs, hb, bind_eq_ok, ensureRange_eq_ok] at hbudget
  · exact ⟨by simp [hm], by simp [hs], by simp [hs]⟩
  · exact ⟨by simp [hm]; omega, by simp [hs], by simp [hs]⟩
  · exact ⟨by simp [hm]; omega, by simp [hs, RuntimeConfig.storageReserve, hb]; omega,
      by simp [hc, hm]⟩
  · have hreserve := UInt64.lt_iff_toNat_lt.mp hbudget.2.2.2.2
    exact ⟨by simp [hm]; omega, by simp [hs, RuntimeConfig.storageReserve, hb]; omega,
      by simp [hc, hm]⟩

/-- **The active allocations fit**: the slots, each dimension of a set budget
by the recorded sizes, one at a time without a budget. -/
structure WithinBudget (runtime : RuntimeConfig) (l : List Allocation) : Prop where
  sized : ∀ a ∈ l, a.size.isSome = true
  slots : l.length ≤ runtime.maxRunningVms.toNat
  computing : ∀ cpuCount memoryMb, runtime.hostCpuCount = some cpuCount →
    runtime.hostMemoryMb = some memoryMb →
    recordedSum (·.cpuCount.toNat) l ≤ cpuCount.toNat ∧
      recordedSum (·.memoryMb.toNat) l ≤ memoryMb.toNat
  storage : ∀ storageMb, runtime.hostStorageMb = some storageMb →
    recordedSum (·.storageMb.toNat) l + runtime.storageReserve.toNat ≤ storageMb.toNat
  serialized : runtime.hostCpuCount = none ∨ runtime.hostMemoryMb = none → l.length ≤ 1

theorem WithinBudget.nil {runtime : RuntimeConfig} (h : BudgetValid runtime) :
    WithinBudget runtime [] where
  sized := by simp
  slots := by simp
  computing := by simp [recordedSum]
  storage storageMb hs := by simpa [recordedSum] using (h.storage storageMb hs).2
  serialized := by simp

/-- It stays so where allocations only leave. -/
theorem WithinBudget.sublist {runtime : RuntimeConfig} (h : WithinBudget runtime l)
    (hsub : (l'.map Allocation.fixed).Sublist (l.map Allocation.fixed)) :
    WithinBudget runtime l' where
  sized a ha := by
    obtain ⟨x, hx, hxa⟩ := exists_sameRun_of_sublist hsub ha
    rw [hxa.size]
    exact h.sized x hx
  slots := by
    have hlength := hsub.length_le
    simp only [List.length_map] at hlength
    exact hlength.trans h.slots
  computing cpuCount memoryMb hc hm := by
    obtain ⟨hcpu, hmemory⟩ := h.computing cpuCount memoryMb hc hm
    exact ⟨(recordedSum_le_of_sublist hsub).trans hcpu,
      (recordedSum_le_of_sublist hsub).trans hmemory⟩
  storage storageMb hs :=
    (Nat.add_le_add_right (recordedSum_le_of_sublist hsub) _).trans (h.storage storageMb hs)
  serialized hnone := by
    have hlength := hsub.length_le
    simp only [List.length_map] at hlength
    exact hlength.trans (h.serialized hnone)

section Accepted

variable {entries : List Entry} {size : GuestSize} {machines : List HostMachine}
variable {hot : List HotGuest} {a : Allocation}

theorem committedCapacity_active {l : List Allocation} :
    (committedCapacity l config).active = l.length :=
  (foldl_committed (l.filterMap (chargedSize config)) { active := l.length }).1

section

variable (hok : ensureCapacity entries config size machines hot = .ok ())
include hok

theorem slots_of_ensureCapacity :
    (activeAllocations entries).length + 1 ≤ config.runtime.maxRunningVms.toNat := by
  have hslots := (ensureCapacity_eq_ok.mp hok).1
  rw [slotTotal, committedCapacity_active] at hslots
  omega

/-- Without a whole budget nothing may be active. -/
theorem serialized_of_ensureCapacity
    (hnone : config.runtime.hostCpuCount = none ∨ config.runtime.hostMemoryMb = none) :
    activeAllocations entries = [] := by
  have hactive := (ensureCapacity_eq_ok.mp hok).2.2 hnone
  rw [committedCapacity_active] at hactive
  exact List.length_eq_zero_iff.mp hactive

/-- The committed charge and the request, next to the budget. -/
theorem budget_of_ensureCapacity {cpuCount : UInt8} {memoryMb : UInt32}
    (hc : config.runtime.hostCpuCount = some cpuCount)
    (hm : config.runtime.hostMemoryMb = some memoryMb) :
    let committed := committedCapacity (activeAllocations entries) config
    committed.cpuCount.toNat + size.cpuCount.toNat ≤ cpuCount.toNat ∧
    min (committed.memoryMb.toNat + size.memoryMb.toNat) (2 ^ 32 - 1) ≤ memoryMb.toNat ∧
    ∀ storageMb, config.runtime.hostStorageMb = some storageMb →
      min (committed.storageMb.toNat + size.storageMb.toNat + config.runtime.storageReserve.toNat)
        (2 ^ 64 - 1) ≤ storageMb.toNat := by
  obtain ⟨-, hcpu, hmemory, hstorage⟩ :=
    (ensureCapacity_eq_ok.mp hok).2.1 (by rw [hc]; rfl) (by rw [hm]; rfl)
  have hcpu := hcpu cpuCount hc
  have hmemory := hmemory memoryMb hm
  simp only [chargeTotal, CommittedCapacity.charge, CommittedCapacity.plus, UInt32.le_iff_toNat_le,
    UInt64.le_iff_toNat_le, toNat_saturatingAdd32, toNat_saturatingAdd64, UInt8.toNat_toUInt32]
    at hcpu hmemory hstorage
  have := cpuCount.toNat_lt
  refine ⟨by omega, by omega, fun storageMb hs => ?_⟩
  have := hstorage storageMb hs
  omega

end

/-- **An accepted request fits beside what is active.** -/
theorem WithinBudget.admits (hvalid : BudgetValid config.runtime)
    (h : WithinBudget config.runtime (activeAllocations entries))
    (hok : ensureCapacity entries config size machines hot = .ok ()) (hsize : a.size = some size) :
    WithinBudget config.runtime (activeAllocations entries ++ [a]) := by
  obtain ⟨-, hcpu, hmemory, hstorage⟩ := @committedCapacity_of_sized config _ h.sized
  refine ⟨fun b hb => ?_, by simpa using slots_of_ensureCapacity hok,
    fun cpuCount memoryMb hc hm => ?_, fun storageMb hs => ?_, fun hnone => ?_⟩
  · rcases List.mem_append.mp hb with hb | hb
    · exact h.sized b hb
    · rw [List.mem_singleton.mp hb, hsize]
      rfl
  · obtain ⟨hcpuOk, hmemoryOk, -⟩ := budget_of_ensureCapacity hok hc hm
    have hcpuNow := (h.computing cpuCount memoryMb hc hm).1
    have hmemoryMax := hvalid.memory memoryMb hm
    have := cpuCount.toNat_lt
    rw [recordedSum_append_singleton hsize, recordedSum_append_singleton hsize]
    have hcommitted := hcpu (by omega)
    omega
  · obtain ⟨cpuCount, memoryMb, hc, hm⟩ := hvalid.whole storageMb hs
    obtain ⟨-, -, hstorageOk⟩ := budget_of_ensureCapacity hok hc hm
    have hsum := hstorageOk storageMb hs
    have hstorageMax := (hvalid.storage storageMb hs).1
    rw [recordedSum_append_singleton hsize]
    omega
  · simp [serialized_of_ensureCapacity hok hnone]

end Accepted

end FlanForge
