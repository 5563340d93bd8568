import FlanForge.Common.Counting
import FlanForge.Runs.Limits

/-!
# The size of the pool

A create that is to leave its machine in the pool counts the machines of a
snapshot taken before the lock and, under the lock, the live allocations
that will add one. A machine that its allocation leaves between the two
reads is in neither count, and nothing counts again when it is left. The
count is right for a create whose snapshot misses no machine but those live
allocations answer for.

The machines of the pool and the machines to come are one set of names
(`poolNames`). A hand-over moves a name from the one part to the other, so
only two things make the set grow: the commit of a retaining allocation, and
a write over a record that is gone.
-/

namespace FlanForge

open List

/-! ## The machines of the pool, and those to come -/

/-- The names of the records that hold a machine, readable or not. -/
def holdingNames (s : State) : List VmName :=
  (s.hot.records.filter (·.state.isHoldingMachine)).map (·.vmName)

/-- The names of the machines live allocations will leave in the pool. -/
def retainingNames (s : State) : List VmName := (s.active.filter (·.isRetaining)).map (·.vmName)

/-- The machines the pool holds, and the ones to come that it does not hold
yet. -/
def poolLoad (s : State) : ℕ :=
  (holdingNames s).length + ((retainingNames s).filter fun v => v ∉ holdingNames s).length

/-- Every machine of the pool is in the snapshot, or is held by a live hot
allocation. -/
def isSnapshotComplete (s : State) (seen : List HotGuest) : Bool :=
  (holdingNames s).all fun v =>
    seen.any (fun guest => guest.state.isHoldingMachine && guest.vmName = v) ||
      s.active.any fun a => a.hotLane.isSome && a.held = v

/-- A record is only written over one that holds a machine. -/
def isOverwrite (s : State) (guest : HotGuest) : Bool :=
  (s.hot.record guest.vmName).any (·.state.isHoldingMachine)

/-- A create that adds a machine to the pool has a complete snapshot and a
name of its own, no write revives a removed record, and the configuration
is fixed. -/
def countsPool : ManagerRegime where
  call s _ op _ :=
    match op with
    | .hotSave (.copy _) guest => isOverwrite s guest
    | .commit a _ seen => !a.isRetaining ||
        (isSnapshotComplete s seen && a.vmName ∉ retainingNames s)
    | _ => true
  start _ _ := true
  env _ e :=
    match e with
    | .reload _ => false
    | _ => true
  reboot _ := false

variable {w : Worlds} {t fresh : TaskId} {s s' : State} {op : Op} {ans : Answer}
variable {spawned : Option Kind} {a b : Allocation} {seen : List HotGuest} {vmName : VmName}

theorem mem_holdingNames (hs : s.hot.WellFormed) : vmName ∈ holdingNames s ↔
    ∃ guest, s.hot.record vmName = some guest ∧ guest.state.isHoldingMachine = true := by
  simp only [holdingNames, mem_map, mem_filter, hs.mem_records]
  constructor
  · rintro ⟨guest, ⟨hr, hholding⟩, rfl⟩
    exact ⟨guest, hr, hholding⟩
  · rintro ⟨guest, hr, hholding⟩
    have hname := hs.vmName_of_record hr
    exact ⟨guest, ⟨hname ▸ hr, hholding⟩, hname⟩

theorem nodup_holdingNames (hs : Inv s) : (holdingNames s).Nodup :=
  hs.hot.nodup_records.sublist (filter_sublist.map _)

theorem mem_retainingNames : vmName ∈ retainingNames s ↔
    ∃ a ∈ s.active, a.isRetaining = true ∧ a.vmName = vmName := by
  simp [retainingNames, and_assoc]

/-- The pool and what is to come, as one set. -/
def poolNames (s : State) : Finset VmName := (holdingNames s).toFinset ∪ (retainingNames s).toFinset

theorem mem_poolNames : vmName ∈ poolNames s ↔
    vmName ∈ holdingNames s ∨ vmName ∈ retainingNames s := by
  simp [poolNames]

/-! ## What makes it grow -/

/-- Fewer records, and only live allocations that were live. -/
theorem poolNames_subset (hholding : holdingNames s' ⊆ holdingNames s ++ retainingNames s)
    (hactive : ∀ b ∈ s'.active, ∃ x ∈ s.active, x.SameRun b) : poolNames s' ⊆ poolNames s := by
  intro v hv
  rcases mem_poolNames.mp hv with hv | hv
  · exact mem_poolNames.mpr (mem_append.mp (hholding hv))
  · obtain ⟨b, hb, hretaining, rfl⟩ := mem_retainingNames.mp hv
    obtain ⟨x, hx, hxb⟩ := hactive b hb
    refine mem_poolNames.mpr (.inr (mem_retainingNames.mpr ⟨x, hx, ?_, hxb.vmName.symm⟩))
    rw [← hretaining, Allocation.isRetaining, Allocation.isRetaining, hxb.hotLane, hxb.origin]

/-- A saved record adds no name: it is written over one that holds a machine,
or by the allocation that was to leave it. -/
theorem holdingNames_saved {base : Base} {guest : HotGuest} {clock : ℕ} {hot : HotTable}
    (hs : Inv s) (hspec : SaveSpec t s base guest)
    (hcall : countsPool.call s t (.hotSave base guest) ans = true)
    (hsave : s.hot.save guest = .ok hot) :
    holdingNames { s with clock := clock, hot := hot, history := s.history.saved t base guest } ⊆
      holdingNames s ++ retainingNames s := by
  intro v hv
  obtain ⟨g, hr, hholding⟩ := (mem_holdingNames (hs.hot.save hsave)).mp hv
  by_cases hname : guest.vmName = v
  · subst hname
    refine mem_append.mpr ?_
    cases base with
    | copy b =>
      have hover : isOverwrite s guest = true := hcall
      obtain ⟨old, hold, hholding⟩ := Option.any_eq_true _ _ |>.mp hover
      exact .inl ((mem_holdingNames hs.hot).mpr ⟨old, hold, hholding⟩)
    | fresh id =>
      obtain ⟨x, lane, now, hdrives, -, hactive, -, -, hlane, horigin, -, hguest⟩ := hspec
      have hheld := (State.mem_held_of_allocation? (hdrives.entry hactive)).1
      refine .inr (mem_retainingNames.mpr ⟨x, State.mem_active.mpr ⟨hheld, hactive⟩, ?_, ?_⟩)
      · simp [Allocation.isRetaining, hlane, horigin]
      · exact (vmName_of_retainedRecord hguest).1.symm
  · rw [HotTable.record_save_of_ne hsave hname] at hr
    exact mem_append.mpr (.inl ((mem_holdingNames hs.hot).mpr ⟨g, hr, hholding⟩))

/-! ## The check of a commit -/

/-- What `isPoolExpandable` counts, as names. -/
theorem length_inFlightRetentions {entries : List Entry} {hot : List HotGuest} :
    (inFlightRetentions entries hot).length =
      ((((activeAllocations entries).filter (·.hotLane.isSome)).map Allocation.held).filter fun v =>
        v ∉ (hot.filter (·.state.isHoldingMachine)).map (·.vmName)).length := by
  rw [inFlightRetentions, length_map, filter_map, length_map]
  congr 1
  refine filter_congr fun a _ => ?_
  have hmem : a.held.value ∈ (hot.filter (·.state.isHoldingMachine)).map (·.vmName.value) ↔
      a.held ∈ (hot.filter (·.state.isHoldingMachine)).map (·.vmName) := by
    simp only [mem_map]
    exact exists_congr fun g => and_congr_right fun _ => ⟨Identifier.ext_value, congrArg _⟩
  rw [contains_eq_mem, decide_eq_decide.mpr hmem, ← decide_not]
  rfl

/-- **An expandable pool has room**, if the snapshot is complete. -/
theorem card_poolNames_lt {limit : UInt8} (hcomplete : isSnapshotComplete s seen = true)
    (hroom : isPoolExpandable seen limit (inFlightRetentions s.entries seen) = true) :
    (poolNames s).card < limit.toNat := by
  have hsub : poolNames s ⊆ ((seen.filter (·.state.isHoldingMachine)).map (·.vmName)).toFinset ∪
      ((s.active.filter (·.hotLane.isSome)).map Allocation.held).toFinset := by
    intro v hv
    simp only [Finset.mem_union, mem_toFinset, mem_map, mem_filter]
    rcases mem_poolNames.mp hv with hv | hv
    · simp only [isSnapshotComplete, all_eq_true, Bool.or_eq_true, any_eq_true,
        Bool.and_eq_true, decide_eq_true_eq] at hcomplete
      rcases hcomplete v hv with ⟨guest, hg, hholding, hname⟩ | ⟨a, ha, hlane, hname⟩
      · exact .inl ⟨guest, ⟨hg, hholding⟩, hname⟩
      · exact .inr ⟨a, ⟨ha, hlane⟩, hname⟩
    · obtain ⟨a, ha, hretaining, rfl⟩ := mem_retainingNames.mp hv
      simp only [Allocation.isRetaining, Bool.and_eq_true, decide_eq_true_eq] at hretaining
      exact .inr ⟨a, ⟨ha, hretaining.1⟩, by simp [Allocation.held, hretaining.2,
        AllocationOrigin.hotVmName]⟩
  simp only [isPoolExpandable, length_inFlightRetentions, decide_eq_true_eq] at hroom
  calc (poolNames s).card
    _ ≤ _ := Finset.card_le_card hsub
    _ ≤ _ := card_union_le_length _ _
    _ < limit.toNat := by
      rw [length_map]
      exact hroom

theorem CommitSpec.expandable (h : CommitSpec t s a seen) (hfixed : ConfigFixed s)
    (hretaining : a.isRetaining = true) :
    isPoolExpandable seen s.config.runtime.maxHotVms (inFlightRetentions s.entries seen) =
      true := by
  obtain ⟨config, hconfig, size, machines, -, -, hclaim⟩ := h.capacity
  rw [hfixed.configs, mem_singleton] at hconfig
  subst hconfig
  simp only [Allocation.isRetaining, Bool.and_eq_true, decide_eq_true_eq] at hretaining
  simp only [ClaimSpec, hretaining.2] at hclaim
  exact hclaim hretaining.1

/-! ## The invariant -/

structure PoolBounded (s : State) : Prop where
  distinct : (retainingNames s).Nodup
  bounded : (poolNames s).card ≤ s.config.runtime.maxHotVms.toNat

theorem retainingNames_sublist
    (h : (s'.active.map Allocation.fixed).Sublist (s.active.map Allocation.fixed)) :
    (retainingNames s').Sublist (retainingNames s) := by
  have hpairs := map_sublist_of_fixed (g := fun a => (a.isRetaining, a.vmName)) (fun a b hab => by
    simp [Allocation.isRetaining, hab.hotLane, hab.origin, hab.vmName]) h
  have hnames := (hpairs.filter (·.1)).map (·.2)
  simpa [retainingNames, filter_map, Function.comp_def] using hnames

theorem poolLoad_eq_card (hs : Inv s) (h : (retainingNames s).Nodup) :
    poolLoad s = (poolNames s).card := length_eq_card_union (nodup_holdingNames hs) h

/-- The commit of a retaining allocation adds its name. -/
theorem PoolBounded.admits {profile : Profile} (hJ : PoolBounded s)
    (hspec : CommitSpec t s a seen) (hfixed : ConfigFixed s)
    (hcall : countsPool.call s t (.commit a profile seen) ans = true)
    (hactive : s'.active = s.active ++ [a]) (hhot : s'.hot = s.hot)
    (hconfig : s'.config = s.config) :
    PoolBounded s' := by
  have hholding : holdingNames s' = holdingNames s := by rw [holdingNames, hhot, holdingNames]
  cases hretaining : a.isRetaining with
  | false =>
    have hnames : retainingNames s' = retainingNames s := by
      simp [retainingNames, hactive, hretaining]
    exact ⟨by rw [hnames]; exact hJ.distinct, by
      rw [poolNames, hholding, hnames, hconfig]
      exact hJ.bounded⟩
  | true =>
    have hnames : retainingNames s' = retainingNames s ++ [a.vmName] := by
      simp [retainingNames, hactive, hretaining]
    simp only [countsPool, hretaining, Bool.not_true, Bool.false_or, Bool.and_eq_true,
      decide_eq_true_eq] at hcall
    have hroom := card_poolNames_lt hcall.1 (hspec.expandable hfixed hretaining)
    have hsub : poolNames s' ⊆ insert a.vmName (poolNames s) := by
      intro v hv
      rw [mem_poolNames, hholding, hnames, mem_append, mem_singleton] at hv
      rw [Finset.mem_insert, mem_poolNames]
      tauto
    have hdistinct := hJ.distinct.append (nodup_singleton a.vmName) (by simpa using hcall.2)
    refine ⟨hnames ▸ hdistinct, ?_⟩
    rw [hconfig]
    exact (Finset.card_le_card hsub).trans ((Finset.card_insert_le _ _).trans hroom)

theorem PoolBounded.step (hs : Inv s) (hserving : s.isServing = true) (hfixed : ConfigFixed s)
    (hspec : OpSpec t s op) (hcall : countsPool.call s t op ans = true)
    (he : Effect t fresh s op s' spawned) (hJ : PoolBounded s) : PoolBounded s' := by
  have hconfig := he.config_eq.1
  cases he.active hs hspec with
  | shrinks hsub =>
    have hlive : ∀ b ∈ s'.active, ∃ x ∈ s.active, x.SameRun b :=
      fun b hb => exists_sameRun_of_sublist hsub hb
    refine ⟨hJ.distinct.sublist (retainingNames_sublist hsub), ?_⟩
    rw [hconfig]
    refine (Finset.card_le_card (poolNames_subset ?_ hlive)).trans hJ.bounded
    -- only a save can add a record
    cases he with
    | saved base guest clock hot hsave => exact holdingNames_saved hs hspec hcall hsave
    | removed vmName clock =>
      intro v hv
      obtain ⟨g, hr, hholding⟩ := (mem_holdingNames hs.hot.remove).mp hv
      have hne : vmName ≠ v := by
        rintro rfl
        simp at hr
      refine mem_append.mpr (.inl ((mem_holdingNames hs.hot).mpr ⟨g, ?_, hholding⟩))
      rwa [HotTable.record_remove_of_ne hne] at hr
    | _ => exact fun v hv => mem_append.mpr (.inl hv)
  | admits a profile seen hop hactive =>
    subst hop
    refine hJ.admits hspec hfixed hcall hactive ?_ hconfig
    cases he <;> rfl
  | loads _ _ hload _ _ =>
    rw [hserving] at hload
    cases hload

theorem poolBounded_of_run (hw : Run countsPool w) : PoolBounded w.shared := by
  refine Run.invariant (J := PoolBounded) ?_ ?_ (fun _ _ h => ⟨h.distinct, h.bounded⟩) ?_ ?_ hw
  · intro s hs
    have hnone : retainingNames s = [] := by
      simp [retainingNames, State.active, activeAllocations, hs.entries]
    have hempty : holdingNames s = [] := by simp [holdingNames, HotTable.records, hs.hot]
    exact ⟨by simp [hnone], by simp [poolNames, hnone, hempty]⟩
  · intro w t fresh op ans s' spawned hw hJ hspec _ hcall he
    exact hJ.step hw.inv (serving_of_run (fun _ => rfl) hw)
      (configFixed_of_run (fun _ => rfl) (fun _ _ => rfl) hw) hspec hcall he
  · intro s e s' hJ hallow henv
    have hnames : retainingNames s' = retainingNames s := by
      rw [retainingNames, State.active_congr henv.held, retainingNames]
    have hholding : holdingNames s' = holdingNames s := by rw [holdingNames, henv.hot, holdingNames]
    rcases henv.config with ⟨hconfig, -⟩ | ⟨config, rfl, -⟩
    · exact ⟨by rw [hnames]; exact hJ.distinct, by
        rw [poolNames, hholding, hnames, hconfig]
        exact hJ.bounded⟩
    · cases hallow
  · intro t s _ hreboot
    cases hreboot

/-- **The pool and what is to join it stay within `max_hot_vms`.** -/
theorem pool_within_cap (hw : Run countsPool w) :
    poolLoad w.shared ≤ w.shared.config.runtime.maxHotVms.toNat := by
  have hbounded := poolBounded_of_run hw
  rw [poolLoad_eq_card hw.inv hbounded.distinct]
  exact hbounded.bounded

/-- The pool of the small installation, with its one machine in use. -/
theorem pool_within_cap_full : ∃ w, Run countsPool w ∧ poolLoad w.shared = 1 ∧
    poolLoad w.shared ≤ w.shared.config.runtime.maxHotVms.toNat := by
  obtain ⟨w, hw, hcheck⟩ : ∃ w, Run countsPool w ∧ (poolLoad w.shared = 1 : Bool) = true :=
    exists_run sampleState_started (firstJob ++ firstRelease ++ secondClaim) (by decide +kernel)
  exact ⟨w, hw, of_decide_eq_true hcheck, pool_within_cap hw⟩

/-! ## A machine nobody counts

Run 8 reads the empty pool while run 7 works. Run 7 leaves its machine and
ends; then run 8 takes the lock, where no live allocation is left to count. -/

/-- Run 7 is admitted, and run 8 comes as far as the lock. -/
def readsEmptyPool : List Event :=
  .start (.create (sampleBody 7 (.flag true)) (sampleClaims "7")) ::
    turns 0 18 { id := some firstId } ++
  (.start (.create (sampleBody 8 (.flag true)) (sampleClaims "8")) :: turns 2 9 {})

/-- **The cap is exceeded**: one machine allowed, one in the pool, one to come. -/
theorem pool_exceeds_cap : ∃ w, Run fixedConfig w ∧ poolLoad w.shared = 2 ∧
    w.shared.config.runtime.maxHotVms = 1 := by
  obtain ⟨w, hw, hcheck⟩ : ∃ w, Run fixedConfig w ∧ (poolLoad w.shared = 2 ∧
      w.shared.config.runtime.maxHotVms = 1 : Bool) = true :=
    exists_run sampleState_started
      (readsEmptyPool ++ turns 1 39 { count := 1 } ++ turns 2 7 { id := some secondId })
      (by decide +kernel)
  exact ⟨w, hw, of_decide_eq_true hcheck⟩

end FlanForge
