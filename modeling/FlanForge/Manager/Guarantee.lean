import FlanForge.Manager.Discipline

/-!
# Operations that meet their specification keep the discipline

`owes` is the one place where every operation is looked at: performed where
its specification holds, it keeps the invariant, it changes nothing another
task counts on, and the task it spawns finds what it expects. A program
therefore only has to be shown to meet the specifications.
-/

namespace FlanForge

open List History HotGuest

/-! ## The history only grows -/

namespace History

variable {h : History} {t : TaskId} {id : AllocationId} {vmName : VmName}

theorem grows_note (n : Note) : h.Grows (h.note t n) := by
  cases n <;> exact .of_eq rfl rfl rfl rfl

theorem grows_issue : h.Grows (h.issue id) :=
  { Grows.refl h with issued := subset_cons_self _ _ }

theorem grows_admits {a : Allocation} : h.Grows (h.admits a t) :=
  { Grows.refl h with admitted := subset_cons_self _ _ }

theorem grows_reloaded {config : Config} : h.Grows (h.reloaded config) :=
  { Grows.refl h with configs := subset_cons_self _ _ }

variable {base : Base} {guest : HotGuest}

/-- A save changes what was touched, pooled, drained and served. -/
@[simp] theorem saved_same : (h.saved t base guest).driver = h.driver ∧
    (h.saved t base guest).admitted = h.admitted ∧ (h.saved t base guest).current = h.current ∧
    (h.saved t base guest).issued = h.issued ∧ (h.saved t base guest).chosen = h.chosen ∧
    (h.saved t base guest).ordered = h.ordered ∧ (h.saved t base guest).configs = h.configs ∧
    (h.saved t base guest).recoverer = h.recoverer ∧
    (h.saved t base guest).touched = (h.wrote t guest.vmName).touched := by
  cases base with
  | copy b =>
    simp only [saved]
    split <;> exact ⟨rfl, rfl, rfl, rfl, rfl, rfl, rfl, rfl, rfl⟩
  | fresh id => exact ⟨rfl, rfl, rfl, rfl, rfl, rfl, rfl, rfl, rfl⟩

@[simp] theorem saved_copy_pooled {b : HotGuest} :
    (h.saved t (.copy b) guest).pooled = h.pooled := by
  simp only [saved]
  split <;> rfl

@[simp] theorem saved_copy_jobs {b : HotGuest} : (h.saved t (.copy b) guest).jobs = h.jobs := by
  simp only [saved]
  split <;> rfl

@[simp] theorem saved_fresh_pooled :
    (h.saved t (.fresh id) guest).pooled = guest.pooled (some id) :: h.pooled := rfl

theorem grows_saved : h.Grows (h.saved t base guest) where
  admitted := by simp
  issued := by simp
  configs := by simp
  pooled := by cases base <;> simp

end History

/-! ## Records that are written -/

section Records

variable {t fresh : TaskId} {s s' : State} {b guest : HotGuest} {base : Base}

/-- A rewritten record is about the same machine. -/
theorem Rewrites.pooled_eq (h : Rewrites t s b guest) (builder : Option AllocationId) :
    guest.pooled builder = b.pooled builder := by
  cases h with
  | stamped | drained | adopted => rfl
  | released x now _ _ _ _ _ _ h =>
    obtain ⟨-, rfl⟩ := ensureReleased_eq_ok.mp h
    rfl
  | joined now _ _ _ h =>
    obtain ⟨-, rfl⟩ := ensureState_eq_ok.mp h
    rfl
  | claimed id age now _ _ _ _ _ _ _ _ h =>
    simp only [claimRecord] at h
    split at h
    · cases h
    · rename_i g hg
      cases h
      obtain ⟨-, rfl⟩ := ensureClaimed_eq_ok.mp hg
      rfl

/-- The machine of a saved record is in the history after the save. -/
theorem SaveSpec.pooled (h : SaveSpec t s base guest) :
    ∃ builder, guest.pooled builder ∈ (s.history.saved t base guest).pooled := by
  cases base with
  | copy b =>
    obtain ⟨hk, hr⟩ := h
    obtain ⟨builder, hb⟩ := hk.pooled
    exact ⟨builder, by rw [hr.pooled_eq builder]; simpa using hb⟩
  | fresh id => exact ⟨some id, by simp⟩

theorem claimRecord_eq_ok {id : AllocationId} {age : Option UInt64} {now : UInt64} :
    claimRecord b id age now = .ok guest ↔ b.state = .idle ∧
      guest = { b with
        state := .claimed, updatedAtUnix := now, claimedBy := some id,
        ageLimitSeconds := age.or b.ageLimitSeconds } := by
  unfold claimRecord
  split
  · rename_i e he
    simp only [reduceCtorEq, false_iff, not_and]
    rintro hidle rfl
    rw [ensureClaimed_eq_ok.mpr ⟨hidle, rfl⟩] at he
    cases he
  · rename_i g hg
    obtain ⟨hidle, rfl⟩ := ensureClaimed_eq_ok.mp hg
    simp [hidle, eq_comm]

/-- **A rewritten record is as readable as the one it was made from, unless a
claimed record was drained.** -/
theorem Known.rewrites {h : History} (hk : Known h b) (hr : Rewrites t s b guest) :
    guest.isStorable = true ∧ guest.isInRange = true ∧
      (guest.isValid = true ↔ ¬ (b.state = .claimed ∧ guest.state = .draining)) := by
  have hstorable := hk.storable
  obtain ⟨hrange, hclaim⟩ := isValid_iff.mp hk.valid
  simp only [isStorable, isInRange, Bool.and_eq_true, decide_eq_true_eq]
    at hstorable hrange
  obtain ⟨⟨⟨⟨h₁, h₂⟩, h₃⟩, h₄⟩, -⟩ := hstorable
  -- a rewritten record has new times and perhaps a new age limit
  have hfits : ∀ g : HotGuest, g.size = b.size → g.warmGeneration = b.warmGeneration →
      g.bootedAtUnix = b.bootedAtUnix → g.ageLimitSeconds.all (·.toNat < 2 ^ 63) = true →
      g.updatedAtUnix.toNat < 2 ^ 63 → g.isStorable = true := by
    intro g hsize hwarm hbooted hage hnow
    simp only [isStorable, hsize, hwarm, hbooted, hage, h₁, h₂, h₄, hnow, decide_true,
      Bool.and_true]
  cases hr with
  | stamped reason =>
    refine ⟨hk.storable, (isValid_iff.mp hk.valid).1, iff_of_true hk.valid ?_⟩
    rintro ⟨hclaimed, hdraining⟩
    simp [hclaimed] at hdraining
  | drained reason now hnow hstate =>
    refine ⟨hfits _ rfl rfl rfl h₃ hnow, ?_⟩
    simp [isValid_iff, isInRange, *]
  | released x now _ hnow _ _ _ _ h =>
    obtain ⟨hs, rfl⟩ := ensureReleased_eq_ok.mp h
    refine ⟨hfits _ rfl rfl rfl h₃ hnow, ?_⟩
    simp [isValid_iff, isInRange, *]
  | joined now _ hnow hnone h =>
    obtain ⟨-, rfl⟩ := ensureState_eq_ok.mp h
    refine ⟨hfits _ rfl rfl rfl h₃ hnow, ?_⟩
    simp [isValid_iff, isInRange, *]
  | adopted now jobs hnow =>
    refine ⟨hfits _ rfl rfl rfl h₃ hnow, ?_⟩
    simp [isValid_iff, isInRange, *]
  | claimed id age now _ _ _ hnow _ _ _ hage h =>
    obtain ⟨hs, rfl⟩ := claimRecord_eq_ok.mp h
    have hor : (age.or b.ageLimitSeconds).all (·.toNat < 2 ^ 63) = true ∧
        (age.or b.ageLimitSeconds).all (1 ≤ ·) = true := by
      cases age with
      | none => exact ⟨h₃, hrange.2⟩
      | some value =>
        obtain ⟨hmin, hmax⟩ := hage value rfl
        have hnat : value.toNat ≤ 604800 := hmax
        exact ⟨by simpa using by omega, by simpa using hmin⟩
    refine ⟨hfits _ rfl rfl rfl hor.1 hnow, ?_⟩
    simp [isValid_iff, isInRange, *]

end Records

/-! ## The invariant -/

section Invariant

variable {t fresh : TaskId} {s s' : State} {op : Op} {spawned : Option Kind} {clock : ℕ}
variable {seen : List HotGuest}

/-- A write to the hot table, with the machine it is about on record. -/
theorem Inv.write (hs : Inv s) {hot : HotTable} {h : History} (hhot : hot.WellFormed)
    (hrecord : ∀ v g, hot.record v = some g →
      s.hot.record v = some g ∨ ∃ builder, g.pooled builder ∈ h.pooled) (hg : s.history.Grows h)
    (hd : h.driver = s.history.driver) (ha : h.admitted = s.history.admitted)
    (hp : ∀ p ∈ h.pooled, ∀ id, p.builder = some id → id ∈ s.history.issued) :
    Inv { s with clock := clock, hot := hot, history := h } := by
  refine ⟨hhot, fun v g hv => ?_, hg.configs hs.config, hs.unique,
    fun a h => (hs.held a h).grow hg, fun a h => (hs.durable a h).grow hg, fun a h => ?_,
    fun p h id hid => hg.issued (hp p h id hid),
    fun id u hu => hg.issued (hs.driven id u (by rwa [← hd])), fun hv e he h₁ h₂ => ?_⟩
  · rcases hrecord v g hv with hv | hv
    · obtain ⟨builder, hb⟩ := hs.pooled v g hv
      exact ⟨builder, hg.pooled hb⟩
    · exact hv
  · exact hg.issued (hs.admitted a (by simpa only [ha] using h))
  · simpa only [hd] using hs.undriven hv e he h₁ h₂

/-- A change of marks only. -/
theorem Inv.mark (hs : Inv s) {h : History} (hd : h.driver = s.history.driver)
    (ha : h.admitted = s.history.admitted) (hi : h.issued = s.history.issued)
    (hc : h.configs = s.history.configs) (hp : h.pooled = s.history.pooled) :
    Inv { s with clock := clock, history := h } :=
  hs.write hs.hot (fun v g hv => .inl hv) (.of_eq ha hi hc hp) hd ha
    fun p h => hs.builder p (by rwa [← hp])

/-- A saved record's machine is on record, and its builder's identity given
out. -/
theorem Inv.saved (hs : Inv s) {base : Base} {guest : HotGuest} {hot : HotTable}
    (hspec : SaveSpec t s base guest) (hsave : s.hot.save guest = .ok hot) :
    Inv { s with clock := clock, hot := hot, history := s.history.saved t base guest } := by
  refine hs.write (hs.hot.save hsave) (fun v g hv => ?_) grows_saved
    (by simp) (by simp) ?_
  · by_cases hne : guest.vmName = v
    · subst hne
      rw [HotTable.record_save_self hsave] at hv
      cases hv
      exact .inr hspec.pooled
    · rw [HotTable.record_save_of_ne hsave hne] at hv
      exact .inl hv
  · cases base with
    | copy b => simpa using hs.builder
    | fresh id =>
      obtain ⟨x, _, _, hx, rfl, _⟩ := hspec
      intro p hp id hid
      simp only [saved_fresh_pooled, mem_cons] at hp
      rcases hp with rfl | hp
      · cases hid
        exact hs.driven _ _ hx.driver
      · exact hs.builder p hp id hid

theorem Inv.removed (hs : Inv s) {vmName : VmName} :
    Inv { s with
      clock := clock, hot := s.hot.remove vmName, history := s.history.removed t vmName } := by
  refine hs.write hs.hot.remove (fun v g hv => ?_) (.of_eq rfl rfl rfl rfl) rfl rfl hs.builder
  by_cases hne : vmName = v
  · subst hne
    simp at hv
  · rw [HotTable.record_remove_of_ne hne] at hv
    exact .inl hv

/-- A change of an entry's flags, and of who drives it. -/
theorem Inv.flag (hs : Inv s) {id : AllocationId} {f : Entry → Entry} {d : Option TaskId}
    (hf : ∀ e, (f e).allocation = e.allocation) (hid : ∀ u, d = some u → id ∈ s.history.issued)
    (hd : s.isServing = true → ∀ e ∈ s.entries, e.id = id → (f e).isSupervised = false →
      (f e).isTerminalizing = false → d = none) :
    Inv { s with
      clock := clock, entries := Table.modify Entry.id id f s.entries,
      history := s.history.drive id d } := by
  have hg : s.history.Grows (s.history.drive id d) := .of_eq rfl rfl rfl rfl
  have hheld : (s.modifyEntry id f).held = s.held := State.held_modifyEntry hf
  have hkey : ∀ e, Entry.id e = id → Entry.id (f e) = id := fun e he => by
    rw [Entry.id, hf]
    exact he
  refine { hs with
    unique := Table.unique_modify hkey hs.unique
    held := fun a ha => (hs.held a (hheld ▸ ha)).grow hg
    durable := fun a ha => (hs.durable a ha).grow hg
    driven := fun id' u hu => ?_
    undriven := fun hv e he h₁ h₂ => ?_ }
  · by_cases hne : id' = id
    · subst hne
      exact hid u (by simpa [drive] using hu)
    · exact hs.driven id' u (by simpa [drive, hne] using hu)
  · rcases Table.mem_modify he with ⟨e₀, he₀, hid₀, rfl⟩ | ⟨he₀, hid₀⟩
    · simpa [drive, hkey e₀ hid₀] using hd hv e₀ he₀ hid₀ h₁ h₂
    · simpa [drive, hid₀] using hs.undriven hv e he₀ h₁ h₂

/-- The driver of an entry may be written over by itself. -/
theorem History.drive_self (h : History) (id : AllocationId) : h.drive id (h.driver id) = h := by
  simp [drive]

/-- An allocation is written back by its driver. -/
theorem Inv.put (hs : Inv s) {a : Allocation} (ha : Recorded s.history a) :
    Inv { s with
      clock := clock
      entries := Table.modify Entry.id a.id (fun e => { e with allocation := a }) s.entries } := by
  refine { hs with
    unique := Table.unique_modify (fun _ _ => rfl) hs.unique
    held := fun b hb => ?_
    undriven := fun hv e he h₁ h₂ => ?_ }
  · obtain ⟨e, he, rfl⟩ := State.mem_held.mp hb
    rcases Table.mem_modify he with ⟨e₀, -, -, rfl⟩ | ⟨he₀, -⟩
    · exact ha
    · exact hs.held _ (State.mem_held.mpr ⟨e, he₀, rfl⟩)
  · rcases Table.mem_modify he with ⟨e₀, he₀, hid₀, rfl⟩ | ⟨he₀, -⟩
    · have h := hs.undriven hv e₀ he₀ h₁ h₂
      rwa [hid₀] at h
    · exact hs.undriven hv e he₀ h₁ h₂

/-- The new entry's identity is its own. -/
theorem CommitSpec.unique {a : Allocation} (h : CommitSpec t s a seen) (hs : Inv s) :
    Table.Unique Entry.id (s.entries ++ [⟨a, false, true, false⟩]) := by
  rw [Table.Unique, map_append, nodup_append]
  refine ⟨hs.unique, by simp, fun i hi j hj => ?_⟩
  obtain ⟨e, he, rfl⟩ := mem_map.mp hi
  obtain rfl : j = a.id := by simpa [Entry.id] using hj
  exact h.unused e he

/-- An admitted allocation gets an entry of its own. -/
theorem Inv.commit (hs : Inv s) {a : Allocation} (hspec : CommitSpec t s a seen) :
    Inv { s with
      clock := clock
      entries := pruneTerminalHistory (s.entries ++ [⟨a, false, true, false⟩]) historyLimit
      lock := none
      history := s.history.admits a fresh } := by
  have hg : s.history.Grows (s.history.admits a fresh) := grows_admits
  have hsub := pruneTerminalHistory_sublist (s.entries ++ [⟨a, false, true, false⟩]) historyLimit
  have hmem : ∀ e ∈ pruneTerminalHistory (s.entries ++ [⟨a, false, true, false⟩]) historyLimit,
      e ∈ s.entries ∨ e = ⟨a, false, true, false⟩ := fun e he => by
    simpa using hsub.subset he
  refine { hs with
    unique := ?_
    held := fun b hb => ?_
    durable := fun b hb => (hs.durable b hb).grow hg
    admitted := fun b hb => ?_
    driven := fun id u hu => ?_
    undriven := fun hv e he h₁ h₂ => ?_ }
  · exact List.Nodup.sublist (hsub.map Entry.id) (hspec.unique hs)
  · obtain ⟨e, he, rfl⟩ := State.mem_held.mp hb
    rcases hmem e he with he | rfl
    · exact (hs.held _ (State.mem_held.mpr ⟨e, he, rfl⟩)).grow hg
    · exact hspec.recorded.grow hg
  · rcases mem_cons.mp hb with rfl | hb
    · exact hspec.recorded.issued
    · exact hs.admitted b hb
  · by_cases hne : id = a.id
    · subst hne
      exact hspec.recorded.issued
    · exact hs.driven id u (by simpa [admits, drive, begin, hne] using hu)
  · rcases hmem e he with he | rfl
    · have hne : e.id ≠ a.id := hspec.unused e he
      simpa [admits, drive, begin, hne] using hs.undriven hv e he h₁ h₂
    · cases h₁

/-- Loading adds entries of the loaded allocations only, each once. -/
theorem loadInto_spec {entries : List Entry} (allocations : List Allocation)
    (hu : Table.Unique Entry.id entries) :
    Table.Unique Entry.id (loadInto entries allocations).1 ∧
      ∀ e ∈ (loadInto entries allocations).1, e ∈ entries ∨ e.allocation ∈ allocations := by
  induction allocations generalizing entries with
  | nil => exact ⟨hu, fun e he => .inl he⟩
  | cons a rest ih =>
    simp only [loadInto]
    split
    · exact ⟨hu, fun e he => .inl he⟩
    · rename_i hnew
      have hu' : Table.Unique Entry.id (entries ++ [⟨a, false, false, false⟩]) := by
        rw [Table.Unique, map_append, nodup_append]
        refine ⟨hu, by simp, fun i hi j hj hij => hnew ?_⟩
        obtain ⟨e, he, rfl⟩ := mem_map.mp hi
        obtain rfl : j = a.id := by simpa [Entry.id] using hj
        exact any_eq_true.mpr ⟨e, he, by simpa using hij⟩
      obtain ⟨hunique, hmem⟩ := ih hu'
      refine ⟨hunique, fun e he => ?_⟩
      rcases hmem e he with he | he
      · rcases mem_append.mp he with he | he
        · exact .inl he
        · obtain rfl : e = ⟨a, false, false, false⟩ := by simpa using he
          exact .inr (by simp)
      · exact .inr (by simp [he])

/-- Recovery loads what is durable. -/
theorem Inv.load (hs : Inv s) {allocations : List Allocation} (hserving : s.isServing = false)
    (hentries : s.entries = []) (hdurable : ∀ a ∈ allocations, a ∈ s.allocations) :
    Inv { s with
      clock := clock
      entries := (loadInto s.entries allocations).1
      history := s.history.recovering t allocations } := by
  have hg : s.history.Grows (s.history.recovering t allocations) := .of_eq rfl rfl rfl rfl
  obtain ⟨hunique, hmem⟩ := loadInto_spec allocations hs.unique
  refine { hs with
    unique := hunique
    held := fun a ha => ?_
    durable := fun a ha => (hs.durable a ha).grow hg
    driven := fun id u hu => ?_
    undriven := fun hv => by simp [hserving] at hv }
  · obtain ⟨e, he, rfl⟩ := State.mem_held.mp ha
    rcases hmem e he with he | he
    · simp [hentries] at he
    · exact (hs.durable _ (hdurable _ he)).grow hg
  · simp only [recovering] at hu
    split at hu
    · rename_i hany
      obtain ⟨a, ha, hid⟩ := any_eq_true.mp hany
      obtain rfl : a.id = id := by simpa using hid
      exact (hs.durable a (hdurable a ha)).issued
    · exact hs.driven id u hu

/-- **Every operation keeps the invariant.** -/
theorem Inv.effect (hs : Inv s) (hspec : Spec t op s) (he : Effect t fresh s op s' spawned) :
    Inv s' := by
  obtain ⟨-, hspec⟩ := hspec
  cases he with
  | quiet | locked | unlocked => exact { hs with }
  | read => exact hs.mark rfl rfl rfl rfl rfl
  | saved base guest _ _ hsave => exact hs.saved hspec hsave
  | removed => exact hs.removed
  | stored a _ hvalid hstorable =>
    refine { hs with durable := fun b hb => ?_ }
    rcases Table.mem_put hb with rfl | hb
    · exact hspec hvalid hstorable
    · exact hs.durable b hb
  | issued id _ hnew =>
    have hg : s.history.Grows (s.history.issue id) := grows_issue
    exact { hs with
      held := fun a ha => (hs.held a ha).grow hg
      durable := fun a ha => (hs.durable a ha).grow hg
      admitted := fun a ha => hg.issued (hs.admitted a ha)
      builder := fun p hp id hid => hg.issued (hs.builder p hp id hid)
      driven := fun id u hu => hg.issued (hs.driven id u hu) }
  | committed => exact hs.commit hspec
  | put a => exact hs.put hspec.recorded
  | cancelled id =>
    rw [← drive_self s.history id]
    refine hs.flag (fun _ => rfl) (fun u hu => hs.driven id u hu) fun hv e he hid h₁ h₂ => ?_
    rw [← hid]
    exact hs.undriven hv e he h₁ h₂
  | driven id e _ _ hget =>
    refine hs.flag (fun _ => rfl) (fun _ _ => ?_) fun _ _ _ _ _ h₂ => by cases h₂
    have hissued := (hs.held _ (State.mem_held.mpr ⟨e, Table.mem_of_get hget, rfl⟩)).issued
    have hid : e.id = id := Table.key_of_get hget
    exact hid ▸ hissued
  | ended id => exact hs.flag (fun _ => rfl) (fun _ h => by cases h) fun _ _ _ _ _ _ => rfl
  | released id => exact hs.flag (fun _ => rfl) (fun _ h => by cases h) fun _ _ _ _ _ _ => rfl
  | loaded => exact hs.load hspec.1 hspec.2.1 hspec.2.2
  | served =>
    have hg : s.history.Grows s.history.recovered := .of_eq rfl rfl rfl rfl
    exact { hs with
      held := fun a ha => (hs.held a ha).grow hg
      durable := fun a ha => (hs.durable a ha).grow hg
      driven := fun _ _ h => by cases h
      undriven := fun _ _ _ _ _ => rfl }
  | noted n => cases n <;> exact hs.mark rfl rfl rfl rfl rfl

end Invariant

/-! ## What the other tasks count on -/

section Reliance

variable {t u fresh : TaskId} {s s' : State} {op : Op} {spawned : Option Kind}

/-- Two tasks move only while requests are served. -/
theorem Alive.serving (ht : Alive t s) (hu : Alive u s) (hne : u ≠ t) : s.isServing = true := by
  rcases ht with ht | ht
  · exact ht
  · rcases hu with hu | hu
    · exact hu
    · rw [ht] at hu
      exact absurd (Option.some.inj hu).symm hne

/-- What has to be checked of a step, apart from the recovery; whatever the step
leaves alone need not be. -/
structure Undisturbed (u : TaskId) (s s' : State) : Prop where
  lock : s.lock = some u → s'.lock = some u ∧ s'.entries = s.entries ∧
    s'.history.driver = s.history.driver ∧ s'.history.admitted = s.history.admitted ∧
    s'.history.issued = s.history.issued := by exact fun hl => ⟨hl, rfl, rfl, rfl, rfl⟩
  driver : ∀ id, s.history.driver id = some u → s'.history.driver id = some u := by
    exact fun _ h => h
  entry : ∀ x, s.history.driver x.id = some u → x.state.isTerminal = false →
    s.allocation? x.id = some x → s'.allocation? x.id = some x := by exact fun _ _ _ h => h
  pooled : ∀ p ∈ s'.history.pooled, p ∈ s.history.pooled ∨
    ∃ id v, p.builder = some id ∧ s.history.driver id = some v ∧ v ≠ u := by exact fun _ h => .inl h
  chosen : ∀ v, (u, v) ∈ s'.history.chosen ↔ (u, v) ∈ s.history.chosen := by exact fun _ => Iff.rfl
  ordered : ∀ v, (u, v) ∈ s.history.ordered → (u, v) ∈ s'.history.ordered := by exact fun _ h => h
  untouched : ∀ v, v ∉ s'.history.touched u →
    v ∉ s.history.touched u ∧ s'.hot.record v = s.hot.record v := by exact fun _ h => ⟨h, rfl⟩
  current : s.history.current ⊆ s'.history.current := by exact List.Subset.refl _
  grows : s.history.Grows s'.history := by exact .refl _

theorem Rely.of_step (halive : Alive u s') (hserving : s.isServing = true → s'.isServing = true)
    (hsolo : s.isServing = false → s'.isServing = false ∧ s'.held = s.held ∧
      s'.allocations = s.allocations) (h : Undisturbed u s s') : Rely u s s' where
  alive := halive
  serving := hserving
  solo := hsolo
  locked hl := by
    obtain ⟨hl', he, hd, ha, hi⟩ := h.lock hl
    refine ⟨hl', he, hd, ha, hi, fun id hid hu p hp => ?_⟩
    rcases h.pooled p hp with hp | ⟨id', v, hb, hdr, -⟩
    · exact hu p hp
    · rintro hb'
      rw [hb] at hb'
      cases hb'
      simp [hid] at hdr
  driver := h.driver
  drives x hx := ⟨h.driver _ hx.driver, fun hx' => h.entry x hx.driver hx' (hx.entry hx')⟩
  unpooled id hid hu p hp := by
    rcases h.pooled p hp with hp | ⟨id', v, hb, hdr, hne⟩
    · exact hu p hp
    · rintro hb'
      rw [hb] at hb'
      cases hb'
      rw [hid] at hdr
      exact hne (Option.some.inj hdr).symm
  chosen := h.chosen
  ordered := h.ordered
  untouched := h.untouched
  current := h.current
  grows := h.grows

/-- A step while requests are served has no recovery to mind. -/
theorem Rely.of_serving (hv : s.isServing = true) (hv' : s'.isServing = true)
    (h : Undisturbed u s s') : Rely u s s' :=
  .of_step (.inl hv') (fun _ => hv') (fun h => by simp [hv] at h) h

/-- A step that leaves the entries, the lock and the pool alone. -/
theorem Rely.of_marks (hv : s.isServing = true) {clock : ℕ} {allocations : List Allocation}
    {h : History} (hd : h.driver = s.history.driver) (ha : h.admitted = s.history.admitted)
    (hi : h.issued = s.history.issued) (hc : h.configs = s.history.configs)
    (hp : h.pooled = s.history.pooled) (hcur : h.current = s.history.current)
    (htouched : h.touched u = s.history.touched u)
    (hchosen : ∀ v, (u, v) ∈ h.chosen ↔ (u, v) ∈ s.history.chosen)
    (hordered : ∀ v, (u, v) ∈ s.history.ordered → (u, v) ∈ h.ordered) :
    Rely u s { s with clock := clock, allocations := allocations, history := h } :=
  .of_serving hv hv {
    lock := fun hl => ⟨hl, rfl, hd, ha, hi⟩
    driver := fun id hid => by simpa only [hd] using hid
    pooled := fun p hpm => .inl (by simpa only [hp] using hpm)
    chosen := hchosen
    ordered := hordered
    untouched := fun v hvm => ⟨by simpa only [htouched] using hvm, rfl⟩
    current := by simp only [hcur]; exact List.Subset.refl _
    grows := .of_eq ha hi hc hp }

/-- A step of an entry's flags by its driver, or of an entry nobody drives. -/
theorem Rely.of_flag (hv : s.isServing = true) (hlock : s.lock = none) {clock : ℕ}
    {id : AllocationId} {f : Entry → Entry} {d : Option TaskId}
    (hf : ∀ e, (f e).allocation = e.allocation)
    (hd : s.history.driver id = some u → d = some u) :
    Rely u s { s with
      clock := clock, entries := Table.modify Entry.id id f s.entries,
      history := s.history.drive id d } := by
  have hheld : (s.modifyEntry id f).held = s.held := State.held_modifyEntry hf
  refine .of_serving hv hv {
    lock := fun hl => by simp [hlock] at hl
    driver := fun id' hid => ?_
    entry := fun x _ _ hx => ?_
    grows := .of_eq rfl rfl rfl rfl }
  · by_cases hne : id' = id
    · subst hne
      simpa [drive] using hd hid
    · simpa [drive, hne] using hid
  · rw [State.allocation?_eq] at hx ⊢
    exact hheld.symm ▸ hx

/-- A write to the hot table by another task. -/
theorem Rely.of_write (hv : s.isServing = true) (hne : u ≠ t) {clock : ℕ} {hot : HotTable}
    {h : History} {vmName : VmName} (hd : h.driver = s.history.driver)
    (ha : h.admitted = s.history.admitted) (hi : h.issued = s.history.issued)
    (hcur : h.current = s.history.current) (hch : h.chosen = s.history.chosen)
    (hor : h.ordered = s.history.ordered)
    (htouched : h.touched = (s.history.wrote t vmName).touched)
    (hrecord : ∀ v, vmName ≠ v → hot.record v = s.hot.record v)
    (hpooled : ∀ p ∈ h.pooled, p ∈ s.history.pooled ∨
      ∃ id v, p.builder = some id ∧ s.history.driver id = some v ∧ v ≠ u)
    (hg : s.history.Grows h) :
    Rely u s { s with clock := clock, hot := hot, history := h } := by
  refine .of_serving hv hv {
    lock := fun hl => ⟨hl, rfl, hd, ha, hi⟩
    driver := fun id hid => by simpa only [hd] using hid
    pooled := hpooled
    chosen := fun _ => by simp only [hch]
    ordered := fun _ h => by simpa only [hor] using h
    untouched := fun v hvm => ?_
    current := by simp only [hcur]; exact List.Subset.refl _
    grows := hg }
  simp only [htouched, wrote, hne, if_false, mem_cons, not_or] at hvm
  exact ⟨hvm.2, hrecord v (Ne.symm hvm.1)⟩

/-- **No operation changes what another task counts on.** -/
theorem Rely.effect (hs : Inv s) (hspec : Spec t op s) (he : Effect t fresh s op s' spawned)
    (hs' : Inv s') (hut : u ≠ t) (huf : u ≠ fresh) (hu : Alive u s) : Rely u s s' := by
  obtain ⟨ht, hspec⟩ := hspec
  have hv : s.isServing = true := ht.serving hu hut
  have hmine (hl : s.lock = some t) (hl' : s.lock = some u) : False :=
    hut (Option.some.inj (hl'.symm.trans hl))
  cases he with
  | quiet => exact .of_serving hv hv {}
  | read =>
    exact .of_marks hv rfl rfl rfl rfl rfl rfl (by simp [History.read, hut]) (fun _ => Iff.rfl)
      fun _ h => h
  | saved base guest _ _ hsave =>
    refine .of_write hv hut (by simp) (by simp) (by simp) (by simp) (by simp) (by simp)
      (by simp) (fun v hne => HotTable.record_save_of_ne hsave hne) (fun p hp => ?_)
      grows_saved
    cases base with
    | copy b => exact .inl (by simpa using hp)
    | fresh id =>
      obtain ⟨x, _, _, hx, rfl, _⟩ := hspec
      simp only [saved_fresh_pooled, mem_cons] at hp
      rcases hp with rfl | hp
      · exact .inr ⟨x.id, t, rfl, hx.driver, Ne.symm hut⟩
      · exact .inl hp
  | removed =>
    exact .of_write hv hut rfl rfl rfl rfl rfl rfl rfl
      (fun v hne => HotTable.record_remove_of_ne hne) (fun p hp => .inl hp) (.of_eq rfl rfl rfl rfl)
  | stored => exact .of_marks hv rfl rfl rfl rfl rfl rfl rfl (fun _ => Iff.rfl) fun _ h => h
  | locked _ hlock => exact .of_serving hv hv { lock := fun hl => by simp [hlock] at hl }
  | unlocked => exact .of_serving hv hv { lock := fun hl => (hmine hspec hl).elim }
  | issued =>
    exact .of_serving hv hv {
      lock := fun hl => (hmine hspec hl).elim
      grows := grows_issue }
  | committed a profile seen =>
    have hne : ∀ id, s.history.driver id = some u → id ≠ a.id := by
      rintro id hid rfl
      simp [CommitSpec.undriven hspec] at hid
    refine .of_serving hv hv {
      lock := fun hl => (hmine (CommitSpec.locked hspec) hl).elim
      driver := fun id hid => ?_
      entry := fun x hx hactive hget => ?_
      chosen := fun v => ?_
      ordered := fun v hvm => ?_
      current := subset_cons_self _ _
      grows := grows_admits }
    · simpa [admits, drive, begin, hne id hid] using hid
    · refine State.allocation?_of_mem hs'.unique ?_
      obtain ⟨e, he, hex⟩ := State.mem_held.mp (State.mem_held_of_allocation? hget).1
      subst hex
      refine State.mem_held.mpr ⟨e, ?_, rfl⟩
      exact mem_pruneTerminalHistory (CommitSpec.unique hspec hs) (by simp [he]) hactive
    · simp [admits, drive, begin, huf]
    · simpa [admits, drive, begin, huf] using hvm
  | put a _ hlock =>
    obtain ⟨x, hx, -, hadv⟩ := hspec.drives
    refine .of_serving hv hv {
      lock := fun hl => by simp [hlock] at hl
      entry := fun y hy _ hget => ?_ }
    -- an entry has one driver, so what is put is another's
    have hne : a.id ≠ y.id := by
      intro hid
      rw [← hid, hadv.same.id, hx.driver] at hy
      exact hut (Option.some.inj hy).symm
    have hkey : ∀ e, Entry.id e = a.id → Entry.id { e with allocation := a } = a.id :=
      fun _ _ => rfl
    simp only [State.allocation?] at hget ⊢
    rwa [Table.get_modify_of_ne hkey hne]
  | cancelled id _ hlock =>
    rw [← drive_self s.history id]
    exact .of_flag hv hlock (fun _ => rfl) fun hd => hd
  | driven id e _ hlock hget hactive hsup hterm =>
    refine .of_flag hv hlock (fun _ => rfl) fun hd => ?_
    have hnone := hs.undriven hv e (Table.mem_of_get hget) hsup hterm
    rw [show e.id = id from Table.key_of_get hget, hd] at hnone
    cases hnone
  | ended id _ hlock | released id _ hlock =>
    refine .of_flag hv hlock (fun _ => rfl) fun hd => ?_
    rw [hspec.1] at hd
    exact absurd (Option.some.inj hd).symm hut
  | loaded | served =>
    -- only recovery does either, and no other task moves then
    have hns : s.isServing = false := by first | exact hspec.1 | exact hspec
    simp [hv] at hns
  | noted n =>
    refine .of_marks hv ?_ ?_ ?_ ?_ ?_ ?_ ?_ ?_ ?_ <;> cases n <;>
      simp_all [note]

/-- A new worker drives the allocation it was spawned for. -/
theorem ready_of_commit {a : Allocation} {profile : Profile} {seen : List HotGuest} (hs : Inv s)
    (hspec : CommitSpec t s a seen) (he : Effect t fresh s (.commit a profile seen) s' spawned)
    (hs' : Inv s') {k : Kind} (hk : spawned = some k) : Ready k fresh s' := by
  cases he with
  | quiet => cases hk
  | committed =>
    cases hk
    refine ⟨.inl hspec.serving, fun v => by simp [admits, drive, begin],
      hspec.serving, ⟨by simp [admits, drive], fun _ => ?_⟩, hspec.state,
      mem_cons_self, mem_cons_self, hspec.unpooled⟩
    refine State.allocation?_of_mem hs'.unique
      (State.mem_held.mpr ⟨⟨a, false, true, false⟩, ?_, rfl⟩)
    exact mem_pruneTerminalHistory (hspec.unique hs) (by simp)
      (by simp [hspec.state, AllocationState.isTerminal])

/-- **An operation performed where its specification holds keeps the
discipline.** -/
theorem owes (hs : Inv s) (hspec : Spec t op s) {ans : Answer} {r : op.Res}
    (hexec : exec t fresh op ans s = some (s', r, spawned)) :
    discipline.Owes t fresh s s' spawned := by
  have he := exec_effect hexec
  have hs' : Inv s' := hs.effect hspec he
  refine ⟨hs', fun u hut huf hu => Rely.effect hs hspec he hs' hut huf hu, fun k hk => ?_⟩
  cases he with
  | committed a profile seen =>
    exact ready_of_commit hs hspec.2 (.committed a profile seen _) hs' hk
  | _ => cases hk

end Reliance

/-! ## The environment, new tasks, restarts -/

section Outside

variable {t u : TaskId} {s s' : State} {k : Kind} {e : Env}

/-- Shutting down cancels entries and changes no allocation. -/
theorem held_close {c : Entry → Bool} :
    (s.entries.map fun e => if c e then { e with isCancelled := true } else e).map (·.allocation) =
      s.held := by
  rw [map_map, State.held]
  refine map_congr_left fun e _ => ?_
  by_cases h : c e = true <;> simp [h]

/-- **The environment keeps the invariant and what every task counts on.** -/
theorem env_keeps (hs : Inv s) (h : envMove e s = some s') :
    Inv s' ∧ ∀ t, Alive t s → Rely t s s' := by
  cases e with
  | host | images =>
    cases h
    exact ⟨{ hs with }, fun t ht => .of_step ht (fun h => h) (fun h => ⟨h, rfl, rfl⟩) {}⟩
  | reload config =>
    simp only [envMove] at h
    split at h
    · cases h
      have hg : s.history.Grows (s.history.reloaded config) := grows_reloaded
      refine ⟨{ hs with
        config := mem_cons_self
        held := fun a ha => (hs.held a ha).grow hg
        durable := fun a ha => (hs.durable a ha).grow hg }, fun t ht => ?_⟩
      exact .of_step ht (fun h => h) (fun h => ⟨h, rfl, rfl⟩) { grows := hg }
    · cases h
  | close =>
    simp only [envMove] at h
    split at h
    · rename_i hlock
      cases h
      have hlock : s.lock = none := by simpa using hlock
      refine ⟨{ hs with
        unique := ?_
        held := fun a ha => hs.held a (held_close ▸ ha)
        undriven := fun hv e he h₁ h₂ => ?_ }, fun t ht => ?_⟩
      · have h := congrArg (List.map Allocation.id) (held_close (s := s)
          (c := fun e => !e.allocation.state.isTerminal && (e.isSupervised || e.isTerminalizing)))
        rw [map_map] at h
        rw [Table.Unique, show Entry.id = Allocation.id ∘ Entry.allocation from rfl, h,
          State.held, map_map]
        exact hs.unique
      · obtain ⟨e₀, he₀, rfl⟩ := mem_map.mp he
        split at h₁
        · rename_i hc
          rw [if_pos hc] at h₂ ⊢
          exact hs.undriven hv e₀ he₀ h₁ h₂
        · rename_i hc
          rw [if_neg hc] at h₂ ⊢
          exact hs.undriven hv e₀ he₀ h₁ h₂
      · refine .of_step ht (fun h => h) (fun h => ⟨h, held_close, rfl⟩) {
          lock := fun hl => by simp [hlock] at hl
          entry := fun x _ _ h => ?_ }
        rw [State.allocation?_eq] at h ⊢
        exact (congrArg (Table.get Allocation.id x.id) held_close).trans h
    · cases h

/-- A new task is only remembered. -/
theorem startTask_eq (h : startTask k t s = some s') :
    (s.isServing = true ∧ (∀ a p, k ≠ .worker a p) ∧ k ≠ .recover) ∧
      s' = { s with history := s.history.begin t } := by
  cases k <;> simp only [startTask] at h
  case worker | recover => cases h
  all_goals
    split at h
    · cases h
      exact ⟨⟨by assumption, by simp, by simp⟩, rfl⟩
    · cases h

/-- A task started from outside finds a serving process and has no marks. -/
theorem start_keeps (hs : Inv s) (h : startTask k t s = some s') :
    Inv s' ∧ Ready k t s' ∧ ∀ u, u ≠ t → Alive u s → Rely u s s' := by
  obtain ⟨⟨hv, hworker, hrecover⟩, rfl⟩ := startTask_eq h
  refine ⟨hs.mark (h := s.history.begin t) rfl rfl rfl rfl rfl, ⟨.inl hv, fun v => ?_, ?_⟩,
    fun u hut hu => ?_⟩
  · simp [begin]
  · cases k
    case worker a p => exact absurd rfl (hworker a p)
    case recover => exact absurd rfl hrecover
    all_goals exact hv
  · refine .of_marks hv (h := s.history.begin t) rfl rfl rfl rfl rfl rfl rfl (fun v => ?_)
      fun v hv' => ?_
    · simp [begin, hut]
    · simpa [begin, hut] using hv'

/-- A restart leaves what is durable, and the recovery finds no entries. -/
theorem reboot_keeps (t : TaskId) (hs : Inv s) :
    Inv (reboot t s).1 ∧ Ready (reboot t s).2 t (reboot t s).1 := by
  have hg : s.history.Grows (s.history.restart t) := .of_eq rfl rfl rfl rfl
  refine ⟨{ hs with
    unique := nodup_nil
    held := fun a ha => by simp [State.held, reboot] at ha
    durable := fun a ha => (hs.durable a ha).grow hg
    driven := fun _ _ h => by cases h
    undriven := fun h => by cases h }, .inr rfl, fun v => ?_, rfl, rfl⟩
  simp [reboot, restart]

end Outside

end FlanForge
