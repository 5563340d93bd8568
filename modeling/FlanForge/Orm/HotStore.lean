import FlanForge.Orm.HotGuest

/-!
# The hot record store

The table of hot records and its four operations. `HotTable.record` is what
a row says when its columns are parsed and its validator is not run: the
record the last `save` under that name was given. Every operation is
described through it, so nothing above this module looks at a row:
`hotLoad` answers with the record when it is valid and with an error when
it is not, and `hotLoadAll` lists exactly the valid ones.
-/

namespace FlanForge

open Table

/-- Why a store operation failed. -/
structure StoreError where
  message : String
  deriving DecidableEq, Repr

/-- The rows of the hot table. -/
abbrev HotTable := List HotGuestModel

namespace HotTable

/-- Every readable record; an unreadable row is skipped. -/
def loadAll (table : HotTable) : List HotGuest :=
  table.filterMap fun row => (hotGuestFromModel row).toOption

/-- The record under a name; an unreadable row is an error. -/
def load (table : HotTable) (vmName : VmName) : Except StoreError (Option HotGuest) :=
  match get HotGuestModel.vmName vmName.value table with
  | none => .ok none
  | some row =>
    match hotGuestFromModel row with
    | .ok guest => .ok (some guest)
    | .error e => .error ⟨e.message⟩

/-- Write a record under its name. The record is converted, not validated. -/
def save (table : HotTable) (guest : HotGuest) : Except StoreError HotTable :=
  match hotGuestToModel guest with
  | .ok row => .ok (put HotGuestModel.vmName row table)
  | .error e => .error ⟨e.message⟩

/-- Drop the record under a name. -/
def remove (table : HotTable) (vmName : VmName) : HotTable :=
  erase HotGuestModel.vmName vmName.value table

/-- The record last written under a name, valid or not. -/
def record (table : HotTable) (vmName : VmName) : Option HotGuest :=
  (get HotGuestModel.vmName vmName.value table).bind fun row =>
    (hotGuestOfColumns row).toOption

/-- Every record of the table, valid or not. -/
def records (table : HotTable) : List HotGuest :=
  table.filterMap fun row => (hotGuestOfColumns row).toOption

/-- The rows were all written by `save`, and no name has two. -/
structure WellFormed (table : HotTable) : Prop where
  unique : Table.Unique HotGuestModel.vmName table
  written : ∀ row ∈ table, ∃ guest, hotGuestToModel guest = .ok row

variable {table table' : HotTable} {guest : HotGuest} {vmName : VmName}

theorem wellFormed_nil : WellFormed [] where
  unique := List.nodup_nil
  written := by simp

/-! ## What `save` and `remove` do to the records -/

theorem save_eq_ok : table.save guest = .ok table' ↔
    ∃ row, hotGuestToModel guest = .ok row ∧ table' = put HotGuestModel.vmName row table := by
  unfold HotTable.save
  cases hotGuestToModel guest <;> simp [eq_comm]

theorem WellFormed.save (h : table.WellFormed) (hs : table.save guest = .ok table') :
    table'.WellFormed := by
  obtain ⟨row, hrow, rfl⟩ := save_eq_ok.mp hs
  refine ⟨unique_put h.unique, fun row' hrow' => ?_⟩
  rcases mem_put hrow' with rfl | hmem
  · exact ⟨guest, hrow⟩
  · exact h.written row' hmem

theorem WellFormed.remove (h : table.WellFormed) : (table.remove vmName).WellFormed where
  unique := unique_erase h.unique
  written row hrow := h.written row (mem_erase.mp hrow).1

/-- The saved record is the one under its name. -/
theorem record_save_self (hs : table.save guest = .ok table') :
    table'.record guest.vmName = some guest := by
  obtain ⟨row, hrow, rfl⟩ := save_eq_ok.mp hs
  rw [record, ← vmName_of_hotGuestToModel hrow, get_put_self]
  simp [hotGuestOfColumns_toModel hrow, Except.toOption]

/-- Saving leaves the other names alone. -/
theorem record_save_of_ne (hs : table.save guest = .ok table') (hne : guest.vmName ≠ vmName) :
    table'.record vmName = table.record vmName := by
  obtain ⟨row, hrow, rfl⟩ := save_eq_ok.mp hs
  have hkey : row.vmName ≠ vmName.value := by
    rw [vmName_of_hotGuestToModel hrow]
    exact fun h => hne (Identifier.ext_value h)
  rw [record, get_put_of_ne hkey, record]

@[simp] theorem record_remove_self : (table.remove vmName).record vmName = none := by
  simp [record, remove]

theorem record_remove_of_ne {removed : VmName} (hne : removed ≠ vmName) :
    (table.remove removed).record vmName = table.record vmName := by
  have hkey : removed.value ≠ vmName.value := fun h => hne (Identifier.ext_value h)
  rw [record, remove, get_erase_of_ne hkey, record]

/-! ## What `load` and `loadAll` read -/

namespace WellFormed

variable (h : table.WellFormed)
include h

/-- There is a row under a name exactly when there is a record, and it is the one
the record was written to. -/
theorem get_cases (vmName : VmName) :
    get HotGuestModel.vmName vmName.value table = none ∧ table.record vmName = none ∨
      ∃ row guest, get HotGuestModel.vmName vmName.value table = some row ∧
        hotGuestToModel guest = .ok row ∧ table.record vmName = some guest := by
  cases hrow : get HotGuestModel.vmName vmName.value table with
  | none => exact .inl ⟨rfl, by simp [record, hrow]⟩
  | some row =>
    obtain ⟨guest, hguest⟩ := h.written row (Table.mem_of_get hrow)
    exact .inr ⟨row, guest, rfl, hguest, by
      simp [record, hrow, hotGuestOfColumns_toModel hguest, Except.toOption]⟩

theorem row_of_record (hr : table.record vmName = some guest) :
    ∃ row, get HotGuestModel.vmName vmName.value table = some row ∧
      hotGuestToModel guest = .ok row := by
  rcases h.get_cases vmName with ⟨-, hnone⟩ | ⟨row, guest', hrow, hguest, hrecord⟩
  · cases hnone.symm.trans hr
  · cases hrecord.symm.trans hr
    exact ⟨row, hrow, hguest⟩

/-- A record sits under its own name. -/
theorem vmName_of_record (hr : table.record vmName = some guest) :
    guest.vmName = vmName := by
  obtain ⟨row, hrow, hguest⟩ := h.row_of_record hr
  apply Identifier.ext_value
  rw [← vmName_of_hotGuestToModel hguest, key_of_get hrow]

/-- **`load` answers with the record, or with an error when it is invalid.** -/
theorem load_eq_some :
    table.load vmName = .ok (some guest) ↔
      table.record vmName = some guest ∧ guest.isValid = true := by
  rcases h.get_cases vmName with ⟨hrow, hnone⟩ | ⟨row, guest', hrow, hguest, hrecord⟩
  · simp [load, hrow, hnone]
  · simp only [load, hrow, hotGuestFromModel_toModel hguest, hrecord]
    by_cases hv : guest'.isValid = true
    · simp only [hv, if_true, Except.ok.injEq, Option.some.injEq]
      exact ⟨fun he => ⟨he, he ▸ hv⟩, fun he => he.1⟩
    · simp only [hv, Bool.false_eq_true, if_false, reduceCtorEq, Option.some.injEq, false_iff,
        not_and]
      rintro rfl
      exact hv

/-- `load` answers that there is no record exactly when there is none. -/
theorem load_eq_none : table.load vmName = .ok none ↔ table.record vmName = none := by
  rcases h.get_cases vmName with ⟨hrow, hnone⟩ | ⟨row, guest', hrow, hguest, hrecord⟩
  · simp [load, hrow, hnone]
  · simp only [load, hrow, hotGuestFromModel_toModel hguest, hrecord]
    by_cases hv : guest'.isValid = true <;> simp [hv]

/-- `records` lists exactly what is under some name. -/
theorem mem_records :
    guest ∈ table.records ↔ table.record guest.vmName = some guest := by
  simp only [records, List.mem_filterMap]
  constructor
  · rintro ⟨row, hrow, hg⟩
    obtain ⟨guest', hguest'⟩ := h.written row hrow
    simp only [hotGuestOfColumns_toModel hguest', Except.toOption, Option.some.injEq] at hg
    subst hg
    have hget := get_of_mem h.unique hrow
    rw [vmName_of_hotGuestToModel hguest'] at hget
    simp [record, hget, hotGuestOfColumns_toModel hguest', Except.toOption]
  · intro hr
    obtain ⟨row, hrow, hguest⟩ := h.row_of_record hr
    exact ⟨row, Table.mem_of_get hrow, by simp [hotGuestOfColumns_toModel hguest, Except.toOption]⟩

/-- No name has two records. -/
theorem nodup_records : (table.records.map (·.vmName)).Nodup := by
  have hvalues : ∀ l : HotTable, (∀ row ∈ l, ∃ guest, hotGuestToModel guest = .ok row) →
      (records l).map (·.vmName.value) = l.map (·.vmName) := by
    intro l hl
    induction l with
    | nil => rfl
    | cons row l ih =>
      obtain ⟨guest, hguest⟩ := hl row List.mem_cons_self
      have hrecord : (hotGuestOfColumns row).toOption = some guest := by
        rw [hotGuestOfColumns_toModel hguest]
        rfl
      have htail := ih fun row' hrow' => hl row' (List.mem_cons_of_mem _ hrow')
      simp only [records, List.filterMap_cons, hrecord, List.map_cons,
        vmName_of_hotGuestToModel hguest] at htail ⊢
      rw [htail]
  have hnodup : (table.records.map (·.vmName.value)).Nodup := hvalues table h.written ▸ h.unique
  exact List.Nodup.of_map (·.value) (by rwa [List.map_map])

/-- The listing is the valid part of the records. -/
theorem loadAll_eq : table.loadAll = table.records.filter (·.isValid) := by
  rw [records, List.filter_filterMap]
  refine List.filterMap_congr fun row hrow => ?_
  obtain ⟨guest, hguest⟩ := h.written row hrow
  rw [hotGuestFromModel_toModel hguest, hotGuestOfColumns_toModel hguest]
  cases hv : guest.isValid <;> simp [Except.toOption, Option.filter, hv]

/-- **`loadAll` lists exactly the valid records.** -/
theorem mem_loadAll :
    guest ∈ table.loadAll ↔ table.record guest.vmName = some guest ∧ guest.isValid = true := by
  rw [h.loadAll_eq, List.mem_filter, h.mem_records]

/-- The listing names every machine once. -/
theorem nodup_loadAll : (table.loadAll.map (·.vmName)).Nodup := by
  rw [h.loadAll_eq]
  exact h.nodup_records.sublist (List.filter_sublist.map _)

theorem records_remove :
    (table.remove vmName).records = table.records.filter (·.vmName ≠ vmName) := by
  rw [records, HotTable.remove, erase, List.filterMap_filter, records, List.filter_filterMap]
  refine List.filterMap_congr fun row hrow => ?_
  obtain ⟨guest, hguest⟩ := h.written row hrow
  have hkey : row.vmName = vmName.value ↔ guest.vmName = vmName := by
    rw [vmName_of_hotGuestToModel hguest]
    exact ⟨Identifier.ext_value, congrArg _⟩
  rw [hotGuestOfColumns_toModel hguest]
  by_cases hname : guest.vmName = vmName <;> simp [Except.toOption, Option.filter, hkey, hname]

/-- Removing a record takes it from the listing, and nothing else. -/
theorem loadAll_remove :
    (table.remove vmName).loadAll = table.loadAll.filter (·.vmName ≠ vmName) := by
  rw [h.remove.loadAll_eq, h.records_remove, h.loadAll_eq, List.filter_filter, List.filter_filter]
  exact List.filter_congr fun _ _ => Bool.and_comm _ _

/-- Saving a readable change of a listed record changes it where it is listed. -/
theorem loadAll_save {f : HotGuest → HotGuest} (hmem : guest ∈ table.loadAll)
    (hname : (f guest).vmName = guest.vmName) (hvalid : (f guest).isValid = true)
    (hs : table.save (f guest) = .ok table') :
    table'.loadAll = table.loadAll.map fun g => if g.vmName = guest.vmName then f g else g := by
  obtain ⟨hrecord, hguest⟩ := h.mem_loadAll.mp hmem
  obtain ⟨row, hrow, hwritten⟩ := h.row_of_record hrecord
  obtain ⟨row', hrow', rfl⟩ := save_eq_ok.mp hs
  have hkey : row.vmName = row'.vmName := by
    rw [vmName_of_hotGuestToModel hwritten, vmName_of_hotGuestToModel hrow', hname]
  rw [Table.put_eq_modify h.unique (Table.mem_of_get hrow) hkey, loadAll, Table.modify,
    List.filterMap_map, loadAll, List.map_filterMap]
  refine List.filterMap_congr fun x hx => ?_
  obtain ⟨g, hg⟩ := h.written x hx
  have hnames : x.vmName = row'.vmName ↔ g.vmName = guest.vmName := by
    rw [← hkey, vmName_of_hotGuestToModel hg, vmName_of_hotGuestToModel hwritten]
    exact ⟨Identifier.ext_value, congrArg _⟩
  simp only [Function.comp_apply, hnames]
  by_cases hsame : g.vmName = guest.vmName
  · -- the row of the record itself
    have hget := get_of_mem h.unique hx
    rw [hnames.mpr hsame, ← hkey, vmName_of_hotGuestToModel hwritten, hrow] at hget
    cases hget
    have : g = guest := by
      have := (hotGuestOfColumns_toModel hg).symm.trans (hotGuestOfColumns_toModel hwritten)
      exact Except.ok.inj this
    subst this
    simp [hotGuestFromModel_toModel hrow', hotGuestFromModel_toModel hwritten, hvalid, hguest,
      Except.toOption]
  · rw [if_neg hsame, hotGuestFromModel_toModel hg]
    cases g.isValid <;> simp [Except.toOption, hsame]

end WellFormed

/-- A removal forgets a save under the same name. -/
theorem remove_of_save (hs : table.save guest = .ok table') :
    table'.remove guest.vmName = table.remove guest.vmName := by
  obtain ⟨row, hrow, rfl⟩ := save_eq_ok.mp hs
  rw [remove, ← vmName_of_hotGuestToModel hrow, erase_put, remove,
    ← vmName_of_hotGuestToModel hrow]

end HotTable

end FlanForge
