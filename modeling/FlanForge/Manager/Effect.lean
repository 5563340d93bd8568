import FlanForge.Manager.System

/-!
# What an operation changes

`exec` has one branch for each operation. `Effect` sorts the branches by
what they change of the part of the state the results are about: most
operations, and every failed one, change none of it. `exec_effect` is the
inversion every proof about single operations starts from. The rest of the
module says what the effects leave alone: the allocations of the entries,
the records of the hot table.
-/

namespace FlanForge

/-! ## Allocations of the entries -/

/-- The allocations the manager holds in memory. -/
def State.held (s : State) : List Allocation := s.entries.map (·.allocation)

/-- Allocations that are not terminal. -/
def State.active (s : State) : List Allocation := activeAllocations s.entries

variable {s s' : State} {id : AllocationId} {a : Allocation} {f : Entry → Entry}

theorem State.mem_active : a ∈ s.active ↔ a ∈ s.held ∧ a.state.isTerminal = false := by
  simp [active, activeAllocations, held]

theorem State.mem_held : a ∈ s.held ↔ ∃ e ∈ s.entries, e.allocation = a := by
  simp [held]

theorem State.allocation?_eq : s.allocation? id = Table.get Allocation.id id s.held := by
  simp only [allocation?, held, Table.get, List.find?_map, Function.comp_def]
  rfl

theorem State.mem_held_of_allocation? (h : s.allocation? id = some a) : a ∈ s.held ∧ a.id = id := by
  rw [allocation?_eq] at h
  exact ⟨Table.mem_of_get h, Table.key_of_get h⟩

/-- Under distinct identities an allocation is found by its own. -/
theorem State.allocation?_of_mem (hu : Table.Unique Entry.id s.entries) (ha : a ∈ s.held) :
    s.allocation? a.id = some a := by
  rw [allocation?_eq]
  refine Table.get_of_mem ?_ ha
  rw [Table.Unique, held, List.map_map]
  exact hu

/-- Changing an entry's flags changes no allocation. -/
theorem State.held_modifyEntry (hf : ∀ e, (f e).allocation = e.allocation) :
    (s.modifyEntry id f).held = s.held := by
  simp only [held, modifyEntry, Table.modify, List.map_map]
  refine List.map_congr_left fun e _ => ?_
  by_cases he : e.id = id <;> simp [he, hf]

/-- Only terminal entries are pruned. -/
theorem mem_pruneTerminalHistory {entries : List Entry} {limit : ℕ} {e : Entry}
    (hu : Table.Unique Entry.id entries) (he : e ∈ entries)
    (hactive : e.allocation.state.isTerminal = false) : e ∈ pruneTerminalHistory entries limit := by
  simp only [pruneTerminalHistory, List.mem_filter, Bool.not_eq_true', List.contains_eq_mem,
    decide_eq_false_iff_not, List.mem_map, not_exists, not_and]
  refine ⟨he, fun e' he' hid => ?_⟩
  have hmem := (List.mem_insertionSort _).mp (List.mem_of_mem_take he')
  obtain ⟨he'mem, hterminal⟩ := List.mem_filter.mp hmem
  obtain rfl : e' = e := by
    have h := Table.get_of_mem hu he'mem
    rw [hid, Table.get_of_mem hu he] at h
    exact (Option.some.inj h).symm
  rw [hactive] at hterminal
  cases hterminal

theorem pruneTerminalHistory_sublist (entries : List Entry) (limit : ℕ) :
    (pruneTerminalHistory entries limit).Sublist entries := List.filter_sublist

theorem mem_of_loadRecent {limit : ℕ} {stored : List Allocation}
    (h : a ∈ loadRecent stored limit) : a ∈ stored := by
  rcases List.mem_append.mp h with h | h
  · exact (List.mem_insertionSort _).mp (List.mem_of_mem_take h)
  · exact List.mem_of_mem_filter h

/-! ## Effects -/

/-- **What one operation does to the tables, the entries, the lock and the
history.** The clock and what only the backend reads may move in each. -/
inductive Effect (self fresh : TaskId) (s : State) : Op → State → Option Kind → Prop
  /-- Nothing of it changes. -/
  | quiet (op : Op) (clock : ℕ) (probe : Option (ℕ × List HostMachine))
      (quarantined : List ProfileName) (watched : Config) (host : List HostMachine) :
      Effect self fresh s op
        { s with
          clock := clock, probe := probe, quarantined := quarantined, watched := watched,
          host := host } none
  | read (clock : ℕ) :
      Effect self fresh s .hotLoadAll
        { s with clock := clock, history := s.history.read self } none
  | saved (base : Base) (guest : HotGuest) (clock : ℕ) (hot : HotTable) :
      s.hot.save guest = .ok hot →
      Effect self fresh s (.hotSave base guest)
        { s with clock := clock, hot := hot, history := s.history.saved self base guest } none
  | removed (vmName : VmName) (clock : ℕ) :
      Effect self fresh s (.hotRemove vmName)
        { s with
          clock := clock, hot := s.hot.remove vmName,
          history := s.history.removed self vmName } none
  | stored (a : Allocation) (clock : ℕ) : a.isValid = true → a.isStorable = true →
      Effect self fresh s (.saveAllocation a)
        { s with
          clock := clock, allocations := Table.put Allocation.id a s.allocations } none
  | locked (clock : ℕ) : s.lock = none →
      Effect self fresh s .lockEntries { s with clock := clock, lock := some self } none
  | unlocked (clock : ℕ) :
      Effect self fresh s .unlockEntries { s with clock := clock, lock := none } none
  | issued (id : AllocationId) (clock : ℕ) : id ∉ s.history.issued →
      Effect self fresh s .newAllocationId
        { s with clock := clock, history := s.history.issue id } none
  | committed (a : Allocation) (profile : Profile) (seen : List HotGuest) (clock : ℕ) :
      Effect self fresh s (.commit a profile seen)
        { s with
          clock := clock
          entries := pruneTerminalHistory (s.entries ++ [⟨a, false, true, false⟩]) historyLimit
          lock := none
          history := s.history.admits a fresh } (some (.worker a profile))
  | put (a : Allocation) (clock : ℕ) : s.lock = none →
      Effect self fresh s (.putAllocation a)
        { s with
          clock := clock
          entries := Table.modify Entry.id a.id (fun e => { e with allocation := a }) s.entries }
        none
  | cancelled (id : AllocationId) (clock : ℕ) : s.lock = none →
      Effect self fresh s (.beginCancel id)
        { s with
          clock := clock
          entries := Table.modify Entry.id id (fun e => { e with isCancelled := true }) s.entries }
        none
  /-- A cancel takes an entry nobody drives. -/
  | driven (id : AllocationId) (e : Entry) (clock : ℕ) : s.lock = none →
      Table.get Entry.id id s.entries = some e → e.allocation.state.isTerminal = false →
      e.isSupervised = false → e.isTerminalizing = false →
      Effect self fresh s (.beginCancel id)
        { s with
          clock := clock
          entries := Table.modify Entry.id id
            (fun e => { e with isCancelled := true, isTerminalizing := true }) s.entries
          history := s.history.drive id (some self) } none
  | ended (id : AllocationId) (clock : ℕ) : s.lock = none →
      Effect self fresh s (.endTerminalizing id)
        { s with
          clock := clock
          entries := Table.modify Entry.id id (fun e => { e with isTerminalizing := false })
            s.entries
          history := s.history.drive id none } none
  | released (id : AllocationId) (clock : ℕ) : s.lock = none →
      Effect self fresh s (.releaseSupervision id)
        { s with
          clock := clock
          entries := Table.modify Entry.id id (fun e => { e with isSupervised := false }) s.entries
          history := s.history.drive id none } none
  | loaded (allocations : List Allocation) (clock : ℕ) : s.lock = none →
      Effect self fresh s (.loadEntries allocations)
        { s with
          clock := clock
          entries := (loadInto s.entries allocations).1
          history := s.history.recovering self allocations } none
  | served (clock : ℕ) :
      Effect self fresh s .serve
        { s with clock := clock, isServing := true, history := s.history.recovered } none
  | noted (n : Note) (clock : ℕ) :
      Effect self fresh s (.note n) { s with clock := clock, history := s.history.note self n } none

/-- The turn of a cancel, as an effect. -/
theorem beginCancel_effect {self fresh : TaskId} {clock : ℕ} (hlock : s.lock = none) :
    Effect self fresh s (.beginCancel id) (({ s with clock := clock }).beginCancel self id).1
      none := by
  unfold State.beginCancel
  simp only
  split
  · exact .quiet _ _ _ _ _ _
  · rename_i e he
    split_ifs with hterminal hsupervised hterminalizing
    · exact .quiet _ _ _ _ _ _
    · exact .cancelled _ _ hlock
    · exact .cancelled _ _ hlock
    · exact .driven _ e _ hlock he (by simpa using hterminal) (by simpa using hsupervised)
        (by simpa using hterminalizing)

/-- **Every operation has one of these effects.** -/
theorem exec_effect {self fresh : TaskId} {op : Op} {ans : Answer} {r : op.Res}
    {spawned : Option Kind} (h : exec self fresh op ans s = some (s', r, spawned)) :
    Effect self fresh s op s' spawned := by
  cases op <;> simp only [exec] at h
  case hotLoadAll =>
    cases h
    split
    · exact .quiet _ _ _ _ _ _
    · exact .read _
  case hotSave base guest =>
    split at h
    · rename_i hot hsaved
      cases h
      refine .saved base guest _ hot ?_
      unfold Answer.stored at hsaved
      split at hsaved
      · cases hsaved
      · exact hsaved
    · cases h
      exact .quiet _ _ _ _ _ _
  case hotRemove vmName =>
    split at h <;> cases h
    · exact .quiet _ _ _ _ _ _
    · exact .removed _ _
  case saveAllocation a =>
    split_ifs at h with _ hvalid hstorable <;> cases h
    · exact .quiet _ _ _ _ _ _
    · exact .quiet _ _ _ _ _ _
    · exact .quiet _ _ _ _ _ _
    · exact .stored a _ (by simpa using hvalid) (by simpa using hstorable)
  case hotEvict guest =>
    cases h
    split <;> exact .quiet _ _ _ _ _ _
  case cloneGuest a =>
    cases h
    split <;> exact .quiet _ _ _ _ _ _
  case lockEntries =>
    split_ifs at h with hlock
    cases h
    exact .locked _ (by simpa [State.tick] using hlock)
  case unlockEntries =>
    cases h
    exact .unlocked _
  case newAllocationId =>
    split at h
    · split_ifs at h with hissued
      cases h
      exact .issued _ _ hissued
    · cases h
  case commit a profile seen =>
    cases h
    exact .committed a profile seen _
  case putAllocation a =>
    split_ifs at h with hlock
    cases h
    exact .put a _ (by simpa [State.tick] using hlock)
  case beginCancel id =>
    split_ifs at h with hlock
    cases h
    exact beginCancel_effect (by simpa [State.tick] using hlock)
  case endTerminalizing id =>
    split_ifs at h with hlock
    cases h
    exact .ended id _ (by simpa [State.tick] using hlock)
  case releaseSupervision id =>
    split_ifs at h with hlock
    cases h
    exact .released id _ (by simpa [State.tick] using hlock)
  case loadEntries allocations =>
    split_ifs at h with hlock
    cases h
    exact .loaded allocations _ (by simpa [State.tick] using hlock)
  case serve =>
    cases h
    exact .served _
  case note n =>
    cases h
    exact .noted n _
  case unixTime | workerStep | readEntries | awaitTerminal =>
    split_ifs at h
    cases h
    exact .quiet _ _ _ _ _ _
  all_goals
    cases h
    exact .quiet _ _ _ _ _ _

end FlanForge
