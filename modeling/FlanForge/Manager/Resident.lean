import FlanForge.Common.Keyset
import FlanForge.Core.Sample
import FlanForge.Manager.Effect

/-!
# The resident history

The entries a process holds are a window on the allocation table: they start
as what `load_recent` returned, every `create` inserts one and trims the rest
to the history limit, and everything else only updates an allocation in place.
This module runs the window alone, for any table and any limit.

An update is in flight from the lock section it reads its copy in to the one
it puts the copy back in. It reads the clock, changes the copy and stores the
row in between, while others do the same and while a `create` trims. A
`create` holds the lock from before it stores the row of its new allocation,
which nobody else knows, until it has trimmed, and is one move.
-/

namespace FlanForge

open List Table

/-! ## What is loaded, what is trimmed -/

/-- `ORDER BY updated_at_unix DESC, id DESC`: the first comes no later. -/
def Allocation.IsNewer (a b : Allocation) : Prop :=
  b.updatedAtUnix < a.updatedAtUnix ∨
    (b.updatedAtUnix = a.updatedAtUnix ∧ b.id.value ≤ a.id.value)

instance : DecidableRel Allocation.IsNewer := fun _ _ => inferInstanceAs (Decidable (_ ∨ _))

instance : Std.Total Allocation.IsNewer := ⟨fun a b => by
  have hid := String.le_total a.id.value b.id.value
  unfold Allocation.IsNewer
  grind⟩

instance : IsTrans Allocation Allocation.IsNewer := ⟨fun a b c hab hbc => by
  have hid := @String.le_trans c.id.value b.id.value a.id.value
  unfold Allocation.IsNewer at *
  grind⟩

instance : Std.Total Entry.isOlder := ⟨fun a b => by
  have hid := String.le_total a.allocation.id.value b.allocation.id.value
  unfold Entry.isOlder
  grind⟩

instance : IsTrans Entry Entry.isOlder := ⟨fun a b c hab hbc => by
  have hid := @String.le_trans a.allocation.id.value b.allocation.id.value c.allocation.id.value
  unfold Entry.isOlder at *
  grind⟩

section Select

variable {table : List Allocation} {entries : List Entry} {limit : ℕ} {a b : Allocation}
variable {e e' : Entry}

/-- The first query of `load_recent`. -/
def newest (table : List Allocation) (limit : ℕ) : List Allocation :=
  (table.insertionSort Allocation.IsNewer).take limit

theorem loadRecent_eq (table : List Allocation) (limit : ℕ) :
    loadRecent table limit = newest table limit ++ table.filter fun a =>
      !a.state.isTerminal && !(newest table limit).any (·.id = a.id) := rfl

theorem mem_of_newest (ha : a ∈ newest table limit) : a ∈ table :=
  (mem_insertionSort _).mp (mem_of_mem_take ha)

/-- No identity is loaded twice. -/
theorem loadRecent_nodup (hu : Table.Unique Allocation.id table) :
    ((loadRecent table limit).map Allocation.id).Nodup := by
  have hsorted : ((table.insertionSort Allocation.IsNewer).map Allocation.id).Nodup :=
    ((perm_insertionSort _ table).map _).nodup_iff.mpr hu
  rw [loadRecent_eq, map_append, nodup_append]
  refine ⟨hsorted.sublist ((take_sublist _ _).map _), ?_, ?_⟩
  · exact hu.sublist (filter_sublist.map _)
  · rintro id hnewest id' hlive rfl
    obtain ⟨a, ha, hid⟩ := mem_map.mp hnewest
    obtain ⟨b, hb, rfl⟩ := mem_map.mp hlive
    have hseen : (newest table limit).any (·.id = b.id) = true :=
      any_eq_true.mpr ⟨a, ha, by simpa using hid⟩
    simp [hseen] at hb

/-- Unfinished work is loaded wherever it stands in the table. -/
theorem mem_loadRecent_of_unfinished (hu : Table.Unique Allocation.id table) (ha : a ∈ table)
    (hstate : a.state.isTerminal = false) : a ∈ loadRecent table limit := by
  rw [loadRecent_eq, mem_append]
  by_cases hseen : (newest table limit).any (·.id = a.id) = true
  · left
    obtain ⟨b, hb, hid⟩ := any_eq_true.mp hseen
    have heq : b = a := inj_on_of_nodup_map hu (mem_of_newest hb) ha (by simpa using hid)
    exact heq ▸ hb
  · right
    simp only [mem_filter, hstate, Bool.not_eq_true] at hseen ⊢
    simp [ha, hseen]

/-- Finished work that is loaded is among the newest rows, so what is left
behind is no newer. -/
theorem updatedAtUnix_le_of_loaded (ha : a ∈ table) (hleft : a ∉ loadRecent table limit)
    (hb : b ∈ loadRecent table limit) (hterminal : b.state.isTerminal = true) :
    a.updatedAtUnix ≤ b.updatedAtUnix := by
  rw [loadRecent_eq, mem_append] at hleft hb
  have hbnew : b ∈ newest table limit := by
    refine hb.resolve_right fun h => ?_
    simp [hterminal] at h
  have hnewer : b.IsNewer a := Keyset.rel_of_taken hbnew ha fun h => hleft (.inl h)
  rcases hnewer with hlt | ⟨heq, -⟩
  · exact UInt64.le_of_lt hlt
  · exact UInt64.le_of_eq heq

/-- The entries a trim removes. -/
def trimmed (entries : List Entry) (limit : ℕ) : List Entry :=
  ((entries.filter (·.allocation.state.isTerminal)).insertionSort Entry.isOlder).take
    (entries.length - limit)

theorem mem_of_trimmed (he : e ∈ trimmed entries limit) :
    e ∈ entries ∧ e.allocation.state.isTerminal = true := by
  have hmem := (mem_insertionSort _).mp (mem_of_mem_take he)
  simpa using hmem

theorem trimmed_nodup (hu : Table.Unique Entry.id entries) : (trimmed entries limit).Nodup := by
  have hsorted := (perm_insertionSort Entry.isOlder
    (entries.filter (·.allocation.state.isTerminal))).nodup_iff.mpr
    ((List.Nodup.of_map _ hu).filter _)
  exact hsorted.sublist (take_sublist _ _)

/-- What stays is what is not removed. -/
theorem mem_pruneTerminalHistory_iff (hu : Table.Unique Entry.id entries) :
    e ∈ pruneTerminalHistory entries limit ↔ e ∈ entries ∧ e ∉ trimmed entries limit := by
  simp only [pruneTerminalHistory, mem_filter, Bool.not_eq_true', contains_eq_mem,
    decide_eq_false_iff_not]
  refine and_congr_right fun he => not_congr ⟨fun hid => ?_, mem_map_of_mem⟩
  obtain ⟨e', he', heq⟩ := mem_map.mp hid
  have hsame : e' = e := inj_on_of_nodup_map hu (mem_of_trimmed he').1 he heq
  exact hsame ▸ he'

/-- **The oldest finished entries go first.** -/
theorem updatedAtUnix_le_of_trimmed (hu : Table.Unique Entry.id entries)
    (he : e ∈ trimmed entries limit) (he' : e' ∈ pruneTerminalHistory entries limit)
    (hterminal : e'.allocation.state.isTerminal = true) :
    e.allocation.updatedAtUnix ≤ e'.allocation.updatedAtUnix := by
  obtain ⟨hmem, hstays⟩ := (mem_pruneTerminalHistory_iff hu).mp he'
  have holder : e.isOlder e' :=
    Keyset.rel_of_taken he (mem_filter.mpr ⟨hmem, hterminal⟩) hstays
  rcases holder with hlt | ⟨heq, -⟩
  · exact UInt64.le_of_lt hlt
  · exact UInt64.le_of_eq heq

/-- **A trim leaves no more than the limit, or only unfinished work.** The
number removed is counted from all entries, and the finished ones may be fewer. -/
theorem length_pruneTerminalHistory_le (hu : Table.Unique Entry.id entries) :
    (pruneTerminalHistory entries limit).length ≤
      max limit (entries.filter fun e => !e.allocation.state.isTerminal).length := by
  have hremoved : (trimmed entries limit).length ≤
      (entries.filter (· ∈ trimmed entries limit)).length := by
    refine (trimmed_nodup hu).length_le_of_subset fun e he => ?_
    exact mem_filter.mpr ⟨(mem_of_trimmed he).1, by simpa using he⟩
  have hstay : pruneTerminalHistory entries limit =
      entries.filter fun e => !decide (e ∈ trimmed entries limit) := by
    refine filter_congr fun e he => ?_
    have hiff : e ∈ pruneTerminalHistory entries limit ↔ _ := mem_pruneTerminalHistory_iff hu
    simp only [pruneTerminalHistory, mem_filter, he, true_and] at hiff
    rw [Bool.eq_iff_iff, hiff]
    simp
  have hsplit := length_eq_length_filter_add (l := entries) (· ∈ trimmed entries limit)
  have hstates := length_eq_length_filter_add (l := entries) (·.allocation.state.isTerminal)
  have hcount : (trimmed entries limit).length =
      min (entries.length - limit) (entries.filter (·.allocation.state.isTerminal)).length := by
    rw [trimmed, length_take, length_insertionSort]
  rw [hstay]
  omega

end Select

/-! ## The window -/

/-- One change of an allocation, as the manager makes it. Of a retention
outcome only the time it is recorded at is kept. -/
inductive Change
  | transition (state : AllocationState)
  | setRunnerId (runnerId : Int64)
  | setVmCreated
  | setSource (source : CloneSource)
  | setCloneSource (source : CloneSource) (warmGeneration : Option UInt64)
  | setRetention
  | setWorkerError (error : WorkerError)
  | setError (error : String)

def Change.apply (a : Allocation) (now : UInt64) : Change → Except ManagerError Allocation
  | transition state =>
    match a.transition state now with
    | .ok a => .ok a
    | .error e => .error (.transition e)
  | setRunnerId runnerId => .ok (a.setRunnerId runnerId now)
  | setVmCreated => .ok (a.setVmCreated now)
  | setSource source => .ok (a.setSource source now)
  | setCloneSource source warmGeneration => .ok (a.setCloneSource source warmGeneration now)
  | setRetention => .ok { a with updatedAtUnix := now }
  | setWorkerError error =>
    .ok ((if error.isCapacity then a.setCapacityBusy now else a).setError error.message now)
  | setError error => .ok (a.setError error now)

/-- How far an update has got with its copy. -/
inductive Stage
  | read
  | changed
  | saved
  deriving DecidableEq

/-- An update in flight. -/
structure Flight where
  copy : Allocation
  stage : Stage
  deriving DecidableEq

/-- The allocation table and the window on it. -/
structure Resident where
  table : List Allocation
  entries : List Entry
  flights : List Flight
  /-- The wall clock, in seconds. -/
  clock : UInt64

inductive Move
  | tick (now : UInt64)
  /-- An update takes its copy. -/
  | read (id : AllocationId)
  | change (flight : Flight) (change : Change)
  /-- It stores the row, or fails to. -/
  | save (flight : Flight) (isFailed : Bool)
  /-- It puts the copy back. -/
  | put (flight : Flight)
  /-- A `create` stores its new allocation, inserts the entry and trims. -/
  | create (allocation : Allocation)

namespace Resident

/-- A new process loads the table. -/
def load (table : List Allocation) (limit : ℕ) (clock : UInt64) : Resident where
  table := table
  entries := (loadInto [] (loadRecent table limit)).1
  flights := []
  clock := clock

/-- The entries with the copy of an update put back. -/
def replaced (s : Resident) (a : Allocation) : List Entry :=
  modify Entry.id a.id (fun e => { e with allocation := a }) s.entries

/-- The entries with that of a new allocation. -/
def inserted (s : Resident) (a : Allocation) : List Entry := s.entries ++ [⟨a, false, true, false⟩]

/-- What a `create` leaves. -/
def created (s : Resident) (a : Allocation) (limit : ℕ) : Resident :=
  { s with
    table := put Allocation.id a s.table
    entries := pruneTerminalHistory (s.inserted a) limit }

/-- One move, where it can happen. The clock does not go back. -/
def step (limit : ℕ) (s : Resident) : Move → Option Resident
  | .tick now => if s.clock ≤ now then some { s with clock := now } else none
  | .read id =>
    (Table.get Entry.id id s.entries).map fun e =>
      { s with flights := ⟨e.allocation, .read⟩ :: s.flights }
  | .change p c =>
    if p ∈ s.flights ∧ p.stage = .read then
      match c.apply p.copy s.clock with
      | .ok a => some { s with flights := ⟨a, .changed⟩ :: s.flights.erase p }
      | .error _ => some { s with flights := s.flights.erase p }
    else none
  | .save p isFailed =>
    if p ∈ s.flights ∧ p.stage = .changed then
      if isFailed || !p.copy.isValid || !p.copy.isStorable then
        some { s with flights := s.flights.erase p }
      else
        some { s with
          table := put Allocation.id p.copy s.table
          flights := ⟨p.copy, .saved⟩ :: s.flights.erase p }
    else none
  | .put p =>
    if p ∈ s.flights ∧ p.stage = .saved then
      some { s with entries := s.replaced p.copy, flights := s.flights.erase p }
    else none
  | .create a =>
    if a.state = .requested ∧ a.updatedAtUnix ≤ s.clock ∧
        Table.get Allocation.id a.id s.table = none ∧ a.isValid ∧ a.isStorable then
      some (s.created a limit)
    else none

/-- Moves one after the other, each of which has to be allowed. -/
def run (limit : ℕ) (ok : Resident → Move → Bool) : Resident → List Move → Option Resident
  | s, [] => some s
  | s, move :: moves => if ok s move then (s.step limit move).bind (run limit ok · moves) else none

/-- An allocation is updated by one task at a time: the one that drives it. -/
def isDriven (s : Resident) : Move → Bool
  | .read id => s.flights.all (·.copy.id ≠ id)
  | _ => true

/-- And a trim overtakes no update of finished work. -/
def isOrderly (s : Resident) : Move → Bool
  | .create _ => s.flights.all (!·.copy.state.isTerminal)
  | move => s.isDriven move

/-- The allocation is not in the window: it was dropped, or never loaded. -/
def IsAbsent (s : Resident) (a : Allocation) : Prop := ∀ e ∈ s.entries, e.id ≠ a.id

instance (s : Resident) (a : Allocation) : Decidable (s.IsAbsent a) :=
  inferInstanceAs (Decidable (∀ e ∈ s.entries, _))

/-- Finished work that is absent was not updated after this time. -/
def HasOutlived (s : Resident) (time : UInt64) : Prop :=
  ∀ a ∈ s.table, a.state.isTerminal = true → s.IsAbsent a → a.updatedAtUnix ≤ time

/-- What a trim leaves, whatever it overtakes. -/
structure KeepsUnfinished (s : Resident) (limit : ℕ) : Prop where
  /-- Unfinished work is resident. -/
  live : ∀ a ∈ s.table, a.state.isTerminal = false → ¬ s.IsAbsent a
  bound : s.entries.length ≤
    max limit (s.entries.filter fun e => !e.allocation.state.isTerminal).length

/-- **What a trim is to leave.** -/
structure IsTrimmed (s : Resident) (limit : ℕ) : Prop where
  /-- Unfinished work is resident. -/
  live : ∀ a ∈ s.table, a.state.isTerminal = false → ¬ s.IsAbsent a
  bound : s.entries.length ≤ max limit (s.table.filter fun a => !a.state.isTerminal).length
  /-- Finished work that is absent is no newer than what is resident. -/
  recent : ∀ e ∈ s.entries, e.allocation.state.isTerminal = true →
    s.HasOutlived e.allocation.updatedAtUnix

theorem run_concat {s s' : Resident} {limit : ℕ} {ok : Resident → Move → Bool} {moves : List Move}
    {move : Move} (h : s.run limit ok (moves ++ [move]) = some s') :
    ∃ s₁, s.run limit ok moves = some s₁ ∧ ok s₁ move = true ∧ s₁.step limit move = some s' := by
  induction moves generalizing s with
  | nil =>
    simp only [nil_append, run, Option.ite_none_right_eq_some] at h
    obtain ⟨hok, h⟩ := h
    obtain ⟨s₁, hstep, ⟨⟩⟩ := Option.bind_eq_some_iff.mp h
    exact ⟨s, rfl, hok, hstep⟩
  | cons first moves ih =>
    simp only [cons_append, run, Option.ite_none_right_eq_some] at h ⊢
    obtain ⟨hok, h⟩ := h
    obtain ⟨s₁, hstep, hrest⟩ := Option.bind_eq_some_iff.mp h
    obtain ⟨s₂, hrun, hlast⟩ := ih hrest
    exact ⟨s₂, ⟨hok, Option.bind_eq_some_iff.mpr ⟨s₁, hstep, hrun⟩⟩, hlast⟩

/-! ## What every run keeps in which an allocation has one update at a time -/

/-- Table, window and flights agree. -/
structure Aligned (s : Resident) : Prop where
  rows : Table.Unique Allocation.id s.table
  unique : Table.Unique Entry.id s.entries
  /-- An allocation has one update in flight. -/
  apart : (s.flights.map (·.copy.id)).Nodup
  /-- An update that leaves work unfinished is of an unfinished entry. -/
  flown : ∀ p ∈ s.flights, p.copy.state.isTerminal = false →
    ∃ e ∈ s.entries, e.id = p.copy.id ∧ e.allocation.state.isTerminal = false
  written : ∀ p ∈ s.flights, p.stage = .saved → p.copy ∈ s.table
  /-- An entry is its row, unless an update has yet to put it back. -/
  behind : ∀ e ∈ s.entries, e.allocation ∈ s.table ∨
    ∃ p ∈ s.flights, p.stage = .saved ∧ p.copy.id = e.id
  live : ∀ a ∈ s.table, a.state.isTerminal = false → ¬ s.IsAbsent a

variable {s s' : Resident} {a : Allocation} {p q : Flight} {limit : ℕ}

/-- Every change stamps the allocation and leaves finished work finished. -/
theorem apply_spec {c : Change} {b : Allocation} {now : UInt64} (h : c.apply a now = .ok b) :
    b.id = a.id ∧ b.updatedAtUnix = now ∧
      (a.state.isTerminal = true → b.state.isTerminal = true) := by
  cases c with
  | transition state =>
    simp only [Change.apply, Allocation.transition] at h
    split at h
    · cases h
      rename_i hmoved
      split at hmoved
      · cases hmoved
      · rename_i hedge
        cases hmoved
        refine ⟨rfl, rfl, fun hterminal => ?_⟩
        have heq := AllocationState.eq_of_canTransitionTo hterminal (by simpa using hedge)
        exact heq ▸ hterminal
    · cases h
  | setWorkerError error =>
    cases h
    split <;> exact ⟨rfl, rfl, id⟩
  | _ =>
    cases h
    exact ⟨rfl, rfl, id⟩

/-- Putting a copy back removes no identity. -/
theorem isAbsent_of_replaced {b : Allocation}
    (h : IsAbsent { s with entries := s.replaced p.copy } b) : s.IsAbsent b := by
  intro e he
  by_cases hid : e.id = p.copy.id
  · rw [hid]
    exact h { e with allocation := p.copy } (mem_map.mpr ⟨e, he, if_pos hid⟩)
  · exact h e (mem_map.mpr ⟨e, he, if_neg hid⟩)

/-- What a `create` was allowed under. -/
theorem create_spec (h : s.step limit (.create a) = some s') :
    s' = s.created a limit ∧ a.state.isTerminal = false ∧ (∀ b ∈ s.table, b.id ≠ a.id) ∧
      a.updatedAtUnix ≤ s.clock := by
  simp only [Resident.step, Option.ite_none_right_eq_some] at h
  obtain ⟨⟨hstate, hpast, hnew, -⟩, ⟨⟩⟩ := h
  exact ⟨rfl, by simp [hstate, AllocationState.isTerminal], get_eq_none.mp hnew, hpast⟩

namespace Aligned

variable (hs : s.Aligned)

include hs

theorem id_ne_of_mem_erase (hp : p ∈ s.flights) (hq : q ∈ s.flights.erase p) :
    q.copy.id ≠ p.copy.id := by
  have hnodup := ((perm_cons_erase hp).map (·.copy.id)).nodup_iff.mp hs.apart
  rw [map_cons, nodup_cons] at hnodup
  intro heq
  exact hnodup.1 (heq ▸ mem_map_of_mem hq)

/-! ### Updates -/

/-- An update ends without having stored anything. -/
theorem landed (hstage : p.stage ≠ .saved) : Aligned { s with flights := s.flights.erase p } :=
  { hs with
    apart := hs.apart.sublist (erase_sublist.map _)
    flown := fun q hq => hs.flown q (mem_of_mem_erase hq)
    written := fun q hq => hs.written q (mem_of_mem_erase hq)
    behind := by
      intro e he
      refine (hs.behind e he).imp_right fun ⟨q, hq, hsaved, hid⟩ => ?_
      have hne : q ≠ p := fun heq => hstage (heq ▸ hsaved)
      exact ⟨q, (mem_erase_of_ne hne).mpr hq, hsaved, hid⟩ }

/-- An update of an allocation nobody else updates, before it is stored. -/
theorem departed (hstage : q.stage ≠ .saved) (halone : ∀ p ∈ s.flights, p.copy.id ≠ q.copy.id)
    (hentry : q.copy.state.isTerminal = false →
      ∃ e ∈ s.entries, e.id = q.copy.id ∧ e.allocation.state.isTerminal = false) :
    Aligned { s with flights := q :: s.flights } :=
  { hs with
    apart := by
      rw [map_cons, nodup_cons]
      refine ⟨fun hmem => ?_, hs.apart⟩
      obtain ⟨p, hp, hid⟩ := mem_map.mp hmem
      exact halone p hp hid
    flown := forall_mem_cons.mpr ⟨hentry, hs.flown⟩
    written := forall_mem_cons.mpr ⟨fun hsaved => absurd hsaved hstage, hs.written⟩
    behind := by
      intro e he
      refine (hs.behind e he).imp_right fun ⟨p, hp, hsaved, hid⟩ => ?_
      exact ⟨p, mem_cons_of_mem _ hp, hsaved, hid⟩ }

/-- An update stores its copy. -/
theorem stored (hp : p ∈ s.flights) (hstage : p.stage = .changed) :
    Aligned { s with
      table := put Allocation.id p.copy s.table
      flights := ⟨p.copy, .saved⟩ :: s.flights.erase p } := by
  have hrest := hs.landed (p := p) (by simp [hstage])
  refine
    { rows := unique_put hs.rows
      unique := hs.unique
      apart := ((perm_cons_erase hp).map (·.copy.id)).nodup_iff.mp hs.apart
      flown := forall_mem_cons.mpr ⟨hs.flown p hp, hrest.flown⟩
      written := ?_
      behind := ?_
      live := fun b hb hunfinished => ?_ }
  · refine forall_mem_cons.mpr ⟨fun _ => mem_put_self, fun q hq hsaved => ?_⟩
    exact mem_put_of_mem (hrest.written q hq hsaved) (hs.id_ne_of_mem_erase hp hq)
  · intro e he
    by_cases hid : e.id = p.copy.id
    · exact .inr ⟨_, mem_cons_self, rfl, hid.symm⟩
    · rcases hrest.behind e he with hrow | ⟨q, hq, hsaved, hqid⟩
      · exact .inl (mem_put_of_mem hrow hid)
      · exact .inr ⟨q, mem_cons_of_mem _ hq, hsaved, hqid⟩
  · rcases mem_put hb with rfl | hb
    · obtain ⟨e, he, hid, -⟩ := hs.flown p hp hunfinished
      exact fun habsent => habsent e he hid
    · exact hs.live b hb hunfinished

/-- An update puts its copy back. -/
theorem putBack (hp : p ∈ s.flights) (hstage : p.stage = .saved) :
    Aligned { s with entries := s.replaced p.copy, flights := s.flights.erase p } := by
  refine
    { rows := hs.rows
      unique := unique_modify (fun _ _ => rfl) hs.unique
      apart := hs.apart.sublist (erase_sublist.map _)
      flown := ?_
      written := fun q hq => hs.written q (mem_of_mem_erase hq)
      behind := ?_
      live := fun b hb hstate habsent => hs.live b hb hstate (isAbsent_of_replaced habsent) }
  · intro q hq hunfinished
    obtain ⟨e, he, hid, hentry⟩ := hs.flown q (mem_of_mem_erase hq) hunfinished
    have hne : e.id ≠ p.copy.id := hid ▸ hs.id_ne_of_mem_erase hp hq
    exact ⟨e, mem_map.mpr ⟨e, he, if_neg hne⟩, hid, hentry⟩
  · intro e he
    rcases mem_modify he with ⟨e₀, -, -, rfl⟩ | ⟨he, hne⟩
    · exact .inl (hs.written p hp hstage)
    · refine (hs.behind e he).imp_right fun ⟨q, hq, hsaved, hid⟩ => ?_
      have hqp : q ≠ p := by
        rintro rfl
        exact hne hid.symm
      exact ⟨q, (mem_erase_of_ne hqp).mpr hq, hsaved, hid⟩

/-! ### Creates -/

section Create

variable (hnew : ∀ b ∈ s.table, b.id ≠ a.id)

include hnew

theorem unique_inserted : Table.Unique Entry.id (s.inserted a) := by
  rw [Table.Unique, inserted, map_append, nodup_append]
  refine ⟨hs.unique, by simp, fun i hi j hj hij => ?_⟩
  obtain ⟨e, he, rfl⟩ := mem_map.mp hi
  obtain rfl : j = a.id := by simpa [Entry.id] using hj
  rcases hs.behind e he with hrow | ⟨p, hp, hsaved, hid⟩
  · exact hnew _ hrow hij
  · exact hnew _ (hs.written p hp hsaved) (hid.trans hij)

/-- What is absent after a trim was absent before, or its entry was dropped. -/
theorem gone {b : Allocation} (hstate : a.state.isTerminal = false)
    (hb : b ∈ (s.created a limit).table) (hgone : (s.created a limit).IsAbsent b) :
    b ∈ s.table ∧ (s.IsAbsent b ∨
      ∃ e ∈ s.entries, e ∈ trimmed (s.inserted a) limit ∧ e.id = b.id) := by
  have hu := hs.unique_inserted hnew
  rcases mem_put hb with rfl | hb
  · have hin : (⟨b, false, true, false⟩ : Entry) ∈ pruneTerminalHistory (s.inserted b) limit :=
      mem_pruneTerminalHistory hu (by simp [inserted]) hstate
    exact absurd rfl (hgone _ hin)
  refine ⟨hb, or_iff_not_imp_left.mpr fun hbefore => ?_⟩
  simp only [IsAbsent, not_forall, not_not] at hbefore
  obtain ⟨e, he, hid⟩ := hbefore
  refine ⟨e, he, ?_, hid⟩
  by_contra hstays
  exact hgone e ((mem_pruneTerminalHistory_iff hu).mpr ⟨mem_append_left _ he, hstays⟩) hid

omit hnew in
/-- A finished entry has a finished row, also where an update has yet to put it
back. -/
theorem finished_row {e : Entry} {b : Allocation} (he : e ∈ s.entries) (hb : b ∈ s.table)
    (hid : e.id = b.id) (hfinished : e.allocation.state.isTerminal = true) :
    b.state.isTerminal = true := by
  rcases hs.behind e he with hrow | ⟨p, hp, hsaved, hpid⟩
  · obtain rfl : e.allocation = b := inj_on_of_nodup_map hs.rows hrow hb hid
    exact hfinished
  · obtain rfl : p.copy = b :=
      inj_on_of_nodup_map hs.rows (hs.written p hp hsaved) hb (hpid.trans hid)
    by_contra hunfinished
    obtain ⟨e', he', hid', hentry⟩ := hs.flown p hp (by simpa using hunfinished)
    obtain rfl : e' = e := inj_on_of_nodup_map hs.unique he' he (hid'.trans hid.symm)
    rw [hfinished] at hentry
    cases hentry

theorem creates (hstate : a.state.isTerminal = false) : (s.created a limit).Aligned := by
  have hu := hs.unique_inserted hnew
  have hold : ∀ {b}, b ∈ s.table → b ∈ (s.created a limit).table :=
    fun hb => mem_put_of_mem hb (hnew _ hb)
  refine
    { rows := unique_put hs.rows
      unique := hu.sublist ((pruneTerminalHistory_sublist _ _).map _)
      apart := hs.apart
      flown := fun p hp hunfinished => ?_
      written := fun p hp hsaved => hold (hs.written p hp hsaved)
      behind := ?_
      live := fun b hb hunfinished hgone => ?_ }
  · obtain ⟨e, he, hid, hentry⟩ := hs.flown p hp hunfinished
    exact ⟨e, mem_pruneTerminalHistory hu (mem_append_left _ he) hentry, hid, hentry⟩
  · intro e he
    rcases mem_append.mp ((pruneTerminalHistory_sublist _ _).subset he) with he | he
    · exact (hs.behind e he).imp_left hold
    · obtain rfl := mem_singleton.mp he
      exact .inl mem_put_self
  · obtain ⟨hb, hbefore | ⟨e, he, hout, hid⟩⟩ := hs.gone hnew hstate hb hgone
    · exact hs.live b hb hunfinished hbefore
    · rw [hs.finished_row he hb hid (mem_of_trimmed hout).2] at hunfinished
      cases hunfinished

/-- **Every trim keeps unfinished work**, and no more than the limit beside it. -/
theorem keepsUnfinished_created (hstate : a.state.isTerminal = false) :
    (s.created a limit).KeepsUnfinished limit := by
  have hu := hs.unique_inserted hnew
  refine ⟨(hs.creates hnew hstate).live, (length_pruneTerminalHistory_le hu).trans ?_⟩
  refine Nat.max_le.mpr ⟨Nat.le_max_left .., Nat.le_trans ?_ (Nat.le_max_right ..)⟩
  refine ((List.Nodup.of_map _ hu).filter _).length_le_of_subset fun e he => ?_
  obtain ⟨he, hunfinished⟩ := mem_filter.mp he
  exact mem_filter.mpr
    ⟨mem_pruneTerminalHistory hu he (by simpa using hunfinished), hunfinished⟩

end Create

/-! ### Runs -/

/-- One move keeps the window aligned. -/
theorem step {move : Move} (hok : s.isDriven move = true) (h : s.step limit move = some s') :
    s'.Aligned := by
  cases move with
  | tick now =>
    simp only [Resident.step, Option.ite_none_right_eq_some] at h
    obtain ⟨-, ⟨⟩⟩ := h
    exact { hs with }
  | read id =>
    obtain ⟨e, he, rfl⟩ := Option.map_eq_some_iff.mp h
    refine hs.departed (q := ⟨e.allocation, .read⟩) (by simp) (fun p hp => ?_)
      fun hunfinished => ⟨e, Table.mem_of_get he, rfl, hunfinished⟩
    have hother : p.copy.id ≠ e.id := by
      rw [key_of_get he]
      simpa using all_eq_true.mp hok p hp
    exact hother
  | change p c =>
    simp only [Resident.step, Option.ite_none_right_eq_some] at h
    obtain ⟨⟨hp, hstage⟩, h⟩ := h
    have hlanded : Aligned { s with flights := s.flights.erase p } := hs.landed (by simp [hstage])
    split at h <;> cases h
    · rename_i b hb
      obtain ⟨hid, -, hfinished⟩ := apply_spec hb
      refine hlanded.departed (q := ⟨b, .changed⟩) (by simp) (fun q hq => ?_)
        fun hunfinished => ?_
      · exact hid ▸ hs.id_ne_of_mem_erase hp hq
      · refine hid ▸ hs.flown p hp ?_
        by_contra hcopy
        rw [hfinished (by simpa using hcopy)] at hunfinished
        cases hunfinished
    · exact hlanded
  | save p isFailed =>
    simp only [Resident.step, Option.ite_none_right_eq_some] at h
    obtain ⟨⟨hp, hstage⟩, h⟩ := h
    split at h <;> cases h
    · exact hs.landed (by simp [hstage])
    · exact hs.stored hp hstage
  | put p =>
    simp only [Resident.step, Option.ite_none_right_eq_some] at h
    obtain ⟨⟨hp, hstage⟩, ⟨⟩⟩ := h
    exact hs.putBack hp hstage
  | create a =>
    obtain ⟨rfl, hstate, hnew, -⟩ := create_spec h
    exact hs.creates hnew hstate

end Aligned

/-! ## What every orderly run keeps -/

/-- And what is absent is older than what is resident. -/
structure Coherent (s : Resident) : Prop extends Aligned s where
  past : ∀ a ∈ s.table, a.updatedAtUnix ≤ s.clock
  stamped : ∀ p ∈ s.flights, p.copy.updatedAtUnix ≤ s.clock
  /-- An update is of a resident allocation. -/
  resident : ∀ p ∈ s.flights, ∃ e ∈ s.entries, e.id = p.copy.id
  recent : ∀ e ∈ s.entries, e.allocation.state.isTerminal = true →
    s.HasOutlived e.allocation.updatedAtUnix
  /-- So it will be once an update puts finished work back. -/
  coming : ∀ p ∈ s.flights, p.stage ≠ .read → p.copy.state.isTerminal = true →
    s.HasOutlived p.copy.updatedAtUnix

namespace Coherent

variable (hs : s.Coherent)

include hs

/-- An update ends without having stored anything. -/
theorem landed (hnext : Aligned { s with flights := s.flights.erase p }) :
    Coherent { s with flights := s.flights.erase p } :=
  { hnext with
    past := hs.past
    stamped := fun q hq => hs.stamped q (mem_of_mem_erase hq)
    resident := fun q hq => hs.resident q (mem_of_mem_erase hq)
    recent := hs.recent
    coming := fun q hq => hs.coming q (mem_of_mem_erase hq) }

/-- An update reads its copy, or changes it now. -/
theorem departed (hnext : Aligned { s with flights := q :: s.flights })
    (hpast : q.copy.updatedAtUnix ≤ s.clock) (hentry : ∃ e ∈ s.entries, e.id = q.copy.id)
    (hnow : q.stage ≠ .read → q.copy.updatedAtUnix = s.clock) :
    Coherent { s with flights := q :: s.flights } :=
  { hnext with
    past := hs.past
    stamped := forall_mem_cons.mpr ⟨hpast, hs.stamped⟩
    resident := forall_mem_cons.mpr ⟨hentry, hs.resident⟩
    recent := hs.recent
    coming := by
      refine forall_mem_cons.mpr ⟨fun hread _ a ha _ _ => ?_, hs.coming⟩
      rw [hnow hread]
      exact hs.past a ha }

/-- An update stores its copy, which is the row of a resident allocation. -/
theorem stored (hp : p ∈ s.flights) (hstage : p.stage = .changed) :
    Coherent { s with
      table := put Allocation.id p.copy s.table
      flights := ⟨p.copy, .saved⟩ :: s.flights.erase p } := by
  have hother : ∀ {b}, b ∈ put Allocation.id p.copy s.table → s.IsAbsent b → b ∈ s.table := by
    intro b hb habsent
    rcases mem_put hb with rfl | hb
    · obtain ⟨e, he, hid⟩ := hs.resident p hp
      exact absurd hid (habsent e he)
    · exact hb
  refine
    { hs.toAligned.stored hp hstage with
      past := fun b hb => ?_
      stamped :=
        forall_mem_cons.mpr ⟨hs.stamped p hp, fun q hq => hs.stamped q (mem_of_mem_erase hq)⟩
      resident :=
        forall_mem_cons.mpr ⟨hs.resident p hp, fun q hq => hs.resident q (mem_of_mem_erase hq)⟩
      recent := fun e he hfinished b hb hterminal habsent =>
        hs.recent e he hfinished b (hother hb habsent) hterminal habsent
      coming := fun q hq hread hfinished b hb hterminal habsent => ?_ }
  · rcases mem_put hb with rfl | hb
    · exact hs.stamped p hp
    · exact hs.past b hb
  · have hrow := hother hb habsent
    rcases mem_cons.mp hq with rfl | hq
    · exact hs.coming p hp (by simp [hstage]) hfinished b hrow hterminal habsent
    · exact hs.coming q (mem_of_mem_erase hq) hread hfinished b hrow hterminal habsent

/-- An update puts its copy back. -/
theorem putBack (hp : p ∈ s.flights) (hstage : p.stage = .saved) :
    Coherent { s with entries := s.replaced p.copy, flights := s.flights.erase p } := by
  refine
    { hs.toAligned.putBack hp hstage with
      past := hs.past
      stamped := fun q hq => hs.stamped q (mem_of_mem_erase hq)
      resident := fun q hq => ?_
      recent := fun e he hfinished b hb hterminal habsent => ?_
      coming := fun q hq hread hfinished b hb hterminal habsent =>
        hs.coming q (mem_of_mem_erase hq) hread hfinished b hb hterminal
          (isAbsent_of_replaced habsent) }
  · obtain ⟨e, he, hid⟩ := hs.resident q (mem_of_mem_erase hq)
    have hne : e.id ≠ p.copy.id := hid ▸ hs.id_ne_of_mem_erase hp hq
    exact ⟨e, mem_map.mpr ⟨e, he, if_neg hne⟩, hid⟩
  · rcases mem_modify he with ⟨e₀, -, -, rfl⟩ | ⟨he, -⟩
    · exact hs.coming p hp (by simp [hstage]) hfinished b hb hterminal
        (isAbsent_of_replaced habsent)
    · exact hs.recent e he hfinished b hb hterminal (isAbsent_of_replaced habsent)

section Create

variable (hcalm : ∀ p ∈ s.flights, p.copy.state.isTerminal = false)
  (hstate : a.state.isTerminal = false) (hnew : ∀ b ∈ s.table, b.id ≠ a.id)

include hcalm hstate hnew

theorem creates (hpast : a.updatedAtUnix ≤ s.clock) : (s.created a limit).Coherent := by
  have hu := hs.unique_inserted hnew
  have hnext : (s.created a limit).Aligned := hs.toAligned.creates hnew hstate
  refine
    { hnext with
      past := fun b hb => ?_
      stamped := hs.stamped
      resident := fun p hp => ?_
      recent := fun e he hfinished b hb hterminal hgone => ?_
      coming := fun p hp _ hcopy => absurd hcopy (by simp [hcalm p hp]) }
  · rcases mem_put hb with rfl | hb
    · exact hpast
    · exact hs.past b hb
  · exact (hnext.flown p hp (hcalm p hp)).imp fun _ h => ⟨h.1, h.2.1⟩
  · obtain ⟨hb, hbefore | ⟨e', he', hout, hid⟩⟩ := hs.gone hnew hstate hb hgone
    · rcases mem_append.mp ((pruneTerminalHistory_sublist _ _).subset he) with he | he
      · exact hs.recent e he hfinished b hb hterminal hbefore
      · obtain rfl := mem_singleton.mp he
        rw [hstate] at hfinished
        cases hfinished
    · -- the dropped entry is its row: no update of finished work is overtaken
      have hrow : e'.allocation ∈ s.table := by
        refine (hs.behind e' he').resolve_right fun ⟨p, hp, _, hpid⟩ => ?_
        obtain ⟨e'', he'', hid'', hentry⟩ := hs.flown p hp (hcalm p hp)
        obtain rfl : e'' = e' := inj_on_of_nodup_map hs.unique he'' he' (hid''.trans hpid)
        rw [(mem_of_trimmed hout).2] at hentry
        cases hentry
      obtain rfl : e'.allocation = b := inj_on_of_nodup_map hs.rows hrow hb hid
      exact updatedAtUnix_le_of_trimmed hu hout he hfinished

/-- Every unfinished entry has an unfinished row. -/
theorem length_unfinished_le :
    ((s.created a limit).entries.filter fun e => !e.allocation.state.isTerminal).length ≤
      ((s.created a limit).table.filter fun a => !a.state.isTerminal).length := by
  have hnext : (s.created a limit).Aligned := hs.toAligned.creates hnew hstate
  have hnodup : (((s.created a limit).entries.filter fun e =>
      !e.allocation.state.isTerminal).map Entry.id).Nodup :=
    hnext.unique.sublist (filter_sublist.map _)
  have hsub : ((s.created a limit).entries.filter fun e =>
      !e.allocation.state.isTerminal).map Entry.id ⊆
      ((s.created a limit).table.filter fun a => !a.state.isTerminal).map Allocation.id := by
    intro id hid
    obtain ⟨e, he, rfl⟩ := mem_map.mp hid
    obtain ⟨he, hunfinished⟩ := mem_filter.mp he
    rcases hnext.behind e he with hrow | ⟨p, hp, hsaved, hpid⟩
    · exact mem_map.mpr ⟨_, mem_filter.mpr ⟨hrow, hunfinished⟩, rfl⟩
    · have hrow := hnext.written p hp hsaved
      exact mem_map.mpr ⟨_, mem_filter.mpr ⟨hrow, by simp [hcalm p hp]⟩, hpid⟩
  have hlength := hnodup.length_le_of_subset hsub
  simpa only [length_map] using hlength

/-- **A trim that overtakes no update of finished work leaves what it is to
leave.** -/
theorem isTrimmed_created (hpast : a.updatedAtUnix ≤ s.clock) :
    (s.created a limit).IsTrimmed limit := by
  have hnext : (s.created a limit).Coherent := hs.creates hcalm hstate hnew hpast
  have hkept : (s.created a limit).KeepsUnfinished limit :=
    hs.keepsUnfinished_created hnew hstate
  refine ⟨hnext.live, hkept.bound.trans ?_, hnext.recent⟩
  refine Nat.max_le.mpr ⟨Nat.le_max_left .., Nat.le_trans ?_ (Nat.le_max_right ..)⟩
  exact hs.length_unfinished_le hcalm hstate hnew

end Create

omit hs in
theorem calm_of_isOrderly (hok : s.isOrderly (.create a) = true) :
    ∀ p ∈ s.flights, p.copy.state.isTerminal = false :=
  fun p hp => by simpa using all_eq_true.mp hok p hp

omit hs in
theorem isDriven_of_isOrderly {move : Move} (hok : s.isOrderly move = true) :
    s.isDriven move = true := by
  cases move <;> first | exact hok | rfl

/-- One orderly move keeps the window coherent. -/
theorem step {move : Move} (hok : s.isOrderly move = true) (h : s.step limit move = some s') :
    s'.Coherent := by
  have hnext := hs.toAligned.step (isDriven_of_isOrderly hok) h
  cases move with
  | tick now =>
    simp only [Resident.step, Option.ite_none_right_eq_some] at h
    obtain ⟨hle, ⟨⟩⟩ := h
    exact
      { hs with
        past := fun a ha => UInt64.le_trans (hs.past a ha) hle
        stamped := fun p hp => UInt64.le_trans (hs.stamped p hp) hle }
  | read id =>
    obtain ⟨e, he, rfl⟩ := Option.map_eq_some_iff.mp h
    have hmem := Table.mem_of_get he
    have hrow : e.allocation ∈ s.table := by
      refine (hs.behind e hmem).resolve_right fun ⟨p, hp, _, hpid⟩ => ?_
      have hother := all_eq_true.mp hok p hp
      rw [hpid, key_of_get he] at hother
      simp at hother
    exact hs.departed hnext (hs.past _ hrow) ⟨e, hmem, rfl⟩ fun hread => absurd rfl hread
  | change p c =>
    simp only [Resident.step, Option.ite_none_right_eq_some] at h
    obtain ⟨⟨hp, hstage⟩, h⟩ := h
    have hlanded := hs.landed (hs.toAligned.landed (p := p) (by simp [hstage]))
    split at h <;> cases h
    · rename_i b hb
      obtain ⟨hid, hnow, -⟩ := apply_spec hb
      refine hlanded.departed hnext (UInt64.le_of_eq hnow) ?_ fun _ => hnow
      exact (hs.resident p hp).imp fun _ h => ⟨h.1, h.2.trans hid.symm⟩
    · exact hlanded
  | save p isFailed =>
    simp only [Resident.step, Option.ite_none_right_eq_some] at h
    obtain ⟨⟨hp, hstage⟩, h⟩ := h
    split at h <;> cases h
    · exact hs.landed hnext
    · exact hs.stored hp hstage
  | put p =>
    simp only [Resident.step, Option.ite_none_right_eq_some] at h
    obtain ⟨⟨hp, hstage⟩, ⟨⟩⟩ := h
    exact hs.putBack hp hstage
  | create a =>
    obtain ⟨rfl, hstate, hnew, hpast⟩ := create_spec h
    exact hs.creates (calm_of_isOrderly hok) hstate hnew hpast

end Coherent

/-- What every allowed move keeps, a run keeps. -/
theorem run_keeps {ok : Resident → Move → Bool} {I : Resident → Prop} {moves : List Move}
    (hstep : ∀ s move s', I s → ok s move = true → s.step limit move = some s' → I s')
    (hs : I s) (h : s.run limit ok moves = some s') : I s' := by
  induction moves generalizing s with
  | nil =>
    cases h
    exact hs
  | cons move moves ih =>
    simp only [Resident.run, Option.ite_none_right_eq_some] at h
    obtain ⟨hok, h⟩ := h
    obtain ⟨s₁, hstep₁, hrest⟩ := Option.bind_eq_some_iff.mp h
    exact ih (hstep s move s₁ hs hok hstep₁) hrest

/-! ## From the table on -/

/-- Distinct identities are all inserted. -/
theorem loadInto_eq {entries : List Entry} {allocations : List Allocation}
    (h : (entries.map Entry.id ++ allocations.map Allocation.id).Nodup) :
    (loadInto entries allocations).1 =
      entries ++ allocations.map fun a => ⟨a, false, false, false⟩ := by
  induction allocations generalizing entries with
  | nil => simp [loadInto]
  | cons a rest ih =>
    have hnew : ¬ entries.any (·.id = a.id) = true := by
      intro hany
      obtain ⟨e, he, hid⟩ := any_eq_true.mp hany
      have hapart := (nodup_append.mp h).2.2 e.id (mem_map_of_mem he) a.id (by simp)
      exact hapart (by simpa using hid)
    rw [loadInto, if_neg hnew, ih (by simpa [Entry.id] using h)]
    simp

section Load

variable {table : List Allocation} {clock : UInt64} (hu : Table.Unique Allocation.id table)

include hu

theorem mem_load {e : Entry} : e ∈ (load table limit clock).entries ↔
    ∃ a ∈ loadRecent table limit, e = ⟨a, false, false, false⟩ := by
  have heq : (load table limit clock).entries =
      (loadRecent table limit).map fun a => ⟨a, false, false, false⟩ :=
    @loadInto_eq [] _ (loadRecent_nodup hu)
  rw [heq, mem_map]
  exact exists_congr fun a => and_congr_right fun _ => eq_comm

theorem coherent_load (hclock : ∀ a ∈ table, a.updatedAtUnix ≤ clock) :
    (load table limit clock).Coherent where
  rows := hu
  unique := by
    rw [Table.Unique, load, @loadInto_eq [] _ (loadRecent_nodup hu), nil_append, map_map]
    exact loadRecent_nodup hu
  apart := nodup_nil
  past := hclock
  stamped _ hp := by cases hp
  flown _ hp := by cases hp
  resident _ hp := by cases hp
  written _ hp := by cases hp
  behind e he := by
    obtain ⟨a, ha, rfl⟩ := (mem_load hu).mp he
    exact .inl (mem_of_loadRecent ha)
  live a ha hstate habsent := by
    have hloaded : a ∈ loadRecent table limit := mem_loadRecent_of_unfinished hu ha hstate
    exact absurd rfl (habsent _ ((mem_load hu).mpr ⟨a, hloaded, rfl⟩))
  recent e he hterminal a ha _ habsent := by
    obtain ⟨b, hb, rfl⟩ := (mem_load hu).mp he
    have hleft : a ∉ loadRecent table limit :=
      fun h => habsent _ ((mem_load hu).mpr ⟨a, h, rfl⟩) rfl
    exact updatedAtUnix_le_of_loaded ha hleft hb hterminal
  coming _ hp := by cases hp

/-- **The window on the history.** Unfinished work is loaded exactly once. With
one update of an allocation at a time, every trim leaves all unfinished work,
and no more entries than the limit or the unfinished ones. Where no trim
overtakes an update of finished work, that is no more than the limit or the
unfinished rows, and nothing older than finished work that was left out. -/
theorem run_trims (hclock : ∀ a ∈ table, a.updatedAtUnix ≤ clock) :
    (∀ a ∈ table, a.state.isTerminal = false → (loadRecent table limit).count a = 1) ∧
      (∀ moves a s, (load table limit clock).run limit isDriven (moves ++ [.create a]) = some s →
        s.KeepsUnfinished limit) ∧
      ∀ moves a s, (load table limit clock).run limit isOrderly (moves ++ [.create a]) = some s →
        s.IsTrimmed limit := by
  have hloaded : (load table limit clock).Coherent := coherent_load hu hclock
  refine ⟨fun a ha hstate => ?_, fun moves a s hrun => ?_, fun moves a s hrun => ?_⟩
  · exact count_eq_one_of_mem (List.Nodup.of_map _ (loadRecent_nodup hu))
      (mem_loadRecent_of_unfinished hu ha hstate)
  · obtain ⟨s₁, hbefore, -, hstep⟩ := run_concat hrun
    have hs := run_keeps (fun _ _ _ h hok hstep => h.step hok hstep) hloaded.toAligned hbefore
    obtain ⟨rfl, hstate, hnew, -⟩ := create_spec hstep
    exact hs.keepsUnfinished_created hnew hstate
  · obtain ⟨s₁, hbefore, hok, hstep⟩ := run_concat hrun
    have hs := run_keeps (fun _ _ _ h hok hstep => h.step hok hstep) hloaded hbefore
    obtain ⟨rfl, hstate, hnew, hpast⟩ := create_spec hstep
    exact hs.isTrimmed_created (Coherent.calm_of_isOrderly hok) hstate hnew hpast

end Load

/-- An allocation in teardown, and the same when it has ended. -/
def inTeardown (id : AllocationId) : Allocation :=
  { sampleAllocation .cold with id := id, state := .cleaning }

def ended (id : AllocationId) (now : UInt64) : Allocation :=
  { inTeardown id with state := .completed, updatedAtUnix := now }

/-- The update that ends it, up to the store and from there on. -/
def ending (id : AllocationId) : List Move :=
  [.read id, .change ⟨inTeardown id, .read⟩ (.transition .completed)]

def endingStored (id : AllocationId) (now : UInt64) : List Move :=
  [.save ⟨ended id now, .changed⟩ false, .put ⟨ended id now, .saved⟩]

def sampleTable : List Allocation := [inTeardown firstId, inTeardown secondId, inTeardown thirdId]

/-- Two allocations that come later. -/
def fourth : Allocation :=
  { sampleAllocation .cold with id := ⟨"00000000-0000-0000-0000-000000000004", by decide⟩ }
def fifth : Allocation :=
  { sampleAllocation .cold with id := ⟨"00000000-0000-0000-0000-000000000005", by decide⟩ }

/-- One allocation ends, and the next `create` drops it. -/
theorem run_trims_fourth :
    sampleTable.all (fun a => (loadRecent sampleTable 3).count a = 1) = true ∧
      ∃ s, (load sampleTable 3 10).run 3 isOrderly
        (ending thirdId ++ endingStored thirdId 10 ++ [.create fourth]) = some s ∧
          s.IsTrimmed 3 := by
  have hrun : ((load sampleTable 3 10).run 3 isOrderly
      (ending thirdId ++ endingStored thirdId 10 ++ [.create fourth])).isSome = true := by
    decide +kernel
  obtain ⟨s, hs⟩ := Option.isSome_iff_exists.mp hrun
  have htrims := @run_trims 3 sampleTable 10 (by unfold Table.Unique; decide +kernel)
    (by decide +kernel)
  exact ⟨by decide +kernel, s, hs, htrims.2.2 _ _ s hs⟩

/-- Some finished work is absent and newer than what is resident. -/
def isInverted (s : Resident) : Bool :=
  s.table.any fun a => a.state.isTerminal && decide (s.IsAbsent a) &&
    s.entries.any fun e => e.allocation.state.isTerminal &&
      decide (¬ a.updatedAtUnix ≤ e.allocation.updatedAtUnix)

theorem not_isTrimmed_of_isInverted (h : s.isInverted = true) : ¬ s.IsTrimmed limit := by
  simp only [isInverted, any_eq_true, Bool.and_eq_true, decide_eq_true_eq] at h
  obtain ⟨a, ha, ⟨hterminal, habsent⟩, e, he, hfinished, hnewer⟩ := h
  exact fun htrimmed => hnewer (htrimmed.recent e he hfinished a ha hterminal habsent)

/-- **A trim that overtakes updates may drop what is newer.** Two updates have
read the clock and wait for the store. A third reads it later, is put back
first and is dropped by the next trim; of the two, one stays. -/
theorem exists_run_not_isTrimmed :
    ∃ moves s, (load sampleTable 3 10).run 3 isDriven (moves ++ [.create fifth]) = some s ∧
      ¬ s.IsTrimmed 3 := by
  have hrun : ((load sampleTable 3 10).run 3 isDriven
      ((ending firstId ++ ending secondId ++ [.tick 20] ++ ending thirdId ++
        endingStored thirdId 20 ++ [.create fourth] ++ endingStored firstId 10 ++
        endingStored secondId 10) ++ [.create fifth])).any isInverted = true := by decide +kernel
  obtain ⟨s, hs, hinverted⟩ := (Option.any_eq_true _ _).mp hrun
  exact ⟨_, s, hs, not_isTrimmed_of_isInverted hinverted⟩

end Resident

end FlanForge
