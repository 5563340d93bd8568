import Mathlib.Data.Int.Notation
import Mathlib.Data.List.Basic
import FlanForge.Common.Service
import FlanForge.Job.Listing
import FlanForge.Core.Sample
import FlanForge.Manager.Admission

/-!
# Runner registrations

An allocation registers one ephemeral runner with Forgejo and records its
id. Registration can end anywhere: the create request can be processed
although its answer is lost, the id can fail to be recorded, the process can
stop. Cleanup then deletes by the recorded id, and without one by name, from
a listing it reads page by page until a page is empty.

Every request is a call with an outcome, as in `Common.Service`; stopping
anywhere is a crash with nothing to recover. Other runners come and go
between any two requests, as part of the answer: a page is the slice of the
list at the moment it is asked for. The allocation the cleanup was given may
be older than the recorded id, so reading it can miss the id. The ids this
allocation registered are kept beside the state.

A runner that leaves the list moves those behind it forward. If it leaves
between two pages of a scan and stood before the allocation's runner, that
runner can move onto a page already read. `noneAhead` rules out exactly that.
-/

namespace FlanForge

open List

/-- A runner of the repository, as Forgejo lists it. -/
structure RunnerRecord where
  id : ℤ
  name : String
  status : String
  deriving DecidableEq

def RunnerRecord.isValid (runner : RunnerRecord) : Bool :=
  1 ≤ runner.id && isLengthWithin runner.name 0 255 && isText runner.name &&
    isLengthWithin runner.status 1 32 && isToken runner.status

/-- The name an allocation's runner is registered under. -/
def runnerName (id : AllocationId) : String := "flanforged-" ++ id.value

namespace Registration

/-- Forgejo's list, the recorded id, and what was ever registered. -/
structure State where
  runners : List RunnerRecord
  /-- Forgejo's own page size, to which it clamps the requested one. -/
  pageSize : ℕ
  /-- The id the allocation's record holds. -/
  runnerId : Option ℤ
  /-- The create request has been sent. -/
  isRequested : Bool
  /-- Every id that was ever given out. -/
  used : List ℤ
  /-- The ids given to this allocation. -/
  registered : List ℤ

inductive Op
  | createRunner (name : String)
  | setRunnerId (runnerId : ℤ)
  | runnerId
  | deleteRunner (runnerId : ℤ)
  | runnerPage (page : ℕ)

abbrev Res : Op → Type
  | .createRunner _ => Except ForgejoError ℤ
  | .setRunnerId _ => Except ManagerError Unit
  | .runnerId => Option ℤ
  | .deleteRunner _ => Except ForgejoError Unit
  | .runnerPage _ => Except ForgejoError (List RunnerRecord)

/-- How a call goes, and what the other runners did before it. -/
structure Answer where
  outcome : CallOutcome := .done
  error : ForgejoError := .unavailable
  storeError : StoreError := ⟨"unavailable"⟩
  /-- The id given to a new runner. -/
  id : ℤ := 1
  /-- The allocation at hand is older than the recorded id. -/
  isStale : Bool := false
  gone : List ℤ := []
  arrived : List RunnerRecord := []

/-- Other runners leave and arrive, the new ones at the end and under new ids. -/
def State.moved (s : State) (a : Answer) : Option State :=
  if a.arrived.all (!s.used.contains ·.id) then
    some { s with
      runners := s.runners.filter (!a.gone.contains ·.id) ++ a.arrived
      used := a.arrived.map (·.id) ++ s.used }
  else none

/-- The state with a runner this allocation registered. -/
def State.created (s : State) (name : String) (id : ℤ) : State :=
  { s with
    runners := s.runners ++ [⟨id, name, "offline"⟩]
    isRequested := true
    used := id :: s.used
    registered := id :: s.registered }

/-- What a call does, once the others have moved. A create request is sent
once, and its id is new. -/
def call : (o : Op) → Answer → State → Option (State × Res o)
  | .createRunner name, a, s =>
    if s.isRequested || s.used.contains a.id then none
    else
      match a.outcome with
      | .done => if a.id < 1 then none else some (s.created name a.id, .ok a.id)
      | .late => some (s.created name a.id, .error a.error)
      | .failed => some ({ s with isRequested := true }, .error a.error)
  | .setRunnerId runnerId, a, s =>
    match a.outcome with
    | .done => some ({ s with runnerId := some runnerId }, .ok ())
    | .late => some ({ s with runnerId := some runnerId }, .error (.store a.storeError))
    | .failed => some (s, .error (.store a.storeError))
  | .runnerId, a, s => some (s, if a.isStale then none else s.runnerId)
  | .deleteRunner runnerId, a, s =>
    let deleted := { s with runners := s.runners.filter (·.id ≠ runnerId) }
    match a.outcome with
    | .done => some (deleted, .ok ())
    | .late => some (deleted, .error a.error)
    | .failed => some (s, .error a.error)
  | .runnerPage page, a, s =>
    match a.outcome with
    | .done => some (s, .ok ((s.runners.drop ((page - 1) * s.pageSize)).take s.pageSize))
    | _ => some (s, .error a.error)

def exec (o : Op) (a : Answer) (s : State) : Option (State × Res o) := (s.moved a).bind (call o a)

/-! ## The programs -/

abbrev Program := Prog Op Res

open Prog (perform)

/-- Register a runner and record its id. An id that cannot be recorded is given
back, and whether that worked is not looked at. -/
def register (id : AllocationId) : Program (Except WorkerError ℤ) := do
  match ← perform (Op.createRunner (runnerName id)) with
  | .error e => pure (.error (.new e.message))
  | .ok runnerId =>
    match ← perform (Op.setRunnerId runnerId) with
    | .error e =>
      let _ ← perform (Op.deleteRunner runnerId)
      pure (.error (.new e.message))
    | .ok _ => pure (.ok runnerId)

/-- The ids a page has under the name; a record under it has to be valid. -/
def matchingIds (name : String) : List RunnerRecord → Except ForgejoError (List ℤ)
  | [] => .ok []
  | runner :: runners =>
    if runner.name ≠ name then matchingIds name runners
    else if !runner.isValid then .error .malformed
    else (matchingIds name runners).map (runner.id :: ·)

/-- Read the listing from a page on, within a budget of pages. Answers the
matching ids and whether an empty page was reached. -/
def scanFrom (name : String) : ℕ → ℕ → List ℤ → Program (Except ForgejoError (List ℤ × Bool))
  | 0, _, ids => pure (.ok (ids, false))
  | budget + 1, page, ids => do
    match ← perform (Op.runnerPage page) with
    | .error e => pure (.error e)
    | .ok [] => pure (.ok (ids, true))
    | .ok runners =>
      match matchingIds name runners with
      | .error e => pure (.error e)
      | .ok found => scanFrom name budget (page + 1) (ids ++ found)

/-- Delete every runner listed under the name. -/
def deleteRunnersNamed (name : String) : Program (Except ForgejoError Unit) := do
  match ← scanFrom name 10 1 [] with
  | .error e => pure (.error e)
  | .ok (ids, isComplete) =>
    match ← Prog.tryEach ids fun runnerId => perform (Op.deleteRunner runnerId) with
    | .error e => pure (.error e)
    | .ok _ => pure (if isComplete then .ok () else .error .malformed)

/-- Delete the registration of an allocation. -/
def deleteRunner (id : AllocationId) : Program (Except WorkerError Unit) := do
  let result ←
    match ← perform Op.runnerId with
    | some runnerId => perform (Op.deleteRunner runnerId)
    | none => deleteRunnersNamed (runnerName id)
  match result with
  | .ok _ => pure (.ok ())
  | .error e => pure (.error (.new e.message))

/-! ## Runs -/

inductive Kind
  | register
  | deleteRunner

def service (id : AllocationId) : Service State Op Res Answer Kind where
  exec := exec
  code
    | .register => register id >>= fun _ => .ret ()
    | .deleteRunner => deleteRunner id >>= fun _ => .ret ()
  recovery := .ret true
  crash s := s

/-- Nothing is registered and nothing is recorded. -/
structure Initial (s : State) : Prop where
  unregistered : s.registered = []
  unrecorded : s.runnerId = none
  unrequested : s.isRequested = false
  paged : 0 < s.pageSize
  used : ∀ runner ∈ s.runners, runner.id ∈ s.used

/-- The runner with this id stands before one of the allocation's. -/
def isAhead (registered : List ℤ) : List RunnerRecord → ℤ → Bool
  | [], _ => false
  | runner :: rest, id =>
    (runner.id = id && rest.any (registered.contains ·.id)) || isAhead registered rest id

/-- Between two pages of a scan, no runner that stands before one of the
allocation's leaves the list. -/
def noneAhead : Conditions State Op Answer Kind where
  call s
    | .runnerPage page, a => page ≤ 1 || a.gone.all (!isAhead s.registered s.runners ·)
    | _, _ => true
  start _ _ := true
  crash _ := true

/-! ## The invariant -/

structure Inv (id : AllocationId) (s : State) : Prop where
  paged : 0 < s.pageSize
  unrequested : s.isRequested = false → s.registered = [] ∧ s.runnerId = none
  recorded : ∀ j, s.runnerId = some j → ∀ i ∈ s.registered, i = j
  used : ∀ runner ∈ s.runners, runner.id ∈ s.used
  given : ∀ i ∈ s.registered, i ∈ s.used
  named : ∀ runner ∈ s.runners, runner.id ∈ s.registered → runner.name = runnerName id

variable {id : AllocationId} {s s' : State} {a : Answer} {ids : List ℤ} {o : Op} {r : Res o}
variable {runner : RunnerRecord} {runnerId : ℤ} {G : Conditions State Op Answer Kind} {read : ℕ}
variable {found : List ℤ}

theorem Initial.inv (h : Initial s) : Inv id s where
  paged := h.paged
  unrequested _ := ⟨h.unregistered, h.unrecorded⟩
  recorded j hj := by rw [h.unrecorded] at hj; cases hj
  used := h.used
  given i hi := by rw [h.unregistered] at hi; cases hi
  named runner _ hi := by rw [h.unregistered] at hi; cases hi

/-- What the others have done before a call. -/
structure Moved (s s' : State) (a : Answer) : Prop where
  fresh : ∀ runner ∈ a.arrived, runner.id ∉ s.used
  eq : s' = { s with
    runners := s.runners.filter (!a.gone.contains ·.id) ++ a.arrived
    used := a.arrived.map (·.id) ++ s.used }

theorem moved_of_exec (h : exec o a s = some (s', r)) :
    ∃ s₁, Moved s s₁ a ∧ call o a s₁ = some (s', r) := by
  obtain ⟨s₁, hmoved, hcall⟩ := Option.bind_eq_some_iff.mp h
  unfold State.moved at hmoved
  split at hmoved
  · rename_i hfresh
    cases hmoved
    simp only [all_eq_true, Bool.not_eq_true', contains_eq_mem, decide_eq_false_iff_not]
      at hfresh
    exact ⟨_, ⟨hfresh, rfl⟩, hcall⟩
  · cases hmoved

/-- A runner in the list after the move that is one of the allocation's was
there before. -/
theorem Moved.mem (h : Moved s s' a) (hs : Inv id s) (hmem : runner ∈ s'.runners)
    (hid : runner.id ∈ s.registered) : runner ∈ s.runners := by
  rw [h.eq] at hmem
  rcases mem_append.mp hmem with hold | hnew
  · exact (mem_filter.mp hold).1
  · exact absurd (hs.given _ hid) (h.fresh runner hnew)

theorem Moved.registered (h : Moved s s' a) : s'.registered = s.registered := by rw [h.eq]

theorem Moved.inv (h : Moved s s' a) (hs : Inv id s) : Inv id s' := by
  have hmem : ∀ r ∈ s'.runners, r.id ∈ s.registered → r ∈ s.runners := fun _ => h.mem hs
  obtain ⟨hfresh, rfl⟩ := h
  refine ⟨hs.paged, hs.unrequested, hs.recorded, ?_, ?_, ?_⟩
  · intro runner hrunner
    rcases mem_append.mp hrunner with hold | hnew
    · exact mem_append_right _ (hs.used runner (mem_filter.mp hold).1)
    · exact mem_append_left _ (mem_map_of_mem hnew)
  · exact fun i hi => mem_append_right _ (hs.given i hi)
  · exact fun runner hrunner hid => hs.named runner (hmem runner hrunner hid) hid

/-- Every runner of the allocation that is listed is among the ids. -/
def Gathered (s : State) (ids : List ℤ) : Prop :=
  ∀ runner ∈ s.runners, runner.id ∈ s.registered → runner.id ∈ ids

theorem Moved.gathered (h : Moved s s' a) (hs : Inv id s) (hgathered : Gathered s ids) :
    Gathered s' ids :=
  fun runner hmem hid => by
    rw [h.registered] at hid
    exact hgathered runner (h.mem hs hmem hid) hid

/-! ## Registering -/

/-- A new runner of the allocation is its only one. -/
theorem created_inv (hs : Inv id s) (hrequest : s.isRequested = false) (hnew : runnerId ∉ s.used) :
    Inv id (s.created (runnerName id) runnerId) ∧
      (s.created (runnerName id) runnerId).registered = [runnerId] := by
  obtain ⟨hnone, hunrecorded⟩ := hs.unrequested hrequest
  have hsole : (s.created (runnerName id) runnerId).registered = [runnerId] := by
    simp only [State.created, hnone]
  refine ⟨⟨hs.paged, (fun h => by cases h), fun j hj => ?_, ?_, ?_, ?_⟩, hsole⟩
  · simp only [State.created, hunrecorded] at hj
    cases hj
  · intro runner hmem
    rcases mem_append.mp hmem with hold | hlast
    · exact mem_cons_of_mem _ (hs.used runner hold)
    · rw [mem_singleton.mp hlast]
      exact mem_cons_self ..
  · intro i hi
    rw [hsole] at hi
    rw [mem_singleton.mp hi]
    exact mem_cons_self ..
  · intro runner hmem hid
    rw [hsole] at hid
    rcases mem_append.mp hmem with hold | hlast
    · exact absurd (mem_singleton.mp hid ▸ hs.used runner hold) hnew
    · rw [mem_singleton.mp hlast]

/-- The invariant does not depend on the recorded id beyond what it says of it. -/
theorem Inv.record (hs : Inv id s) (hrequest : s.isRequested = true)
    (hsole : s.registered = [runnerId]) : Inv id { s with runnerId := some runnerId } := by
  refine ⟨hs.paged, fun h => ?_, fun j hj i hi => ?_, hs.used, hs.given, hs.named⟩
  · rw [hrequest] at h
    cases h
  · rw [hsole] at hi
    rw [mem_singleton.mp hi]
    exact Option.some.inj hj

theorem Inv.delete (hs : Inv id s) (runnerId : ℤ) :
    Inv id { s with runners := s.runners.filter (·.id ≠ runnerId) } := by
  have hmem : ∀ runner ∈ s.runners.filter (·.id ≠ runnerId), runner ∈ s.runners :=
    fun runner h => (mem_filter.mp h).1
  exact ⟨hs.paged, hs.unrequested, hs.recorded, fun runner h => hs.used runner (hmem runner h),
    hs.given, fun runner h => hs.named runner (hmem runner h)⟩

/-- What is left to delete once a deletion is reported. -/
theorem Gathered.delete (h : Gathered s (runnerId :: ids)) :
    Gathered { s with runners := s.runners.filter (·.id ≠ runnerId) } ids := by
  intro runner hmem hid
  obtain ⟨hold, hne⟩ := mem_filter.mp hmem
  rcases mem_cons.mp (h runner hold hid) with heq | htail
  · exact absurd heq (of_decide_eq_true hne)
  · exact htail

/-- A deletion keeps the invariant, and once it is reported the id is settled. -/
theorem deleteRunner_keeps (hs : Inv id s) (hgathered : Gathered s (runnerId :: ids)) :
    (service id).Keeps G (Inv id) (perform (Op.deleteRunner runnerId))
      (fun r s => Inv id s ∧ (r = .ok () → Gathered s ids)) s := by
  refine .perform fun a s' r _ hexec => ?_
  obtain ⟨s₁, hmoved, hcall⟩ := moved_of_exec hexec
  have hs₁ := hmoved.inv hs
  simp only [call] at hcall
  split at hcall
  · cases hcall
    exact ⟨hs₁.delete runnerId, hs₁.delete runnerId,
      fun _ => (hmoved.gathered hs hgathered).delete⟩
  · cases hcall
    exact ⟨hs₁.delete runnerId, hs₁.delete runnerId, fun h => by cases h⟩
  · cases hcall
    exact ⟨hs₁, hs₁, fun h => by cases h⟩

/-- Any deletion keeps the invariant. -/
theorem deleteRunner_keeps_inv (hs : Inv id s) :
    (service id).Keeps G (Inv id) (perform (Op.deleteRunner runnerId)) (fun _ => Inv id) s := by
  have hall : Gathered s (runnerId :: s.registered) := fun _ _ h => mem_cons_of_mem _ h
  exact (deleteRunner_keeps hs hall).mono fun _ _ h => h.1

theorem register_keeps (hs : Inv id s) :
    (service id).Keeps G (Inv id) (register id) (fun _ => Inv id) s := by
  refine .bind (Q := fun r s => Inv id s ∧ ∀ runnerId, r = .ok runnerId →
      s.isRequested = true ∧ s.registered = [runnerId]) ?_ fun r s hr => ?_
  · refine .perform fun a s' r _ hexec => ?_
    obtain ⟨s₁, hmoved, hcall⟩ := moved_of_exec hexec
    have hs₁ := hmoved.inv hs
    simp only [call] at hcall
    split at hcall
    · cases hcall
    · rename_i hsent
      simp only [Bool.or_eq_true, not_or, Bool.not_eq_true, contains_eq_mem,
        decide_eq_false_iff_not] at hsent
      obtain ⟨hcreated, hsole⟩ := created_inv hs₁ hsent.1 hsent.2
      split at hcall
      · split at hcall
        · cases hcall
        · cases hcall
          refine ⟨hcreated, hcreated, fun runnerId h => ?_⟩
          cases h
          exact ⟨rfl, hsole⟩
      · cases hcall
        exact ⟨hcreated, hcreated, fun _ h => by cases h⟩
      · cases hcall
        have hsent : Inv id { s₁ with isRequested := true } :=
          ⟨hs₁.paged, (fun h => by cases h), hs₁.recorded, hs₁.used, hs₁.given, hs₁.named⟩
        exact ⟨hsent, hsent, fun _ h => by cases h⟩
  · obtain ⟨hs, hok⟩ := hr
    cases r with
    | error e => exact hs
    | ok runnerId =>
      obtain ⟨hrequest, hsole⟩ := hok runnerId rfl
      refine .bind (Q := fun _ => Inv id) ?_ fun r s hs => ?_
      · refine .perform fun a s' r _ hexec => ?_
        obtain ⟨s₁, hmoved, hcall⟩ := moved_of_exec hexec
        have hs₁ := hmoved.inv hs
        have hrequest₁ : s₁.isRequested = true := by rw [hmoved.eq]; exact hrequest
        have hrecorded := hs₁.record hrequest₁ (hmoved.registered.trans hsole)
        simp only [call] at hcall
        split at hcall
        · cases hcall
          exact ⟨hrecorded, hrecorded⟩
        · cases hcall
          exact ⟨hrecorded, hrecorded⟩
        · cases hcall
          exact ⟨hs₁, hs₁⟩
      · cases r with
        | ok _ => exact hs
        | error e => exact (deleteRunner_keeps_inv hs).bind fun _ _ h => h

/-! ## Scanning -/

/-- Every runner of the allocation is among the ids or not yet read. -/
def Covers (s : State) (read : ℕ) (ids : List ℤ) : Prop :=
  ∀ before runner after, s.runners = before ++ runner :: after → runner.id ∈ s.registered →
    runner.id ∈ ids ∨ read ≤ before.length

theorem isAhead_of_split {registered : List ℤ} {before after : List RunnerRecord}
    {runner other : RunnerRecord} (hid : runner.id ∈ registered) (hmem : other ∈ before) :
    isAhead registered (before ++ runner :: after) other.id = true := by
  induction before with
  | nil => cases hmem
  | cons first rest ih =>
    rw [cons_append, isAhead, Bool.or_eq_true]
    rcases mem_cons.mp hmem with rfl | hrest
    · left
      simp [hid]
    · exact .inr (ih hrest)

/-- **Leaving behind a runner does not move it.** While nothing ahead of the
allocation's runners leaves, what is not yet read stays unread. -/
theorem Moved.covers (h : Moved s s' a) (hs : Inv id s) (hcovers : Covers s read ids)
    (hahead : read = 0 ∨ ∀ i ∈ a.gone, isAhead s.registered s.runners i = false) :
    Covers s' read ids := by
  intro before runner after hsplit hid
  rcases hahead with rfl | hahead
  · exact .inr (Nat.zero_le _)
  rw [h.registered] at hid
  rw [h.eq] at hsplit
  rcases append_eq_append_iff.mp hsplit with ⟨rest, hbefore, hrest⟩ | ⟨rest, hold, hrest⟩
  · -- the runner stands among the new ones, but its id is not new
    have hnew : runner ∈ a.arrived := by rw [hrest]; simp
    exact absurd (hs.given _ hid) (h.fresh runner hnew)
  · cases rest with
    | nil =>
      have hnew : runner ∈ a.arrived := by
        rw [nil_append] at hrest
        rw [← hrest]
        simp
      exact absurd (hs.given _ hid) (h.fresh runner hnew)
    | cons first rest =>
      obtain ⟨rfl, -⟩ := List.cons.inj hrest
      obtain ⟨kept, tail, hrunners, hkept, htail⟩ := filter_eq_append_iff.mp hold
      obtain ⟨skipped, last, rfl, hskipped, -, -⟩ := filter_eq_cons_iff.mp htail
      rw [← append_assoc] at hrunners
      have hstay : ∀ other ∈ kept ++ skipped, (!a.gone.contains other.id) = true := by
        intro other hother
        rw [Bool.not_eq_true', contains_eq_mem, decide_eq_false_iff_not]
        intro hgone
        have hno := hahead _ hgone
        rw [hrunners, isAhead_of_split hid hother] at hno
        cases hno
      have hnone : skipped = [] := eq_nil_iff_forall_not_mem.mpr fun other hother =>
        hskipped other hother (hstay other (mem_append_right _ hother))
      have hbefore : before = kept := by
        rw [← hkept, filter_eq_self.mpr fun other hother =>
          hstay other (mem_append_left _ hother)]
      rw [hnone, append_nil] at hrunners
      rw [hbefore]
      exact hcovers kept runner last hrunners hid

/-- The ids of a page under the name. -/
theorem mem_matchingIds {name : String} {runners : List RunnerRecord}
    (h : matchingIds name runners = .ok found) (hmem : runner ∈ runners)
    (hname : runner.name = name) : runner.id ∈ found := by
  induction runners generalizing found with
  | nil => cases hmem
  | cons first rest ih =>
    simp only [matchingIds] at h
    split at h
    · rename_i hother
      rcases mem_cons.mp hmem with rfl | hrest
      · exact absurd hname hother
      · exact ih h hrest
    · split at h
      · cases h
      · obtain ⟨more, hmore, rfl⟩ : ∃ more, matchingIds name rest = .ok more ∧
            first.id :: more = found := by
          cases hmore : matchingIds name rest with
          | error e => rw [hmore] at h; cases h
          | ok more => rw [hmore] at h; exact ⟨more, rfl, Except.ok.inj h⟩
        rcases mem_cons.mp hmem with rfl | hrest
        · exact mem_cons_self ..
        · exact mem_cons_of_mem _ (ih hmore hrest)

/-- A page that is read covers what stands on it. -/
theorem Covers.page (h : Covers s read ids) (hs : Inv id s)
    (hfound : matchingIds (runnerName id) ((s.runners.drop read).take s.pageSize) = .ok found) :
    Covers s (read + s.pageSize) (ids ++ found) := by
  intro before runner after hsplit hid
  rcases h before runner after hsplit hid with hold | hunread
  · exact .inl (mem_append_left _ hold)
  · rcases Nat.lt_or_ge before.length (read + s.pageSize) with hlt | hge
    · have hrunner : runner ∈ s.runners := by rw [hsplit]; simp
      have hpage : runner ∈ (s.runners.drop read).take s.pageSize := by
        rw [hsplit, drop_append_of_le_length hunread]
        refine mem_take_iff_getElem.mpr ⟨before.length - read, ?_, ?_⟩
        · simp only [length_append, length_drop, length_cons]
          omega
        · rw [getElem_append_right (by simp)]
          simp
      exact .inl
        (mem_append_right _ (mem_matchingIds hfound hpage (hs.named runner hrunner hid)))
    · exact .inr hge

/-- **An empty page ends the list.** -/
theorem Covers.gathered (h : Covers s read ids) (hs : Inv id s)
    (hempty : (s.runners.drop read).take s.pageSize = []) : Gathered s ids := by
  intro runner hmem hid
  have hdrop : s.runners.drop read = [] := by
    rcases take_eq_nil_iff.mp hempty with hzero | hnil
    · exact absurd hzero (Nat.pos_iff_ne_zero.mp hs.paged)
    · exact hnil
  have hlength : s.runners.length ≤ read := drop_eq_nil_iff.mp hdrop
  obtain ⟨before, after, hsplit⟩ := append_of_mem hmem
  rcases h before runner after hsplit hid with hold | hunread
  · exact hold
  · rw [hsplit, length_append, length_cons] at hlength
    omega

/-- **A scan that reached the end has seen every runner of the allocation.** -/
theorem scanFrom_keeps (budget page : ℕ) (hs : Inv id s)
    (hcovers : Covers s (page * s.pageSize) ids) :
    (service id).Keeps noneAhead (Inv id) (scanFrom (runnerName id) budget (page + 1) ids)
      (fun r s => Inv id s ∧ ∀ ids, r = .ok (ids, true) → Gathered s ids) s := by
  induction budget generalizing page ids s with
  | zero => exact ⟨hs, fun ids h => by cases h⟩
  | succ budget ih =>
    refine .bind (Q := fun r s => Inv id s ∧ ∀ runners, r = .ok runners →
      runners = (s.runners.drop (page * s.pageSize)).take s.pageSize ∧
        Covers s (page * s.pageSize) ids) ?_ fun r s hr => ?_
    · refine .perform fun a s' r hallow hexec => ?_
      obtain ⟨s₁, hmoved, hcall⟩ := moved_of_exec hexec
      have hs₁ := hmoved.inv hs
      have hsize : s₁.pageSize = s.pageSize := by rw [hmoved.eq]
      have hahead : page * s.pageSize = 0 ∨
          ∀ i ∈ a.gone, isAhead s.registered s.runners i = false := by
        simp only [noneAhead, Bool.or_eq_true, decide_eq_true_eq, all_eq_true,
          Bool.not_eq_true'] at hallow
        rcases hallow with hfirst | hnone
        · exact .inl (by rw [Nat.le_zero.mp (Nat.le_of_succ_le_succ hfirst), Nat.zero_mul])
        · exact .inr hnone
      have hcovers₁ := hmoved.covers hs hcovers hahead
      simp only [call, Nat.add_sub_cancel] at hcall
      split at hcall
      · cases hcall
        refine ⟨hs₁, hs₁, fun runners h => ?_⟩
        cases h
        exact ⟨rfl, hsize ▸ hcovers₁⟩
      · cases hcall
        exact ⟨hs₁, hs₁, fun _ h => by cases h⟩
    · obtain ⟨hs, hpage⟩ := hr
      split
      · exact ⟨hs, fun _ h => by cases h⟩
      · obtain ⟨hempty, hcovers⟩ := hpage [] rfl
        refine ⟨hs, fun found h => ?_⟩
        cases h
        exact hcovers.gathered hs hempty.symm
      · rename_i runners _
        obtain ⟨heq, hcovers⟩ := hpage runners rfl
        split
        · exact ⟨hs, fun _ h => by cases h⟩
        · rename_i found hfound
          rw [heq] at hfound
          have hnext := hcovers.page hs hfound
          rw [← Nat.succ_mul] at hnext
          exact ih (page + 1) hs hnext

/-! ## Deleting -/

theorem deleteEach_keeps (hs : Inv id s) (hgathered : Gathered s ids) :
    (service id).Keeps G (Inv id)
      (Prog.tryEach ids fun runnerId => perform (Op.deleteRunner runnerId))
      (fun r s => Inv id s ∧ (r = .ok () → Gathered s [])) s := by
  induction ids generalizing s with
  | nil => exact ⟨hs, fun _ => hgathered⟩
  | cons runnerId ids ih =>
    refine (deleteRunner_keeps hs hgathered).bind fun r s' hr => ?_
    cases r with
    | ok _ => exact ih hr.1 (hr.2 rfl)
    | error e => exact ⟨hr.1, fun h => by cases h⟩

theorem deleteEach_keeps_inv (hs : Inv id s) :
    (service id).Keeps G (Inv id)
      (Prog.tryEach ids fun runnerId => perform (Op.deleteRunner runnerId)) (fun _ => Inv id) s :=
  .tryEach hs fun _ _ hs => deleteRunner_keeps_inv hs

theorem deleteRunnersNamed_keeps (hs : Inv id s) :
    (service id).Keeps noneAhead (Inv id) (deleteRunnersNamed (runnerName id))
      (fun r s => Inv id s ∧ (r = .ok () → Gathered s [])) s := by
  have hstart : Covers s (0 * s.pageSize) [] := fun _ _ _ _ _ => .inr (by simp)
  refine (scanFrom_keeps 10 0 hs hstart).bind fun r s hr => ?_
  obtain ⟨hs, hscanned⟩ := hr
  cases r with
  | error e => exact ⟨hs, fun h => by cases h⟩
  | ok result =>
    obtain ⟨ids, isComplete⟩ := result
    cases isComplete with
    | true =>
      refine (deleteEach_keeps hs (hscanned ids rfl)).bind fun r s hr => ?_
      cases r with
      | error e => exact ⟨hr.1, fun h => by cases h⟩
      | ok _ => exact ⟨hr.1, fun _ => hr.2 rfl⟩
    | false =>
      refine (deleteEach_keeps_inv hs).bind fun r s hs => ?_
      cases r with
      | error e => exact ⟨hs, fun h => by cases h⟩
      | ok _ => exact ⟨hs, fun h => by cases h⟩

/-- **Deleting a registration leaves none**, by the recorded id or by name. -/
theorem deleteRunner_settles (hs : Inv id s) :
    (service id).Keeps noneAhead (Inv id) (deleteRunner id)
      (fun r s => Inv id s ∧ (r = .ok () → Gathered s [])) s := by
  have hreport : ∀ (result : Except ForgejoError Unit) (s : State),
      Inv id s ∧ (result = .ok () → Gathered s []) →
      (service id).Keeps noneAhead (Inv id)
        (match result with
          | .ok _ => pure (.ok ())
          | .error e => pure (.error (.new e.message)))
        (fun (r : Except WorkerError Unit) s => Inv id s ∧ (r = .ok () → Gathered s [])) s := by
    intro result s h
    cases result with
    | ok _ => exact ⟨h.1, fun _ => h.2 rfl⟩
    | error e => exact ⟨h.1, fun h => by cases h⟩
  refine .call (R := fun r s => Inv id s ∧ ∀ j, r = some j → s.runnerId = some j)
    ?_ fun r s hr => ?_
  · intro a s' r _ hexec
    obtain ⟨s₁, hmoved, hcall⟩ := moved_of_exec hexec
    have hs₁ := hmoved.inv hs
    simp only [call] at hcall
    cases hcall
    refine ⟨hs₁, hs₁, fun j h => ?_⟩
    split at h
    · cases h
    · exact h
  · obtain ⟨hs, hread⟩ := hr
    cases r with
    | some j =>
      have hsole : Gathered s [j] := fun runner _ hid =>
        mem_singleton.mpr (hs.recorded j (hread j rfl) _ hid)
      exact (deleteRunner_keeps hs hsole).bind hreport
    | none => exact (deleteRunnersNamed_keeps hs).bind hreport

theorem recoverable (id : AllocationId) :
    Service.Recoverable (service id) noneAhead Initial (Inv id) where
  init _ h := h.inv
  start k s hs _ := by
    cases k with
    | register => exact (register_keeps hs).bind fun _ _ h => h
    | deleteRunner => exact (deleteRunner_settles hs).bind fun _ _ h => h.1
  crash _ hs _ := hs
  recovery _ hs _ := hs

/-! ## The result -/

/-- **No registration outlives a successful deletion.** Wherever registering
ended, and whatever the calls before reported: when a deletion of the
allocation's runner is reported done, no runner it registered is listed, as
long as no runner that stands before one of its own leaves the list between
two pages of a scan. -/
theorem deletion_leaves_no_registration {id : AllocationId} {w : Process State Op Res} {s' : State}
    (hw : Service.Reachable (service id) noneAhead Initial w)
    (h : (service id).Ends noneAhead (deleteRunner id) w.state (.ok ()) s') :
    ∀ runner ∈ s'.runners, runner.id ∉ s'.registered := by
  have hsettled := (deleteRunner_settles ((recoverable id).inv hw)).ends h
  intro runner hmem hid
  cases hsettled.2 rfl runner hmem hid

/-- A page of other runners. -/
def crowdedState : State where
  runners := (List.range 50).map fun n => ⟨n + 1, "other", "idle"⟩
  pageSize := 50
  runnerId := none
  isRequested := false
  used := (List.range 50).map fun n => (n : ℤ) + 1
  registered := []

theorem crowdedState_initial : Initial crowdedState where
  unregistered := rfl
  unrecorded := rfl
  unrequested := rfl
  paged := by decide
  used := by decide +kernel

/-- The create request is processed and its answer is lost. -/
def lostAnswer : List (Occurrence Answer Kind) :=
  [.start .register, .run { outcome := .late, id := 51 }]

/-- Some runner of the allocation is listed. -/
def isListed (s : State) : Bool := s.runners.any (s.registered.contains ·.id)

/-- The deletion ends well on these answers, in a state that passes the check. -/
def endsWith (G : Conditions State Op Answer Kind) (answers : List Answer) (check : State → Bool)
    (w : Process State Op Res) : Bool :=
  ((service firstId).perform G (deleteRunner firstId) w.state answers).any fun r =>
    r.1 = .ok () && check r.2

theorem ends_of_endsWith {answers : List Answer} {check : State → Bool} {w : Process State Op Res}
    (h : endsWith G answers check w = true) :
    ∃ s', (service firstId).Ends G (deleteRunner firstId) w.state (.ok ()) s' ∧
      check s' = true := by
  obtain ⟨⟨r, s'⟩, hperform, hr⟩ := Option.any_eq_true _ _ |>.mp h
  simp only [Bool.and_eq_true, decide_eq_true_eq] at hr
  obtain ⟨rfl, hcheck⟩ := hr
  exact ⟨s', Service.ends_of_perform hperform, hcheck⟩

/-- A registration whose answer was lost is found on the second page and
deleted. -/
theorem deletion_finds_lost_registration :
    ∃ w s', Service.Reachable (service firstId) noneAhead Initial w ∧ isListed w.state = true ∧
      (service firstId).Ends noneAhead (deleteRunner firstId) w.state (.ok ()) s' ∧
      ∀ runner ∈ s'.runners, runner.id ∉ s'.registered := by
  have hrun : ((service firstId).replay noneAhead ⟨crowdedState, .ret true⟩ lostAnswer).any
      (fun w => isListed w.state && endsWith noneAhead [{}, {}, {}, {}, {}] (fun _ => true) w) =
        true := by decide +kernel
  obtain ⟨w, hw, hcheck⟩ := Service.exists_reachable crowdedState_initial _ hrun
  rw [Bool.and_eq_true] at hcheck
  obtain ⟨s', hends, -⟩ := ends_of_endsWith hcheck.2
  exact ⟨w, s', hw, hcheck.1, hends, deletion_leaves_no_registration hw hends⟩

/-- **A runner that leaves hides another.** One of the fifty on the first page
ends after it was read: the allocation's runner moves onto that page, the next
page is empty, and the deletion is reported done with the runner still listed. -/
theorem departure_hides_registration :
    ∃ w s', Service.Reachable (service firstId) .free Initial w ∧
      (service firstId).Ends .free (deleteRunner firstId) w.state (.ok ()) s' ∧
      ∃ runner ∈ s'.runners, runner.id ∈ s'.registered := by
  have hrun : ((service firstId).replay .free ⟨crowdedState, .ret true⟩ lostAnswer).any
      (endsWith .free [{}, {}, { gone := [1] }] isListed) = true := by decide +kernel
  obtain ⟨w, hw, hcheck⟩ := Service.exists_reachable crowdedState_initial _ hrun
  obtain ⟨s', hends, hlisted⟩ := ends_of_endsWith hcheck
  obtain ⟨runner, hmem, hid⟩ := any_eq_true.mp hlisted
  exact ⟨w, s', hw, hends, runner, hmem, by simpa using hid⟩

end Registration

end FlanForge
