import FlanForge.Runs.Exclusion

/-!
# Who destroys a claimed machine

The victim of a yield, a bound, a drain or an evict request is chosen from
what was read earlier and destroyed later, with nothing checked in between;
a create claims under the entries lock and knows nothing of the choice. The
two exclude each other only as long as no machine is chosen that another
allocation holds, and none is claimed that is chosen.
-/

namespace FlanForge

/-- Every live allocation that reuses the machine is driven by the task. -/
def holdsAlone (s : State) (t : TaskId) (vmName : VmName) : Bool :=
  s.active.all fun b => b.origin.hotVmName ≠ some vmName || s.history.driver b.id = some t

/-- A task has decided to destroy the machine the allocation reuses. -/
def claimsChosen (s : State) (a : Allocation) : Bool :=
  s.history.chosen.any fun p => a.origin.hotVmName = some p.2

/-- Only machines nobody else claims are chosen, and no chosen machine is
claimed. -/
def choosesUnclaimed : ManagerRegime where
  call s t op _ :=
    match op with
    | .note (.chose vmName) => holdsAlone s t vmName
    | .commit a _ _ => !claimsChosen s a
    | _ => true
  start _ _ := true
  env _ _ := true
  reboot _ := false

variable {w : Worlds} {t fresh : TaskId} {s s' : State} {op : Op} {ans : Answer}
variable {spawned : Option Kind} {a b : Allocation} {vmName : VmName}

theorem holdsAlone_iff : holdsAlone s t vmName = true ↔
    ∀ b ∈ s.active, b.origin.hotVmName = some vmName → s.history.driver b.id = some t := by
  simp [holdsAlone, or_iff_not_imp_left]

/-- A machine chosen by a task is claimed by no allocation of another. -/
def ChosenAlone (s : State) : Prop :=
  ∀ t vmName, (t, vmName) ∈ s.history.chosen → ∀ b ∈ s.active,
    b.origin.hotVmName = some vmName → s.history.driver b.id = some t

/-- Fewer choices and the same drivers, over the same active allocations. -/
theorem ChosenAlone.of_eq (hJ : ChosenAlone s) (hchosen : s'.history.chosen ⊆ s.history.chosen)
    (hdriver : s'.history.driver = s.history.driver) (hactive : s'.active = s.active) :
    ChosenAlone s' := by
  intro t vmName hc b hb horigin
  rw [hdriver]
  exact hJ t vmName (hchosen hc) b (hactive ▸ hb) horigin

/-- The driver of one allocation changes, and the one it had has chosen
nothing. -/
theorem ChosenAlone.drive {id : AllocationId} {task : Option TaskId} (hJ : ChosenAlone s)
    (hid : ∀ t vmName, s.history.driver id = some t → (t, vmName) ∉ s.history.chosen)
    (hhistory : s'.history = s.history.drive id task) (hactive : s'.active = s.active) :
    ChosenAlone s' := by
  intro t vmName hc b hb horigin
  rw [hhistory] at hc ⊢
  have hb' := hJ t vmName hc b (hactive ▸ hb) horigin
  have hne : b.id ≠ id := by
    rintro rfl
    exact hid t vmName hb' hc
  simpa [History.drive, hne] using hb'

theorem ChosenAlone.committed {profile : Profile} {seen : List HotGuest} (hJ : ChosenAlone s)
    (hspec : CommitSpec t s a seen) (hclaims : claimsChosen s a = false) (hs : Inv s)
    (he : Effect t fresh s (.commit a profile seen) s' spawned)
    (hhistory : s'.history = s.history.admits a fresh) : ChosenAlone s' := by
  intro u vmName hc b hb horigin
  rw [hhistory] at hc ⊢
  have hc' : (u, vmName) ∈ s.history.chosen := (List.mem_filter.mp hc).1
  have hop : OpSpec t s (.commit a profile seen) := hspec
  rcases (he.active hs hop).mem_serving hspec.serving hb with ⟨x, hx, hxb⟩ | ⟨_, _, hop⟩
  · have hne : x.id ≠ a.id := by
      obtain ⟨e, he, rfl⟩ := State.mem_held.mp (State.mem_active.mp hx).1
      exact hspec.unused e he
    have hdriver := hJ u vmName hc' x hx (hxb.origin ▸ horigin)
    simpa [History.admits, History.drive, History.begin, hxb.id, hne] using hdriver
  · cases hop
    simp only [claimsChosen, List.any_eq_false, decide_eq_true_eq] at hclaims
    exact absurd horigin (hclaims (u, vmName) hc')

theorem ChosenAlone.step (hJ : ChosenAlone s) (hs : Inv s) (hserving : s.isServing = true)
    (hspec : OpSpec t s op) (hcall : choosesUnclaimed.call s t op ans = true)
    (he : Effect t fresh s op s' spawned) : ChosenAlone s' := by
  have hheld := he.active hs hspec
  cases he with
  | committed a profile seen clock =>
    exact hJ.committed hspec (by simpa [choosesUnclaimed] using hcall) hs
      (.committed a profile seen clock) rfl
  | put a clock hlock =>
    intro u vmName hc b hb horigin
    rcases hheld.mem_serving hserving hb with ⟨x, hx, hxb⟩ | ⟨_, _, hop⟩
    · rw [hxb.id]
      exact hJ u vmName hc x hx (hxb.origin ▸ horigin)
    · cases hop
  | driven id e clock hlock hget hactive hsupervised hterminalizing =>
    -- nobody drove the entry a cancel takes over
    have hnone := hs.undriven hserving e (Table.mem_of_get hget) hsupervised hterminalizing
    rw [Table.key_of_get hget] at hnone
    refine hJ.drive (fun u vmName hu => ?_) rfl
      (State.active_congr (State.held_modifyEntry (s := s) fun _ => rfl))
    rw [hnone] at hu
    cases hu
  | ended id clock | released id clock =>
    -- whoever lets go of an entry has no choice left to carry out
    refine hJ.drive (fun u vmName hu => ?_) rfl
      (State.active_congr (State.held_modifyEntry (s := s) fun _ => rfl))
    obtain rfl : u = t := Option.some.inj (hu.symm.trans hspec.1)
    exact fun hc => by simpa using (hspec.2 vmName).mp hc
  | loaded allocations clock =>
    have hfalse : s.isServing = false := hspec.1
    rw [hserving] at hfalse
    cases hfalse
  | served clock =>
    have hfalse : s.isServing = false := hspec
    rw [hserving] at hfalse
    cases hfalse
  | noted n clock =>
    cases n with
    | chose vmName =>
      have halone := holdsAlone_iff.mp (show holdsAlone s t vmName = true from hcall)
      intro u v hc b hb horigin
      rcases List.mem_cons.mp hc with hc | hc
      · cases hc
        exact halone b hb horigin
      · exact hJ u v hc b hb horigin
    | settled vmName => exact hJ.of_eq (List.filter_subset_self _) rfl rfl
    | operatorEvict vmName => exact hJ
  | saved base guest clock hot =>
    exact hJ.of_eq (by simp) (by simp) rfl
  | cancelled id clock =>
    exact hJ.of_eq (List.Subset.refl _) rfl
      (State.active_congr (State.held_modifyEntry (s := s) fun _ => rfl))
  | _ => exact hJ

theorem chosenAlone_of_run (hw : Run choosesUnclaimed w) : ChosenAlone w.shared := by
  refine Run.invariant (J := ChosenAlone) ?_ ?_ ?_ ?_ ?_ hw
  · intro s hs t vmName hc
    simp [hs.history, History.initial] at hc
  · intro w t fresh op ans s' spawned hw hJ hspec _ hcall he
    exact hJ.step hw.inv (serving_of_run (fun _ => rfl) hw) hspec hcall he
  · intro s t hJ
    exact hJ.of_eq (List.filter_subset_self _) rfl rfl
  · intro s e s' hJ _ henv
    have hactive := State.active_congr henv.held
    rcases henv.config with ⟨-, h⟩ | ⟨config, -, -, -, h⟩
    · exact hJ.of_eq (by rw [h]; exact List.Subset.refl _) (by rw [h]) hactive
    · exact hJ.of_eq (by rw [h]; exact List.Subset.refl _) (by rw [h]; rfl) hactive
  · intro t s _ hreboot
    cases hreboot

/-- **A claimed machine is destroyed by its own allocation or an operator.** -/
theorem evictions_spare_claims (hw : Run choosesUnclaimed w) (guest : HotGuest)
    (hp : w.pending t = some (.hotEvict guest))
    (hordered : (t, guest.vmName) ∉ w.shared.history.ordered) :
    ∀ b ∈ w.shared.active, b.origin.hotVmName = some guest.vmName →
      w.shared.history.driver b.id = some t := by
  intro b hb horigin
  have hspec : EvictSpec t w.shared guest.vmName := hw.spec hp
  rcases hspec with hchosen | ho | ⟨x, hdrives, hactive, hx⟩ | hserving
  · exact chosenAlone_of_run hw t guest.vmName hchosen b hb horigin
  · exact absurd ho hordered
  · have hmem := (State.mem_held_of_allocation? (hdrives.entry hactive)).1
    have hid := exclusive_of_run (fun _ => rfl) hw b hb x (State.mem_active.mpr ⟨hmem, hactive⟩)
      ⟨guest.vmName, horigin, hx⟩
    rw [hid]
    exact hdrives.driver
  · rw [serving_of_run (fun _ => rfl) hw] at hserving
    cases hserving

/-- The task is about to destroy a machine, on its own, that a live allocation
reuses; `isOwn` says whether it drives that allocation. -/
def destroysClaimed (t : TaskId) (isOwn : Bool) (w : Worlds) : Bool :=
  match w.pending t with
  | some (.hotEvict guest) => (t, guest.vmName) ∉ w.shared.history.ordered &&
      w.shared.active.any fun b => b.origin.hotVmName = some guest.vmName &&
        (w.shared.history.driver b.id = some t : Bool) = isOwn
  | _ => false

theorem destroysClaimed_iff {isOwn : Bool} (h : destroysClaimed t isOwn w = true) :
    ∃ guest, w.pending t = some (.hotEvict guest) ∧ (t, guest.vmName) ∉ w.shared.history.ordered ∧
      ∃ b ∈ w.shared.active, b.origin.hotVmName = some guest.vmName ∧
        (w.shared.history.driver b.id = some t ↔ isOwn = true) := by
  unfold destroysClaimed at h
  split at h
  · rename_i guest hp
    simp only [Bool.and_eq_true, decide_eq_true_eq, List.any_eq_true] at h
    obtain ⟨hordered, b, hb, horigin, hdriver⟩ := h
    exact ⟨guest, hp, hordered, b, hb, horigin, by rw [← hdriver]; simp⟩
  · cases h

/-- The worker of the run that claimed the machine finds it dead and has it
destroyed. -/
theorem evictions_spare_claims_dead : ∃ w guest b, Run choosesUnclaimed w ∧
    w.pending 3 = some (.hotEvict guest) ∧ b ∈ w.shared.active ∧
    b.origin.hotVmName = some guest.vmName ∧ w.shared.history.driver b.id = some 3 := by
  obtain ⟨w, hw, hcheck⟩ : ∃ w, Run choosesUnclaimed w ∧ destroysClaimed 3 true w = true :=
    exists_run sampleState_started (firstJob ++ firstRelease ++ secondClaim ++ turns 3 7 {})
      (by decide +kernel)
  obtain ⟨guest, hp, hordered, b, hb, horigin, -⟩ := destroysClaimed_iff hcheck
  exact ⟨w, guest, b, hw, hp, hb, horigin,
    evictions_spare_claims hw guest hp hordered b hb horigin⟩

/-! ## A claim between choice and eviction

Run 9 asks for the profile's machines to go and has chosen the one run 7
left. Before it is drained and destroyed, run 8 claims it. -/

/-- Run 9, as task 2, up to its choice. -/
def choosesFirst : List Event :=
  .start (.create (sampleBody 9 (.action "evict")) (sampleClaims "9")) :: turns 2 6 {}

/-- Run 8 claims the machine, as task 3 with the worker 4. -/
def claimsFirst : List Event :=
  .start (.create (sampleBody 8 (.flag true)) (sampleClaims "8")) ::
    turns 3 20 { id := some secondId }

/-- **An evict request destroys a machine another run claimed after it was
chosen.** -/
theorem eviction_of_claimed : ∃ w guest b, Run oneProcess w ∧
    w.pending 2 = some (.hotEvict guest) ∧ (2, guest.vmName) ∉ w.shared.history.ordered ∧
    b ∈ w.shared.active ∧ b.origin.hotVmName = some guest.vmName ∧
    w.shared.history.driver b.id ≠ some 2 := by
  obtain ⟨w, hw, hcheck⟩ : ∃ w, Run oneProcess w ∧ destroysClaimed 2 false w = true :=
    exists_run sampleState_started
      (firstJob ++ firstRelease ++ choosesFirst ++ claimsFirst ++ turns 2 1 {}) (by decide +kernel)
  obtain ⟨guest, hp, hordered, b, hb, horigin, hdriver⟩ := destroysClaimed_iff hcheck
  exact ⟨w, guest, b, hw, hp, hordered, hb, horigin, fun h => by simpa using hdriver.mp h⟩

end FlanForge
