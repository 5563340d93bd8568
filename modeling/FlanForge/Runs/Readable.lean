import FlanForge.Runs.Basic

/-!
# Which records can be read back

The store writes a record without validating it and validates it on every
read. Every record the manager writes is made from one it has read, and all
but one way of making it keep the record valid: a drain of a claimed record
moves the state and leaves the claim. Such a record is stored, and from then
on no read reports it.
-/

namespace FlanForge

open Discipline

/-- The record is a drained copy of a claimed one. -/
def drainsClaimed : Base → HotGuest → Bool
  | .copy b, guest => b.state = .claimed && guest.state = .draining
  | .fresh _, _ => false

/-- No claimed record is drained. -/
def keepsClaims : ManagerRegime where
  call _ _ op _ :=
    match op with
    | .hotSave base guest => !drainsClaimed base guest
    | _ => true
  start _ _ := true
  env _ _ := true
  reboot _ := true

variable {w : Worlds} {t : TaskId} {s : State} {base : Base} {guest : HotGuest}

/-- Every record that is written fits its columns, and is valid unless a
claimed one was drained. -/
theorem SaveSpec.isValid_iff (h : SaveSpec t s base guest) :
    guest.isStorable = true ∧ guest.isInRange = true ∧
      (guest.isValid = true ↔ drainsClaimed base guest = false) := by
  cases base with
  | copy b =>
    obtain ⟨hstorable, hrange, hvalid⟩ := h.1.rewrites h.2
    refine ⟨hstorable, hrange, hvalid.trans ?_⟩
    simp [drainsClaimed]
  | fresh id =>
    obtain ⟨x, lane, now, -, -, -, hx, -, -, -, hnow, hguest⟩ := h
    obtain ⟨hvalid, hstorable, -⟩ := retainedRecord_valid hx hnow hguest
    exact ⟨hstorable, (HotGuest.isValid_iff.mp hvalid).1, iff_of_true hvalid rfl⟩

/-- Every stored record is valid. -/
def Readable (s : State) : Prop :=
  ∀ vmName guest, s.hot.record vmName = some guest → guest.isValid = true

/-- Where no claimed record was drained, every stored record is valid. -/
theorem readable_of_run (hw : Run keepsClaims w) : Readable w.shared := by
  refine Run.invariant (J := Readable) ?_ ?_ (fun _ _ h => h) ?_ (fun _ _ h _ => h) hw
  · intro s hs vmName guest hr
    rw [hs.hot] at hr
    simp [HotTable.record, Table.get] at hr
  · intro w t fresh op a s' spawned _ hJ hspec _ hcall heffect vmName guest hr
    cases heffect with
    | saved base saved clock hot hsave =>
      by_cases hv : saved.vmName = vmName
      · obtain rfl : saved = guest := by
          rw [← hv, HotTable.record_save_self hsave] at hr
          exact Option.some.inj hr
        have hkept : drainsClaimed base saved = false := by simpa [keepsClaims] using hcall
        exact (SaveSpec.isValid_iff hspec).2.2.mpr hkept
      · rw [HotTable.record_save_of_ne hsave hv] at hr
        exact hJ vmName guest hr
    | removed removed clock =>
      by_cases hv : removed = vmName
      · subst hv
        simp at hr
      · exact hJ vmName guest (by rwa [HotTable.record_remove_of_ne hv] at hr)
    | _ => exact hJ vmName guest hr
  · intro s e s' hJ _ henv
    unfold Readable
    rw [henv.hot]
    exact hJ

/-- **Exactly the drained claims are lost.** A record handed to the store
names a claim exactly when it is claimed, and reads back as itself, unless
it is a drained copy of a claimed one; and as long as no claimed record is
drained, every row of the table is read by `load` and `loadAll`. -/
theorem saved_records_readable (w : Worlds) :
    (∀ t base guest, Run .free w → w.pending t = some (.hotSave base guest) →
      ((guest.claimedBy.isSome = true ↔ guest.state = .claimed) ↔
        drainsClaimed base guest = false) ∧
      ∃ row, hotGuestToModel guest = .ok row ∧
        (hotGuestFromModel row = .ok guest ↔ drainsClaimed base guest = false)) ∧
    (Run keepsClaims w → ∀ row ∈ w.shared.hot, ∃ guest, hotGuestToModel guest = .ok row ∧
      guest ∈ w.shared.hot.loadAll ∧ w.shared.hot.load guest.vmName = .ok (some guest)) := by
  constructor
  · intro t base guest hw hp
    obtain ⟨hstorable, hrange, hvalid⟩ := SaveSpec.isValid_iff (hw.spec hp)
    obtain ⟨row, hrow⟩ := exists_hotGuestToModel.mpr hstorable
    refine ⟨by rw [← hvalid, HotGuest.isValid_iff, and_iff_right hrange], row, hrow, ?_⟩
    rw [hotGuestFromModel_toModel hrow, ← hvalid]
    cases guest.isValid <;> simp
  · intro hw row hmem
    have hhot := hw.inv.hot
    obtain ⟨guest, hguest⟩ := hhot.written row hmem
    have hrecord : w.shared.hot.record guest.vmName = some guest := by
      have hget := Table.get_of_mem hhot.unique hmem
      rw [vmName_of_hotGuestToModel hguest] at hget
      simp [HotTable.record, hget, hotGuestOfColumns_toModel hguest, Except.toOption]
    have hvalid := readable_of_run hw guest.vmName guest hrecord
    exact ⟨guest, hguest, hhot.mem_loadAll.mpr ⟨hrecord, hvalid⟩,
      hhot.load_eq_some.mpr ⟨hrecord, hvalid⟩⟩

/-- The task is about to write a record that is no drained claim. -/
def savesKept (t : TaskId) (w : Worlds) : Bool :=
  match w.pending t with
  | some (.hotSave base guest) => !drainsClaimed base guest
  | _ => false

/-- The machine a first job leaves behind: the record it writes reads back, and
once the machine has joined the pool the row is listed. -/
theorem saved_records_readable_retained :
    (∃ w t base guest row, Run .free w ∧ w.pending t = some (.hotSave base guest) ∧
      hotGuestToModel guest = .ok row ∧ hotGuestFromModel row = .ok guest) ∧
    ∃ w guest, Run keepsClaims w ∧ guest ∈ w.shared.hot.loadAll ∧
      w.shared.hot.load guest.vmName = .ok (some guest) := by
  constructor
  · obtain ⟨w, hw, hcheck⟩ : ∃ w, Run .free w ∧ savesKept 1 w = true :=
      exists_run sampleState_started firstJob (by decide +kernel)
    unfold savesKept at hcheck
    split at hcheck
    · rename_i base guest hp
      obtain ⟨-, row, hrow, hread⟩ := (saved_records_readable w).1 1 base guest hw hp
      exact ⟨w, 1, base, guest, row, hw, hp, hrow, hread.mpr (by simpa using hcheck)⟩
    · cases hcheck
  · obtain ⟨w, hw, hcheck⟩ : ∃ w, Run keepsClaims w ∧ (w.shared.hot.length = 1 : Bool) = true :=
      exists_run sampleState_started (firstJob ++ firstRelease) (by decide +kernel)
    obtain ⟨row, hrow⟩ := List.length_eq_one_iff.mp (of_decide_eq_true hcheck)
    obtain ⟨guest, -, hmem, hload⟩ := (saved_records_readable w).2 hw row (by simp [hrow])
    exact ⟨w, guest, hw, hmem, hload⟩

/-! ## A run that loses a record

Run 7 leaves its machine in the pool, run 8 reuses it, and an operator drains
it while run 8 works. -/

/-- Run 8 reuses the machine of run 7, as task 2 with the worker 3. -/
def secondClaim : List Event :=
  .start (.create (sampleBody 8 (.flag true)) (sampleClaims "8")) ::
    turns 2 20 { id := some secondId }

/-- An operator's drain of it, as task 4. -/
def drainOfClaim : List Event := .start (.hotDrain sampleMachine) :: turns 4 3 {}

/-- **A drain of a claimed machine makes its record unreadable**: the one row
of the table is skipped by `loadAll` and is an error for `load`. -/
theorem drained_claim_unreadable : ∃ w, Run .free w ∧ w.shared.hot.length = 1 ∧
    w.shared.hot.loadAll = [] ∧ (w.shared.hot.load sampleMachine).toOption = none := by
  obtain ⟨w, hw, hcheck⟩ : ∃ w, Run .free w ∧ (w.shared.hot.length = 1 ∧
      w.shared.hot.loadAll = [] ∧ (w.shared.hot.load sampleMachine).toOption = none : Bool) =
        true :=
    exists_run sampleState_started (firstJob ++ firstRelease ++ secondClaim ++ drainOfClaim)
      (by decide +kernel)
  exact ⟨w, hw, of_decide_eq_true hcheck⟩

end FlanForge
