import FlanForge.Runs.Jobs

/-!
# Decided drains

A drain reason on a record says that the machine is to go. The selection of
a machine for a claim looks at the record's state and not at its reason, and
a write made from an older copy may drop the reason. So the decision binds
later creates as long as no record is left idle with a reason on it, no
write drops a reason, and claims are made on untouched records.
-/

namespace FlanForge

/-- The record would be idle, and still be claimed, with a drain reason. -/
def leavesIdle (guest : HotGuest) : Bool := guest.drainReason.isSome && guest.state = .idle

/-- A copy is written without the reason that was recorded on the machine. -/
def dropsReason (s : State) : Base → HotGuest → Bool
  | .copy _, guest => guest.drainReason.isNone && guest.vmName ∈ s.history.drained
  | .fresh _, _ => false

/-- No decided drain is undone by a write. -/
def keepsDrains : ManagerRegime where
  call s t op _ :=
    match op with
    | .hotSave base guest => !leavesIdle guest &&
        if isClaim base guest then isUntouched s t guest.vmName else !dropsReason s base guest
    | _ => true
  start _ _ := true
  env _ _ := true
  reboot _ := true

variable {w : Worlds} {t fresh : TaskId} {s s' : State} {op : Op} {ans : Answer}
variable {spawned : Option Kind} {b guest : HotGuest} {vmName : VmName}

/-- A machine that is to go has a record, and the record is not idle. -/
def DrainsKept (s : State) : Prop :=
  ∀ v ∈ s.history.drained, ∃ g, s.hot.record v = some g ∧ g.state ≠ .idle

theorem DrainsKept.saved {base : Base} {clock : ℕ} {hot : HotTable} (hJ : DrainsKept s)
    (hcall : keepsDrains.call s t (.hotSave base guest) ans = true)
    (hsave : s.hot.save guest = .ok hot) :
    DrainsKept { s with clock := clock, hot := hot, history := s.history.saved t base guest } := by
  simp only [keepsDrains, Bool.and_eq_true, Bool.not_eq_true'] at hcall
  obtain ⟨hidle, hkeeps⟩ := hcall
  have hself := HotTable.record_save_self hsave
  intro v hv
  by_cases hname : guest.vmName = v
  · subst hname
    refine ⟨guest, hself, fun hstate => ?_⟩
    -- the saved record is idle, so it carries no reason and is no claim
    have hnone : guest.drainReason = none := by simpa [leavesIdle, hstate] using hidle
    cases base with
    | copy b =>
      have hclaim : isClaim (.copy b) guest = false := by simp [isClaim, hstate]
      have hmem : guest.vmName ∈ s.history.drained := by
        simpa [History.saved, History.wrote, hnone] using hv
      simp [hclaim, dropsReason, hnone, hmem] at hkeeps
    | fresh id => simp [History.saved] at hv
  · have hv' : v ∈ s.history.drained := by
      cases base with
      | copy b =>
        simp only [History.saved] at hv
        split_ifs at hv with hsome
        · exact (List.mem_cons.mp hv).resolve_left (Ne.symm hname)
        · exact hv
      | fresh id => exact List.mem_of_mem_filter hv
    obtain ⟨g, hr, hstate⟩ := hJ v hv'
    exact ⟨g, by rw [← hr]; exact HotTable.record_save_of_ne hsave hname, hstate⟩

theorem drainsKept_of_run (hw : Run keepsDrains w) : DrainsKept w.shared := by
  refine Run.invariant (J := DrainsKept) ?_ ?_ (fun _ _ h => h) ?_ (fun _ _ h _ => h) hw
  · intro s hs v hv
    simp [hs.history, History.initial] at hv
  · intro w t fresh op ans s' spawned _ hJ _ _ hcall he
    cases he with
    | saved base guest clock hot hsave => exact hJ.saved hcall hsave
    | removed vmName clock =>
      intro v hv
      obtain ⟨hv, hne⟩ := List.mem_filter.mp hv
      obtain ⟨g, hr, hstate⟩ := hJ v hv
      refine ⟨g, ?_, hstate⟩
      rw [← hr]
      exact HotTable.record_remove_of_ne (Ne.symm (of_decide_eq_true hne))
    | noted n => cases n <;> exact hJ
    | _ => exact hJ
  · intro s e s' hJ _ henv v hv
    rw [henv.hot]
    rcases henv.config with ⟨-, h⟩ | ⟨config, -, -, -, h⟩
    · exact hJ v (by rwa [h] at hv)
    · exact hJ v (by rwa [h] at hv)

/-- **A machine that is to go is not claimed again.** -/
theorem claims_spare_drained (hw : Run keepsDrains w)
    (hp : w.pending t = some (.hotSave (.copy b) guest)) (hclaim : isClaim (.copy b) guest = true)
    (huntouched : isUntouched w.shared t guest.vmName = true) :
    guest.vmName ∉ w.shared.history.drained := by
  intro hdrained
  obtain ⟨g, hr, hstate⟩ := drainsKept_of_run hw guest.vmName hdrained
  obtain ⟨hcurrent, hidle, -⟩ := claim_of_untouched (hw.spec hp) hclaim huntouched
  cases hr.symm.trans hcurrent
  exact hstate hidle

/-- The small installation with room for two machines in its pool. -/
def pairState : State :=
  let config := { sampleConfig with runtime := { sampleConfig.runtime with maxHotVms := 2 } }
  { sampleState with config := config, watched := config, history := .initial config }

/-- An operator drains the machine of run 7, as task 2, which is about to destroy
it. Run 8, tasks 3 and 4, leaves a second machine. -/
def drainBesideJob : List Event :=
  .start (.hotDrain sampleMachine) :: turns 2 4 {} ++
    .start (.create (sampleBody 8 (.flag true)) (sampleClaims "8")) ::
    turns 3 19 { id := some secondId } ++ turns 4 17 { count := 1 } ++ turns 4 5 {}

/-- Run 9 claims the machine of run 8; that of run 7 is still to go. -/
theorem claims_spare_drained_third : ∃ w b guest, Run keepsDrains w ∧
    w.pending 5 = some (.hotSave (.copy b) guest) ∧ isClaim (.copy b) guest = true ∧
    sampleMachine ∈ w.shared.history.drained ∧ guest.vmName ∉ w.shared.history.drained := by
  obtain ⟨w, hw, hcheck⟩ : ∃ w, Run keepsDrains w ∧
      (claimsMachine 5 false w && sampleMachine ∈ w.shared.history.drained) = true :=
    exists_run (s := pairState) ⟨by decide +kernel, rfl, rfl, rfl, rfl, rfl, rfl⟩
      (firstJob ++ firstRelease ++ drainBesideJob ++
        .start (.create (sampleBody 9 (.flag true)) (sampleClaims "9")) ::
        turns 5 17 { id := some thirdId }) (by decide +kernel)
  obtain ⟨hclaims, hdrained⟩ := Bool.and_eq_true_iff.mp hcheck
  obtain ⟨b, guest, hp, hclaim, huntouched⟩ := claimsMachine_iff hclaims
  exact ⟨w, b, guest, hw, hp, hclaim, of_decide_eq_true hdrained,
    claims_spare_drained hw hp hclaim huntouched⟩

/-! ## A claim after a failed eviction

A foreign machine takes the second slot, and run 9 has the idle machine of
run 7 evicted to make room. The backend refuses, so the decision is recorded
on the idle record. The foreign machine goes, and run 8 claims the machine. -/

/-- The machine run 7 left, and a machine of somebody else. -/
def pressedHost : List HostMachine :=
  [⟨"ff-p-7-1", .running, none, .owned, none⟩,
    ⟨"other", .running, some ⟨2, 4096, 16384⟩, .foreign, none⟩]

/-- Run 9, as task 2: its eviction fails and it is refused. -/
def failedYield : List Event :=
  .env (.host pressedHost) ::
  .start (.create (sampleBody 9 (.flag false)) (sampleClaims "9")) ::
    turns 2 1 { elapsed := 5000000000 } ++ turns 2 9 {} ++ turns 2 1 { failed := true } ++
    turns 2 7 {}

/-- Run 8, as task 3, up to its claim. -/
def claimAfterYield : List Event :=
  .env (.host (pressedHost.take 1)) ::
  .start (.create (sampleBody 8 (.flag true)) (sampleClaims "8")) ::
    turns 3 1 { elapsed := 5000000000 } ++ turns 3 18 { id := some secondId }

/-- **A create claims a machine whose drain is recorded.** -/
theorem claim_of_drained : ∃ w b guest, Run oneProcess w ∧
    w.pending 3 = some (.hotSave (.copy b) guest) ∧ isClaim (.copy b) guest = true ∧
    isUntouched w.shared 3 guest.vmName = true ∧ guest.vmName ∈ w.shared.history.drained := by
  obtain ⟨w, hw, hcheck⟩ : ∃ w, Run oneProcess w ∧
      (claimsMachine 3 false w && w.shared.history.drained = [sampleMachine] &&
        (w.pending 3).any fun op =>
          match op with
          | .hotSave _ guest => guest.vmName = sampleMachine
          | _ => false) = true :=
    exists_run sampleState_started (firstJob ++ firstRelease ++ failedYield ++ claimAfterYield)
      (by decide +kernel)
  simp only [Bool.and_eq_true, decide_eq_true_eq] at hcheck
  obtain ⟨⟨hclaims, hdrained⟩, hname⟩ := hcheck
  obtain ⟨b, guest, hp, hclaim, huntouched⟩ := claimsMachine_iff hclaims
  have hname : guest.vmName = sampleMachine := by simpa [hp] using hname
  exact ⟨w, b, guest, hw, hp, hclaim, huntouched, by simp [hdrained, hname]⟩

end FlanForge
