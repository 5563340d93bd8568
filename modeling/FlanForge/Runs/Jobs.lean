import FlanForge.Runs.Limits

/-!
# Claims and the jobs of a machine

A create claims a machine by writing back the record it read before the
lock, changed. Between the two another run may have claimed the machine, run
its job and released it, or the machine may be gone. The claim is a change
of the stored record if no other task has written the machine's record since
this create read the pool. As long as every claim is such a change, and every
other write is made from the record that is stored, a record counts the jobs
its machine was given.
-/

namespace FlanForge

/-- The save is a claim: an unclaimed record becomes a claimed one. -/
def isClaim : Base → HotGuest → Bool
  | .copy b, guest => b.state ≠ .claimed && guest.state = .claimed
  | .fresh _, _ => false

/-- The record the save is made from is the one that is stored. -/
def isCurrent (s : State) : Base → Bool
  | .copy b => s.hot.record b.vmName = some b
  | .fresh _ => true

/-- Nobody else has written the machine's record since the task read the
pool. -/
def isUntouched (s : State) (t : TaskId) (vmName : VmName) : Bool := vmName ∉ s.history.touched t

/-- Claims are made and committed on untouched records, everything else is
made from the stored record; one process, one configuration. -/
def freshSnapshots : ManagerRegime where
  call s t op _ :=
    match op with
    | .hotSave base guest =>
      if isClaim base guest then isUntouched s t guest.vmName else isCurrent s base
    | .commit a _ _ => a.origin.hotVmName.all (isUntouched s t)
    | _ => true
  start _ _ := true
  env _ e :=
    match e with
    | .reload _ => false
    | _ => true
  reboot _ := false

/-- An admitted allocation holds the claim of the record, and reuses its
machine. -/
def isInUse (h : History) (guest : HotGuest) : Bool :=
  h.admitted.any fun a => guest.claimedBy = some a.id && a.origin.hotVmName = some guest.vmName

variable {G : ManagerRegime} {w : Worlds} {t fresh : TaskId} {s s' : State} {op : Op} {ans : Answer}
variable {spawned : Option Kind} {a : Allocation} {b guest : HotGuest} {vmName : VmName}
variable {h : History} {seen : List HotGuest}

theorem isInUse_iff : isInUse h guest = true ↔
    ∃ a ∈ h.admitted, guest.claimedBy = some a.id ∧ a.origin.hotVmName = some guest.vmName := by
  simp [isInUse]

theorem isInUse_of_none (hnone : guest.claimedBy = none) :
    isInUse h guest = false := by
  simp [isInUse, hnone]

/-- **A claim on an untouched record changes the stored one.** -/
theorem claim_of_untouched (hspec : SaveSpec t s (.copy b) guest)
    (hclaim : isClaim (.copy b) guest = true)
    (huntouched : isUntouched s t guest.vmName = true) :
    s.hot.record guest.vmName = some b ∧ b.state = .idle ∧ ∃ id, ∃ age : Option UInt64, ∃ now,
      guest = { b with
        state := .claimed, claimedBy := some id, updatedAtUnix := now,
        ageLimitSeconds := age.or b.ageLimitSeconds } := by
  simp only [isClaim, Bool.and_eq_true, decide_eq_true_eq] at hclaim
  obtain ⟨hb, hstate⟩ := hclaim
  have hrewrites : Rewrites t s b guest := hspec.2
  cases hrewrites with
  | stamped reason => exact absurd hstate hb
  | drained reason now => simp at hstate
  | released x now _ _ _ _ _ _ h =>
    obtain ⟨-, rfl⟩ := HotGuest.ensureReleased_eq_ok.mp h
    simp at hstate
  | joined now _ _ _ h =>
    obtain ⟨-, rfl⟩ := HotGuest.ensureState_eq_ok.mp h
    simp at hstate
  | adopted now jobs => simp at hstate
  | claimed id age now _ config hot _ _ _ _ _ h _ _ _ hcurrent =>
    obtain ⟨hidle, rfl⟩ := claimRecord_eq_ok.mp h
    exact ⟨hcurrent (of_decide_eq_true huntouched), hidle, id, age, now, rfl⟩

/-! ## Live allocations were admitted -/

def LiveAdmitted (s : State) : Prop := ∀ x ∈ s.active, ∃ a ∈ s.history.admitted, a.SameRun x

theorem liveAdmitted_of_run (hG : ∀ s, G.reboot s = false) (hw : Run G w) :
    LiveAdmitted w.shared := by
  refine Run.invariant (J := LiveAdmitted) ?_ ?_ (fun _ _ h => h) ?_ ?_ hw
  · intro s hs x hx
    simp [State.active, activeAllocations, hs.entries] at hx
  · intro w t fresh op ans s' spawned hw hJ hspec _ _ he x hx
    have hgrow : w.shared.history.admitted ⊆ s'.history.admitted := by
      rcases he.admitted_cases with ⟨h, -⟩ | ⟨_, _, _, -, h, -⟩ <;> simp [h]
    have hold : ∀ y ∈ w.shared.active, y.SameRun x → ∃ a ∈ s'.history.admitted, a.SameRun x := by
      intro y hy hyx
      obtain ⟨a, ha, hay⟩ := hJ y hy
      exact ⟨a, hgrow ha, hay.trans hyx⟩
    cases he.active hw.inv hspec with
    | shrinks hsub =>
      obtain ⟨y, hy, hyx⟩ := exists_sameRun_of_sublist hsub hx
      exact hold y hy hyx
    | admits a profile seen _ hactive hadmitted =>
      rw [hactive, List.mem_append, List.mem_singleton] at hx
      rcases hx with hx | rfl
      · exact hold x hx (.refl x)
      · exact ⟨x, by rw [hadmitted]; exact List.mem_cons_self, .refl x⟩
    | loads _ _ hload _ _ =>
      rw [serving_of_run hG hw] at hload
      cases hload
  · intro s e s' hJ _ henv x hx
    rw [State.active_congr henv.held] at hx
    rcases henv.config with ⟨-, h⟩ | ⟨config, -, -, -, h⟩
    · rw [h]
      exact hJ x hx
    · rw [h]
      exact hJ x hx
  · intro t s _ hreboot
    rw [hG] at hreboot
    cases hreboot

/-! ## The count -/

/-- The record counts the jobs its machine was given: those it has served, and
the one in progress. -/
structure Counts (s : State) (guest : HotGuest) : Prop where
  jobs : s.history.jobs guest.vmName =
    guest.jobsServed.toNat + (if isInUse s.history guest then 1 else 0)
  room : guest.claimedBy.isSome = true → guest.jobsServed.toNat + 1 < 2 ^ 32
  bound : ∀ hot, s.config.enabledHot guest.profile = some hot → 1 ≤ hot.maxJobs →
    guest.jobsServed.toNat + (if guest.claimedBy.isSome then 1 else 0) ≤ hot.maxJobs.toNat

/-- Only the claim, the number and the name matter. -/
theorem Counts.congr (h : Counts s b) (hjobs : guest.jobsServed = b.jobsServed)
    (hclaim : guest.claimedBy = b.claimedBy) (hname : guest.vmName = b.vmName)
    (hprofile : guest.profile = b.profile) : Counts s guest where
  jobs := by
    have hinUse : isInUse s.history guest = isInUse s.history b := by
      simp [isInUse, hclaim, hname]
    rw [hname, hjobs, hinUse]
    exact h.jobs
  room := by
    rw [hclaim, hjobs]
    exact h.room
  bound := by
    rw [hclaim, hjobs, hprofile]
    exact h.bound

/-- **A change of the stored record keeps the count**: a release turns the job
in progress into one served. -/
theorem Rewrites.counts (hr : Rewrites t s b guest) (hk : Known s.history b)
    (hserving : s.isServing = true) (hfixed : ConfigFixed s) (hlive : LiveAdmitted s)
    (h : Counts s b) : Counts s guest := by
  cases hr with
  | stamped reason => exact h.congr rfl rfl rfl rfl
  | drained reason now => exact h.congr rfl rfl rfl rfl
  | joined now _ _ _ hj =>
    obtain ⟨-, rfl⟩ := HotGuest.ensureState_eq_ok.mp hj
    exact h.congr rfl rfl rfl rfl
  | adopted now jobs _ hload =>
    rw [hserving] at hload
    cases hload
  | released x now _ _ hdrives hactive hclaim horigin hrel =>
    obtain ⟨-, rfl⟩ := HotGuest.ensureReleased_eq_ok.mp hrel
    have hheld := (State.mem_held_of_allocation? (hdrives.entry hactive)).1
    obtain ⟨a, ha, hax⟩ := hlive x (State.mem_active.mpr ⟨hheld, hactive⟩)
    have hinUse : isInUse s.history b = true :=
      isInUse_iff.mpr ⟨a, ha, by rw [hclaim, hax.id], by rw [← hax.origin, horigin]⟩
    have hjobs := h.jobs
    have hroom := h.room (by simp [hclaim])
    simp only [hinUse, if_true] at hjobs
    refine ⟨?_, by simp, fun hot hh hmax => ?_⟩
    · rw [isInUse_of_none rfl, toNat_saturatingAdd32]
      simp only [Bool.false_eq_true, if_false, hjobs, UInt32.toNat_one]
      omega
    · have hbound := h.bound hot hh hmax
      simp only [hclaim, Option.isSome_some, if_true] at hbound
      simp only [toNat_saturatingAdd32, Option.isSome_none, Bool.false_eq_true, if_false,
        UInt32.toNat_one]
      omega
  | claimed id age now _ config hot _ _ _ hfree _ hclaim hconfig hhot hlt _ =>
    obtain ⟨hidle, rfl⟩ := claimRecord_eq_ok.mp hclaim
    have hnone : b.claimedBy = none := by
      have := (HotGuest.isValid_iff.mp hk.valid).2
      simpa [hidle] using this
    rw [hfixed.configs, List.mem_singleton] at hconfig
    subst hconfig
    have hlt' := UInt32.lt_iff_toNat_lt.mp hlt
    have hmax := hot.maxJobs.toNat_lt
    have hjobs := h.jobs
    rw [isInUse_of_none hnone] at hjobs
    refine ⟨?_, fun _ => by simp only; omega, fun hot' hh _ => ?_⟩
    · have hunused : isInUse s.history { b with
          state := .claimed, updatedAtUnix := now, claimedBy := some id,
          ageLimitSeconds := age.or b.ageLimitSeconds } = false := by
        rw [Bool.eq_false_iff, Ne, isInUse_iff]
        rintro ⟨a, ha, hid, -⟩
        exact hfree a ha (Option.some.inj hid).symm
      rw [hunused]
      exact hjobs
    · cases hhot.symm.trans hh
      simp only [Option.isSome_some, if_true]
      omega

/-- Nothing the count looks at has changed. -/
theorem Counts.transfer (h : Counts s guest)
    (hjobs : s'.history.jobs guest.vmName = s.history.jobs guest.vmName)
    (hadmitted : s'.history.admitted = s.history.admitted) (hconfig : s'.config = s.config) :
    Counts s' guest where
  jobs := by
    rw [hjobs, isInUse, hadmitted]
    exact h.jobs
  room := h.room
  bound := by
    rw [hconfig]
    exact h.bound

/-- Every stored record counts. -/
def JobsCounted (s : State) : Prop := ∀ v g, s.hot.record v = some g → Counts s g

/-- A machine joins the pool with the one job it was built for. -/
theorem Counts.of_handsOver {id : AllocationId} (hspec : HandsOver t s id guest)
    (hjobs : s'.history.jobs guest.vmName = 1) : Counts s' guest := by
  obtain ⟨x, lane, now, -, -, -, -, -, -, -, -, hguest⟩ := hspec
  unfold retainedRecord at hguest
  split at hguest
  · cases hguest
    refine ⟨?_, by simp [HotGuest.new], fun hot _ hmax => ?_⟩
    · rw [hjobs, isInUse_of_none rfl]
      rfl
    · simpa [HotGuest.new] using UInt32.le_iff_toNat_le.mp hmax
  · cases hguest

theorem JobsCounted.saved {base : Base} {clock : ℕ} {hot : HotTable} (hJ : JobsCounted s)
    (hs : Inv s) (hserving : s.isServing = true) (hfixed : ConfigFixed s) (hlive : LiveAdmitted s)
    (hspec : SaveSpec t s base guest)
    (hcall : freshSnapshots.call s t (.hotSave base guest) ans = true)
    (hsave : s.hot.save guest = .ok hot) :
    JobsCounted { s with clock := clock, hot := hot, history := s.history.saved t base guest } := by
  intro v g hr
  by_cases hname : guest.vmName = v
  · obtain rfl : guest = g := by
      rw [← hname, HotTable.record_save_self hsave] at hr
      exact Option.some.inj hr
    cases base with
    | copy b =>
      have hsame : guest.vmName = b.vmName := congrArg Pooled.vmName (hspec.2.pooled_eq none)
      have hcurrent : s.hot.record b.vmName = some b := by
        simp only [freshSnapshots] at hcall
        split_ifs at hcall with hclaim
        · rw [← hsame]
          exact (claim_of_untouched hspec hclaim hcall).1
        · exact of_decide_eq_true hcall
      exact (hspec.2.counts hspec.1 hserving hfixed hlive (hJ _ b hcurrent)).transfer
        (by rw [History.saved_copy_jobs]) (by simp) rfl
    | fresh id => exact Counts.of_handsOver hspec (by simp [History.saved])
  · rw [HotTable.record_save_of_ne hsave hname] at hr
    have hne : g.vmName ≠ guest.vmName := by
      rw [hs.hot.vmName_of_record hr]
      exact Ne.symm hname
    refine (hJ v g hr).transfer ?_ (by simp) rfl
    cases base with
    | copy b => rw [History.saved_copy_jobs]
    | fresh id => simp [History.saved, History.wrote, hne]

theorem admit_jobs :
    (h.admits a t).jobs vmName =
      h.jobs vmName + (if a.origin.hotVmName = some vmName then 1 else 0) := by
  cases horigin : a.origin.hotVmName with
  | none => simp [History.admits, horigin]
  | some m =>
    by_cases hm : m = vmName
    · simp [History.admits, horigin, hm]
    · simp [History.admits, horigin, hm, Function.update_of_ne (Ne.symm hm)]

/-- A reuse that is committed on an untouched record finds its own claim there. -/
theorem CommitSpec.claim (h : CommitSpec t s a seen) (horigin : a.origin.hotVmName = some vmName)
    (huntouched : isUntouched s t vmName = true) (hr : s.hot.record vmName = some guest) :
    guest.claimedBy = some a.id := by
  obtain ⟨config, -, size, machines, -, -, hclaim⟩ := h.capacity
  cases ho : a.origin with
  | cloned =>
    rw [ho] at horigin
    cases horigin
  | hotReuse name jobs booted =>
    rw [ho] at horigin
    cases horigin
    simp only [ClaimSpec, ho] at hclaim
    obtain ⟨base, -, lane, -, -, -, -, hcurrent⟩ := hclaim
    obtain ⟨g, hg, hclaimed, -⟩ := hcurrent (of_decide_eq_true huntouched)
    cases hg.symm.trans hr
    exact hclaimed

theorem JobsCounted.committed {profile : Profile} (hJ : JobsCounted s) (hs : Inv s)
    (hspec : CommitSpec t s a seen)
    (hcall : freshSnapshots.call s t (.commit a profile seen) ans = true) (hhot : s'.hot = s.hot)
    (hhistory : s'.history = s.history.admits a fresh) (hconfig : s'.config = s.config) :
    JobsCounted s' := by
  intro v g hr
  rw [hhot] at hr
  have hcounts := hJ v g hr
  have hname := hs.hot.vmName_of_record hr
  refine ⟨?_, hcounts.room, by rw [hconfig]; exact hcounts.bound⟩
  rw [hhistory, admit_jobs, hcounts.jobs, hname, Nat.add_assoc]
  congr 1
  by_cases horigin : a.origin.hotVmName = some v
  · have huntouched : isUntouched s t v = true := by
      simpa [freshSnapshots, horigin] using hcall
    have hclaim := hspec.claim horigin huntouched hr
    have hbefore : isInUse s.history g = false := by
      rw [Bool.eq_false_iff, Ne, isInUse_iff]
      rintro ⟨b, hb, hid, -⟩
      rw [hclaim] at hid
      exact hspec.unadmitted b hb (Option.some.inj hid).symm
    have hafter : isInUse (s.history.admits a fresh) g = true :=
      isInUse_iff.mpr ⟨a, List.mem_cons_self, hclaim, by rw [horigin, hname]⟩
    simp [hbefore, hafter, horigin]
  · have hsame : isInUse (s.history.admits a fresh) g = isInUse s.history g := by
      simp [isInUse, History.admits, hname, horigin]
    simp [hsame, horigin]

theorem JobsCounted.step (hs : Inv s) (hserving : s.isServing = true) (hfixed : ConfigFixed s)
    (hlive : LiveAdmitted s) (hspec : OpSpec t s op)
    (hcall : freshSnapshots.call s t op ans = true) (he : Effect t fresh s op s' spawned)
    (hJ : JobsCounted s) : JobsCounted s' := by
  cases he with
  | saved base guest clock hot hsave =>
    exact hJ.saved hs hserving hfixed hlive hspec hcall hsave
  | removed vmName clock =>
    intro v g hr
    have hne : vmName ≠ v := by
      rintro rfl
      simp at hr
    rw [HotTable.record_remove_of_ne hne] at hr
    exact (hJ v g hr).transfer rfl rfl rfl
  | committed a profile seen clock => exact hJ.committed hs hspec hcall rfl rfl rfl
  | noted n clock => cases n <;> exact fun v g hr => (hJ v g hr).transfer rfl rfl rfl
  | _ => exact fun v g hr => (hJ v g hr).transfer rfl rfl rfl

theorem jobsCounted_of_run (hw : Run freshSnapshots w) : JobsCounted w.shared := by
  refine Run.invariant (J := JobsCounted) ?_ ?_ ?_ ?_ ?_ hw
  · intro s hs v g hr
    rw [hs.hot] at hr
    simp [HotTable.record, Table.get] at hr
  · intro w t fresh op ans s' spawned hw hJ hspec _ hcall he
    exact hJ.step hw.inv (serving_of_run (fun _ => rfl) hw)
      (configFixed_of_run (fun _ => rfl) (fun _ _ => rfl) hw)
        (liveAdmitted_of_run (fun _ => rfl) hw)
      hspec hcall he
  · exact fun s t hJ v g hr => (hJ v g hr).transfer rfl rfl rfl
  · intro s e s' hJ hallow henv v g hr
    rw [henv.hot] at hr
    rcases henv.config with ⟨hconfig, h⟩ | ⟨config, rfl, -⟩
    · exact (hJ v g hr).transfer (by rw [h]) (by rw [h]) hconfig
    · cases hallow
  · intro t s _ hreboot
    cases hreboot

/-- **A claim changes the stored record, and the records count the jobs.** The
first part needs that no other task has written the machine's record since
the create read the pool; the second that this is so for every claim and
commit so far, and that every other write was made from the stored record. -/
theorem claims_keep_count (w : Worlds) :
    (∀ t b guest, Run .free w → w.pending t = some (.hotSave (.copy b) guest) →
      isClaim (.copy b) guest = true → isUntouched w.shared t guest.vmName = true →
      w.shared.hot.record guest.vmName = some b ∧ ∃ id, ∃ age : Option UInt64, ∃ now,
        guest = { b with
          state := .claimed, claimedBy := some id, updatedAtUnix := now,
          ageLimitSeconds := age.or b.ageLimitSeconds }) ∧
    (Run freshSnapshots w → ∀ vmName guest, w.shared.hot.record vmName = some guest →
      w.shared.history.jobs vmName =
        guest.jobsServed.toNat + (if isInUse w.shared.history guest then 1 else 0) ∧
      ∀ hot, w.shared.config.enabledHot guest.profile = some hot → 1 ≤ hot.maxJobs →
        w.shared.history.jobs vmName ≤ hot.maxJobs.toNat) := by
  constructor
  · intro t b guest hw hp hclaim huntouched
    obtain ⟨hcurrent, -, hguest⟩ := claim_of_untouched (hw.spec hp) hclaim huntouched
    exact ⟨hcurrent, hguest⟩
  · intro hw vmName guest hr
    have hcounts := jobsCounted_of_run hw vmName guest hr
    have hjobs := hcounts.jobs
    rw [hw.inv.hot.vmName_of_record hr] at hjobs
    refine ⟨hjobs, fun hot hh hmax => ?_⟩
    have hbound := hcounts.bound hot hh hmax
    cases hinUse : isInUse w.shared.history guest with
    | false =>
      simp only [hinUse, Bool.false_eq_true, if_false] at hjobs
      omega
    | true =>
      obtain ⟨a, -, hclaim, -⟩ := isInUse_iff.mp hinUse
      simp only [hinUse, if_true] at hjobs
      simp only [hclaim, Option.isSome_some, if_true] at hbound
      omega

/-- The task is about to claim a machine whose record is untouched, or gone. -/
def claimsMachine (t : TaskId) (isGone : Bool) (w : Worlds) : Bool :=
  match w.pending t with
  | some (.hotSave (.copy b) guest) => isClaim (.copy b) guest &&
      if isGone then (w.shared.hot.record guest.vmName).isNone
      else isUntouched w.shared t guest.vmName
  | _ => false

theorem claimsMachine_iff {isGone : Bool} (h : claimsMachine t isGone w = true) :
    ∃ b guest, w.pending t = some (.hotSave (.copy b) guest) ∧ isClaim (.copy b) guest = true ∧
      (if isGone then (w.shared.hot.record guest.vmName).isNone
        else isUntouched w.shared t guest.vmName) = true := by
  unfold claimsMachine at h
  split at h
  · rename_i b guest hp
    rw [Bool.and_eq_true] at h
    exact ⟨b, guest, hp, h.1, h.2⟩
  · cases h

/-- Run 8 claims the machine of run 7, and is then its second job. -/
theorem claims_keep_count_second :
    (∃ w b guest, Run .free w ∧ w.pending 2 = some (.hotSave (.copy b) guest) ∧
      w.shared.hot.record guest.vmName = some b) ∧
    ∃ w guest, Run freshSnapshots w ∧ w.shared.hot.record sampleMachine = some guest ∧
      w.shared.history.jobs sampleMachine =
        guest.jobsServed.toNat + (if isInUse w.shared.history guest then 1 else 0) := by
  constructor
  · obtain ⟨w, hw, hcheck⟩ : ∃ w, Run .free w ∧ claimsMachine 2 false w = true :=
      exists_run sampleState_started (firstJob ++ firstRelease ++ lateClaim ++
        turns 2 5 { id := some secondId }) (by decide +kernel)
    obtain ⟨b, guest, hp, hclaim, huntouched⟩ := claimsMachine_iff hcheck
    exact ⟨w, b, guest, hw, hp, ((claims_keep_count w).1 2 b guest hw hp hclaim huntouched).1⟩
  · obtain ⟨w, hw, hcheck⟩ : ∃ w, Run freshSnapshots w ∧
        (w.shared.hot.record sampleMachine).isSome = true :=
      exists_run sampleState_started (firstJob ++ firstRelease ++ secondClaim) (by decide +kernel)
    obtain ⟨guest, hr⟩ := Option.isSome_iff_exists.mp hcheck
    exact ⟨w, guest, hw, hr, ((claims_keep_count w).2 hw sampleMachine guest hr).1⟩

/-! ## A claim on a machine that is gone

Run 8 has read the pool. Run 9 claims the machine of run 7, which thereby
reaches its two jobs, and is destroyed at the release. Then run 8 takes the
lock. -/

/-- Run 9 uses the machine, as task 3 with the worker 4, from the claim to the
end of the machine. -/
def lastJob : List Event :=
  .start (.create (sampleBody 9 (.flag true)) (sampleClaims "9")) ::
    turns 3 20 { id := some thirdId } ++ turns 4 47 { flag := true }

/-- **A create writes back a record that was removed after its snapshot.** -/
theorem claim_of_removed : ∃ w b guest, Run fixedConfig w ∧
    w.pending 2 = some (.hotSave (.copy b) guest) ∧ isClaim (.copy b) guest = true ∧
    w.shared.hot.record guest.vmName = none := by
  obtain ⟨w, hw, hcheck⟩ : ∃ w, Run fixedConfig w ∧ claimsMachine 2 true w = true :=
    exists_run sampleState_started (firstJob ++ firstRelease ++ lateClaim ++ lastJob ++
      turns 2 5 { id := some secondId }) (by decide +kernel)
  obtain ⟨b, guest, hp, hclaim, hgone⟩ := claimsMachine_iff hcheck
  exact ⟨w, b, guest, hw, hp, hclaim, Option.isNone_iff_eq_none.mp hgone⟩

end FlanForge
