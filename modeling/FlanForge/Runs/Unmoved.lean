import FlanForge.Manager.Surplus
import FlanForge.Manager.Unmoved
import FlanForge.Runs.Readable

/-!
# Machines drained although nothing moved

The bounds pass compares a machine's warm generation with the one the
profile's record promotes. A run that fell back to the template records no
generation, so next to a promoted record its machine counts as stale from
the moment it joins the pool. A machine that was built from what the record
promotes, or under a record that promotes nothing, stays and is claimable.
-/

namespace FlanForge

open Machine (Performs)

variable {G : ManagerRegime} {w : Worlds} {name : ProfileName} {profile : Profile}
variable {hot : HotConfig} {idle : HotGuest}

/-- The pool record of a machine that a run of the profile, built from the source
and generation as it recorded them, left in the lane. -/
def IsLeftBy (name : ProfileName) (lane : HotLane) (source : CloneSource)
    (generation : Option UInt64) (idle : HotGuest) : Prop :=
  ∃ (x a : Allocation) (recordedAt leftAt : UInt64) (guest : HotGuest),
    x.request.profile = name ∧
    x.source = (a.setCloneSource source generation recordedAt).source ∧
    x.warmGeneration = (a.setCloneSource source generation recordedAt).warmGeneration ∧
    retainedRecord x lane leftAt = some guest ∧ guest.SameBuild idle

/-- The pool record keeps the evidence of the build. -/
theorem IsLeftBy.evidence {images : List WarmImageRecord} {current : Option BaseFingerprint}
    {lane : HotLane} {source : CloneSource} {generation : Option UInt64}
    (h : IsLeftBy name lane source generation idle)
    (hbuilt : BuiltFrom images name current source generation) :
    idle.profile = name ∧ idle.lane = lane ∧ idle.source = source ∧
      idle.warmGeneration = generation := by
  obtain ⟨x, a, recordedAt, leftAt, guest, hname, hsource, hgeneration, hguest, hsame⟩ := h
  have hkept : x.warmGeneration = generation := by
    rw [hgeneration]
    cases hbuilt with
    | template hkind => simp [Allocation.setCloneSource, hkind]
    | warm record hkind => simp [Allocation.setCloneSource, hkind]
  rw [hsame.profile, hsame.lane, hsame.source, hsame.warmGeneration]
  simp only [Allocation.setCloneSource] at hsource
  simp only [retainedRecord, hsource] at hguest
  split at hguest
  · rename_i hsome
    cases hsome
    cases hguest
    exact ⟨hname, rfl, rfl, hkept⟩
  · cases hguest

/-- A machine that is claimable is of the generation the profile stands for. -/
theorem warmGeneration_of_isClaimable {lane : HotLane} {claimed : List String} {policy : HotPolicy}
    (h : isClaimable name lane claimed policy idle = true) :
    idle.warmGeneration = policy.warmGeneration := by
  simp only [isClaimable, Bool.and_eq_true, Option.isNone_iff_eq_none] at h
  obtain ⟨⟨hserving, -⟩, hreason⟩ := h
  by_contra hne
  simp only [drainReason, (HotGuest.isServing_iff.mp hserving).1, HotState.isTerminal] at hreason
  split_ifs at hreason <;> simp_all

/-- **A marked machine is destroyed**: a pass that spares it has no reason to act
on, or finds it held. -/
theorem unmarked_of_spared {t : TaskId} {s : State} {now : UInt64}
    {bases : VmName → Option BaseFingerprint} {Q : Unit → State → Prop} (hwf : s.hot.WellFormed)
    (hlock : s.lock = none) (hslots : 0 < s.config.runtime.maxHotVms) (hnow : now.toNat < 2 ^ 63)
    (hmem : idle ∈ s.hot.loadAll) (hidle : idle.state = .idle)
    (h : manager.Completes (unmoved bases now) (fun _ op => op.isSparing idle.vmName = true) t
      ensureHotBounded s Q) :
    idle.drainReason = none ∨ idle.vmName.value ∈ liveHotNames s.entries := by
  by_contra hmarked
  obtain ⟨hreason, hfree⟩ := not_or.mp hmarked
  have hnone : idle.claimedBy = none := by
    simpa [hidle] using (HotGuest.isValid_iff.mp (hwf.mem_loadAll.mp hmem).2).2
  have hretried := mem_retriedEvictions.mpr ⟨hmem, by simp [hidle], hnone, hfree, hreason⟩
  have hanswers : ∀ s o a, granted ⟨bases, fun _ => false⟩ s o a = true →
      (exec t 0 o a s).isSome = true → ∃ b, granted ⟨bases, fun _ => false⟩ s o b = true ∧
        unmoved bases now s o b = true ∧ (exec t 0 o b s).isSome = true := by
    intro s o a hok hsome
    cases o with
    | unixTime => exact ⟨{ now := now }, rfl, decide_eq_true rfl, by rw [exec, if_pos hnow]; rfl⟩
    | imageLoad => exact ⟨a, hok, by simpa [granted, unmoved] using hok, hsome⟩
    | baseFingerprint => exact ⟨a, hok, hok, hsome⟩
    | _ => exact ⟨a, hok, rfl, hsome⟩
  -- a course in which every call succeeds
  obtain ⟨steps, -, -, ⟨_, rest, rfl, hwrites⟩, hmet⟩ := Performs.exists_meets hanswers
    (performs_ensureHotBounded ⟨bases, fun _ => false⟩ t hwf hlock hslots) h
  have hevicted : .evicted idle.vmName ∈ writes rest := by
    rw [hwrites]
    exact List.mem_append_right _ (evicts_retried hretried (by simp [evictWrites]))
  obtain ⟨⟨op, r⟩, hstep, hwrite⟩ := List.mem_filterMap.mp hevicted
  obtain ⟨-, hsparing⟩ := hmet _ (List.mem_append_right _ hstep)
  cases op with
  | hotEvict guest =>
    have hname : guest.vmName = idle.vmName := by simpa [writeOf] using hwrite
    exact of_decide_eq_true hsparing hname
  | hotSave | hotRemove => cases r <;> cases hwrite
  | _ => cases hwrite

/-- **A machine under which nothing has moved stays exactly where it was built from
the generation the profile's record promotes**, or under a record that
promotes none, and no eviction of it is to be retried. The clone source
selection only answers with evidence of what is there, whichever of its arms
it takes. A machine that a run with such evidence left in the pool idle, with
the configuration, the base and the warm record as they were and inside its
bounds, is accepted by a claim and neither drained nor destroyed by the
bounds pass just under these two conditions. -/
theorem unmoved_machine_stays (t : TaskId) (bases : VmName → Option BaseFingerprint)
    (now : UInt64) (hnow : now.toNat < 2 ^ 63) (hw : Run G w) (hlock : w.shared.lock = none)
    (hslots : 0 < w.shared.config.runtime.maxHotVms)
    (hprofile : w.shared.config.profile? name = some profile)
    (hhot : w.shared.config.enabledHot name = some hot) :
    (∀ mode, manager.Completes (unmoved bases now) (fun _ _ => True) t
      (resolveSource name profile mode) w.shared fun selection _ =>
        BuiltFrom w.shared.images name (bases profile.template) selection.source
          selection.warmGeneration) ∧
    ∀ source generation lane idle,
      BuiltFrom w.shared.images name (bases profile.template) source generation →
      IsLeftBy name lane source generation idle →
      idle ∈ w.shared.hot.loadAll → idle.state = .idle → WithinBounds hot now idle →
      idle ∉ surplusIdle w.shared.hot.loadAll name lane hot →
      (((∀ claimed : List String, idle.vmName.value ∉ claimed →
          isClaimable name lane claimed
            ⟨hot, bases profile.template, w.shared.promoted name, now⟩ idle = true) ∧
        manager.Completes (unmoved bases now) (fun _ op => op.isSparing idle.vmName = true) t
          ensureHotBounded w.shared fun _ s' =>
            s'.hot.record idle.vmName = w.shared.hot.record idle.vmName) ↔
      generation = w.shared.promoted name ∧
        (idle.drainReason = none ∨ idle.vmName.value ∈ liveHotNames w.shared.entries)) := by
  refine ⟨fun mode => resolveSource_builtFrom (fun _ _ _ => trivial) hlock, ?_⟩
  intro source generation lane idle hbuilt hleft hmem hidle hbounds hsurplus
  obtain ⟨rfl, rfl, rfl, hgeneration⟩ := hleft.evidence hbuilt
  constructor
  · rintro ⟨hclaimable, hspared⟩
    refine ⟨?_, unmarked_of_spared hw.inv.hot hlock hslots hnow hmem hidle hspared⟩
    exact hgeneration.symm.trans (warmGeneration_of_isClaimable (hclaimable [] List.not_mem_nil))
  · rintro ⟨hpromoted, hpending⟩
    have hreason := drainReason_of_builtFrom hbuilt hgeneration hbounds
    rw [hpromoted] at hreason
    refine ⟨fun claimed hclaimed => ?_, ?_⟩
    · simp [isClaimable, HotGuest.isServing, hidle, hclaimed, hreason]
    · exact (ensureHotBounded_spares hw.inv.hot hlock hmem hidle hpending
        (Ne.symm (UInt8.ne_of_lt hslots))
        hprofile hhot hreason hsurplus).mono fun _ s' hs' => hs'.record

/-- A record of the template's machine, idle and inside the bounds of the small
installation. -/
def isSampleIdle (guest : HotGuest) : Bool :=
  guest.vmName = sampleMachine && guest.profile = sampleProfileName && guest.state = .idle &&
    guest.drainReason = none && guest.source.kind = .template &&
    guest.source.baseFingerprint = none && guest.warmGeneration = none &&
    guest.jobsServed = 1 && guest.bootedAtUnix = 0 && guest.updatedAtUnix = 0 &&
    guest.ageLimitSeconds = none

/-- The machine of run 7 in the small installation, which has no warm image. -/
theorem unmoved_machine_stays_first : ∃ w idle, Run .free w ∧ idle ∈ w.shared.hot.loadAll ∧
    isClaimable sampleProfileName idle.lane []
      ⟨{ enabled := true, lanes := .any, maxJobs := 2 }, none, none, 0⟩ idle = true := by
  obtain ⟨w, hw, hcheck⟩ : ∃ w, Run .free w ∧ (w.shared.lock = none &&
      0 < w.shared.config.runtime.maxHotVms &&
      w.shared.config.profile? sampleProfileName = some sampleProfile &&
      w.shared.config.enabledHot sampleProfileName =
        some { enabled := true, lanes := .any, maxJobs := 2 } &&
      w.shared.promoted sampleProfileName = none &&
      w.shared.hot.loadAll.any fun idle => isSampleIdle idle &&
        idle ∉ surplusIdle w.shared.hot.loadAll sampleProfileName idle.lane
          { enabled := true, lanes := .any, maxJobs := 2 }) = true :=
    exists_run sampleState_started (firstJob ++ firstRelease) (by decide +kernel)
  simp only [Bool.and_eq_true, decide_eq_true_eq] at hcheck
  obtain ⟨⟨⟨⟨⟨hlock, hslots⟩, hprofile⟩, hhot⟩, hpromoted⟩, hany⟩ := hcheck
  obtain ⟨idle, hmem, hidle⟩ := List.any_eq_true.mp hany
  simp only [isSampleIdle, Bool.and_eq_true, decide_eq_true_eq] at hidle
  obtain ⟨⟨⟨⟨⟨⟨⟨⟨⟨⟨⟨hvm, hname⟩, hstate⟩, hpending⟩, hkind⟩, hbase⟩, hgeneration⟩, hjobs⟩, hbooted⟩,
    hupdated⟩, hage⟩, hsurplus⟩ := hidle
  have h := unmoved_machine_stays 0 (fun _ => none) 0 (by decide) hw hlock hslots hprofile hhot
  refine ⟨w, idle, hw, hmem, ?_⟩
  rw [← hpromoted]
  refine ((h.2 idle.source none idle.lane idle (.template _ hkind hbase) ?_ hmem hstate ?_
    hsurplus).mpr ⟨hpromoted.symm, .inl hpending⟩).1 [] (by simp)
  · let x := (sampleAllocation .warm).setCloneSource idle.source none 0
    refine ⟨x, sampleAllocation .warm, 0, 0, _, rfl, rfl, rfl, rfl, ?_⟩
    exact ⟨hvm, hname, rfl, rfl,
      by simp [x, Allocation.setCloneSource, hkind, hgeneration, HotGuest.new]⟩
  · constructor
    · rw [hbooted, hage]
      decide
    · rw [hjobs]
      decide
    · rw [hupdated]
      decide

/-! ## A fallback next to a promoted record -/

/-- The profile of the small installation, with a warm image beside its pool. -/
def warmHotProfile : Profile :=
  { sampleProfile with
    allowedWorkflows := ["ci.yml", "warm.yml"]
    warmTemplate := some sampleWarm
    regenerationWorkflow := some "warm.yml" }

def warmHotConfig : Config :=
  { sampleConfig with profiles := [(sampleProfileName, warmHotProfile)] }

/-- Its one generation. -/
def promotedRecord : WarmImageRecord where
  profile := sampleProfileName
  warmTemplate := sampleWarm
  generation := 1
  baseFingerprint := ⟨"aa"⟩
  producedBy := secondId
  producedAtUnix := 0
  state := .promoted
  previous := none

def warmHotState : State :=
  { sampleState with
    config := warmHotConfig
    watched := warmHotConfig
    images := [promotedRecord]
    history := .initial warmHotConfig }

/-- Neither the configuration nor a base nor a warm record changes, and no time
passes. -/
def nothingMoves (bases : VmName → Option BaseFingerprint) : ManagerRegime where
  call s _ op a := unmoved bases 0 s op a
  start _ _ := true
  env _ e :=
    match e with
    | .host _ | .close => true
    | _ => false
  reboot _ := false

/-- Run 7 finds the warm image busy and boots the template; its machine joins the
pool. -/
def fallbackJob : List Event :=
  .start (.create (sampleBody 7 (.flag true)) (sampleClaims "7")) ::
    turns 0 23 { id := some firstId, fingerprint := some ⟨"aa"⟩, availability := .busy } ++
    turns 1 30 { count := 1, fingerprint := some ⟨"aa"⟩ }

/-- The task is about to destroy, as stale, a machine the template's base still
vouches for. -/
def isStaleEviction (s : State) : Option Op → Bool
  | some (.hotEvict guest) => guest.drainReason = some .staleBase &&
    guest.source.kind = .template && guest.source.baseFingerprint = some ⟨"aa"⟩ &&
    guest.warmGeneration = none && s.promoted sampleProfileName = some 1 &&
    guest.jobsServed = 1 && guest.bootedAtUnix = 0 && guest.updatedAtUnix = 0
  | _ => false

/-- **A machine is destroyed as stale although nothing moved.** It was built from
the template, whose base is the one it was; it has served one of its two jobs
and no time has passed; the record that promotes a generation was there
before the run. -/
theorem fallback_machine_drained : ∃ w guest, Run (nothingMoves fun _ => some ⟨"aa"⟩) w ∧
    w.pending 1 = some (.hotEvict guest) ∧ guest.drainReason = some .staleBase ∧
    guest.source.kind = .template ∧ guest.source.baseFingerprint = some ⟨"aa"⟩ ∧
    guest.warmGeneration = none ∧ w.shared.promoted sampleProfileName = some 1 ∧
    guest.jobsServed = 1 ∧ guest.bootedAtUnix = 0 ∧ guest.updatedAtUnix = 0 := by
  obtain ⟨w, hw, hcheck⟩ : ∃ w, Run (nothingMoves fun _ => some ⟨"aa"⟩) w ∧
      isStaleEviction w.shared (w.pending 1) = true :=
    exists_run ⟨by decide +kernel, rfl, rfl, rfl, rfl, rfl, rfl⟩ fallbackJob
      (s := warmHotState) (by decide +kernel)
  unfold isStaleEviction at hcheck
  split at hcheck
  · rename_i guest hpending
    simp only [Bool.and_eq_true, decide_eq_true_eq] at hcheck
    obtain ⟨⟨⟨⟨⟨⟨⟨hreason, hkind⟩, hbase⟩, hgeneration⟩, hpromoted⟩, hjobs⟩, hbooted⟩, hupdated⟩ :=
      hcheck
    exact ⟨w, guest, hw, hpending, hreason, hkind, hbase, hgeneration, hpromoted, hjobs, hbooted,
      hupdated⟩
  · cases hcheck

end FlanForge
