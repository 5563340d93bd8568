import FlanForge.Manager.Reuse

/-!
# A machine under which nothing has moved

A machine leaves the pool as stale when its base or its warm generation is
not the one the profile stands for now. What it stands for is read off the
profile's warm record; what the machine was built from is what the clone
source selection answered, and that falls back to the template for reasons
the record does not know. Where the two agree, the bounds pass spares the
machine and a claim accepts it for as long as nothing moves and its other
bounds hold.
-/

namespace FlanForge

open Machine (Completes)

/-! ## What a guest was built from -/

/-- The evidence a run records of its guest's source, under the base `current`:
the template, or the generation the stored record promotes. -/
inductive BuiltFrom (images : List WarmImageRecord) (name : ProfileName)
    (current : Option BaseFingerprint) : CloneSource → Option UInt64 → Prop
  | template (source : CloneSource) : source.kind = .template → source.baseFingerprint = current →
      BuiltFrom images name current source none
  | warm (source : CloneSource) (record : WarmImageRecord) : source.kind = .warm →
      images.find? (·.profile = name) = some record → record.state = .promoted →
      source.baseFingerprint = some record.baseFingerprint →
      current = some record.baseFingerprint →
      BuiltFrom images name current source (some record.generation)

/-- The bases have the given fingerprints, warm records can be read, and the
clock shows the given time. -/
def unmoved (bases : VmName → Option BaseFingerprint) (now : UInt64) (_ : State) (op : Op)
    (a : Answer) : Bool :=
  match op with
  | .baseFingerprint template => a.fingerprint = bases template
  | .imageLoad _ => !a.failed
  | .unixTime => a.now = now
  | _ => true

variable {s s' : State} {t fresh : TaskId} {bases : VmName → Option BaseFingerprint} {now : UInt64}
variable {name : ProfileName} {profile : Profile} {guest idle : HotGuest} {vmName : VmName}
variable {current : Option BaseFingerprint} {spec : State → Op → Prop}
variable {images : List WarmImageRecord} {generation : Option UInt64} {hot : HotConfig} {s₀ : State}
variable {ok : State → Op → Answer → Bool} {reason : HotDrainReason} {config : Config}

/-- The selection's evidence, if it selects the warm image. -/
theorem recordedWarmSource_builtFrom {warm : VmName} {record : WarmImageRecord}
    (hspec : ∀ s o, Op.isQuiet o = true → spec s o)
    (hrecord : s.images.find? (·.profile = name) = some record) :
    manager.Completes (unmoved bases now) spec t (recordedWarmSource warm record current) s'
      fun r _ => ∀ selection, r = .ok selection →
        BuiltFrom s.images name current selection.source selection.warmGeneration := by
  unfold recordedWarmSource
  split
  · exact fun selection h => by cases h
  split
  · exact fun selection h => by cases h
  rename_i hstate
  rw [ne_eq, Decidable.not_not] at hstate
  simp only [Prog.perform_bind]
  refine completes_quiet (hspec _ _ rfl) rfl (by simp) fun r s₁ _ _ _ _ _ _ => ?_
  split
  · exact fun selection h => by cases h
  · exact fun selection h => by cases h
  · exact fun selection h => by cases h
  split
  · exact fun selection h => by cases h
  split
  · exact fun selection h => by cases h
  rename_i base hmatch
  intro selection h
  cases h
  have hsame : record.baseFingerprint = base := by simpa [isFingerprintMatch] using hmatch
  exact .warm _ record rfl hrecord hstate rfl (by rw [hsame])

/-- Nothing the selection reads moves while it reads. -/
theorem warmSource_builtFrom (hspec : ∀ s o, Op.isQuiet o = true → spec s o)
    (hlock : s.lock = none) :
    manager.Completes (unmoved bases now) spec t (warmSource name profile current) s
      fun r _ => ∀ selection, r = .ok selection →
        BuiltFrom s.images name current selection.source selection.warmGeneration := by
  unfold warmSource
  split
  · exact fun selection h => by cases h
  rename_i warm _
  simp only [Prog.perform_bind]
  refine completes_quiet (hspec _ _ rfl) rfl (by simp) fun backend s₁ _ _ _ h₁ _ hexec₁ => ?_
  split
  · exact fun selection h => by cases h
  refine completes_quiet (hspec _ _ rfl) rfl (by simp) fun isQuarantined s₂ _ _ _ h₂ _ hexec₂ => ?_
  split
  · exact fun selection h => by cases h
  refine Completes.bind ((completes_of_quiet hspec hostMachines_quiet
    (h₂.lock.trans (h₁.lock.trans hlock))).frame (f := State.surroundings)
    fun _ _ _ _ _ _ _ => exec_surroundings) ?_
  rintro listing s₃ ⟨h₃, hfixed₃⟩
  split
  · exact fun selection h => by cases h
  refine completes_quiet (hspec _ _ rfl) rfl (by simp) fun r s₄ _ a _ h₄ hok hexec₄ => ?_
  have hread : r = .ok (s.images.find? (·.profile = name)) := by
    simp only [unmoved, Bool.not_eq_true'] at hok
    cases hexec₄
    simp only [Answer.stored, hok, Bool.false_eq_true, if_false]
    rw [← (State.of_surroundings (hfixed₃.trans ((exec_surroundings hexec₂).trans
      (exec_surroundings hexec₁)))).2]
    rfl
  subst hread
  split
  · rename_i record hrecord
    exact recordedWarmSource_builtFrom hspec (Except.ok.inj hrecord)
  · refine Completes.bind (Q := fun _ _ => True) ?_ fun reason s₅ _ selection h => by cases h
    refine (completes_of_quiet hspec (.perform rfl fun r => ?_)
      (h₄.lock.trans (h₃.lock.trans (h₂.lock.trans (h₁.lock.trans hlock))))).mono fun _ _ _ =>
        trivial
    split <;> trivial

/-- **What the selection answers is evidence**, whichever way it falls back. -/
theorem resolveSource_builtFrom {mode : AllocationMode}
    (hspec : ∀ s o, Op.isQuiet o = true → spec s o) (hlock : s.lock = none) :
    manager.Completes (unmoved bases now) spec t (resolveSource name profile mode) s
      fun selection _ =>
        BuiltFrom s.images name (bases profile.template) selection.source
          selection.warmGeneration := by
  simp only [resolveSource, Prog.perform_bind]
  refine completes_quiet (hspec _ _ rfl) rfl (by simp) fun r s₁ _ a _ h₁ hok hexec => ?_
  obtain rfl : r = bases profile.template := by
    simp only [unmoved, decide_eq_true_eq] at hok
    cases hexec
    exact hok
  split
  · exact .template _ rfl rfl
  rw [← (State.of_surroundings (exec_surroundings hexec)).2]
  refine (warmSource_builtFrom hspec (h₁.lock.trans hlock)).bind fun r s₂ hr => ?_
  split
  · exact hr _ rfl
  · exact .template _ rfl rfl

/-- The base of a guest is not taken for a changed one while it is the same. -/
theorem BuiltFrom.isBaseChanged_eq {source : CloneSource}
    (h : BuiltFrom images name current source generation) :
    isBaseChanged source.baseFingerprint current = false := by
  cases h with
  | template _ hbase =>
    rw [hbase]
    cases current <;> simp [isBaseChanged, isFingerprintMatch]
  | warm record _ _ _ hbase hcurrent =>
    rw [hbase, hcurrent]
    simp [isBaseChanged, isFingerprintMatch]

/-! ## The bounds of one machine -/

/-- The bounds that pass with time and use. -/
structure WithinBounds (hot : HotConfig) (now : UInt64) (guest : HotGuest) : Prop where
  lifetime : saturatingSub64 now guest.bootedAtUnix <
    min (guest.ageLimitSeconds.getD hot.maxLifetimeSeconds) hot.maxLifetimeSeconds
  jobs : guest.jobsServed < hot.maxJobs
  idle : saturatingSub64 now guest.updatedAtUnix < hot.idleTtlSeconds

/-- Two records of one machine: they agree on what it was built from. -/
structure HotGuest.SameBuild (guest later : HotGuest) : Prop where
  vmName : later.vmName = guest.vmName
  profile : later.profile = guest.profile
  lane : later.lane = guest.lane
  source : later.source = guest.source
  warmGeneration : later.warmGeneration = guest.warmGeneration

/-- **A machine that was built from what the profile stands for has no reason to
go**, inside the bounds of time and use. -/
theorem drainReason_of_builtFrom (hbuilt : BuiltFrom images name current idle.source generation)
    (hgeneration : idle.warmGeneration = generation) (hbounds : WithinBounds hot now idle) :
    drainReason idle ⟨hot, current, generation, now⟩ = none := by
  have hlifetime := UInt64.not_le.mpr hbounds.lifetime
  have hjobs := UInt32.not_le.mpr hbounds.jobs
  have hidle := UInt64.not_le.mpr hbounds.idle
  unfold drainReason
  split
  · rfl
  · simp only [ge_iff_le, hlifetime, if_false, hbuilt.isBaseChanged_eq, hgeneration, ne_eq,
      not_true_eq_false, decide_false, Bool.or_self, Bool.false_eq_true, hidle, Bool.and_false]

/-! ## The bounds pass -/

/-- The operation is quiet, or its machine is another one. -/
def Op.isSparing (vmName : VmName) : Op → Bool
  | .hotSave _ guest | .hotEvict guest => guest.vmName ≠ vmName
  | .hotRemove removed => removed ≠ vmName
  | op => op.isQuiet

/-- Nothing of the machine, and nothing the bounds are read from, has moved. -/
structure Spared (vmName : VmName) (s₀ s : State) : Prop where
  lock : s.lock = none
  entries : s.entries = s₀.entries
  surroundings : s.surroundings = s₀.surroundings
  record : s.hot.record vmName = s₀.hot.record vmName

/-- An operation that spares the machine can be performed, and spares it. -/
theorem exec_sparing {op : Op} (hs : Spared vmName s₀ s) (ho : op.isSparing vmName = true) :
    (∀ fresh, ∃ a, (exec t fresh op a s).isSome = true) ∧
      ∀ fresh a s' r spawned, exec t fresh op a s = some (s', r, spawned) →
        Spared vmName s₀ s' := by
  refine ⟨fun fresh => ?_, fun fresh a s' r spawned hexec => ?_⟩
  · cases op
    case hotSave => exact ⟨{ failed := true }, rfl⟩
    case hotEvict | hotRemove => exact ⟨{}, rfl⟩
    all_goals
      refine exec_isSome_of_quiet ?_ (fun _ => hs.lock) fresh
      exact ho
  · have hfixed := (exec_surroundings hexec).trans hs.surroundings
    cases exec_effect hexec with
    | saved base guest _ _ hsave =>
      exact ⟨hs.lock, hs.entries, hfixed,
        (HotTable.record_save_of_ne hsave (of_decide_eq_true ho)).trans hs.record⟩
    | removed =>
      exact ⟨hs.lock, hs.entries, hfixed,
        (HotTable.record_remove_of_ne (of_decide_eq_true ho)).trans hs.record⟩
    | quiet | read | noted => exact ⟨hs.lock, hs.entries, hfixed, hs.record⟩
    | _ => cases ho

/-- One operation that spares the machine, with its answer. -/
theorem completes_spared {α : Type} {op : Op} {k : op.Res → Manager α} {Q : α → State → Prop}
    (hs : Spared vmName s₀ s) (ho : op.isSparing vmName = true)
    (hk : ∀ r s' fresh a spawned, Spared vmName s₀ s' → ok s op a = true →
      exec t fresh op a s = some (s', r, spawned) →
      manager.Completes ok (fun _ op => op.isSparing vmName = true) t (k r) s' Q) :
    manager.Completes ok (fun _ op => op.isSparing vmName = true) t (.call op k) s Q := by
  obtain ⟨hprogress, hkeeps⟩ := exec_sparing (t := t) hs ho
  exact ⟨ho, hprogress, fun fresh a s' r spawned hok hexec =>
    hk r s' fresh a spawned (hkeeps fresh a s' r spawned hexec) hok hexec⟩

/-- A program that spares the machine. -/
theorem completes_sparing {α : Type} {p : Manager α} (hp : p.Calls (Op.isSparing vmName · = true))
    (hs : Spared vmName s₀ s) :
    manager.Completes ok (fun _ op => op.isSparing vmName = true) t p s
      fun _ s' => Spared vmName s₀ s' := by
  refine Completes.of_calls (I := Spared vmName s₀) (fun s' o hs' ho => ?_) hp hs
  obtain ⟨hprogress, hkeeps⟩ := exec_sparing (t := t) hs' ho
  exact ⟨ho, hprogress, fun fresh a s'' r spawned _ hexec => hkeeps fresh a s'' r spawned hexec⟩

/-! Destroying or draining another machine spares this one. -/

theorem ensureHotEvictionPending_sparing (hne : guest.vmName ≠ vmName) :
    (ensureHotEvictionPending guest reason).Calls (Op.isSparing vmName · = true) := by
  unfold ensureHotEvictionPending
  split
  · trivial
  · exact .perform (decide_eq_true hne) fun _ => trivial

theorem evictChosen_sparing (hne : guest.vmName ≠ vmName) :
    (evictChosen guest reason).Calls (Op.isSparing vmName · = true) := by
  refine .bind (.perform (decide_eq_true hne) fun r => ?_) fun _ =>
    ⟨rfl, fun _ => trivial⟩
  split
  · exact ensureHotEvictionPending_sparing hne
  · exact .perform (decide_eq_true hne) fun _ => trivial

theorem chooseAndEvict_sparing (hne : guest.vmName ≠ vmName) :
    (chooseAndEvict guest reason).Calls (Op.isSparing vmName · = true) :=
  .perform rfl fun _ => evictChosen_sparing hne

theorem ensureHotDrained_sparing (hne : guest.vmName ≠ vmName) :
    (ensureHotDrained guest reason).Calls (Op.isSparing vmName · = true) := by
  unfold ensureHotDrained
  split
  · trivial
  refine .perform rfl fun now => ?_
  split
  · exact ensureHotEvictionPending_sparing hne
  · rename_i moved hmoved
    obtain ⟨-, rfl⟩ := HotGuest.ensureState_eq_ok.mp hmoved
    dsimp only
    split
    · refine .perform rfl fun _ => .perform (decide_eq_true hne) fun r => ?_
      split
      · exact ⟨rfl, fun _ => trivial⟩
      · exact evictChosen_sparing hne
    · exact .perform (decide_eq_true hne) fun _ => trivial

theorem ensureGuestBounded_sparing (hne : guest.vmName ≠ vmName) :
    (ensureGuestBounded config now guest).Calls (Op.isSparing vmName · = true) := by
  unfold ensureGuestBounded
  split
  · trivial
  split
  · refine .perform rfl fun fingerprint => .bind (.perform rfl fun r => ?_) fun _ => ?_
    · split <;> trivial
    · split
      · exact ensureHotDrained_sparing hne
      · trivial
  · exact ensureHotDrained_sparing hne

/-- The record of the machine, among those that were read. -/
theorem eq_of_mem_loadAll (hwf : s.hot.WellFormed) (hmem : idle ∈ s.hot.loadAll)
    (hguest : guest ∈ s.hot.loadAll) (hname : guest.vmName = idle.vmName) : guest = idle := by
  have hrecord := (hwf.mem_loadAll.mp hguest).1
  rw [hname, (hwf.mem_loadAll.mp hmem).1] at hrecord
  exact (Option.some.inj hrecord).symm

/-- A machine without a reason to go is left alone when its turn comes. -/
theorem ensureGuestBounded_spares (hs : Spared vmName s₀ s)
    (hprofile : config.profile? idle.profile = some profile)
    (hhot : config.enabledHot idle.profile = some hot)
    (hreason : drainReason idle
      ⟨hot, bases profile.template, s₀.promoted idle.profile, now⟩ = none) :
    manager.Completes (unmoved bases now) (fun _ op => op.isSparing vmName = true) t
      (ensureGuestBounded config now idle) s fun _ s' => Spared vmName s₀ s' := by
  unfold ensureGuestBounded
  split
  · exact hs
  simp only [hprofile, hhot, promotedGeneration, Prog.perform_bind, Prog.call_bind]
  refine completes_spared hs rfl fun r s₁ _ a _ h₁ hok hexec => ?_
  obtain rfl : r = bases profile.template := by
    simp only [unmoved, decide_eq_true_eq] at hok
    cases hexec
    exact hok
  refine completes_spared h₁ rfl fun r s₂ _ a' _ h₂ hok' hexec' => ?_
  have hread : r = .ok (s₀.images.find? (·.profile = idle.profile)) := by
    simp only [unmoved, Bool.not_eq_true'] at hok'
    cases hexec'
    simp only [Answer.stored, hok', Bool.false_eq_true, if_false]
    rw [← (State.of_surroundings h₁.surroundings).2]
    rfl
  subst hread
  cases hrecord : s₀.images.find? (·.profile = idle.profile) with
  | none =>
    rw [State.promoted, hrecord] at hreason
    simp only [Option.bind_none] at hreason
    simp only [Prog.pure_eq, Prog.ret_bind, hreason]
    exact h₂
  | some record =>
    rw [State.promoted, hrecord] at hreason
    simp only [Option.bind_some] at hreason
    simp only [Prog.pure_eq, Prog.ret_bind, hreason]
    exact h₂

/-- **The bounds pass spares a machine that has no reason to go.** A reason on its
record is not acted on while an allocation holds the machine. -/
theorem ensureHotBounded_spares (hwf : s.hot.WellFormed) (hlock : s.lock = none)
    (hmem : idle ∈ s.hot.loadAll) (hidle : idle.state = .idle)
    (hpending : idle.drainReason = none ∨ idle.vmName.value ∈ liveHotNames s.entries)
    (hslots : s.config.runtime.maxHotVms ≠ 0)
    (hprofile : s.config.profile? idle.profile = some profile)
    (hhot : s.config.enabledHot idle.profile = some hot)
    (hreason : drainReason idle ⟨hot, bases profile.template, s.promoted idle.profile, now⟩ = none)
    (hsurplus : idle ∉ surplusIdle s.hot.loadAll idle.profile idle.lane hot) :
    manager.Completes (unmoved bases now) (fun _ op => op.isSparing idle.vmName = true) t
      ensureHotBounded s fun _ s' => Spared idle.vmName s s' := by
  have hother : ∀ guest ∈ s.hot.loadAll, guest ≠ idle → guest.vmName ≠ idle.vmName :=
    fun guest hguest hne hname => hne (eq_of_mem_loadAll hwf hmem hguest hname)
  have hs : Spared idle.vmName s s := ⟨hlock, rfl, rfl, rfl⟩
  simp only [ensureHotBounded, Prog.perform_bind]
  refine completes_spared hs rfl fun r s₁ _ a _ h₁ hok hexec => ?_
  have hhot₁ : s₁.hot = s.hot := by
    cases hexec
    rfl
  obtain rfl : r = s.config := by
    cases hexec
    rfl
  refine completes_spared h₁ rfl fun r s₂ _ a' _ h₂ hok' hexec' => ?_
  have hread : ∀ guests, r = .ok guests → guests = s.hot.loadAll := by
    intro guests hr
    simp only [exec, Option.some.injEq, Prod.mk.injEq] at hexec'
    obtain ⟨-, rfl, -⟩ := hexec'
    simp only [Answer.stored] at hr
    split at hr
    · cases hr
    · rw [← Except.ok.inj hr, ← hhot₁]
      rfl
  split
  · exact h₂
  rename_i guests
  obtain rfl := hread guests rfl
  refine completes_spared h₂ rfl fun r s₃ _ a'' _ h₃ hok'' hexec'' => ?_
  obtain rfl : r = now := by
    simp only [unmoved, decide_eq_true_eq] at hok''
    simp only [exec] at hexec''
    split at hexec'' <;> cases hexec''
    exact hok''
  rw [if_neg hslots]
  -- its own turn of the pass, and those of the others
  refine Completes.bind (Completes.forEach (I := fun rest s' => Spared idle.vmName s s' ∧
    ∀ guest ∈ rest, guest ∈ s.hot.loadAll) ?_ ⟨h₃, fun _ h => h⟩) fun _ s₄ h₄ => ?_
  · rintro guest rest s₄ ⟨h₄, hrest⟩
    refine Completes.mono (Q := fun _ s' => Spared idle.vmName s s') ?_ fun _ s₅ h₅ =>
      ⟨h₅, fun g hg => hrest g (List.mem_cons_of_mem _ hg)⟩
    by_cases hguest : guest = idle
    · subst hguest
      exact ensureGuestBounded_spares h₄ hprofile hhot hreason
    · exact completes_sparing
        (ensureGuestBounded_sparing (hother guest (hrest guest List.mem_cons_self) hguest)) h₄
  refine Completes.bind (completes_sparing (.forEach ?_) h₄.1) fun _ s₅ h₅ =>
    Completes.bind (completes_sparing ?_ h₅) fun _ s₆ h₆ => ?_
  · -- beyond `max_idle`: the machine is not among the surplus of its own lane
    rintro ⟨other, lane⟩ -
    dsimp only
    split
    · trivial
    rename_i hot' hhot'
    refine .forEach fun guest hguest => ensureHotDrained_sparing ?_
    have hserving := List.mem_of_mem_take hguest
    rw [List.mem_insertionSort, List.mem_filter] at hserving
    refine hother guest hserving.1 ?_
    rintro rfl
    obtain ⟨-, hname, hlane⟩ := HotGuest.isServing_iff.mp hserving.2
    rw [← hname, hhot] at hhot'
    cases hhot'
    exact hsurplus (by rwa [← hname, ← hlane] at hguest)
  · refine .bind (.perform rfl fun _ => trivial) fun claimed => .forEach fun guest hguest =>
      chooseAndEvict_sparing ?_
    simp only [List.mem_filter, Bool.and_eq_true, decide_eq_true_eq] at hguest
    refine hother guest hguest.1 ?_
    rintro rfl
    rw [hidle] at hguest
    exact absurd hguest.2.1 (by decide)
  · simp only [ensureHotEvictionsRetried, hotClaimedNames, Prog.perform_bind, Prog.call_bind]
    refine completes_spared h₆ rfl fun r s₇ _ _ _ h₇ _ hexec => ?_
    obtain rfl : r = s₆.entries := by
      simp only [exec] at hexec
      split at hexec <;> cases hexec
      rfl
    refine completes_sparing (.forEach fun guest hguest => chooseAndEvict_sparing ?_) h₇
    simp only [List.mem_filter, Bool.and_eq_true, h₆.entries] at hguest
    refine hother guest hguest.1 ?_
    rintro rfl
    rcases hpending with hnone | hlive
    · rw [hnone] at hguest
      exact absurd hguest.2.2 (by decide)
    · simp [hlive] at hguest

end FlanForge
