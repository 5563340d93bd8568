import FlanForge.Manager.Alone
import FlanForge.Manager.Guarantee
import FlanForge.Manager.System
import FlanForge.Manager.Yield

/-!
# A create that nobody disturbs

What `create` does to the pool when no other task moves, every call it makes
succeeds, and every listing it gets from the probe cache is what the host
runs. An eviction then takes the machine from the listing and from the pool
at once, so the fold sees exactly what is left: the yield ends when the fold
accepts or nothing idle is left to free, and no machine is evicted that the
fold could have kept.
-/

namespace FlanForge

open Machine (Completes)

/-! ## What the environment answers -/

/-- No call of the store or the backend fails, the base of the clone source has
the given size, and the fresh label makes a runner label. -/
def noFailure (profile : Profile) (storageMb : Option UInt64) (_ : State) (op : Op) (a : Answer) :
    Bool :=
  match op with
  | .machines | .hotLoadAll | .hotRemove _ | .hotEvict _ => !a.failed
  | .hotSave _ guest => !a.failed && guest.isStorable
  | .saveAllocation x => !a.failed && x.isValid && x.isStorable
  | .baseStorageMb _ _ => a.storageMb = storageMb
  | .newAllocationId =>
    (Identifier.new runnerLabelRules (profile.runnerLabel.value ++ "-" ++ a.label)).isOk
  | _ => true

/-- A listing the probe cache answers with is what the host runs. -/
def isCurrentListing (s : State) (op : Op) (a : Answer) : Bool :=
  match op with
  | .probeCached => (s.tick a.elapsed).cachedListing.all (· = s.host)
  | _ => true

/-- No call fails and no listing is stale. -/
def smooth (profile : Profile) (storageMb : Option UInt64) (s : State) (op : Op) (a : Answer) :
    Bool := noFailure profile storageMb s op a && isCurrentListing s op a

/-- The backend is asked to destroy a pool machine. -/
def Op.isEviction : Op → Bool
  | .hotEvict _ => true
  | _ => false

/-- An eviction is asked for by the request, or the fold refuses as things are. -/
def isNeeded (request : AllocationRequest) (options : RequestOptions) (size : GuestSize)
    (s : State) : Op → Prop
  | .hotEvict guest => (options.hot.isEvicting = true ∧ guest.profile = request.profile) ∨
      ensureCapacity s.entries s.config size s.host s.hot.loadAll ≠ .ok ()
  | _ => True

/-- Everything but an eviction is allowed. -/
abbrev Allows (spec : State → Op → Prop) : Prop := ∀ s o, Op.isEviction o = false → spec s o

section Programs

variable {profile : Profile} {storageMb : Option UInt64} {request : AllocationRequest}
variable {options : RequestOptions} {size : GuestSize} {s s' s₀ : State} {t : TaskId}
variable {guest : HotGuest} {reason : HotDrainReason} {spec : State → Op → Prop} {α : Type}
variable {Q : α → State → Prop} {k : Except StoreError Unit → Manager α} {name : ProfileName}
variable {config : Config} {fingerprint : Option BaseFingerprint}

theorem isNeeded_of_keeping {op : Op} (ho : op.isEviction = false) :
    isNeeded request options size s op := by
  cases op <;> trivial

theorem Op.isEviction_of_quiet {op : Op} (ho : op.isQuiet = true) : op.isEviction = false := by
  cases op <;> trivial

/-- The machine is gone from the host and from the pool. -/
structure Evicted (vmName : VmName) (s s' : State) : Prop extends Beside s s' where
  hot : s'.hot = s.hot.remove vmName
  host : s'.host = freedMachines vmName.value s.host

theorem Evicted.of_still {vmName : VmName} {s₁ s₂ : State} (h₁ : Still s s₁)
    (h : Evicted vmName s₁ s₂) (h₂ : Still s₂ s') : Evicted vmName s s' :=
  ⟨(h₁.toBeside.trans h.toBeside).trans h₂.toBeside, h₂.hot.trans (h.hot.trans (by rw [h₁.hot])),
    h₂.host.trans (h.host.trans (by rw [h₁.host]))⟩

/-- The host is listed as it is. -/
theorem hostMachines_current (hspec : Allows spec) :
    manager.Completes (smooth profile storageMb) spec t hostMachines s
      fun r s' => r = .ok s.host ∧ Still s s' := by
  simp only [hostMachines, Prog.perform_bind]
  refine completes_quiet (hspec _ _ rfl) rfl (by simp) fun r s₁ _ a _ hstill hok hexec => ?_
  simp only [exec, Option.some.injEq, Prod.mk.injEq] at hexec
  obtain ⟨-, rfl, -⟩ := hexec
  simp only [smooth, noFailure, isCurrentListing, Bool.true_and] at hok
  split
  · rename_i machines hcached
    rw [hcached] at hok
    exact ⟨by simpa using hok, hstill⟩
  · refine completes_quiet (hspec _ _ rfl) rfl (by simp) fun r s₂ _ a _ hstill' hok' hexec' => ?_
    simp only [exec, Option.some.injEq, Prod.mk.injEq] at hexec'
    obtain ⟨-, rfl, -⟩ := hexec'
    simp only [smooth, noFailure, isCurrentListing, Bool.and_true, Bool.not_eq_true'] at hok'
    have hlisted : a.worked (s₁.tick a.elapsed).host = .ok s.host := by
      simp only [Answer.worked, hok', Bool.false_eq_true, if_false]
      rw [← hstill.host]
      rfl
    rw [hlisted]
    refine completes_quiet (hspec _ _ rfl) rfl (by simp) fun _ s₃ _ _ _ hstill'' _ _ => ?_
    exact ⟨rfl, (hstill.trans hstill').trans hstill''⟩

/-- The pool is listed as it is. -/
theorem hotLoadAll_current {k : Except StoreError (List HotGuest) → Manager α}
    (hspec : Allows spec)
    (hk : ∀ s', Still s s' → manager.Completes (smooth profile storageMb) spec t
      (k (.ok s.hot.loadAll)) s' Q) :
    manager.Completes (smooth profile storageMb) spec t
      (.call Op.hotLoadAll k) s Q := by
  refine completes_quiet (hspec _ _ rfl) rfl (by simp) fun r s₁ _ a _ hstill hok hexec => ?_
  simp only [exec, Option.some.injEq, Prod.mk.injEq] at hexec
  obtain ⟨-, rfl, -⟩ := hexec
  simp only [smooth, noFailure, isCurrentListing, Bool.and_true, Bool.not_eq_true'] at hok
  have hlisted : a.stored (.ok (s.tick a.elapsed).hot.loadAll) =
      (.ok s.hot.loadAll : Except StoreError (List HotGuest)) := by
    simp only [Answer.stored, hok, Bool.false_eq_true, if_false]
    rfl
  rw [hlisted]
  exact hk s₁ hstill

/-- A machine that has to go is gone. -/
theorem evictChosen_evicted (hneeded : isNeeded request options size s (.hotEvict guest)) :
    manager.Completes (smooth profile storageMb) (isNeeded request options size) t
      (evictChosen guest reason) s fun _ s' => Evicted guest.vmName s s' := by
  simp only [evictChosen, ensureHotEvicted, Prog.perform_bind, Prog.call_bind]
  refine Completes.call (R := fun r s₁ => r = .ok () ∧
    s₁ = (s.tick (s₁.clock - s.clock)).withoutMachine guest.vmName.value) hneeded
    (fun _ => ⟨{}, rfl⟩) ?_ ?_
  · intro fresh a s₁ r spawned hok hexec
    simp only [smooth, noFailure, isCurrentListing, Bool.and_true, Bool.not_eq_true'] at hok
    simp only [manager, exec, hok, Bool.false_eq_true, if_false, Option.some.injEq,
      Prod.mk.injEq, Answer.worked] at hexec
    obtain ⟨rfl, rfl, -⟩ := hexec
    refine ⟨rfl, ?_⟩
    simp [State.tick, State.withoutMachine]
  rintro _ s₁ ⟨rfl, hs₁⟩
  refine Completes.call (R := fun _ s₂ => Evicted guest.vmName s s₂) trivial
    (fun _ => ⟨{}, rfl⟩) ?_ ?_
  · intro fresh a s₂ r spawned hok hexec
    simp only [smooth, noFailure, isCurrentListing, Bool.and_true, Bool.not_eq_true'] at hok
    simp only [manager, exec, hok, Bool.false_eq_true, if_false, Option.some.injEq,
      Prod.mk.injEq] at hexec
    obtain ⟨rfl, -, -⟩ := hexec
    rw [hs₁]
    exact ⟨⟨rfl, rfl, rfl, rfl, rfl, rfl⟩, rfl, rfl⟩
  · intro _ s₂ h₂
    refine completes_quiet trivial rfl (by simp) fun _ s₃ _ _ _ hstill _ _ => ?_
    exact h₂.of_still (.refl s) hstill

theorem chooseAndEvict_evicted (hneeded : ∀ s₁, Still s s₁ →
      isNeeded request options size s₁ (.hotEvict guest)) :
    manager.Completes (smooth profile storageMb) (isNeeded request options size) t
      (chooseAndEvict guest reason) s fun _ s' => Evicted guest.vmName s s' := by
  simp only [chooseAndEvict, Prog.perform_bind]
  refine completes_quiet trivial rfl (by simp) fun _ s₁ _ _ _ hstill _ _ => ?_
  exact (evictChosen_evicted (hneeded s₁ hstill)).mono fun _ s₂ h => h.of_still hstill (.refl s₂)

/-! ## Waiting for room -/

/-- Nothing but pool machines has gone since `s₀`, and the fold would accept
without the idle ones. -/
structure Awaits (size : GuestSize) (s₀ s : State) : Prop extends Beside s₀ s where
  unlocked : s.lock = none
  wellFormed : s.hot.WellFormed
  accepts : acceptsWithoutIdle s.entries s.config size s.host s.hot.loadAll = true

theorem Awaits.still (h : Awaits size s₀ s) (hs : Still s s') : Awaits size s₀ s' :=
  ⟨h.toBeside.trans hs.toBeside, hs.lock.trans h.unlocked, by rw [hs.hot]; exact h.wellFormed,
    by rw [hs.entries, hs.config, hs.host, hs.hot]; exact h.accepts⟩

/-- What the listing shows once a machine is gone. -/
theorem Evicted.loadAll {vmName : VmName} (h : Evicted vmName s s') (hs : s.hot.WellFormed) :
    s'.hot.loadAll = freedHot vmName.value s.hot.loadAll := by
  rw [h.hot, hs.loadAll_remove]
  refine List.filter_congr fun g _ => ?_
  rw [decide_eq_decide, not_iff_not]
  exact ⟨congrArg _, Identifier.ext_value⟩

theorem Awaits.evicted (h : Awaits size s₀ s) (hmem : guest ∈ s.hot.loadAll)
    (hholds : guest.state.isHoldingMachine = true) (hs : Evicted guest.vmName s s') :
    Awaits size s₀ s' where
  toBeside := h.toBeside.trans hs.toBeside
  unlocked := hs.lock.trans h.unlocked
  wellFormed := by
    rw [hs.hot]
    exact h.wellFormed.remove
  accepts := by
    rw [hs.loadAll h.wellFormed, hs.entries, hs.config, hs.host]
    exact acceptsWithoutIdle_freed ⟨guest, hmem, hholds, rfl⟩ h.accepts

/-! ## The yield -/

/-- The fold's answer as things are. -/
def State.accepts (s : State) (size : GuestSize) : Prop :=
  ensureCapacity s.entries s.config size s.host s.hot.loadAll = .ok ()

/-- The machines that may go, as things are. -/
def State.candidates (s : State) : List HotGuest := yieldCandidates s.entries s.host s.hot.loadAll

theorem State.accepts_of_still (h : Still s s') : s'.accepts size ↔ s.accepts size := by
  simp only [State.accepts, h.entries, h.config, h.host, h.hot]

/-- A machine is named exactly when the fold refuses and something may go. -/
theorem yieldableHot_spec (hspec : Allows spec)
    (hlock : s.lock = none) :
    manager.Completes (smooth profile storageMb) spec t
      (yieldableHot s.config size) s fun r s' => Still s s' ∧
        match r with
        | none => s.accepts size ∨ s.candidates = []
        | some guest => guest ∈ s.candidates ∧ ¬ s.accepts size := by
  simp only [yieldableHot]
  refine (hostMachines_current hspec).bind ?_
  rintro _ s₁ ⟨rfl, h₁⟩
  simp only [Prog.perform_bind]
  refine hotLoadAll_current hspec fun s₂ h₂ => ?_
  refine completes_quiet (hspec _ _ rfl) rfl (fun _ => h₂.lock.trans (h₁.lock.trans hlock))
    fun r s₃ _ a _ h₃ _ hexec => ?_
  have hentries : r = s.entries := by
    simp only [exec] at hexec
    split at hexec
    · cases hexec
      exact h₂.entries.trans h₁.entries
    · cases hexec
  subst hentries
  have hstill := (h₁.trans h₂).trans h₃
  rw [h₁.hot]
  split
  · rename_i hok
    exact ⟨hstill, .inl hok⟩
  · rename_i e hrefused
    refine ⟨hstill, ?_⟩
    change match pickBy isLongerIdle s.candidates with
      | none => s.accepts size ∨ s.candidates = []
      | some guest => guest ∈ s.candidates ∧ ¬ s.accepts size
    cases hpick : pickBy isLongerIdle s.candidates with
    | none => exact .inr (pickBy_eq_none.mp hpick)
    | some guest =>
      refine ⟨mem_of_pickBy hpick, fun hok => ?_⟩
      cases hrefused.symm.trans hok

theorem mem_loadAll_of_candidate (h : guest ∈ s.candidates) :
    guest ∈ s.hot.loadAll ∧ guest.state = .idle := by
  simp only [State.candidates, yieldCandidates, List.mem_filter, Bool.and_eq_true,
    decide_eq_true_eq] at h
  exact ⟨h.1, h.2.1.1.1⟩

/-- Each turn frees a machine, so the candidates run out before the turns do. -/
theorem yieldLoop_accepts {n : ℕ} (h : Awaits size s₀ s) (hn : s.candidates.length ≤ n) :
    manager.Completes (smooth profile storageMb) (isNeeded request options size) t
      (yieldLoop s₀.config size n) s fun _ s' => Awaits size s₀ s' ∧ s'.accepts size := by
  induction n generalizing s with
  | zero => exact ⟨h, accepts_of_yieldNames_nil h.accepts
    (List.length_eq_zero_iff.mp (Nat.le_zero.mp hn))⟩
  | succ n ih =>
    simp only [yieldLoop]
    rw [← h.config]
    refine (yieldableHot_spec (fun _ _ => isNeeded_of_keeping) h.unlocked).bind ?_
    rintro (_ | guest) s₁ ⟨h₁, hr⟩
    · refine ⟨h.still h₁, (State.accepts_of_still h₁).mpr ?_⟩
      exact hr.elim id (accepts_of_yieldNames_nil h.accepts)
    · obtain ⟨hcandidate, hrefused⟩ := hr
      obtain ⟨hlisted, hidle⟩ := mem_loadAll_of_candidate hcandidate
      refine (chooseAndEvict_evicted fun s₂ h₂ => .inr fun hok => hrefused ?_).bind
        fun _ s₂ h₂ => ?_
      · exact (State.accepts_of_still (h₁.trans h₂)).mp hok
      · have hgone := h₂.of_still h₁ (.refl s₂)
        have hfewer : s₂.candidates.length < s.candidates.length := by
          rw [State.candidates, hgone.loadAll h.wellFormed, hgone.entries, hgone.host,
            yieldCandidates_freed]
          exact List.length_filter_lt_length_iff_exists.mpr ⟨guest, hcandidate, by simp⟩
        rw [h.config]
        exact ih (h.evicted hlisted (by rw [hidle]; rfl) hgone) (by omega)

theorem ensureHotYielded_accepts (h : Awaits size s₀ s) :
    manager.Completes (smooth profile storageMb) (isNeeded request options size) t
      (ensureHotYielded s₀.config size) s fun _ s' => Awaits size s₀ s' ∧ s'.accepts size := by
  simp only [ensureHotYielded, Prog.perform_bind]
  refine hotLoadAll_current (fun _ _ => isNeeded_of_keeping) fun s₁ h₁ => yieldLoop_accepts
    (h.still h₁) ?_
  rw [← h₁.hot]
  exact List.length_filter_le _ _

/-! ## The evictions a request asks for -/

/-- A stamp on a record changes nothing the fold looks at. -/
theorem Awaits.stamped (h : Awaits size s₀ s) (hmem : guest ∈ s.hot.loadAll) {hot : HotTable}
    (hs : Still { s with hot := hot } s')
    (hsave : s.hot.save { guest with drainReason := some reason } = .ok hot) :
    Awaits size s₀ s' := by
  have hloadAll := h.wellFormed.loadAll_save (f := fun g => { g with drainReason := some reason })
    hmem rfl (h.wellFormed.mem_loadAll.mp hmem).2 hsave
  refine ⟨h.toBeside.trans hs.toBeside.of_hot, hs.lock.trans h.unlocked, ?_, ?_⟩
  · rw [hs.hot]
    exact h.wellFormed.save hsave
  · rw [hs.entries, hs.config, hs.host, hs.hot, hloadAll, acceptsWithoutIdle_map]
    · exact h.accepts
    all_goals
      intro g
      by_cases hg : g.vmName = guest.vmName <;> simp [hg]

/-- A record is stored. -/
theorem hotSave_stored {base : Base} (hspec : Allows spec)
    (hk : ∀ s' hot, s.hot.save guest = .ok hot → Still { s with hot := hot } s' →
      manager.Completes (smooth profile storageMb) spec t
        (k (.ok ())) s' Q) :
    manager.Completes (smooth profile storageMb) spec t
      (.call (Op.hotSave base guest) k) s Q := by
  refine ⟨hspec _ _ rfl, fun _ => ⟨{ failed := true }, rfl⟩,
    fun fresh a s' r spawned hok hexec => ?_⟩
  simp only [smooth, noFailure, isCurrentListing, Bool.and_true, Bool.and_eq_true,
    Bool.not_eq_true'] at hok
  obtain ⟨hanswer, hstorable⟩ := hok
  obtain ⟨row, hrow⟩ := exists_hotGuestToModel.mpr hstorable
  have hsave : s.hot.save guest = .ok (Table.put HotGuestModel.vmName row s.hot) := by
    simp [HotTable.save, hrow]
  have hstored : a.stored ((s.tick a.elapsed).hot.save guest) =
      .ok (Table.put HotGuestModel.vmName row s.hot) := by
    simp only [Answer.stored, hanswer, Bool.false_eq_true, if_false]
    exact hsave
  simp only [manager, exec, hstored, Option.some.injEq, Prod.mk.injEq] at hexec
  obtain ⟨rfl, rfl, -⟩ := hexec
  refine hk _ _ hsave ⟨⟨rfl, rfl, rfl, rfl, ?_, ?_⟩, rfl, rfl⟩ <;> simp [State.tick]

/-- What a drain leaves: the other records, and the fold as willing as before. -/
structure Drained (size : GuestSize) (s₀ : State) (guest : HotGuest) (s s' : State) : Prop where
  awaits : Awaits size s₀ s'
  others : ∀ g ∈ s.hot.loadAll, g.vmName ≠ guest.vmName → g ∈ s'.hot.loadAll

/-- A drain of a machine that no job holds. -/
theorem ensureHotDrained_unclaimed (h : Awaits size s₀ s) (hmem : guest ∈ s.hot.loadAll)
    (hholds : guest.state.isHoldingMachine = true) (hfree : guest.state ≠ .claimed)
    (hasked : options.hot.isEvicting = true ∧ guest.profile = request.profile) :
    manager.Completes (smooth profile storageMb) (isNeeded request options size) t
      (ensureHotDrained guest reason) s fun _ s' => Drained size s₀ guest s s' := by
  obtain ⟨hrecord, hvalid⟩ := h.wellFormed.mem_loadAll.mp hmem
  have hothers : ∀ g ∈ s.hot.loadAll, g.vmName ≠ guest.vmName →
      s.hot.record g.vmName = some g ∧ g.isValid = true ∧ guest.vmName ≠ g.vmName := by
    intro g hg hne
    exact ⟨(h.wellFormed.mem_loadAll.mp hg).1, (h.wellFormed.mem_loadAll.mp hg).2, hne.symm⟩
  unfold ensureHotDrained
  split
  · -- already draining: nothing to do
    exact ⟨h, fun g hg _ => hg⟩
  rename_i hdraining
  simp only [Prog.perform_bind]
  refine completes_quiet trivial rfl (by simp) fun now s₁ _ _ _ h₁ _ _ => ?_
  split
  · -- provisioning or recycling: the decision is stamped on the record
    unfold ensureHotEvictionPending
    split
    · exact ⟨h.still h₁, fun g hg _ => by rw [h₁.hot]; exact hg⟩
    · simp only [Prog.perform_bind]
      refine hotSave_stored (fun _ _ => isNeeded_of_keeping) fun s₂ hot hsave h₂ => ?_
      have hawaits := (h.still h₁).stamped (by rw [h₁.hot]; exact hmem) h₂ hsave
      refine ⟨hawaits, fun g hg hne => hawaits.wellFormed.mem_loadAll.mpr ?_⟩
      obtain ⟨hg₁, hg₂, hne'⟩ := hothers g hg hne
      rw [h₂.hot]
      exact ⟨(HotTable.record_save_of_ne hsave hne').trans (by rw [h₁.hot]; exact hg₁), hg₂⟩
  · -- idle: destroyed now
    rename_i moved hmoved
    obtain ⟨hmove, rfl⟩ := HotGuest.ensureState_eq_ok.mp hmoved
    have hidle : guest.state = .idle := by
      cases hstate : guest.state <;> simp_all [HotState.canTransitionTo]
    have hnone : guest.claimedBy.isNone = true := by
      have := (HotGuest.isValid_iff.mp hvalid).2
      simpa [hidle] using this
    simp only [hnone, if_true]
    refine completes_quiet trivial rfl (by simp) fun _ s₂ _ _ _ h₂ _ _ => ?_
    refine hotSave_stored (fun _ _ => isNeeded_of_keeping) fun s₃ hot hsave h₃ => ?_
    refine Completes.mono (evictChosen_evicted ?_) fun _ s₄ h₄ => ?_
    · exact .inl hasked
    have hgone : Evicted guest.vmName s s₄ := by
      have h₁₂ := h₁.trans h₂
      refine ⟨h₁₂.toBeside.trans (h₃.toBeside.of_hot.trans h₄.toBeside), ?_, ?_⟩
      · rw [h₄.hot, h₃.hot, ← h₁₂.hot]
        exact HotTable.remove_of_save hsave
      · rw [h₄.host, h₃.host]
        exact congrArg _ h₁₂.host
    have hawaits := h.evicted hmem hholds hgone
    refine ⟨hawaits, fun g hg hne => hawaits.wellFormed.mem_loadAll.mpr ?_⟩
    obtain ⟨hg₁, hg₂, hne'⟩ := hothers g hg hne
    rw [hgone.hot]
    exact ⟨(HotTable.record_remove_of_ne hne').trans hg₁, hg₂⟩

/-- The evictions the request asks for leave the fold as willing as before. -/
theorem evictRequested_awaits (h : Awaits size s₀ s) (hfree : options.hot.isEvicting = true →
      ∀ g ∈ s.hot.loadAll, g.profile = request.profile → g.state ≠ .claimed) :
    manager.Completes (smooth profile storageMb) (isNeeded request options size) t
      (evictRequested request options) s fun _ s' => Awaits size s₀ s' := by
  unfold evictRequested
  split
  · rename_i hevicting
    simp only [ensureHotEvictedFor, Prog.perform_bind]
    refine hotLoadAll_current (fun _ _ => isNeeded_of_keeping) fun s₁ h₁ => ?_
    -- before each turn the machines still to go are listed, each under its own name
    refine (Completes.forEach (I := fun rest s => Awaits size s₀ s ∧
      (rest.map (·.vmName)).Nodup ∧ ∀ g ∈ rest, g ∈ s.hot.loadAll ∧
        g.state.isHoldingMachine = true ∧ g.state ≠ .claimed ∧ g.profile = request.profile)
      ?_ ?_).mono fun _ _ hI => hI.1
    · rintro g rest s₂ ⟨h₂, hnodup, hrest⟩
      rw [List.map_cons, List.nodup_cons] at hnodup
      obtain ⟨hmem, hholds, hclaim, hprofile⟩ := hrest g List.mem_cons_self
      refine (ensureHotDrained_unclaimed h₂ hmem hholds hclaim ⟨hevicting, hprofile⟩).mono
        fun _ s₃ h₃ => ⟨h₃.awaits, hnodup.2, fun g' hg' => ?_⟩
      obtain ⟨hmem', hrest'⟩ := hrest g' (List.mem_cons_of_mem _ hg')
      refine ⟨h₃.others g' hmem' fun hname => hnodup.1 ?_, hrest'⟩
      exact hname ▸ List.mem_map_of_mem hg'
    · refine ⟨h.still h₁, h.wellFormed.nodup_loadAll.sublist (List.filter_sublist.map _), ?_⟩
      intro g hg
      simp only [List.mem_filter, Bool.and_eq_true, decide_eq_true_eq] at hg
      obtain ⟨hmem, hholds, hprofile⟩ := hg
      rw [h₁.hot]
      exact ⟨hmem, hholds, hfree hevicting g hmem hprofile, hprofile⟩
  · exact h

/-! ## The rest of `create` -/

theorem promotedGeneration_quiet :
    (promotedGeneration name).Calls (·.isQuiet = true) := by
  refine .perform rfl fun r => ?_
  split <;> trivial

theorem hotContext_quiet {lane : HotLane} {ageSeconds : Option UInt64} :
    (hotContext config name profile lane ageSeconds).Calls (·.isQuiet = true) := by
  unfold hotContext
  split
  · trivial
  split
  · trivial
  refine .perform rfl fun backend => ?_
  split
  · trivial
  · exact .perform rfl fun _ => promotedGeneration_quiet.bind fun _ => trivial

theorem hostMachines_quiet : hostMachines.Calls (·.isQuiet = true) := by
  refine .perform rfl fun r => ?_
  split
  · trivial
  refine .perform rfl fun r => ?_
  split
  · trivial
  · exact .perform rfl fun _ => trivial

theorem recordedWarmSource_quiet {warm : VmName} {record : WarmImageRecord} :
    (recordedWarmSource warm record fingerprint).Calls (·.isQuiet = true) := by
  unfold recordedWarmSource
  split
  · trivial
  split
  · trivial
  refine .perform rfl fun r => ?_
  split
  · trivial
  · trivial
  · trivial
  · split
    · trivial
    · split <;> trivial

theorem warmSource_quiet :
    (warmSource name profile fingerprint).Calls (·.isQuiet = true) := by
  unfold warmSource
  split
  · trivial
  refine .perform rfl fun backend => ?_
  split
  · trivial
  refine .perform rfl fun isQuarantined => ?_
  split
  · trivial
  refine hostMachines_quiet.bind fun r => ?_
  split
  · trivial
  refine .perform rfl fun r => ?_
  split
  · exact recordedWarmSource_quiet
  · refine .bind (.perform rfl fun r => ?_) fun _ => trivial
    split <;> trivial

theorem resolveSource_quiet {mode : AllocationMode} :
    (resolveSource name profile mode).Calls (·.isQuiet = true) := by
  refine .perform rfl fun fingerprint => ?_
  split
  · trivial
  · refine warmSource_quiet.bind fun r => ?_
    split <;> trivial

/-- The size admission folds for a request of this size. -/
def effective (asked : GuestSize) : Option UInt64 → GuestSize
  | none => asked
  | some baseMb => floored asked baseMb

/-- Nothing but capacity stands in the way of the request. -/
structure Acceptable (s : State) (request : AllocationRequest) (options : RequestOptions)
    (claims : ForgejoClaims) (profile : Profile) (asked : GuestSize) : Prop where
  isValid : request.isValid = true
  configured : s.config.profile? request.profile = some profile
  authorized : (claims.ensureAuthorized profile request).isOk = true
  size : resolveSize options profile = some asked
  age : (resolveHotAge options.hot profile).isSome = true
  unlocked : s.lock = none
  isOpen : s.isClosing = false
  first : idempotent s.entries request = none
  sole : (ensureSoleProducer s.entries request.profile
    (resolveMode options profile (claims.workflowFile.getD ""))).isOk = true
  named : (vmName s.config request).isOk = true
  /-- An identity is left to issue. -/
  unissued : ∃ id, id ∉ s.history.issued

variable {claims : ForgejoClaims} {asked : GuestSize} {resolved : Resolved}
variable {context : Option HotContext} {ok : State → Op → Answer → Bool}

theorem Acceptable.beside (h : Acceptable s request options claims profile asked)
    (hs : Beside s s') : Acceptable s' request options claims profile asked where
  isValid := h.isValid
  configured := by rw [hs.config]; exact h.configured
  authorized := h.authorized
  size := h.size
  age := h.age
  unlocked := hs.lock.trans h.unlocked
  isOpen := hs.isClosing.trans h.isOpen
  first := by rw [hs.entries]; exact h.first
  sole := by rw [hs.entries]; exact h.sole
  named := by rw [hs.config]; exact h.named
  unissued := by rw [hs.issued]; exact h.unissued

/-- The request is authorized, and its size is the one the base allows. -/
theorem authorize_resolved (hspec : Allows spec)
    (h : Acceptable s request options claims profile asked) :
    manager.Completes (smooth profile storageMb) spec t
      (authorize s.config request options claims) s fun r s' => Still s s' ∧
        ∃ resolved, r = .ok resolved ∧ resolved.profile = profile ∧
          resolved.size = effective asked storageMb ∧
          resolved.mode = resolveMode options profile (claims.workflowFile.getD "") ∧
          resolved.lane = .fromRefProtected claims.isRefProtected := by
  obtain ⟨age, hage⟩ := Option.isSome_iff_exists.mp h.age
  simp only [authorize, h.isValid, Bool.not_true, Bool.false_eq_true, if_false, FlanForge.profile,
    h.configured, isOk_eq_true.mp h.authorized, h.size, hage]
  refine (completes_of_quiet (fun s o ho => hspec s o (Op.isEviction_of_quiet ho))
    resolveSource_quiet h.unlocked).bind
    fun source s₁ h₁ => ?_
  simp only [effectiveSize, Prog.perform_bind, Prog.call_bind]
  refine completes_quiet (hspec _ _ rfl) rfl (by simp) fun r s₂ _ a _ h₂ hok hexec => ?_
  simp only [exec, Option.some.injEq, Prod.mk.injEq] at hexec
  obtain ⟨-, rfl, -⟩ := hexec
  simp only [smooth, noFailure, isCurrentListing, Bool.and_true, decide_eq_true_eq] at hok
  rw [hok]
  cases storageMb with
  | none => exact ⟨h₁.trans h₂, _, rfl, rfl, rfl, rfl, rfl⟩
  | some baseMb => exact ⟨h₁.trans h₂, _, rfl, rfl, rfl, rfl, rfl⟩

/-- The row of an allocation is written. -/
theorem saveAllocation_stored {allocation : Allocation}
    (hspec : Allows spec)
    (hk : ∀ s', s'.history = s.history →
      manager.Completes (smooth profile storageMb) spec t (k (.ok ())) s' Q) :
    manager.Completes (smooth profile storageMb) spec t (.call (.saveAllocation allocation) k) s
      Q := by
  refine ⟨hspec _ _ rfl, fun _ => ⟨{ failed := true }, rfl⟩,
    fun fresh a s' r spawned hok hexec => ?_⟩
  simp only [smooth, noFailure, isCurrentListing, Bool.and_true, Bool.and_eq_true,
    Bool.not_eq_true'] at hok
  obtain ⟨⟨hanswer, hvalid⟩, hstorable⟩ := hok
  simp only [manager, exec, hanswer, hvalid, hstorable, Bool.not_true, Bool.false_eq_true,
    if_false, Option.some.injEq, Prod.mk.injEq] at hexec
  obtain ⟨rfl, rfl, -⟩ := hexec
  exact hk _ rfl

/-- What was admitted is committed. -/
theorem commitAdmitted_admits (hspec : Allows spec)
    {admitted : Admitted} :
    manager.Completes (smooth profile storageMb) spec t
      (commitAdmitted admitted profile) s fun r s' => r = .ok admitted.allocation ∧
        s'.history.admitted = admitted.allocation :: s.history.admitted := by
  have hcommit : ∀ s₁ s₂ : State, s₁.history.admitted = s.history.admitted →
      s₂.history = s₁.history → manager.Completes (smooth profile storageMb) spec t
        (.call (.commit admitted.allocation profile admitted.seen) fun _ =>
          .ret (.ok admitted.allocation)) s₂ fun (r : Except ManagerError Allocation) s' =>
        r = .ok admitted.allocation ∧
          s'.history.admitted = admitted.allocation :: s.history.admitted := by
    intro s₁ s₂ h₁ h₂
    refine ⟨hspec _ _ rfl, fun _ => ⟨{}, rfl⟩, fun fresh' a' s₃ r spawned' _ hexec' => ?_⟩
    simp only [manager, exec, Option.some.injEq, Prod.mk.injEq] at hexec'
    obtain ⟨rfl, -, -⟩ := hexec'
    exact ⟨rfl, congrArg _ (h₂ ▸ h₁)⟩
  unfold commitAdmitted commitAdmitted.claimSaved
  split
  · exact hotSave_stored hspec fun s₁ hot _ h₁ =>
      saveAllocation_stored hspec fun s₂ h₂ => hcommit s₁ s₂ h₁.admitted h₂
  · exact saveAllocation_stored hspec fun s₂ h₂ => hcommit s s₂ rfl h₂

theorem exists_of_isOk {ε α : Type} {x : Except ε α} (h : x.isOk = true) : ∃ a, x = .ok a := by
  cases x with
  | ok a => exact ⟨a, rfl⟩
  | error e => cases h

/-- Under the lock, a request the checks let pass is admitted, as built from the
time that was read. -/
theorem createLocked_admits {machines : Except WorkerError (List HostMachine)}
    {hot : Except StoreError (List HotGuest)} {entries : List Entry} {seen : List HotGuest}
    (hsmooth : ∀ s o a, ok s o a = true → smooth profile storageMb s o a = true)
    (hspec : Allows spec) (hclosing : s.isClosing = false)
    (hadmits : admission config request resolved machines hot entries false = .ok seen)
    (hprofile : resolved.profile = profile) (hnamed : (vmName config request).isOk = true)
    (hid : ∃ id, id ∉ s.history.issued) :
    manager.Completes ok spec t
      (createLocked config request options resolved context machines hot entries) s
      fun r s' => ∃ admitted, r = .ok admitted.allocation ∧
        s'.history.admitted = admitted.allocation :: s.history.admitted ∧
        ∃ id label now backend, buildAllocation config request options resolved context backend
            entries seen id label now = .ok admitted ∧
          ∃ s a, ok s .unixTime a = true ∧ a.now = now := by
  simp only [createLocked, Prog.perform_bind]
  refine completes_quiet (hspec _ _ rfl) rfl (by simp) fun r s₁ _ _ _ h₁ _ hexec => ?_
  have hopen : r = false := by
    cases hexec
    exact hclosing
  subst hopen
  rw [hadmits]
  refine ⟨hspec _ _ rfl, ?_, ?_⟩
  · obtain ⟨id, hid⟩ := hid
    rw [← h₁.issued] at hid
    exact fun _ => ⟨{ id := some id }, by simp [manager, exec, State.tick, hid]⟩
  intro fresh a s₂ r spawned hok hexec
  have hok := hsmooth _ _ _ hok
  simp only [smooth, noFailure, isCurrentListing, Bool.and_true] at hok
  obtain ⟨label, hlabel⟩ := exists_of_isOk hok
  obtain ⟨name, hname⟩ := exists_of_isOk hnamed
  simp only [manager, exec] at hexec
  split at hexec
  · rename_i id _
    split at hexec
    · cases hexec
    cases hexec
    refine completes_quiet (hspec _ _ rfl) rfl (by simp) fun now s₃ _ a' _ h₃ htime hread => ?_
    have hnow : a'.now = now := by
      simp only [exec] at hread
      split at hread <;> cases hread
      rfl
    refine completes_quiet (hspec _ _ rfl) rfl (by simp) fun backend s₄ _ _ _ h₄ _ _ => ?_
    obtain ⟨admitted, hbuilt⟩ : ∃ admitted, buildAllocation config request options resolved context
        backend entries seen id a.label now = .ok admitted := by
      simp only [buildAllocation, hprofile, hlabel, hname]
      exact ⟨_, rfl⟩
    rw [hbuilt, hprofile]
    refine ((commitAdmitted_admits hspec).restrict hsmooth fun _ _ h => h).mono
      fun r s₅ h₅ => ⟨admitted, h₅.1, h₅.2.trans ?_, id, a.label, now, backend, hbuilt, _, a',
        htime, hnow⟩
    rw [h₄.admitted, h₃.admitted]
    exact congrArg _ h₁.admitted
  · cases hexec

/-- What `create` does once the pool is prepared. -/
def createPrepared (config : Config) (request : AllocationRequest) (options : RequestOptions)
    (resolved : Resolved) (context : Option HotContext) :
    Manager (Except ManagerError Allocation) := do
  let machines ← hostMachines
  let hot ← Prog.perform Op.hotLoadAll
  let entries ← Prog.perform Op.lockEntries
  createLocked config request options resolved context machines hot entries

/-- The fold reads the host and the pool as they are: where it accepts, the
request is admitted. -/
theorem createPrepared_admits
    (hsmooth : ∀ s o a, ok s o a = true → smooth profile storageMb s o a = true)
    (hspec : Allows spec)
    (h : Acceptable s request options claims profile asked) (hfold : s.accepts resolved.size)
    (hprofile : resolved.profile = profile)
    (hmode : resolved.mode = resolveMode options profile (claims.workflowFile.getD "")) :
    manager.Completes ok spec t (createPrepared s.config request options resolved context) s
      fun r s' => ∃ admitted, r = .ok admitted.allocation ∧
        s'.history.admitted = admitted.allocation :: s.history.admitted ∧
        ∃ id label now backend, buildAllocation s.config request options resolved context backend
            s.entries s.hot.loadAll id label now = .ok admitted ∧
          ∃ s a, ok s .unixTime a = true ∧ a.now = now := by
  unfold createPrepared
  refine ((hostMachines_current hspec).restrict hsmooth fun _ _ h => h).bind ?_
  rintro _ s₁ ⟨rfl, h₁⟩
  have hread : manager.Completes (smooth profile storageMb) spec t (Prog.perform Op.hotLoadAll) s₁
      fun r s₂ => r = .ok s.hot.loadAll ∧ Still s s₂ := by
    refine hotLoadAll_current hspec fun s₂ h₂ => ?_
    exact ⟨by rw [h₁.hot], h₁.trans h₂⟩
  refine (hread.restrict hsmooth fun _ _ h => h).bind ?_
  rintro _ s₂ ⟨rfl, h₂⟩
  have hunlocked : s₂.lock = none := h₂.lock.trans h.unlocked
  simp only [Prog.perform_bind]
  refine ⟨hspec _ _ rfl, fun _ => ⟨{}, by simp [manager, exec, State.tick, hunlocked]⟩, ?_⟩
  intro fresh a s₃ entries spawned _ hexec
  simp only [manager, exec, State.tick, hunlocked, Option.isNone_none, if_true, Option.some.injEq,
    Prod.mk.injEq] at hexec
  obtain ⟨rfl, rfl, -⟩ := hexec
  have hadmits : admission s.config request resolved (.ok s.host) (.ok s.hot.loadAll) s₂.entries
      false = .ok s.hot.loadAll := by
    rw [State.accepts] at hfold
    simp [admission, h₂.entries, h.first, hmode, isOk_eq_true.mp h.sole, hotSnapshot, hfold]
  refine (createLocked_admits hsmooth hspec ?_ hadmits hprofile h.named ?_).mono fun r s₄ h₄ => ?_
  · exact h₂.isClosing.trans h.isOpen
  · obtain ⟨id, hid⟩ := h.unissued
    exact ⟨id, by rwa [show s₂.history.issued = s.history.issued from h₂.issued]⟩
  · obtain ⟨admitted, rfl, hadmitted, hbuilt⟩ := h₄
    rw [h₂.entries] at hbuilt
    exact ⟨admitted, rfl, hadmitted.trans (congrArg _ h₂.admitted), hbuilt⟩

/-- **A create nobody disturbs is admitted**, and every machine it evicts is one
it was asked to evict or one the fold refused to keep. -/
theorem create_completes (hhot : s.hot.WellFormed)
    (h : Acceptable s request options claims profile asked)
    (haccepts : acceptsWithoutIdle s.entries s.config (effective asked storageMb) s.host
      s.hot.loadAll = true)
    (hfree : options.hot.isEvicting = true →
      ∀ g ∈ s.hot.loadAll, g.profile = request.profile → g.state ≠ .claimed) :
    manager.Completes (smooth profile storageMb)
      (isNeeded request options (effective asked storageMb)) t (create request options claims) s
      fun r s' => ∃ allocation, r = .ok allocation ∧
        s'.history.admitted = allocation :: s.history.admitted := by
  have hawaits : Awaits (effective asked storageMb) s s :=
    ⟨.refl s, h.unlocked, hhot, haccepts⟩
  simp only [create, Prog.perform_bind]
  refine completes_quiet trivial rfl (by simp) fun config s₁ _ _ _ h₁ _ hexec => ?_
  have hconfig : config = s₁.config := by
    cases hexec
    rfl
  subst hconfig
  refine (authorize_resolved (fun _ _ => isNeeded_of_keeping) (h.beside h₁.toBeside)).bind ?_
  rintro _ s₂ ⟨h₂, resolved, rfl, hprofile, hsize, hmode, -⟩
  have hstill := h₁.trans h₂
  simp only [prepareHot, hsize]
  rw [h₁.config]
  -- the machines the run asks to evict, then the ones the fold asks for
  refine Completes.bind (Completes.bind (evictRequested_awaits (hawaits.still hstill)
    fun hevicting g hg => hfree hevicting g (by rwa [hstill.hot] at hg)) fun _ s₃ h₃ =>
    (ensureHotYielded_accepts h₃).bind fun _ s₄ h₄ => Completes.mono (Q := fun _ s₅ => Still s₄ s₅)
      ?_ fun _ s₅ h₅ => (⟨h₄.1.still h₅, (State.accepts_of_still h₅).mpr h₄.2⟩ :
        Awaits (effective asked storageMb) s s₅ ∧ s₅.accepts (effective asked storageMb))) ?_
  · split
    · exact completes_of_quiet (fun _ _ ho => isNeeded_of_keeping (Op.isEviction_of_quiet ho))
        hotContext_quiet h₄.1.unlocked
    · exact .refl s₄
  rintro context s₅ ⟨h₅, hfold⟩
  rw [← hsize] at hfold
  rw [← h₅.config]
  refine (createPrepared_admits (fun _ _ _ h => h) (fun _ _ => isNeeded_of_keeping)
    (h.beside h₅.toBeside) hfold hprofile hmode).mono fun r s₆ h₆ => ?_
  obtain ⟨admitted, rfl, hadmitted, -⟩ := h₆
  exact ⟨_, rfl, hadmitted.trans (congrArg _ h₅.admitted)⟩

end Programs

end FlanForge
