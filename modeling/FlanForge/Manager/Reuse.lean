import FlanForge.Manager.Decisions
import FlanForge.Manager.Uncontended

/-!
# A create that finds a machine to reuse

What a hot request does that nobody disturbs while the fold has room for it
beside everything the pool holds: the yield frees nothing, the bounds it
reads are those the pool is in, and the claim takes an idle machine of the
request's profile and lane. The fold charges that machine and the request
both, so the room it asks for is more than the claim takes.
-/

namespace FlanForge

open Machine (Completes)

/-- The generation the stored record of a profile promotes. -/
def State.promoted (s : State) (name : ProfileName) : Option UInt64 :=
  (s.images.find? (·.profile = name)).bind fun record =>
    if record.state = .promoted then some record.generation else none

/-- The base is the one the policy knows, the warm record can be read, and at
every time that is read some machine of `s₀` may be claimed. -/
def isWithinBounds (policy : HotPolicy) (request : AllocationRequest) (lane : HotLane) (s₀ : State)
    (op : Op) (a : Answer) : Bool :=
  match op with
  | .baseFingerprint _ => a.fingerprint = policy.fingerprint
  | .imageLoad _ => !a.failed
  | .unixTime =>
    (claimable s₀.hot.loadAll request.profile lane (liveHotNames s₀.entries)
      { policy with now := a.now }).isSome
  | _ => true

/-- No call fails, no listing is stale, and the pool keeps a machine to claim. -/
def inviting (profile : Profile) (storageMb : Option UInt64) (policy : HotPolicy)
    (request : AllocationRequest) (lane : HotLane) (s₀ s : State) (op : Op) (a : Answer) : Bool :=
  smooth profile storageMb s op a && isWithinBounds policy request lane s₀ op a

/-- The request may reuse a machine, under the profile's hot policy. -/
structure Pooling (s : State) (request : AllocationRequest) (options : RequestOptions)
    (claims : ForgejoClaims) (profile : Profile) (policy : HotPolicy) : Prop where
  retaining : options.hot.isRetaining = true
  mode : resolveMode options profile (claims.workflowFile.getD "") = .cold ∨
    resolveMode options profile (claims.workflowFile.getD "") = .warm
  enabled : profile.enabledHot = some policy.hot
  slots : s.config.runtime.maxHotVms ≠ 0
  lane : policy.hot.lanes.isLaneAdmitted (.fromRefProtected claims.isRefProtected) = true
  backend : s.backend.hotGuests = true
  generation : policy.warmGeneration = s.promoted request.profile

variable {profile : Profile} {storageMb : Option UInt64} {request : AllocationRequest}
variable {options : RequestOptions} {size asked : GuestSize} {claims : ForgejoClaims}
variable {s s' s₀ : State} {t : TaskId} {policy : HotPolicy} {lane : HotLane}
variable {spec : State → Op → Prop}

/-- What only the environment changes. -/
def State.surroundings (s : State) : Backend × List WarmImageRecord := (s.backend, s.images)

theorem exec_surroundings {fresh : TaskId} {op : Op} {a : Answer} {r : op.Res}
    {spawned : Option Kind}
    (h : exec t fresh op a s = some (s', r, spawned)) :
    s'.surroundings = s.surroundings := by
  cases exec_effect h <;> rfl

theorem State.of_surroundings (h : s'.surroundings = s.surroundings) :
    s'.backend = s.backend ∧ s'.images = s.images :=
  Prod.mk.inj h

/-- **While the fold accepts, nothing is freed.** -/
theorem ensureHotYielded_idle (hspec : Allows spec)
    (hlock : s.lock = none) (hfold : s.accepts size) :
    manager.Completes (smooth profile storageMb) spec t (ensureHotYielded s.config size) s
      fun _ s' => Still s s' := by
  have hloop : ∀ n s₁, Still s s₁ → manager.Completes (smooth profile storageMb) spec t
      (yieldLoop s.config size n) s₁ fun _ s' => Still s s' := by
    intro n s₁ h₁
    cases n with
    | zero => exact h₁
    | succ n =>
      simp only [yieldLoop]
      rw [← h₁.config]
      refine (yieldableHot_spec hspec (h₁.lock.trans hlock)).bind ?_
      rintro (_ | guest) s₂ ⟨h₂, hr⟩
      · exact h₁.trans h₂
      · exact absurd ((State.accepts_of_still h₁).mpr hfold) hr.2
  simp only [ensureHotYielded, Prog.perform_bind]
  exact hotLoadAll_current hspec fun s₁ h₁ => hloop _ s₁ h₁

/-- The claim is decided under the policy as it is. -/
theorem hotContext_current {age : Option UInt64}
    (hspec : Allows spec)
    (h : Pooling s request options claims profile policy) :
    manager.Completes (inviting profile storageMb policy request lane s₀) spec t
      (hotContext s.config request.profile profile (.fromRefProtected claims.isRefProtected) age) s
      fun r s' => Still s s' ∧ r = some ⟨policy.hot, request.profile,
        .fromRefProtected claims.isRefProtected, policy.fingerprint, policy.warmGeneration,
        s.config.runtime.maxHotVms, age⟩ := by
  simp only [hotContext, h.enabled, h.slots, decide_false, h.lane, Bool.not_true, Bool.or_self,
    Bool.false_eq_true, if_false, Prog.perform_bind]
  refine completes_quiet (hspec _ _ rfl) rfl (by simp) fun r s₁ _ a _ h₁ _ hexec => ?_
  obtain rfl : r = s.backend := by
    cases hexec
    rfl
  have hfixed₁ := exec_surroundings hexec
  simp only [h.backend, Bool.not_true, Bool.false_eq_true, if_false]
  refine completes_quiet (hspec _ _ rfl) rfl (by simp) fun r s₂ _ a₂ _ h₂ hok₂ hexec₂ => ?_
  have hfixed₂ := exec_surroundings hexec₂
  cases hexec₂
  simp only [inviting, isWithinBounds, Bool.and_eq_true, decide_eq_true_eq] at hok₂
  simp only [promotedGeneration, Prog.perform_bind, Prog.call_bind]
  refine completes_quiet (hspec _ _ rfl) rfl (by simp) fun r s₃ _ a₃ _ h₃ hok₃ hexec₃ => ?_
  simp only [inviting, isWithinBounds, Bool.and_eq_true, Bool.not_eq_true'] at hok₃
  have hread : r = .ok (s.images.find? (·.profile = request.profile)) := by
    cases hexec₃
    simp only [Answer.stored, hok₃.2, Bool.false_eq_true, if_false]
    rw [← (State.of_surroundings (hfixed₂.trans hfixed₁)).2]
    rfl
  subst hread
  have hstill := (h₁.trans h₂).trans h₃
  have hgeneration := h.generation
  rw [State.promoted] at hgeneration
  rw [hok₂.2]
  cases hrecord : s.images.find? (·.profile = request.profile) with
  | none =>
    rw [hrecord] at hgeneration
    exact ⟨hstill, by rw [hgeneration]; rfl⟩
  | some record =>
    rw [hrecord] at hgeneration
    exact ⟨hstill, by rw [hgeneration]; rfl⟩

theorem Pooling.still (h : Pooling s request options claims profile policy) (hs : Still s s')
    (hfixed : s'.surroundings = s.surroundings) :
    Pooling s' request options claims profile policy where
  retaining := h.retaining
  mode := h.mode
  enabled := h.enabled
  slots := by rw [hs.config]; exact h.slots
  lane := h.lane
  backend := by rw [(State.of_surroundings hfixed).1]; exact h.backend
  generation := by
    rw [h.generation, State.promoted, State.promoted, (State.of_surroundings hfixed).2]

/-- An answer of the inviting environment is a smooth one. -/
theorem smooth_of_inviting {op : Op} {a : Answer}
    (h : inviting profile storageMb policy request lane s₀ s op a = true) :
    smooth profile storageMb s op a = true := by
  simp only [inviting, Bool.and_eq_true] at h
  exact h.1

/-- The pool is as it was when the request is prepared. -/
theorem prepareHot_current {resolved : Resolved}
    (hspec : Allows spec) (hlock : s.lock = none)
    (hpool : Pooling s request options claims profile policy) (hfold : s.accepts resolved.size)
    (hprofile : resolved.profile = profile)
    (hmode : resolved.mode = resolveMode options profile (claims.workflowFile.getD ""))
    (hlane : resolved.lane = .fromRefProtected claims.isRefProtected) :
    manager.Completes (inviting profile storageMb policy request lane s₀) spec t
      (prepareHot s.config request resolved options) s
      fun r s' => Still s s' ∧ r = some ⟨policy.hot, request.profile,
        .fromRefProtected claims.isRefProtected, policy.fingerprint, policy.warmGeneration,
        s.config.runtime.maxHotVms, resolved.ageSeconds⟩ := by
  have hevicting : options.hot.isEvicting = false := by
    have := hpool.retaining
    cases hhot : options.hot <;> rw [hhot] at this <;> trivial
  have hreuses : ((decide (resolved.mode = .cold) || decide (resolved.mode = .warm)) &&
      options.hot.isRetaining) = true := by
    rw [hmode, hpool.retaining]
    rcases hpool.mode with hm | hm <;> simp [hm]
  simp only [prepareHot, evictRequested, hevicting, hreuses, Bool.false_eq_true, if_false, if_true]
  refine Completes.bind (Q := fun _ s₁ => s₁ = s) rfl ?_
  rintro _ _ rfl
  refine Completes.bind (((ensureHotYielded_idle hspec hlock hfold).restrict
    (fun _ _ _ => smooth_of_inviting) fun _ _ h => h).frame (f := State.surroundings)
    fun _ _ _ _ _ _ _ => exec_surroundings) ?_
  rintro _ s₁ ⟨h₁, hfixed⟩
  rw [hprofile, hlane, ← h₁.config]
  exact (hotContext_current hspec (hpool.still h₁ hfixed)).mono fun _ s₂ h₂ =>
    ⟨h₁.trans h₂.1, h₂.2⟩

/-- What is built while a machine may be claimed reuses one. -/
theorem buildAllocation_reuses {config : Config} {resolved : Resolved} {context : HotContext}
    {backend : Backend} {entries : List Entry} {seen : List HotGuest} {id : AllocationId}
    {label : String} {now : UInt64} {admitted : Admitted}
    (hbuilt : buildAllocation config request options resolved (some context) backend entries seen id
      label now = .ok admitted)
    (hclaimable : (claimable seen context.name context.lane (liveHotNames entries)
      (context.policy now)).isSome = true) :
    ∃ guest ∈ seen, guest.isServing context.name context.lane = true ∧
      admitted.allocation.origin.hotVmName = some guest.vmName := by
  obtain ⟨base, hbase⟩ := Option.isSome_iff_exists.mp hclaimable
  obtain ⟨hmem, hserves⟩ := List.mem_filter.mp (mem_of_pickBy hbase)
  simp only [isClaimable, Bool.and_eq_true] at hserves
  obtain ⟨guest, hguest⟩ : ∃ guest, claimRecord base id context.ageSeconds now = .ok guest :=
    ⟨_, claimRecord_eq_ok.mpr ⟨(HotGuest.isServing_iff.mp hserves.1.1).1, rfl⟩⟩
  have hname : guest.vmName = base.vmName := by
    obtain ⟨-, rfl⟩ := claimRecord_eq_ok.mp hguest
    rfl
  refine ⟨base, hmem, hserves.1.1, ?_⟩
  simp only [buildAllocation, Option.bind_some, planHotClaim, hbase, hguest] at hbuilt
  split at hbuilt
  · cases hbuilt
  split at hbuilt
  · cases hbuilt
  cases hbuilt
  rw [← hname]
  rfl

/-- **A create nobody disturbs reuses a machine**, where the fold has room for
the request beside everything the pool holds, and it destroys none. -/
theorem create_reuses (h : Acceptable s request options claims profile asked)
    (hpool : Pooling s request options claims profile policy)
    (hfold : s.accepts (effective asked storageMb)) :
    manager.Completes
      (inviting profile storageMb policy request (.fromRefProtected claims.isRefProtected) s)
      (fun _ op => op.isEviction = false) t (create request options claims) s
      fun r s' => ∃ allocation, r = .ok allocation ∧
        s'.history.admitted = allocation :: s.history.admitted ∧
        ∃ guest ∈ s.hot.loadAll, guest.isServing request.profile
            (.fromRefProtected claims.isRefProtected) = true ∧
          allocation.origin.hotVmName = some guest.vmName := by
  have hspec : Allows fun _ op => op.isEviction = false := fun _ _ h => h
  simp only [create, Prog.perform_bind]
  refine completes_quiet rfl rfl (by simp) fun config s₁ _ _ _ h₁ _ hexec => ?_
  obtain rfl : config = s₁.config := by
    cases hexec
    rfl
  have hfixed₁ := exec_surroundings hexec
  refine Completes.bind (((authorize_resolved hspec (h.beside h₁.toBeside)).restrict
    (fun _ _ _ => smooth_of_inviting) fun _ _ h => h).frame (f := State.surroundings)
    fun _ _ _ _ _ _ _ => exec_surroundings) ?_
  rintro _ s₂ ⟨⟨h₂, resolved, rfl, hprofile, hsize, hmode, hlane⟩, hfixed₂⟩
  have hstill := h₁.trans h₂
  have hfold₂ : s₂.accepts resolved.size := by
    rw [hsize]
    exact (State.accepts_of_still hstill).mpr hfold
  rw [← h₂.config]
  refine (prepareHot_current hspec (hstill.lock.trans h.unlocked)
    (hpool.still hstill (hfixed₂.trans hfixed₁)) hfold₂ hprofile hmode hlane).bind ?_
  rintro _ s₃ ⟨h₃, rfl⟩
  have hstill₃ := hstill.trans h₃
  rw [← h₃.config]
  refine (createPrepared_admits (fun _ _ _ => smooth_of_inviting) hspec (h.beside hstill₃.toBeside)
    ((State.accepts_of_still h₃).mpr hfold₂) hprofile hmode).mono fun r s₄ h₄ => ?_
  obtain ⟨admitted, rfl, hadmitted, id, label, now, backend, hbuilt, s₅, a, hok, rfl⟩ := h₄
  simp only [inviting, isWithinBounds, Bool.and_eq_true] at hok
  rw [hstill₃.entries, hstill₃.hot] at hbuilt
  obtain ⟨guest, hmem, hserves, horigin⟩ := buildAllocation_reuses hbuilt hok.2
  exact ⟨_, rfl, hadmitted.trans (congrArg _ hstill₃.admitted), guest, hmem, hserves, horigin⟩

end FlanForge
