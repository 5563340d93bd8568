import FlanForge.Manager.Create

/-!
# What `create` decides

The facts the pure parts of `create` hand from one to the next: what
`authorize` resolved, which machine a claim may take, what is written on the
allocation, and what the fold has accepted. `Decides` is what the commit
starts from.
-/

namespace FlanForge

variable {config : Config} {request : AllocationRequest} {options : RequestOptions}
variable {entries : List Entry} {seen : List HotGuest} {id : AllocationId} {now : UInt64}
variable {profile : Profile} {resolved : Resolved} {context : Option HotContext}

/-- What `authorize` hands on. -/
structure Resolves (config : Config) (request : AllocationRequest) (resolved : Resolved) :
    Prop where
  profile : config.profile? request.profile = some resolved.profile
  age : ∀ age ∈ resolved.ageSeconds, 1 ≤ age ∧ age ≤ 604800

/-- The hot policy is the one of the request's profile. -/
structure ContextOf (config : Config) (request : AllocationRequest) (resolved : Resolved)
    (context : HotContext) : Prop where
  hot : config.enabledHot request.profile = some context.hot
  name : context.name = request.profile
  lane : context.lane = resolved.lane
  maxHotVms : context.maxHotVms = config.runtime.maxHotVms
  age : context.ageSeconds = resolved.ageSeconds

theorem age_of_resolveHotAge {age : Option UInt64} (hadmissible : CreateBody.Admissible options)
    (h : resolveHotAge options.hot profile = some age) :
    ∀ value ∈ age, 1 ≤ value ∧ value ≤ 604800 := by
  intro value hvalue
  unfold resolveHotAge at h
  split at h
  · rename_i seconds hhot
    split at h
    · cases h
      cases hvalue
    · split at h
      · cases h
      · cases h
        cases hvalue
        exact hadmissible.age _ hhot
  · cases h
    cases hvalue

/-- What a claim takes: an idle machine of the lane, free, and not worn out. -/
structure Takes (config : Config) (request : AllocationRequest) (resolved : Resolved)
    (entries : List Entry) (seen : List HotGuest) (base : HotGuest) : Prop where
  mem : base ∈ seen
  serving : base.isServing request.profile resolved.lane = true
  free : base.vmName.value ∉ liveHotNames entries
  jobs : ∃ hot, config.enabledHot base.profile = some hot ∧ base.jobsServed < hot.maxJobs

/-- A machine without a drain reason has jobs left. -/
theorem jobsServed_lt_of_drainReason {guest : HotGuest} {policy : HotPolicy}
    (hidle : guest.state = .idle) (h : drainReason guest policy = none) :
    guest.jobsServed < policy.hot.maxJobs := by
  refine UInt32.not_le.mp fun hworn => ?_
  unfold drainReason at h
  simp only [hidle, HotState.isTerminal, Bool.false_eq_true, ge_iff_le, hworn, if_true,
    if_false] at h
  split at h <;> cases h

theorem takes_of_claimable {context : HotContext} {base : HotGuest}
    (hcontext : ContextOf config request resolved context)
    (h : claimable seen context.name context.lane (liveHotNames entries) (context.policy now) =
      some base) : Takes config request resolved entries seen base := by
  obtain ⟨hmem, hclaimable⟩ := List.mem_filter.mp (mem_of_pickBy h)
  simp only [isClaimable, Bool.and_eq_true, Bool.not_eq_true', List.contains_eq_mem,
    decide_eq_false_iff_not, Option.isNone_iff_eq_none] at hclaimable
  obtain ⟨⟨hserving, hfree⟩, hreason⟩ := hclaimable
  rw [hcontext.name, hcontext.lane] at hserving
  obtain ⟨hidle, hprofile, -⟩ := HotGuest.isServing_iff.mp hserving
  refine ⟨hmem, hserving, hfree, context.hot, by rw [hprofile]; exact hcontext.hot, ?_⟩
  exact jobsServed_lt_of_drainReason hidle hreason

/-- What admission decided about the pool, and wrote on the allocation. -/
def Claims (config : Config) (request : AllocationRequest) (resolved : Resolved)
    (entries : List Entry) (seen : List HotGuest) (id : AllocationId) (now : UInt64)
    (allocation : Allocation) : Option HotClaim → Prop
  | some (.reused base guest _ _) =>
    Takes config request resolved entries seen base ∧
      claimRecord base id resolved.ageSeconds now = .ok guest ∧
      allocation.origin = .hotReuse guest.vmName guest.jobsServed guest.bootedAtUnix ∧
      allocation.hotLane = some resolved.lane
  | some .retain =>
    allocation.origin = .cloned ∧
      isPoolExpandable seen config.runtime.maxHotVms (inFlightRetentions entries seen) = true
  | none => allocation.origin = .cloned ∧ allocation.hotLane = none

/-- **What `create` is about to commit.** -/
structure Decides (config : Config) (request : AllocationRequest) (resolved : Resolved)
    (entries : List Entry) (seen : List HotGuest) (id : AllocationId) (now : UInt64)
    (admitted : Admitted) : Prop where
  claims : Claims config request resolved entries seen id now admitted.allocation admitted.claim
  seen : admitted.seen = seen
  id : admitted.allocation.id = id
  request : admitted.allocation.request = request
  state : admitted.allocation.state = .requested
  created : admitted.allocation.vmCreated = false
  mode : admitted.allocation.mode = resolved.mode
  size : admitted.allocation.size = some resolved.size

/-- Every record a claim plan leads to. -/
theorem claims_of_plan {allocation : Allocation}
    (hcontext : ∀ c, context = some c → ContextOf config request resolved c)
    (hcloned : allocation.origin = .cloned) (hlane : allocation.hotLane = none) :
    let claim := context.bind fun context => planHotClaim entries seen context id now
    let decision : HotDecision :=
      ⟨claim, context, resolved.lane, resolved.ageSeconds, resolved.mode, config.runtime.maxHotVms⟩
    Claims config request resolved entries seen id now
      (decision.apply allocation options profile now) claim := by
  intro claim decision
  cases context with
  | none =>
    simp only [claim, Option.bind_none, decision, HotDecision.apply, Claims]
    split
    · exact ⟨hcloned, rfl⟩
    · exact ⟨hcloned, hlane⟩
  | some c =>
    have hc := hcontext c rfl
    simp only [claim, Option.bind_some, decision, HotDecision.apply, planHotClaim]
    cases hbase : claimable seen c.name c.lane (liveHotNames entries) (c.policy now) with
    | some base =>
      simp only
      cases hrecord : claimRecord base id c.ageSeconds now with
      | error e =>
        simp only [Claims]
        split
        · exact ⟨hcloned, rfl⟩
        · exact ⟨hcloned, hlane⟩
      | ok guest =>
        simp only [Claims]
        exact ⟨takes_of_claimable hc hbase, by rw [← hc.age]; exact hrecord, rfl, rfl⟩
    | none =>
      simp only
      by_cases hroom : isPoolExpandable seen c.maxHotVms (inFlightRetentions entries seen) = true
      · simp only [hroom, if_true, Claims]
        exact ⟨rfl, by rw [← hc.maxHotVms]; exact hroom⟩
      · simp only [hroom, Bool.false_eq_true, if_false, Claims]
        split
        · exact ⟨hcloned, rfl⟩
        · exact ⟨hcloned, hlane⟩

/-- The decision about the pool leaves the rest of the allocation alone. -/
theorem HotDecision.apply_keeps (decision : HotDecision) (a : Allocation) (profile : Profile) :
    let b := decision.apply a options profile now
    b.id = a.id ∧ b.request = a.request ∧ b.state = a.state ∧ b.vmCreated = a.vmCreated ∧
      b.mode = a.mode ∧ b.size = a.size := by
  unfold HotDecision.apply
  split
  · exact ⟨rfl, rfl, rfl, rfl, rfl, rfl⟩
  · exact ⟨rfl, rfl, rfl, rfl, rfl, rfl⟩
  · split <;> exact ⟨rfl, rfl, rfl, rfl, rfl, rfl⟩

/-- What `buildAllocation` answers with. -/
theorem decides_of_buildAllocation {backend : Backend} {label : String} {admitted : Admitted}
    (hcontext : ∀ c, context = some c → ContextOf config request resolved c)
    (h : buildAllocation config request options resolved context backend entries seen id label now =
      .ok admitted) : Decides config request resolved entries seen id now admitted := by
  unfold buildAllocation at h
  split at h
  · cases h
  · split at h
    · cases h
    · rename_i runnerLabel _ vmName _
      cases h
      cases backend.isCloneSourceEvidenceDeferred with
      | false =>
        obtain ⟨hid, hrequest, hstate, hcreated, hmode, hsize⟩ := HotDecision.apply_keeps _ _ _
        exact ⟨claims_of_plan hcontext rfl rfl, rfl, hid, hrequest, hstate, hcreated, hmode, hsize⟩
      | true =>
        obtain ⟨hid, hrequest, hstate, hcreated, hmode, hsize⟩ := HotDecision.apply_keeps _ _ _
        exact ⟨claims_of_plan hcontext rfl rfl, rfl, hid, hrequest, hstate, hcreated, hmode, hsize⟩

/-- What the fold and the checks before it have settled. -/
structure Folds (config : Config) (request : AllocationRequest) (resolved : Resolved)
    (entries : List Entry) (seen : List HotGuest) : Prop where
  idempotent : idempotent entries request = none
  producer : ensureSoleProducer entries request.profile resolved.mode = .ok ()
  capacity : ∃ machines, ensureCapacity entries config resolved.size machines seen = .ok ()

theorem folds_of_admission {machines : Except WorkerError (List HostMachine)}
    {hot : Except StoreError (List HotGuest)} {isClosing : Bool}
    (h : admission config request resolved machines hot entries isClosing = .ok seen) :
    Folds config request resolved entries seen ∧ seen = hot.toOption.getD [] := by
  unfold admission at h
  split at h
  · cases h
  · split at h
    · cases h
    · rename_i hidempotent
      split at h
      · cases h
      · rename_i hproducer
        split at h
        · cases h
        · rename_i machines
          split at h
          · cases h
          · rename_i snapshot hsnapshot
            split at h
            · cases h
            · rename_i hcapacity
              cases h
              refine ⟨⟨hidempotent, hproducer, machines, hcapacity⟩, ?_⟩
              cases hot with
              | ok hot =>
                cases hsnapshot
                rfl
              | error e =>
                simp only [hotSnapshot] at hsnapshot
                split at hsnapshot
                · cases hsnapshot
                · cases hsnapshot
                  rfl

end FlanForge
