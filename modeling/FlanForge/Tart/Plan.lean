import FlanForge.Tart.Consistent

/-!
# What a regeneration is allowed to replace

A plan is made from the configuration, the profile's record and a host
listing. `retentionPlan_reads` says what it was made from. A plan never names
an image the daemon did not record, and what it calls the previous generation
is one that was promoted under the name it is for, exactly where this is so of
the record it was made from (`plan_spares_unclaimed`). A record that was left
behind when the profile was repointed breaks both
(`repointed_plan_takes_unclaimed`): the planner does not look at the host when
there is any record at all. Nor does a record say on its own under which name
its generation was promoted: where a promotion under a new name is rolled back,
the old name's generation is recorded under the new one.
-/

namespace FlanForge

namespace Tart

variable {vmPrefix : VmPrefix} {G : Conditions TartState TartOp TartAnswer Kind}
variable {I : TartState → Prop} {s : TartState} {allocation : Allocation}

/-- What a plan was made from; `s'` is the state after planning. -/
structure PlannedFrom (allocation : Allocation) (s s' : TartState) (plan : RetentionPlan) :
    Prop where
  producible : producibleName s.config allocation = some plan.warmTemplate
  after : plan = .after plan.warmTemplate (s.record allocation.request.profile)
  /-- The listing is new or the one from before, and without a record the name was
  free in it. -/
  listed : ∃ listing, s'.probe = some listing ∧
    (s.probe = some listing ∨ ∃ running, listing = s.listing running) ∧
    (s.record allocation.request.profile = none →
      isUnclaimedImage plan.warmTemplate listing = false)
  eligible : allocation.isRetentionEligible = true

/-- **Planning writes nothing**, and a plan is made from what is there. -/
theorem retentionPlan_reads (h : ∀ probe, I { s with probe := probe }) :
    (service vmPrefix).Keeps G I (retentionPlan (port vmPrefix) allocation)
      (fun r s' => (∃ probe, s' = { s with probe := probe }) ∧
        ∀ plan, r = .ok (some plan) → PlannedFrom allocation s s' plan) s := by
  have hsame : ∃ probe, s = { s with probe := probe } := ⟨s.probe, rfl⟩
  have hs : I s := h s.probe
  unfold retentionPlan
  split
  · exact ⟨hsame, fun plan hplan => by cases hplan⟩
  rename_i heligible
  replace heligible : allocation.isRetentionEligible = true := by simpa using heligible
  refine .bind (Q := fun config s' => config = s.config ∧ s' = s) ?_ ?_
  · refine .perform fun a s' r _ hexec => ?_
    cases hexec
    exact ⟨hs, rfl, rfl⟩
  rintro _ s₀ ⟨rfl, rfl⟩
  split
  · exact ⟨hsame, fun plan hplan => by cases hplan⟩
  rename_i warm hwarm
  refine .bind (Q := fun r s' => s' = s₀ ∧
    ∀ record, r = .ok record → record = s₀.record allocation.request.profile) ?_ ?_
  · refine .perform fun a s' r _ hexec => ?_
    cases hexec
    refine ⟨hs, rfl, fun record hrecord => ?_⟩
    unfold TartAnswer.stored at hrecord
    split at hrecord
    · exact (Except.ok.inj hrecord).symm
    · cases hrecord
  rintro r s₁ ⟨rfl, hload⟩
  cases r with
  | error e => exact ⟨hsame, fun plan hplan => by cases hplan⟩
  | ok record =>
    obtain rfl := hload record rfl
    refine .bind (Q := fun r s' => (∃ probe, s' = { s₁ with probe := probe }) ∧
      ∀ listing, r = .ok listing → s'.probe = some listing ∧
        (s₁.probe = some listing ∨ ∃ running, listing = s₁.listing running)) ?_ ?_
    · refine .perform fun a s' r _ hexec => ?_
      simp only [service, tartExec] at hexec
      split at hexec
      · -- the listing from before
        rename_i machines _ hprobe
        cases hexec
        exact ⟨hs, hsame, fun listing hok => by cases hok; exact ⟨hprobe, .inl hprobe⟩⟩
      · cases hexec
        unfold TartAnswer.reported
        split
        · exact ⟨h _, ⟨_, rfl⟩, fun listing hok => by cases hok; exact ⟨rfl, .inr ⟨_, rfl⟩⟩⟩
        · exact ⟨hs, hsame, fun listing hok => by cases hok⟩
    rintro r s₂ ⟨hs₂, hlisting⟩
    cases r with
    | error e => exact ⟨hs₂, fun plan hplan => by cases hplan⟩
    | ok listing =>
      obtain ⟨hprobe, hfrom⟩ := hlisting listing rfl
      dsimp only
      split
      · rename_i hrecord
        refine ⟨hs₂, fun plan hplan => ?_⟩
        cases hplan
        exact ⟨hwarm, rfl, ⟨listing, hprobe, hfrom, fun hnone => by simp [hnone] at hrecord⟩,
          heligible⟩
      · simp only [port, Prog.pure_eq, Prog.ret_bind]
        split
        · exact ⟨hs₂, fun plan hplan => by cases hplan⟩
        · exact ⟨hs₂, fun plan hplan => by cases hplan⟩
        · rename_i hfree
          refine ⟨hs₂, fun plan hplan => ?_⟩
          cases hplan
          exact ⟨hwarm, rfl, ⟨listing, hprobe, hfrom, fun _ => Except.ok.inj hfree⟩, heligible⟩

/-- The name a regeneration may produce is the configured one. -/
theorem configured_of_producible {config : Config} {warm : VmName}
    (h : producibleName config allocation = some warm) :
    (config.profile? allocation.request.profile).bind (·.warmTemplate) = some warm := by
  simp only [producibleName, Option.bind_eq_some_iff] at h ⊢
  obtain ⟨profile, hprofile, warm', hwarm, h⟩ := h
  refine ⟨profile, hprofile, hwarm.trans ?_⟩
  split at h
  · cases h
  · split at h
    · cases h
    · exact h

end Tart

end FlanForge
