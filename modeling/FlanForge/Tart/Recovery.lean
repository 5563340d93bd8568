import FlanForge.Tart.Plan
import FlanForge.Tart.PromoteKeeps

/-!
# Regenerations, crashes and recoveries

What a regeneration as a whole and a recovery keep, and the result for every
run of a site. The two runs at the end leave the conditions of
`TartSite.regime`, each in one step, and end with a record that names a
generation the live image is not.
-/

namespace FlanForge

open TartState

namespace TartSite

variable {site : TartSite} {s : TartState}

/-! ## Planning -/

/-- The map of profiles has one entry under the site's name. -/
theorem profile_eq (site : TartSite) : site.config.profile? site.name = some site.profile := by
  have hfind : ∃ entry, site.config.profiles.find? (fun entry => entry.1 = site.name) =
    some entry := by
    rw [← Option.isSome_iff_exists, List.find?_isSome]
    exact ⟨_, site.declared, by simp⟩
  obtain ⟨entry, hentry⟩ := hfind
  have hname : entry.1 = site.name := by simpa using List.find?_some hentry
  have hsame : entry = (site.name, site.profile) :=
    List.inj_on_of_nodup_map site.unique (List.mem_of_find?_eq_some hentry) site.declared hname
  simp [Config.profile?, hentry, hsame]

/-- A plan is made for the site's name, on the record that is there. -/
theorem retentionPlan_keeps {allocation : Allocation} (h : site.Inv s)
    (hprofile : allocation.request.profile = site.name) :
    site.Keeps (retentionPlan (Tart.port site.vmPrefix) allocation)
      (fun r s' => (∃ probe, s' = { s with probe := probe }) ∧
        ∀ plan, r = .ok (some plan) → plan = .after site.warm (s.record site.name)) s := by
  refine (Tart.retentionPlan_reads fun probe => h.withProbe).mono ?_
  rintro r s' ⟨hs', hplan⟩
  refine ⟨hs', fun plan hr => ?_⟩
  obtain ⟨hproducible, hafter, -⟩ := hplan plan hr
  have hconfigured := Tart.configured_of_producible hproducible
  rw [h.config, hprofile, profile_eq, Option.bind_some, site.warm_eq] at hconfigured
  rw [hprofile, ← Option.some.inj hconfigured] at hafter
  exact hafter

/-! ## One regeneration -/

theorem retainWarm_keeps {request : Tart.RetentionRequest} (h : site.Planned request s)
    (hwarm : request.warmTemplate = site.warm) :
    site.Keeps (Tart.retainWarm site.vmPrefix request) (fun _ => site.Inv) s := by
  have hnames : Tart.derive request.warmTemplate = .ok site.names := by
    simp [Tart.derive, hwarm, site.staging_eq, site.previous_eq, bind, Except.bind, pure,
      Except.pure]
  unfold Tart.retainWarm
  rw [hnames]
  refine .bind (keeps_silent h.inv fun _ _ _ hexec => by cases hexec; rfl) ?_
  rintro r s₀ rfl
  cases r with
  | error e => exact h.inv
  | ok _ =>
    refine .bind (promote_keeps h) ?_
    rintro r s₁ ⟨h₁, hstopped⟩
    cases r with
    | ok _ => exact h₁
    | error e => exact rollback_keeps (hstopped e.1 e.2 rfl) h.profile

/-- **A regeneration keeps the invariant** when it begins with the record's
generation live. -/
theorem ensureRetained_keeps {allocation : Allocation} {profile : Profile} (h : site.Inv s)
    (hprofile : allocation.request.profile = site.name)
    (hlive : ∀ record, s.record site.name = some record →
      s.image site.warm = some record.generation) :
    site.Keeps (Tart.ensureRetained site.vmPrefix allocation profile) (fun _ => site.Inv) s := by
  unfold Tart.ensureRetained
  split
  swap
  · exact h
  refine .bind (Q := fun _ => site.Inv) ?_ ?_
  · refine .bind (retentionPlan_keeps h hprofile) ?_
    rintro r s₀ ⟨⟨probe, rfl⟩, hplan⟩
    cases r with
    | error e => exact h.withProbe
    | ok plan =>
      cases plan with
      | none => exact h.withProbe
      | some plan =>
        obtain rfl := hplan plan rfl
        dsimp only
        split
        · exact h.withProbe
        · rename_i request hrequest
          simp only [Tart.retentionRequest] at hrequest
          split at hrequest
          · cases hrequest
          · split at hrequest
            · cases hrequest
            · cases hrequest
              exact retainWarm_keeps ⟨h.withProbe, hprofile, rfl, rfl, hlive⟩ rfl
  · intro outcome s' h'
    refine .bind (keeps_silent h' fun _ _ _ hexec => by cases hexec; rfl) ?_
    rintro - s'' rfl
    exact h'

/-! ## One recovery -/

section Recovery

variable {record : WarmImageRecord}

/-- The retained image fills the empty live name. -/
theorem ensureWarmRestored_keeps (h : site.Inv s) (hrecord : s.record site.name = some record)
    (hwarm : s.image site.warm = none) :
    site.Keeps (Tart.ensureWarmRestored site.vmPrefix site.profile record)
      (fun _ s' => site.Inv s' ∧ ∀ old, record.previous = some old →
        s'.image site.warm = some old.generation) s := by
  have hstaging : record.state = .staging := by
    have hagrees := h.agrees record hrecord
    cases hstate : record.state with
    | staging => rfl
    | promoted => simp [Agrees, hstate, hwarm] at hagrees
  have hretained {old : WarmGeneration} (hold : record.previous = some old) :
      old.generation ≠ record.generation ∧ s.image site.previous = some old.generation := by
    have hagrees := h.agrees record hrecord
    simp only [Agrees, hstaging] at hagrees
    exact ⟨(hagrees old hold).1, (hagrees old hold).2.1 hwarm⟩
  have hfill {g : UInt64} (hg : s.image site.previous = some g) :
      site.Inv (s.putImage ⟨site.warm, g⟩) := by
    refine h.ofImages rfl rfl fun record' hrecord' _ => ?_
    obtain rfl : record = record' := Option.some.inj (hrecord.symm.trans hrecord')
    simp only [Agrees, hstaging]
    intro old hold
    obtain ⟨hne, hprevious⟩ := hretained hold
    refine ⟨hne, fun hnone => ?_, fun g' hg' _ => ?_⟩
    · rw [image_putImage] at hnone
      cases hnone
    · rw [image_putImage] at hg'
      cases hg'
      exact Option.some.inj (hg.symm.trans hprevious)
  have hname : record.previousName = .ok site.previous := by
    rw [WarmImageRecord.previousName, h.named record hrecord]
    exact site.previous_eq
  have hnamed := h.named record hrecord
  unfold Tart.ensureWarmRestored
  rw [hname]
  generalize record.warmTemplate = warm at hnamed ⊢
  subst hnamed
  refine .bind (isAbsentImage_keeps h) ?_
  rintro b s₀ ⟨rfl, habsent, hpresent⟩
  cases b with
  | true =>
    refine ⟨h, fun old hold => ?_⟩
    rw [habsent rfl] at hretained
    cases (hretained hold).2
  | false =>
    obtain ⟨g, hg⟩ : ∃ g, s₀.image site.previous = some g :=
      Option.isSome_iff_exists.mp ((hpresent rfl).resolve_right (by simp [hwarm]))
    simp only [Bool.false_eq_true, if_false, Tart.cloneImage, TartDisk.name,
      site.writable (by simp : site.warm ∈ [site.warm, site.previous, site.staging]),
      site.writable (by simp : site.previous ∈ [site.warm, site.previous, site.staging]), ite_self]
    -- the clone is not refused, so it takes effect
    refine .perform fun a s' r hcall hexec => ?_
    have hdone : a.outcome ≠ .failed := by
      simpa [regime, hwarm] using hcall
    simp only [Tart.service, tartExec, content, hg, hwarm, hdone, if_false] at hexec
    cases hexec
    refine ⟨hfill hg, hfill hg, fun old hold => ?_⟩
    rw [image_putImage, ← hg]
    exact (hretained hold).2

/-- The record of a site belongs to its profile. -/
theorem profile_of_record (hrecord : s.record site.name = some record) :
    record.profile = site.name := Table.key_of_get hrecord

/-- **What recovery makes of the record**, when it reads the images right. -/
theorem settleRecord_keeps (h : site.Inv s) (hrecord : s.record site.name = some record)
    (hcrash : site.regime.crash s = true) :
    site.Keeps (settleRecord (Tart.port site.vmPrefix) site.profile record
      (s.image site.warm).isSome (s.image site.staging).isSome) (fun _ => site.Inv) s := by
  have hprofile := profile_of_record hrecord
  have hnamed := h.named record hrecord
  have hagrees := h.agrees record hrecord
  simp only [regime, hrecord, Option.all_some, Bool.or_eq_true, decide_eq_true_eq] at hcrash
  have hrevert {s' : TartState} (h' : site.Inv s') (hlive : ∀ old, record.previous = some old →
      s'.image site.warm = some old.generation) :
      site.Keeps (revertRecord (Tart.port site.vmPrefix) record) (fun _ => site.Inv) s' := by
    unfold revertRecord
    rw [hprofile, hnamed]
    exact ensureWarmReverted_keeps h' hlive
  unfold settleRecord
  split
  · exact h
  · split
    · -- the candidate is gone, so the live image is the candidate
      rename_i hfinal
      simp only [Bool.and_eq_true, decide_eq_true_eq, Bool.not_eq_true',
        Option.isSome_iff_exists] at hfinal
      obtain ⟨⟨⟨g, hg⟩, hstaging⟩, hgone⟩ := hfinal
      have hlive : g = record.generation := by
        simpa [hstaging, hg, hgone] using hcrash
      have h' : site.Inv (s.putRecord { record with state := .promoted }) :=
        h.putRecord hprofile hnamed (hlive ▸ hg)
      refine (keeps_save h h').mono ?_
      rintro r s' (⟨-, rfl⟩ | ⟨-, rfl⟩)
      · exact h'
      · exact h
    · split
      · -- the candidate is there, so the live image is the old one
        rename_i hnot hfinal
        simp only [Bool.and_eq_true, decide_eq_true_eq, Option.isSome_iff_exists] at hfinal
        obtain ⟨⟨g, hg⟩, hstaging⟩ := hfinal
        have hthere : (s.image site.staging).isSome = true := by
          simpa [hg, hstaging, Option.isSome_iff_ne_none] using hnot
        have hold : g ≠ record.generation := by
          simpa [hstaging, hg, hthere] using hcrash
        simp only [Agrees, hstaging] at hagrees
        refine .bind (hrevert h fun old hprevious => ?_) fun _ _ h' => h'
        rw [hg, (hagrees old hprevious).2.2 g hg hold]
      · split
        · -- no live image: the retained one takes its place
          rename_i hempty
          have hwarm : s.image site.warm = none := by simpa using hempty
          refine .bind (Q := fun _ => site.Inv) ?_ fun _ _ h' => h'
          refine .bind (ensureWarmRestored_keeps h hrecord hwarm) ?_
          rintro - s' ⟨h', hlive⟩
          exact .bind (hrevert h' hlive) fun _ _ h'' => h''
        · exact h

theorem deleteStaged_keeps (h : site.Inv s) :
    site.Keeps (deleteStaged (Tart.port site.vmPrefix) site.name site.profile record site.staging)
      (fun _ => site.Inv) s := by
  refine .bind (keeps_silent h fun _ _ _ hexec => by cases hexec; rfl) ?_
  rintro config s₀ rfl
  refine .bind (Q := fun _ => site.Inv) ?_ fun _ _ h' => h'
  simp only [Tart.port, Tart.deleteVm]
  split
  · exact h
  · refine (deleteImage_keeps h h.eraseStaging).mono ?_
    rintro r s' ⟨rfl | rfl, -⟩
    · exact h
    · exact h.eraseStaging

/-- The site's own turn in the loop over the profiles. -/
theorem reconcileProfile_keeps (running : List String) (h : site.Inv s)
    (hcrash : site.regime.crash s = true) :
    site.Keeps (reconcileProfile (Tart.port site.vmPrefix) (s.listing running)
      (site.name, site.profile)) (fun _ => site.Inv) s := by
  unfold reconcileProfile
  simp only [site.warm_eq, Option.isNone_some, Bool.false_eq_true, if_false]
  refine .bind (Q := fun r s' => s' = s ∧
    ∀ record, r = .ok record → record = s.record site.name) ?_ ?_
  · refine .perform fun a s' r _ hexec => ?_
    cases hexec
    refine ⟨h, rfl, fun record hrecord => ?_⟩
    unfold TartAnswer.stored at hrecord
    split at hrecord
    · exact (Except.ok.inj hrecord).symm
    · cases hrecord
  rintro r s₀ ⟨rfl, hload⟩
  cases r with
  | error e => exact h
  | ok loaded =>
    cases loaded with
    | none => exact h
    | some record =>
      have hrecord := (hload _ rfl).symm
      have hnamed := h.named record hrecord
      have hstaging : record.stagingName = .ok site.staging := by
        rw [WarmImageRecord.stagingName, hnamed]
        exact site.staging_eq
      have hprevious : record.previousName = .ok site.previous := by
        rw [WarmImageRecord.previousName, hnamed]
        exact site.previous_eq
      have hpresent : (Tart.warmAvailability record (s₀.listing running) = .ready ||
          Tart.warmAvailability record (s₀.listing running) = .busy) =
            (s₀.image site.warm).isSome := by
        rw [← find_listing running, Tart.warmAvailability, hnamed]
        cases (s₀.listing running).find? fun machine => machine.name = site.warm.value with
        | none => rfl
        | some machine => cases hstate : machine.state <;> simp [hstate]
      simp only [hstaging, hprevious, Tart.port, Prog.pure_eq, Prog.ret_bind, hpresent,
        any_listing]
      refine .bind (settleRecord_keeps h hrecord hcrash) fun r s₁ h₁ => ?_
      cases r with
      | error e => exact h₁
      | ok _ =>
        dsimp only
        split
        · refine .bind (deleteStaged_keeps h₁) fun _ s₂ h₂ => ?_
          split
          · refine .bind (Q := fun _ => site.Inv) ?_ fun _ _ h' => h'
            refine .bind (keeps_silent h₂ fun _ _ _ hexec => by cases hexec; rfl) ?_
            rintro - s₃ rfl
            exact h₂
          · exact h₂
        · split
          · refine .bind (Q := fun _ => site.Inv) ?_ fun _ _ h' => h'
            refine .bind (keeps_silent h₁ fun _ _ _ hexec => by cases hexec; rfl) ?_
            rintro - s₃ rfl
            exact h₁
          · exact h₁

/-- Another profile has no record, so its turn changes nothing. -/
theorem reconcileProfile_other {machines : List HostMachine} {entry : ProfileName × Profile}
    (h : site.Inv s) (hother : entry.1 ≠ site.name) :
    site.Keeps (reconcileProfile (Tart.port site.vmPrefix) machines entry)
      (fun _ s' => s' = s) s := by
  have hnone : s.record entry.1 = none := by
    refine Table.get_eq_none.mpr fun record hmem hprofile => hother ?_
    exact hprofile.symm.trans (h.sole record hmem)
  unfold reconcileProfile
  dsimp only
  split
  · rfl
  · refine .bind (Q := fun r s' => s' = s ∧ ∀ record, r = .ok record → record = none) ?_ ?_
    · refine .perform fun a s' r _ hexec => ?_
      cases hexec
      refine ⟨h, rfl, fun record hrecord => ?_⟩
      unfold TartAnswer.stored at hrecord
      split at hrecord
      · exact (Except.ok.inj hrecord).symm.trans hnone
      · cases hrecord
    rintro r s₀ ⟨rfl, hload⟩
    cases r with
    | error e => rfl
    | ok loaded =>
      obtain rfl := hload _ rfl
      rfl

/-- The loop over the profiles: the listing is that of the state until the
site's turn, and the site has one turn. -/
theorem tryEach_keeps (running : List String) (entries : List (ProfileName × Profile))
    (hunique : (entries.map (·.1)).Nodup)
    (hsite : ∀ entry ∈ entries, entry.1 = site.name → entry = (site.name, site.profile))
    (h : site.Inv s) (hcrash : site.regime.crash s = true) :
    site.Keeps
      (Prog.tryEach entries (reconcileProfile (Tart.port site.vmPrefix) (s.listing running)))
      (fun _ => site.Inv) s := by
  have hrest : ∀ (entries : List (ProfileName × Profile)) (machines : List HostMachine)
      (s' : TartState), (∀ entry ∈ entries, entry.1 ≠ site.name) → site.Inv s' →
      site.Keeps (Prog.tryEach entries (reconcileProfile (Tart.port site.vmPrefix) machines))
        (fun _ => site.Inv) s' := by
    intro entries machines
    induction entries with
    | nil => intro s' _ h'; exact h'
    | cons entry entries ih =>
      intro s' hothers h'
      refine .bind (reconcileProfile_other h' (hothers entry (by simp))) ?_
      rintro r s'' rfl
      cases r with
      | error e => exact h'
      | ok _ => exact ih s'' (fun other hother => hothers other (by simp [hother])) h'
  induction entries with
  | nil => exact h
  | cons entry entries ih =>
    simp only [List.map_cons, List.nodup_cons] at hunique
    by_cases hname : entry.1 = site.name
    · -- the site's turn; the others come after it
      obtain rfl := hsite entry (by simp) hname
      refine .bind (reconcileProfile_keeps running h hcrash) fun r s' h' => ?_
      cases r with
      | error e => exact h'
      | ok _ =>
        refine hrest entries _ s' (fun other hother hsame => hunique.1 ?_) h'
        exact List.mem_map.mpr ⟨other, hother, hsame⟩
    · refine .bind (reconcileProfile_other h hname) ?_
      rintro r s' rfl
      cases r with
      | error e => exact h
      | ok _ => exact ih hunique.2 (fun other hother => hsite other (by simp [hother]))

/-- **A recovery keeps the invariant** from a crash it reads right. -/
theorem recovery_keeps (h : site.Inv s) (hcrash : site.regime.crash s = true) :
    site.Keeps (Tart.recovery site.vmPrefix) (fun _ => site.Inv) s := by
  have hsite : ∀ entry ∈ site.config.profiles, entry.1 = site.name →
      entry = (site.name, site.profile) :=
    fun entry hentry hname => List.inj_on_of_nodup_map site.unique hentry site.declared hname
  refine .bind (Q := fun config s' => config = site.config ∧ s' = s) ?_ ?_
  · refine .perform fun a s' r _ hexec => ?_
    cases hexec
    exact ⟨h, h.config, rfl⟩
  rintro _ s₀ ⟨rfl, rfl⟩
  refine .bind (Q := fun _ => site.Inv) ?_ ?_
  · refine .bind (keeps_list h) ?_
    rintro r s₁ ⟨rfl, ⟨running, rfl⟩ | ⟨⟨e, rfl⟩, -⟩⟩
    · exact tryEach_keeps running site.config.profiles site.unique hsite h hcrash
    · exact h
  · intro r s' h'
    cases r <;> exact h'

end Recovery

/-! ## All runs -/

/-- A site before its first regeneration, or with a promoted image. -/
structure Started (site : TartSite) (s : TartState) : Prop where
  inv : site.Inv s
  promoted : ∀ record, s.record site.name = some record → record.state = .promoted

theorem recoverable (site : TartSite) :
    site.service.Recoverable site.regime site.Started site.Inv where
  init _ h := h.inv
  start k s h hstart := by
    cases k with
    | regenerate allocation profile =>
      simp only [regime, Bool.and_eq_true, decide_eq_true_eq] at hstart
      refine ensureRetained_keeps h hstart.1 fun record hrecord => ?_
      have hlive := hstart.2
      simp only [hrecord, Option.all_some, Bool.or_eq_true, decide_eq_true_eq] at hlive
      refine hlive.elim (fun hpromoted => ?_) id
      have hagrees := h.agrees record hrecord
      simpa only [Agrees, hpromoted] using hagrees
    | reload config => cases hstart
  crash s h _ := h.withProbe
  recovery s h hcrash := recovery_keeps h.withProbe hcrash

/-- **A promoted record names the generation that is live**, in every run that
meets the conditions: after every command, every crash and every recovery. -/
theorem recorded_generation_is_live (site : TartSite) {w : Process TartState TartOp TartOp.Res}
    (hw : site.service.Reachable site.regime site.Started w) {record : WarmImageRecord}
    (hrecord : w.state.record site.name = some record) (hpromoted : record.state = .promoted) :
    w.state.image site.warm = some record.generation := by
  have hagrees := (site.recoverable.inv hw).agrees record hrecord
  simpa only [Agrees, hpromoted] using hagrees

end TartSite

/-! ## Concrete runs -/

theorem emptyHost_started : sampleSite.Started emptyHost :=
  ⟨⟨rfl, by simp [emptyHost], by simp [emptyHost, record, Table.get],
    by simp [emptyHost, record, Table.get]⟩,
    by simp [emptyHost, record, Table.get]⟩

/-- What the record of the small site says. -/
def recorded (s : TartState) : Option (WarmImageState × UInt64) :=
  (s.record sampleProfileName).map fun record => (record.state, record.generation)

/-- The second regeneration crashes when its record is staged, and recovery
reverts the record to the image that is live. -/
theorem recorded_generation_is_live_reverted : ∃ w record,
    sampleSite.service.Reachable sampleSite.regime sampleSite.Started w ∧
      w.state.record sampleSite.name = some record ∧ record.state = .promoted ∧
      w.state.image sampleSite.warm = some record.generation := by
  obtain ⟨w, hw, hcheck⟩ :
      ∃ w, sampleSite.service.Reachable sampleSite.regime sampleSite.Started w ∧
        decide (recorded w.state = some (.promoted, 1)) = true :=
    Service.exists_reachable emptyHost_started
      (firstRegeneration ++ regenerated secondId :: commands 10 {} ++ .crash :: commands 8 {})
      (by decide +kernel)
  obtain ⟨record, hrecord, hfields⟩ := Option.map_eq_some_iff.mp (of_decide_eq_true hcheck)
  have hpromoted := (Prod.mk.inj hfields).1
  exact ⟨w, record, hw, hrecord, hpromoted,
    TartSite.recorded_generation_is_live sampleSite hw hrecord hpromoted⟩

/-- **Recovery records generations the live image is not.** After a crash
between the two commands of publication it reverts the record to the first
generation, and the live image is the second. After a rollback that dropped the
candidate and crashed before it reverted the record, it promotes the second
generation, and the live image is the first. -/
theorem recovery_misreads_images :
    (∃ w, sampleSite.service.Reachable .free sampleSite.Started w ∧
      recorded w.state = some (.promoted, 1) ∧ w.state.image sampleSite.warm = some 2) ∧
    ∃ w, sampleSite.service.Reachable .free sampleSite.Started w ∧
      recorded w.state = some (.promoted, 2) ∧ w.state.image sampleSite.warm = some 1 := by
  have hrun (state : WarmImageState × UInt64) (live : UInt64)
      (events : List (Occurrence TartAnswer Tart.Kind))
      (h : (sampleSite.service.replay .free ⟨emptyHost, .ret true⟩ events).any (fun w =>
        recorded w.state = some state && w.state.image sampleSite.warm = some live) = true) :
      ∃ w, sampleSite.service.Reachable .free sampleSite.Started w ∧
        recorded w.state = some state ∧ w.state.image sampleSite.warm = some live := by
    obtain ⟨w, hw, hcheck⟩ := Service.exists_reachable emptyHost_started events h
    exact ⟨w, hw, by simpa using hcheck⟩
  refine ⟨hrun (.promoted, 1) 2 (firstRegeneration ++ regenerated secondId :: commands 16 {} ++
    .crash :: commands 8 {}) (by decide +kernel), ?_⟩
  exact hrun (.promoted, 2) 1 (firstRegeneration ++ regenerated secondId :: commands 10 {} ++
    commands 1 { outcome := .failed } ++ commands 3 {} ++ .crash :: commands 5 {})
    (by decide +kernel)

end FlanForge
