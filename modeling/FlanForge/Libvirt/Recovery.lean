import FlanForge.Libvirt.Provenance

/-!
# Regenerations, crashes and recoveries on libvirt

What a regeneration as a whole and a recovery keep of `Traced`, and the
result for every run of the service.
-/

namespace FlanForge

namespace Libvirt

variable {s s' : LibvirtState} {profile : ProfileName}
variable {request : WarmRequest} {captureId : String} {α : Type} {allocation : Allocation}
variable {G : Conditions LibvirtState LibvirtOp LibvirtAnswer Kind} {verified : VolumePointer}

/-! ## When a number is enough -/

/-- A candidate's number is not the one the pointer's current entry carries, and
a regeneration begins when no candidate is recorded. -/
def numbered : Conditions LibvirtState LibvirtOp LibvirtAnswer Kind where
  call s op _ :=
    match op with
    | .save record => record.state = .promoted ||
        (s.document record.profile).all fun document =>
          document.current.generation ≠ record.generation
    | _ => true
  start s
    | .regenerate allocation _ =>
        (s.record allocation.request.profile).all fun record => record.state = .promoted
    | .reload _ => true
  crash _ := true

/-- A program keeps every record right about its document. -/
abbrev Traces (p : LibvirtProg α) (Q : α → LibvirtState → Prop) (s : LibvirtState) : Prop :=
  service.Keeps numbered Traced p Q s

/-- An operation on volumes and checkpoints, or one that reads. -/
theorem perform_traces {op : LibvirtOp} (h : Traced s)
    (hsame : ∀ a s' r, libvirtExec op a s = some (s', r) → s'.records = s.records ∧
      s'.documents = s.documents ∧ s'.captures = s.captures) :
    Traces (perform op) (fun _ => Traced) s := by
  refine .perform fun a s' r _ hexec => ?_
  obtain ⟨hrecords, hdocuments, hcaptures⟩ := hsame a s' r hexec
  have h' := h.congr hrecords hdocuments hcaptures
  exact ⟨h', h'⟩

theorem deleteVolume_traces {key : Option String} {name : String} (h : Traced s) :
    Traces (perform (.deleteVolume key name)) (fun _ => Traced) s := by
  refine perform_traces h fun a s' r hexec => ?_
  have hs' : (deleteExact a key name s).1 = s' := congrArg Prod.fst (Option.some.inj hexec)
  rw [← hs']
  rcases deleteExact_cases a key name s with heq | ⟨volume, -, heq⟩ <;> rw [heq] <;>
    exact ⟨rfl, rfl, rfl⟩

theorem removeCheckpoint_traces (h : Traced s) :
    Traces (perform (.removeCheckpoint captureId)) (fun _ => Traced) s := by
  refine perform_traces h fun a s' r hexec => ?_
  cases hexec
  rcases written_eq_or a s (s.eraseCheckpoint captureId) with heq | heq <;> rw [heq] <;>
    exact ⟨rfl, rfl, rfl⟩

/-- The record goes back to a generation that the document still has in front. -/
theorem ensureWarmReverted_traces {warm : VmName} {previous : Option WarmGeneration} (h : Traced s)
    (hprevious : ∀ old, previous = some old → ∀ document, s.document profile = some document →
      FirstBy s document.pointers old.generation old.producedBy old.baseFingerprint) :
    Traces (ensureWarmReverted port profile warm previous) (fun _ => Traced) s := by
  cases previous with
  | some old =>
    have hput : Traced (s.putRecord (revertedRecord profile warm old)) :=
      h.putRecord (trace_reverted (hprevious old rfl))
    exact ((save_keeps h fun _ _ => hput).inv h).mono fun _ _ hs' => hs'.2
  | none =>
    refine .perform fun a s' r _ hexec => ?_
    cases hexec
    rcases written_eq_or a s (s.eraseRecord profile) with heq | heq <;> rw [heq]
    · exact ⟨h, h⟩
    · exact ⟨h.eraseRecord, h.eraseRecord⟩

/-! ## One promotion -/

/-- A capture is remembered from the moment its volume is made. -/
theorem remembers_of_captured (h : Captured allocation captureId s s') :
    Remembers s s' := by
  intro name allocation' horigin
  rcases h.captures with heq | heq
  · simpa [LibvirtState.origin, heq] using horigin
  · simp only [LibvirtState.origin, Option.map_eq_some_iff] at horigin ⊢
    obtain ⟨capture, hcapture, hallocation⟩ := horigin
    refine ⟨capture, ?_, hallocation⟩
    rw [heq, Table.get, List.find?_append]
    simp only [Table.get] at hcapture
    rw [hcapture]
    rfl

/-- The origin of a new volume is the allocation it was captured from. -/
theorem origin_of_isCaptured (h : IsCaptured allocation captureId s s')
    (hfresh : s.origin (warmVolumeName captureId) = none) :
    s'.origin (warmVolumeName captureId) = some allocation := by
  simp only [LibvirtState.origin, Option.map_eq_none_iff, Table.get] at hfresh
  simp only [LibvirtState.origin, Table.get]
  rw [h, List.find?_append, hfresh]
  simp

/-- Planned as before after a write of the record. -/
theorem Planned.saved {ε : Type} {r : Except ε Unit} {now : UInt64} {record : WarmImageRecord}
    (h : Planned request s) (hsaved : IsSaved G record { s with now := now } r s') :
    Planned request s' := by
  rcases hsaved.cases with rfl | rfl <;> exact h.mono rfl fun _ _ horigin => horigin

/-- The candidate is recorded and in the pool, and the pointer is where it was. -/
structure Staged (request : WarmRequest) (verified : VolumePointer) (s : LibvirtState) : Prop
    extends Planned request s where
  generation : verified.generation = request.generation
  made : MadeBy s verified request.allocation.id request.baseFingerprint
  recorded : ∃ now, s.record request.profile = some (request.record .staging now)

/-- The candidate is what the pointer's current entry names. -/
structure Published (request : WarmRequest) (s : LibvirtState) :
    Prop extends Planned request s where
  current : ∀ document, s.document request.profile = some document →
    document.current.generation = request.generation ∧
      MadeBy s document.current request.allocation.id request.baseFingerprint

theorem Traced.withNow (h : Traced s) (now : UInt64) : Traced { s with now := now } :=
  h.congr rfl rfl rfl

/-- The candidate is recorded while the pointer does not carry its number. -/
theorem stage_traces (h : Traced s) (hplanned : Planned request s)
    (hgeneration : verified.generation = request.generation)
    (hmade : MadeBy s verified request.allocation.id request.baseFingerprint) :
    Traces (record request .staging)
      (fun r s' => Planned request s' ∧ (r = .ok () → Staged request verified s')) s := by
  refine (record_keeps h.withNow fun now a hcall => ?_).mono ?_
  · refine (h.withNow now).putRecord (Planned.staging (hplanned.mono rfl fun _ _ h => h) ?_)
    intro document hdocument hsame
    simp only [numbered, WarmRequest.record, hdocument] at hcall
    exact absurd hsame (by simpa using hcall)
  · rintro r s' ⟨now, hsaved⟩
    refine ⟨hplanned.saved hsaved, ?_⟩
    rintro rfl
    have hplanned' := hplanned.saved hsaved
    obtain rfl := hsaved.put
    exact ⟨hplanned', hgeneration, hmade, now, record_putRecord⟩

/-- The document after the pointer moved. -/
theorem Staged.published {document : PublishedWarm} (h : Staged request verified s)
    (hrepointed : Repointed request.profile verified s document) :
    Published request (s.putDocument document) := by
  refine ⟨h.toPlanned.putDocument h.generation hrepointed, fun document' hdocument' => ?_⟩
  rw [document_putDocument hrepointed.1] at hdocument'
  cases hdocument'
  rw [hrepointed.2.1]
  exact ⟨h.generation, h.made⟩

/-- The pointer moves to the candidate. -/
theorem publishCandidate_traces (h : Traced s) (hstaged : Staged request verified s) :
    Traces (publishCandidate request verified)
      (fun r s' => Planned request s' ∧ (r = .ok () → Published request s')) s := by
  refine (publishCandidate_keeps h fun document hrepointed => ?_).mono ?_
  · refine h.putDocument hrepointed.1 fun record hrecord => ?_
    obtain ⟨now, hnow⟩ := hstaged.recorded
    obtain rfl := Option.some.inj (hnow.symm.trans hrecord)
    have hpublished := hstaged.published hrepointed
    exact hpublished.toPlanned.staging fun document hdocument _ =>
      (hpublished.current document hdocument).2
  · rintro r s' (⟨rfl, hne⟩ | ⟨document, a, hrepointed, rfl, -⟩)
    · exact ⟨hstaged.toPlanned, fun hr => absurd hr hne⟩
    · have hpublished := hstaged.published hrepointed
      exact ⟨hpublished.toPlanned, fun _ => hpublished⟩

/-- The second record, with the candidate in front. -/
theorem settle_traces (h : Traced s) (hpublished : Published request s) :
    Traces (record request .promoted) (fun _ s' => Planned request s') s := by
  refine (record_keeps h.withNow fun now a _ => ?_).mono ?_
  · exact (h.withNow now).putRecord
      (Planned.promoted (hpublished.toPlanned.mono rfl fun _ _ h => h) hpublished.current)
  · rintro r s' ⟨now, hsaved⟩
    exact hpublished.toPlanned.saved hsaved

/-- The sequence keeps the invariant, and ends with what the rollback needs. -/
theorem promote_traces (h : Traced s) (hplanned : Planned request s)
    (hfresh : s.origin (warmVolumeName captureId) = none) :
    Traces (promote request captureId).run
      (fun r s' => ∀ e, r = .error e → Planned request s') s := by
  have hcapture (s' : LibvirtState) (hs' : Captured request.allocation captureId s s') :
    Traced s' :=
    h.mono hs'.records hs'.documents (remembers_of_captured hs')
  unfold promote
  refine .tryBind (captureCandidate_keeps hcapture) ?_ ?_
  swap
  · rintro e s₁ ⟨hcaptured, -⟩ _ _
    exact hplanned.mono hcaptured.documents (remembers_of_captured hcaptured)
  rintro verified s₁ ⟨hcaptured, hname, hgeneration, -, hmade⟩
  have h₁ := hcapture s₁ hcaptured
  have hplanned₁ := hplanned.mono hcaptured.documents (remembers_of_captured hcaptured)
  have hverified : MadeBy s₁ verified request.allocation.id request.baseFingerprint :=
    ⟨request.allocation, hname ▸ origin_of_isCaptured hmade hfresh, rfl, hplanned.base⟩
  refine .tryBind
    (attempt_keeps ((stage_traces h₁ hplanned₁ hgeneration hverified).inv h₁)) ?_ ?_
  swap
  · rintro e s₂ ⟨error, rfl, ⟨hplanned₂, -⟩, -⟩ _ _
    exact hplanned₂
  rintro ⟨⟩ s₂ ⟨⟨-, hstaged⟩, h₂⟩
  refine .tryBind (attempt_keeps ((publishCandidate_traces h₂ (hstaged rfl)).inv h₂)) ?_ ?_
  swap
  · rintro e s₃ ⟨error, rfl, ⟨hplanned₃, -⟩, -⟩ _ _
    exact hplanned₃
  rintro ⟨⟩ s₃ ⟨⟨-, hpublished⟩, h₃⟩
  refine .tryBind (attempt_keeps ((settle_traces h₃ (hpublished rfl)).inv h₃)) ?_ ?_
  swap
  · rintro e s₄ ⟨error, rfl, hplanned₄, -⟩ _ _
    exact hplanned₄
  rintro ⟨⟩ s₄ ⟨-, h₄⟩
  refine .tryBind (lift_keeps (removeCheckpoint_traces h₄)) ?_ ?_
  · rintro r s₅ - e he
    cases he
  · rintro e s₅ ⟨_, he, -⟩
    cases he

/-- The rollback. -/
theorem rollback_traces {stopped : Stopped} (h : Traced s) (hplanned : Planned request s) :
    Traces (rollback request captureId stopped) (fun _ => Traced) s := by
  unfold rollback
  refine .bind (Q := fun _ => Traced) ?_ fun _ s₁ h₁ => ?_
  · unfold revertStaged
    split
    · exact .bind (ensureWarmReverted_traces h hplanned.previous) fun _ _ h' => h'
    · exact h
  refine .bind (perform_traces h₁ fun _ _ _ hexec => by cases hexec; exact ⟨rfl, rfl, rfl⟩)
    fun loaded s₂ h₂ => ?_
  refine .bind (deleteVolume_traces h₂) fun r s₃ h₃ => ?_
  cases r with
  | error e => exact h₃
  | ok _ => exact .bind (removeCheckpoint_traces h₃) fun _ _ h₄ => h₄

theorem retainWarm_traces (h : Traced s) (hplanned : Planned request s) :
    Traces (retainWarm request) (fun _ => Traced) s := by
  unfold retainWarm
  refine .bind (newCaptureId_keeps h) ?_
  rintro captureId s₁ ⟨rfl, -, hfresh⟩
  refine .bind ((promote_traces h hplanned hfresh).inv h) ?_
  rintro r s₂ ⟨hstopped, h₂⟩
  cases r with
  | ok _ => exact h₂
  | error stopped =>
    refine .bind (Q := fun _ => Traced) ?_ fun _ _ h₃ => h₃
    unfold compensate
    split
    · exact h₂
    · exact rollback_traces h₂ (hstopped stopped rfl)

/-! ## One regeneration -/

/-- A plan is made on the record that is there. -/
theorem retentionPlan_traces (h : Traced s) :
    Traces (retentionPlan port allocation)
      (fun r s' => s' = s ∧ ∀ plan, r = .ok (some plan) →
        ∃ warm, plan = .after warm (s.record allocation.request.profile)) s := by
  unfold retentionPlan
  split
  · exact ⟨rfl, fun plan hr => by cases hr⟩
  refine .bind (keeps_silent h fun _ _ _ hexec => by cases hexec; rfl) ?_
  rintro config s₁ rfl
  split
  · exact ⟨rfl, fun plan hr => by cases hr⟩
  rename_i warm _
  refine .bind (Q := fun r s' => s' = s₁ ∧ ∀ loaded, r = .ok loaded →
    loaded = s₁.record allocation.request.profile) ?_ ?_
  · refine .perform fun a s' r _ hexec => ?_
    cases hexec
    exact ⟨h, rfl, fun loaded hr => (of_stored hr).2.symm⟩
  rintro r s₂ ⟨rfl, hloaded⟩
  cases r with
  | error e => exact ⟨rfl, fun plan hr => by cases hr⟩
  | ok loaded =>
    obtain rfl := hloaded loaded rfl
    refine .bind (keeps_silent h fun _ _ _ hexec => by cases hexec; rfl) ?_
    rintro r s₃ rfl
    cases r with
    | error e => exact ⟨rfl, fun plan hr => by cases hr⟩
    | ok listing =>
      dsimp only
      split <;> exact ⟨rfl, fun plan hr => by cases hr; exact ⟨warm, rfl⟩⟩

/-- What is known of the request behind a plan. -/
theorem retentionRequest_traces {profile : Profile} {warm : VmName} (h : Traced s)
    (hpromoted : ∀ record, s.record allocation.request.profile = some record →
      record.state = .promoted) :
    Traces (retentionRequest allocation profile
        (.after warm (s.record allocation.request.profile)))
      (fun r s' => s' = s ∧ ∀ request, r = .ok request → Planned request s) s := by
  unfold retentionRequest
  split
  · exact ⟨rfl, fun request hr => by cases hr⟩
  split
  · exact ⟨rfl, fun request hr => by cases hr⟩
  rename_i base hbase
  refine .bind (keeps_silent h fun _ _ _ hexec => by cases hexec; rfl) ?_
  rintro r s₁ rfl
  cases r with
  | error e => exact ⟨rfl, fun request hr => by cases hr⟩
  | ok _ =>
    cases storageBytes allocation profile with
    | none => exact ⟨rfl, fun request hr => by cases hr⟩
    | some bytes =>
      refine ⟨rfl, fun request hr => ?_⟩
      cases hr
      -- the plan falls back to the record that is there, one number lower
      refine ⟨hbase, fun old hold => ?_, fun old hold => ?_⟩ <;>
        simp only [RetentionPlan.after, Option.map_eq_some_iff] at hold <;>
        obtain ⟨record, hrecord, rfl⟩ := hold
      · simp [RetentionPlan.after, hrecord, WarmImageRecord.toGeneration]
      · have htrace := h _ record hrecord
        have hprofile := record_profile hrecord
        simpa [WarmImageRecord.toGeneration, hprofile] using
          htrace.promoted (hpromoted record hrecord)

/-- **A regeneration keeps the invariant.** -/
theorem ensureRetained_traces {profile : Profile} (h : Traced s)
    (hpromoted : ∀ record, s.record allocation.request.profile = some record →
      record.state = .promoted) :
    Traces (ensureRetained allocation profile) (fun _ => Traced) s := by
  unfold ensureRetained
  split
  swap
  · exact h
  refine .bind (Q := fun _ => Traced) ?_ fun outcome s' h' => ?_
  · unfold retain
    refine .bind (retentionPlan_traces h) ?_
    rintro r s₁ ⟨rfl, hplan⟩
    cases r with
    | error e => exact h
    | ok plan =>
      cases plan with
      | none => exact h
      | some plan =>
        obtain ⟨warm, rfl⟩ := hplan plan rfl
        refine .bind (retentionRequest_traces h hpromoted) ?_
        rintro r s₂ ⟨rfl, hrequest⟩
        cases r with
        | error refusal => cases refusal <;> exact h
        | ok request => exact retainWarm_traces h (hrequest request rfl)
  · exact .bind (keeps_silent h' fun _ _ _ hexec => by cases hexec; rfl)
      fun _ _ hs => hs ▸ h'

/-! ## One recovery -/

theorem ensureWarmRecovered_traces (h : Traced s) :
    Traces ensureWarmRecovered (fun _ => Traced) s := by
  have hread {op : LibvirtOp} {s : LibvirtState} (h : Traced s)
      (hsilent : ∀ a s' r, libvirtExec op a s = some (s', r) → s' = s) :
      Traces (perform op) (fun _ => Traced) s :=
    (keeps_silent h hsilent).mono fun _ _ hs => hs ▸ h
  unfold ensureWarmRecovered
  refine .bind (hread h fun _ _ _ hexec => by cases hexec; rfl) fun r s₁ h₁ => ?_
  cases r with
  | error e => exact h₁
  | ok documents =>
    refine .bind (hread h₁ fun _ _ _ hexec => by cases hexec; rfl) fun r s₂ h₂ => ?_
    cases r with
    | error e => exact h₂
    | ok captureIds =>
      refine .tryEach h₂ fun captureId s₃ h₃ => ?_
      unfold reconcileCapture
      refine .bind (hread h₃ fun _ _ _ hexec => by cases hexec; rfl) fun r s₄ h₄ => ?_
      cases r with
      | error e => exact h₄
      | ok loaded =>
        cases loaded with
        | none => exact h₄
        | some checkpoint =>
          refine .bind (Q := fun _ => Traced) ?_ fun r s₅ h₅ => ?_
          · unfold deleteUnpublished
            split
            · exact h₄
            · exact deleteVolume_traces h₄
          · cases r with
            | error e => exact h₅
            | ok _ => exact removeCheckpoint_traces h₅

/-- An image is only found where the pointer carries the record's number. -/
theorem warmPointerAvailability_keeps {record : WarmImageRecord} {I : LibvirtState → Prop} (h : I s)
    :
    service.Keeps G I (warmPointerAvailability record)
      (fun r s' => s' = s ∧ ∀ availability, r = .ok availability → availability ≠ .absent →
        ∃ document, s.document record.profile = some document ∧
          document.current.generation = record.generation) s := by
  unfold warmPointerAvailability
  refine .bind (loadPointer_keeps h) ?_
  rintro r s₁ ⟨rfl, hloaded⟩
  cases r with
  | error e => exact ⟨rfl, fun _ hr => by cases hr⟩
  | ok loaded =>
    obtain rfl := hloaded loaded rfl
    cases hdocument : s₁.document record.profile with
    | none => exact ⟨rfl, fun _ hr hne => by cases hr; exact absurd rfl hne⟩
    | some document =>
      dsimp only
      split
      · exact ⟨rfl, fun _ hr hne => by cases hr; exact absurd rfl hne⟩
      · rename_i hagrees
        simp only [ne_eq, decide_not, Bool.or_eq_true, Bool.not_eq_true', decide_eq_false_iff_not,
          not_or, not_not] at hagrees
        refine .bind (keeps_silent h fun _ _ _ hexec => by cases hexec; rfl) ?_
        rintro r s₂ rfl
        cases r <;>
          exact ⟨rfl, fun _ _ _ => ⟨document, rfl, document.generation_eq.trans hagrees.1⟩⟩

section Settle

variable {record : WarmImageRecord} {profile' : Profile}

theorem revertRecord_traces (h : Traced s) (hrecord : Trace s record) :
    Traces (revertRecord port record) (fun _ => Traced) s :=
  ensureWarmReverted_traces h hrecord.previous

/-- The surviving generation is put back in front. -/
theorem ensurePointerRestored_traces (h : Traced s) (hrecord : s.record profile = some record) :
    Traces (ensurePointerRestored record)
      (fun _ s' => Trace s' record) s := by
  have htrace := h profile record hrecord
  unfold ensurePointerRestored
  refine .bind (loadPointer_keeps h) ?_
  rintro r s₁ ⟨rfl, hloaded⟩
  cases r with
  | error e => exact htrace
  | ok loaded =>
    obtain rfl := hloaded loaded rfl
    cases hdocument : s₁.document record.profile with
    | none => exact htrace
    | some document =>
      cases hold : record.previous with
      | none => exact htrace
      | some old =>
        dsimp only
        split
        · exact htrace
        · rename_i hcurrent
          split
          · exact htrace
          · rename_i restored hrestored
            have htrace' := htrace.restored hdocument hold hcurrent hrestored
            have hprofile : restored.profile = profile.value := by
              rw [(PublishedWarm.restored_spec hrestored).1, ← record_profile hrecord]
              exact document_profile hdocument
            have hput : Traced (s₁.putDocument restored) := by
              refine h.putDocument hprofile fun other hother => ?_
              obtain rfl := Option.some.inj (hrecord.symm.trans hother)
              exact htrace'
            refine .perform fun a s' r _ hexec => ?_
            cases hexec
            rcases written_eq_or a s₁ (s₁.putDocument restored) with heq | heq <;> rw [heq]
            · exact ⟨h, htrace⟩
            · exact ⟨hput, htrace'⟩

/-- A candidate the pointer already carries becomes the promoted image. -/
theorem finalizeRecord_traces (h : Traced s) (hrecord : Trace s record)
    (hstate : record.state = .staging)
    (hpresent : ∃ document, s.document record.profile = some document ∧
      document.current.generation = record.generation) :
    Traces (finalizeRecord port record) (fun _ => Traced) s := by
  obtain ⟨document, hdocument, hgeneration⟩ := hpresent
  have hfinal : Trace s { record with state := .promoted } := by
    refine ⟨hrecord.distinct, fun _ document' hdocument' => ?_, (fun hstate => by cases hstate),
      hrecord.previous⟩
    obtain rfl := Option.some.inj (hdocument.symm.trans hdocument')
    exact firstBy_cons (hrecord.staging hstate document hdocument hgeneration) hgeneration
  exact ((save_keeps h fun _ _ => h.putRecord hfinal).inv h).mono fun _ _ hs' => hs'.2

theorem settleRecord_traces {warmPresent stagingPresent : Bool} (h : Traced s)
    (hrecord : s.record profile = some record)
    (hpresent : warmPresent = true → ∃ document, s.document record.profile = some document ∧
      document.current.generation = record.generation) :
    Traces (settleRecord port profile' record warmPresent stagingPresent) (fun _ => Traced) s := by
  have htrace := h profile record hrecord
  unfold settleRecord
  split
  · exact h
  · split
    · rename_i hfinal
      simp only [Bool.and_eq_true, decide_eq_true_eq] at hfinal
      exact finalizeRecord_traces h htrace hfinal.1.2 (hpresent hfinal.1.1)
    · split
      · exact .bind (revertRecord_traces h htrace) fun _ _ h' => h'
      · split
        · refine .bind (Q := fun _ => Traced) ?_ fun _ _ h' => h'
          unfold restoreWarm
          refine .bind ((ensurePointerRestored_traces h hrecord).inv h) ?_
          rintro r s₁ ⟨htrace₁, h₁⟩
          exact .bind (revertRecord_traces h₁ htrace₁) fun _ _ h₂ => h₂
        · exact h

/-- What is done beside the record. -/
theorem deleteStaged_traces {name : ProfileName} {staging : VmName} (h : Traced s) :
    Traces (deleteStaged port name profile' record staging) (fun _ => Traced) s := by
  unfold deleteStaged
  refine .bind (keeps_silent h fun _ _ _ hexec => by cases hexec; rfl) ?_
  rintro config s₁ rfl
  refine .bind (Q := fun _ => Traced) ?_ fun _ _ h' => h'
  simp only [port, deleteVm]
  split <;> exact h

theorem markRetentionInterrupted_traces (h : Traced s) :
    Traces (markRetentionInterrupted port record) (fun _ => Traced) s :=
  .bind (keeps_silent h fun _ _ _ hexec => by cases hexec; rfl) fun _ _ hs => hs ▸ h

end Settle

theorem reconcileProfile_traces {machines : List HostMachine} {entry : ProfileName × Profile}
    (h : Traced s) : Traces (reconcileProfile port machines entry) (fun _ => Traced) s := by
  unfold reconcileProfile
  dsimp only
  split
  · exact h
  refine .bind (Q := fun r s' => s' = s ∧ ∀ loaded, r = .ok loaded →
    loaded = s.record entry.1) ?_ ?_
  · refine .perform fun a s' r _ hexec => ?_
    cases hexec
    exact ⟨h, rfl, fun loaded hr => (of_stored hr).2.symm⟩
  rintro r s₁ ⟨rfl, hloaded⟩
  cases r with
  | error e => exact h
  | ok loaded =>
    cases loaded with
    | none => exact h
    | some record =>
      have hrecord := (hloaded _ rfl).symm
      dsimp only
      split
      swap
      · exact h
      refine .bind (warmPointerAvailability_keeps h) ?_
      rintro r s₂ ⟨rfl, hpresent⟩
      cases r with
      | error e => exact h
      | ok availability =>
        unfold reconcile
        refine .bind (settleRecord_traces h hrecord fun hwarm => ?_) fun r s₃ h₃ => ?_
        · refine hpresent availability rfl ?_
          rintro rfl
          cases hwarm
        · cases r with
          | error e => exact h₃
          | ok _ =>
            have hmark {s : LibvirtState} (h : Traced s) : Traces
                (if record.state = .staging then do
                  markRetentionInterrupted port record
                  return (.ok () : Except ManagerError Unit)
                else return .ok ()) (fun _ => Traced) s := by
              split
              · exact .bind (markRetentionInterrupted_traces h) fun _ _ h' => h'
              · exact h
            dsimp only
            split
            · exact .bind (deleteStaged_traces h₃) fun _ _ h₄ => hmark h₄
            · exact hmark h₃

/-- **A recovery keeps the invariant**, also when it is cut short. -/
theorem recovery_traces (h : Traced s) : Traces recovery (fun _ => Traced) s := by
  unfold recovery
  refine .bind (keeps_silent h fun _ _ _ hexec => by cases hexec; rfl) ?_
  rintro config s₁ rfl
  refine .bind (ensureWarmRecovered_traces h) fun _ s₂ h₂ => ?_
  refine .bind (Q := fun _ => Traced) ?_ fun r s₃ h₃ => ?_
  · unfold ensureWarmConsistent
    refine .bind (keeps_silent h₂ fun _ _ _ hexec => by cases hexec; rfl) ?_
    rintro r s₃ rfl
    cases r with
    | error e => exact h₂
    | ok machines => exact .tryEach h₂ fun _ _ h' => reconcileProfile_traces h'
  · cases r <;> exact h₃

/-! ## All runs -/

/-- No warm image has been recorded yet; what lies in the pool and in the pointer
documents is arbitrary. -/
def Unrecorded (s : LibvirtState) : Prop := s.records = []

theorem recoverable : Service.Recoverable service numbered Unrecorded Traced where
  init s hs profile record hrecord := by
    have hmem := Table.mem_of_get hrecord
    rw [show s.records = [] from hs] at hmem
    cases hmem
  start k s h hstart := by
    cases k with
    | regenerate allocation profile =>
      refine ensureRetained_traces h fun record hrecord => ?_
      simpa [numbered, hrecord] using hstart
    | reload config =>
      exact perform_traces h fun a s' r hexec => by cases hexec; exact ⟨rfl, rfl, rfl⟩
  crash s h _ := h
  recovery s h _ := recovery_traces h

/-- **No silent stale image.** In every run that keeps the numbers apart, with
crashes anywhere, whenever a profile's image may be booted, its current volume
was captured by the allocation the record names, from the base the record
names. -/
theorem bootable_image_is_recorded {w : Process LibvirtState LibvirtOp LibvirtOp.Res}
    (hw : service.Reachable numbered Unrecorded w) {record : WarmImageRecord}
    (hrecord : w.state.record profile = some record) (hpromoted : record.state = .promoted)
    (hready : service.Ends .free (warmPointerAvailability record) w.state (.ok .ready) s') :
    ∃ document, w.state.document profile = some document ∧
      MadeBy w.state document.current record.producedBy record.baseFingerprint := by
  have htraced := recoverable.inv hw profile record hrecord
  have havailability : service.Keeps .free (fun _ => True) (warmPointerAvailability record) _
    w.state :=
    warmPointerAvailability_keeps trivial
  obtain ⟨-, hpresent⟩ := havailability.ends hready
  obtain ⟨document, hdocument, hgeneration⟩ := hpresent .ready rfl (by decide)
  refine ⟨document, record_profile hrecord ▸ hdocument, ?_⟩
  refine htraced.promoted hpromoted document hdocument document.current ?_
  unfold WarmDocument.pointers
  rw [List.find?_cons_of_pos (by simpa using hgeneration)]

/-! ## Two runs -/

/-- A pool with nothing in it. -/
def emptyPool : LibvirtState where
  config := warmConfig
  pool := "pool"
  volumes := []
  documents := []
  checkpoints := []
  records := []
  bases := []
  now := 0
  captures := []

/-- The availability check finds the image. -/
def isReady (s : LibvirtState) (record : WarmImageRecord) : Bool :=
  match service.perform .free (warmPointerAvailability record) s (fine 2) with
  | some (.ok .ready, _) => true
  | _ => false

theorem ends_of_isReady {record : WarmImageRecord} (h : isReady s record = true) :
    ∃ s', service.Ends .free (warmPointerAvailability record) s (.ok .ready) s' := by
  unfold isReady at h
  split at h
  · exact ⟨_, Service.ends_of_perform ‹_›⟩
  · cases h

/-- Calls that go well, in a run. -/
def runs (answers : List LibvirtAnswer) : List (Occurrence LibvirtAnswer Kind) := answers.map .run

/-- The answers to a regeneration up to its candidate, under a new identity. -/
def candidateAnswers (captureId : String) : List LibvirtAnswer :=
  fine 4 ++ { captureId := captureId } :: fine 8 ++
    { key := "/pool/" ++ captureId, now := 5000 } :: fine 2

/-- The first regeneration, in which everything goes well. -/
def firstPromotion : List (Occurrence LibvirtAnswer Kind) :=
  .start (.regenerate (sampleRegeneration firstId) warmProfile) ::
    runs (candidateAnswers "c1" ++ fine 9)

/-- An image that may be booted, and who made it. -/
theorem bootable_image_is_recorded_first : ∃ w, service.Reachable numbered Unrecorded w ∧
    ∃ record document, w.state.record sampleProfileName = some record ∧ record.state = .promoted ∧
      w.state.document sampleProfileName = some document ∧
      MadeBy w.state document.current record.producedBy record.baseFingerprint := by
  obtain ⟨w, hw, hcheck⟩ : ∃ w, service.Reachable numbered Unrecorded w ∧
      ((w.state.record sampleProfileName).any fun record =>
        decide (record.state = .promoted) && isReady w.state record) = true :=
    Service.exists_reachable (show Unrecorded emptyPool from rfl) firstPromotion (by decide +kernel)
  obtain ⟨record, hrecord, hboth⟩ := (Option.any_eq_true _ _).mp hcheck
  obtain ⟨hpromoted, hready⟩ := Bool.and_eq_true_iff.mp hboth
  obtain ⟨s', hends⟩ := ends_of_isReady hready
  obtain ⟨document, hdocument, hmade⟩ :=
    bootable_image_is_recorded hw hrecord (of_decide_eq_true hpromoted) hends
  exact ⟨w, hw, record, document, hrecord, of_decide_eq_true hpromoted, hdocument, hmade⟩

/-- A regeneration of a guest that was built from a newer base. -/
def rebasedRegeneration : Allocation :=
  { sampleRegeneration secondId with
    source := some ⟨sampleProfile.template, .template, some ⟨"bb"⟩, none⟩ }

/-- The first regeneration moves the pointer, cannot write its second record,
removes the first and cannot delete the volume. The second records its
candidate under the same number and is cut short. Then the process starts
again. -/
def staleRun : List (Occurrence LibvirtAnswer Kind) :=
  .start (.regenerate (sampleRegeneration firstId) warmProfile) ::
    runs (candidateAnswers "c1" ++ fine 6 ++ { outcome := .failed } :: fine 2 ++
      { outcome := .failed } :: fine 1) ++
  .start (.regenerate rebasedRegeneration warmProfile) :: runs (candidateAnswers "c2" ++ fine 2) ++
  .crash :: runs (fine 14)

/-- **Recovery finalizes a record over another allocation's image.** The record
is `promoted`, the image may be booted, and it was captured by an allocation
other than the one the record names, from another base. -/
theorem recovery_finalizes_stale : ∃ w, service.Reachable .free Unrecorded w ∧
    ∃ record document allocation s', w.state.record sampleProfileName = some record ∧
      record.state = .promoted ∧
      service.Ends .free (warmPointerAvailability record) w.state (.ok .ready) s' ∧
      w.state.document sampleProfileName = some document ∧
      w.state.origin document.current.volumeName = some allocation ∧
      allocation.id ≠ record.producedBy ∧
      allocation.source.bind (·.baseFingerprint) ≠ some record.baseFingerprint := by
  obtain ⟨w, hw, hcheck⟩ : ∃ w, service.Reachable .free Unrecorded w ∧
      ((w.state.record sampleProfileName).any fun record =>
        (decide (record.state = .promoted) && isReady w.state record) &&
          (w.state.document sampleProfileName).any fun document =>
            (w.state.origin document.current.volumeName).any fun allocation =>
              decide (allocation.id ≠ record.producedBy ∧
                allocation.source.bind (·.baseFingerprint) ≠ some record.baseFingerprint)) = true :=
    Service.exists_reachable (show Unrecorded emptyPool from rfl) staleRun (by decide +kernel)
  obtain ⟨record, hrecord, hboth⟩ := (Option.any_eq_true _ _).mp hcheck
  obtain ⟨hbootable, hstale⟩ := Bool.and_eq_true_iff.mp hboth
  obtain ⟨hpromoted, hready⟩ := Bool.and_eq_true_iff.mp hbootable
  obtain ⟨s', hends⟩ := ends_of_isReady hready
  obtain ⟨document, hdocument, hcaptured⟩ := (Option.any_eq_true _ _).mp hstale
  obtain ⟨allocation, horigin, hother⟩ := (Option.any_eq_true _ _).mp hcaptured
  exact ⟨w, hw, record, document, allocation, s', hrecord, of_decide_eq_true hpromoted, hends,
    hdocument, horigin, of_decide_eq_true hother⟩

end Libvirt

end FlanForge
