import FlanForge.Libvirt.Capture

/-!
# What the steps of a promotion do

One lemma for each part of a promotion, under any conditions and for any
invariant: which part of the state it can change, and what is known when it
ends well. Up to the candidate that was read back only the candidate's own
volume and checkpoint change (`Captured`); the record, the pointer and every
other volume are as before.
-/

namespace FlanForge

namespace Libvirt

variable {G : Conditions LibvirtState LibvirtOp LibvirtAnswer Kind} {I : LibvirtState → Prop}
variable {s s' : LibvirtState} {α β : Type} {a : LibvirtAnswer} {profile : ProfileName}
variable {step : LibvirtProg (Except WorkerError α)} {phase : RetentionPhase}
variable {result : RetentionResult}

/-! ## One operation -/

/-- A call that is reported as done. -/
theorem of_reported {value result : α} (h : a.reported value = .ok result) :
    a.outcome = .done ∧ value = result := by
  unfold LibvirtAnswer.reported at h
  split at h
  · exact ⟨‹_›, Except.ok.inj h⟩
  · cases h

theorem of_stored {value result : α} (h : a.stored value = .ok result) :
    a.outcome = .done ∧ value = result := by
  unfold LibvirtAnswer.stored at h
  split at h
  · exact ⟨‹_›, Except.ok.inj h⟩
  · cases h

/-- A write took effect or not. -/
theorem written_eq_or (a : LibvirtAnswer) (before after : LibvirtState) :
    a.written before after = before ∨ a.written before after = after := by
  unfold LibvirtAnswer.written
  split
  · exact .inl rfl
  · exact .inr rfl

/-- A write that is reported as done took effect. -/
theorem written_of_done (h : a.outcome = .done) (before after : LibvirtState) :
    a.written before after = after := by
  simp [LibvirtAnswer.written, h]

/-- An operation that leaves the state alone. -/
theorem keeps_silent {op : LibvirtOp} (h : I s)
    (hsilent : ∀ a s' r, libvirtExec op a s = some (s', r) → s' = s) :
    service.Keeps G I (perform op) (fun _ s' => s' = s) s := by
  refine .perform fun a s' r _ hexec => ?_
  obtain rfl := hsilent a s' r hexec
  exact ⟨h, rfl⟩

/-- The pointer document as it is. -/
theorem loadPointer_keeps (h : I s) :
    service.Keeps G I (perform (.loadPointer profile))
      (fun r s' => s' = s ∧ ∀ loaded, r = .ok loaded → loaded = s.document profile) s := by
  refine .perform fun a s' r _ hexec => ?_
  cases hexec
  exact ⟨h, rfl, fun loaded hr => (of_reported hr).2.symm⟩

/-! ## Steps that stop the sequence -/

/-- A step, with its error turned into where the sequence stopped. -/
theorem attempt_keeps {stopped : WorkerError → Stopped}
    {Q : Except WorkerError α → LibvirtState → Prop} (h : service.Keeps G I step Q s) :
    service.Keeps G I (attempt stopped step).run
      (fun r s' => match r with
        | .ok a => Q (.ok a) s'
        | .error e => ∃ error, e = stopped error ∧ Q (.error error) s') s := by
  refine .bind h fun r s' hr => ?_
  cases r with
  | ok a => exact hr
  | error e => exact ⟨e, rfl, hr⟩

/-- A step whose failure does not stop the sequence. -/
theorem lift_keeps {step : LibvirtProg α} {Q : α → LibvirtState → Prop}
    (h : service.Keeps G I step Q s) :
    service.Keeps G I (ExceptT.lift step : Promotion α).run
      (fun r s' => ∃ a, r = .ok a ∧ Q a s') s :=
  .bind h fun a _ ha => ⟨a, rfl, ha⟩

/-- Nothing happened, and a failure leaves the record alone. -/
def Quiet (s : LibvirtState) (r : Except Stopped α) (s' : LibvirtState) : Prop :=
  s' = s ∧ ∀ e, r = .error e → e.isRecordStaged = false

theorem quiet_attempt (hstep : service.Keeps G I step (fun _ s' => s' = s) s) :
    service.Keeps G I (attempt (stop phase result) step).run (Quiet s) s := by
  refine (attempt_keeps hstep).mono fun r s' hr => ?_
  cases r with
  | ok a => exact ⟨hr, fun e he => by cases he⟩
  | error e =>
    obtain ⟨error, rfl, rfl⟩ := hr
    exact ⟨rfl, fun e he => by cases he; rfl⟩

theorem quiet_remaining (h : I s) : service.Keeps G I remaining.run (Quiet s) s := by
  refine .bind (keeps_silent h fun _ _ _ hexec => by cases hexec; rfl) ?_
  rintro isLeft s' rfl
  cases isLeft with
  | true => exact ⟨rfl, fun e he => by cases he⟩
  | false => exact ⟨rfl, fun e he => by cases he; rfl⟩

theorem quiet_headroom {published : Option PublishedWarm} :
    service.Keeps G I (ExceptT.run (liftM (ensureRetirementHeadroom published) : Promotion Unit))
      (Quiet s) s := by
  unfold ensureRetirementHeadroom
  dsimp only
  split
  · exact ⟨rfl, fun e he => by cases he⟩
  · exact ⟨rfl, fun e he => by cases he; rfl⟩

/-- What follows a quiet step begins where the step began. -/
theorem quiet_bind {x : Promotion α} {f : α → Promotion β}
    {R : Except Stopped β → LibvirtState → Prop} (hx : service.Keeps G I x.run (Quiet s) s)
    (herror : ∀ e : Stopped, e.isRecordStaged = false → R (.error e) s)
    (hf : ∀ a, service.Keeps G I (f a).run R s) : service.Keeps G I (x >>= f).run R s := by
  refine .tryBind hx ?_ ?_
  · rintro a s' ⟨rfl, -⟩
    exact hf a
  · rintro e s' ⟨rfl, he⟩
    exact herror e (he e rfl)

/-! ## The candidate -/

/-- At most the candidate's own volume and checkpoint are new. -/
structure Captured (allocation : Allocation) (captureId : String) (s s' : LibvirtState) : Prop where
  config : s'.config = s.config
  documents : s'.documents = s.documents
  records : s'.records = s.records
  volumes : s.volumes ⊆ s'.volumes
  captures : s'.captures = s.captures ∨
    s'.captures = s.captures ++ [⟨warmVolumeName captureId, allocation⟩]

variable {allocation : Allocation} {captureId : String} {request : WarmRequest}
variable {document : PublishedWarm} {verified : VolumePointer}

theorem Captured.refl : Captured allocation captureId s s :=
  ⟨rfl, rfl, rfl, fun _ h => h, .inl rfl⟩

/-- The capture was made, and its volume is a copy of the allocation's overlay. -/
def IsCaptured (allocation : Allocation) (captureId : String) (s s' : LibvirtState) : Prop :=
  s'.captures = s.captures ++ [⟨warmVolumeName captureId, allocation⟩]

theorem captureVolume_spec (a : LibvirtAnswer) (request : WarmCaptureRequest) (s : LibvirtState) :
    Captured request.allocation request.captureId s (captureVolume a request s).1 ∧
      ∀ pointer, (captureVolume a request s).2 = .ok pointer →
        IsCaptured request.allocation request.captureId s (captureVolume a request s).1 := by
  unfold captureVolume
  dsimp only
  split
  · exact ⟨.refl, fun _ h => by cases h⟩
  · split
    · exact ⟨⟨rfl, rfl, rfl, fun _ h => h, .inl rfl⟩, fun _ h => by cases h⟩
    · split
      · exact ⟨.refl, fun _ h => by cases h⟩
      · exact ⟨⟨rfl, rfl, rfl, fun _ h => h, .inl rfl⟩, fun _ h => by cases h⟩
      · exact ⟨⟨rfl, rfl, rfl, fun _ h => List.mem_cons_of_mem _ h, .inr rfl⟩,
          fun _ h => by cases h⟩
      · exact ⟨⟨rfl, rfl, rfl, fun _ h => h, .inl rfl⟩, fun _ h => by cases h⟩
      · exact ⟨⟨rfl, rfl, rfl, fun _ h => List.mem_cons_of_mem _ h, .inr rfl⟩,
          fun _ h => by cases h⟩
      · exact ⟨⟨rfl, rfl, rfl, fun _ h => List.mem_cons_of_mem _ h, .inr rfl⟩, fun _ _ => rfl⟩

/-- A volume of the pool that a pointer names. -/
def Resolves (s : LibvirtState) (pointer : VolumePointer) : Prop :=
  ∃ volume ∈ s.volumes, volume.name = pointer.volumeName ∧ volume.key = pointer.volumeKey

theorem checkPointer_eq {pointer checked : VolumePointer} (h : checkPointer pointer = .ok checked) :
    checked = pointer := by
  unfold checkPointer at h
  split at h <;> cases h
  rfl

/-- What was read back is there. -/
theorem verifyVolume_spec {request : WarmVerifyRequest} {pointer : VolumePointer}
    (h : verifyVolume a request s = .ok pointer) :
    pointer.volumeName = warmVolumeName request.captureId ∧
      pointer.generation = request.generation ∧ Resolves s pointer := by
  unfold verifyVolume at h
  dsimp only at h
  split at h
  · cases h
  · split at h
    · cases h
    · split at h
      · cases h
      · rename_i key _
        split at h
        · rename_i hvolume
          split at h
          · obtain rfl := checkPointer_eq h
            obtain ⟨volume, hfound, hkey⟩ := (Option.any_eq_true _ _).mp hvolume
            simp only [Bool.and_eq_true, decide_eq_true_eq] at hkey
            exact ⟨rfl, rfl, volume, List.mem_of_find?_eq_some hfound,
              by simpa using List.find?_some hfound, hkey.1⟩
          · cases h
        · cases h

/-- How the sequence up to the candidate ends: before the record, or with a
volume that was made from the allocation's overlay and is in the pool, under a
new name and with the generation of the request. -/
def IsCandidate (request : WarmRequest) (captureId : String) (s : LibvirtState)
    (r : Except Stopped VolumePointer) (s' : LibvirtState) : Prop :=
  Captured request.allocation captureId s s' ∧
    match r with
    | .error e => e.isRecordStaged = false
    | .ok pointer => pointer.volumeName = warmVolumeName captureId ∧
        pointer.generation = request.generation ∧ Resolves s' pointer ∧
        IsCaptured request.allocation captureId s s'

/-- The volume is made. -/
theorem warmCapture_keeps {request : WarmCaptureRequest}
    (hI : ∀ s', Captured request.allocation request.captureId s s' → I s') :
    service.Keeps G I (attempt (stop phase result) (perform (.warmCapture request))).run
      (fun r s' => Captured request.allocation request.captureId s s' ∧
        match r with
        | .error e => e.isRecordStaged = false
        | .ok _ => IsCaptured request.allocation request.captureId s s') s := by
  have hstep : service.Keeps G I (perform (.warmCapture request)) (fun r s' =>
      Captured request.allocation request.captureId s s' ∧ ∀ pointer, r = .ok pointer →
        IsCaptured request.allocation request.captureId s s') s := by
    refine .perform fun a s' r _ hexec => ?_
    have hout : captureVolume a request s = (s', r) := Option.some.inj hexec
    obtain ⟨hcaptured, hok⟩ := captureVolume_spec a request s
    rw [hout] at hcaptured hok
    exact ⟨hI s' hcaptured, hcaptured, hok⟩
  refine (attempt_keeps hstep).mono fun r s' hr => ?_
  cases r with
  | ok pointer => exact ⟨hr.1, hr.2 pointer rfl⟩
  | error e =>
    obtain ⟨error, rfl, hcaptured, -⟩ := hr
    exact ⟨hcaptured, rfl⟩

/-- The volume is read back. -/
theorem warmVerify_keeps {request : WarmVerifyRequest} (h : I s) :
    service.Keeps G I (attempt (stop phase result) (perform (.warmVerify request))).run
      (fun r s' => s' = s ∧ match r with
        | .error e => e.isRecordStaged = false
        | .ok pointer => pointer.volumeName = warmVolumeName request.captureId ∧
            pointer.generation = request.generation ∧ Resolves s' pointer) s := by
  have hstep : service.Keeps G I (perform (.warmVerify request)) (fun r s' => s' = s ∧
      ∀ pointer, r = .ok pointer → pointer.volumeName = warmVolumeName request.captureId ∧
        pointer.generation = request.generation ∧ Resolves s' pointer) s := by
    refine .perform fun a s' r _ hexec => ?_
    cases hexec
    exact ⟨h, rfl, fun pointer hr => verifyVolume_spec hr⟩
  refine (attempt_keeps hstep).mono fun r s' hr => ?_
  cases r with
  | ok pointer => exact ⟨hr.1, hr.2 pointer rfl⟩
  | error e =>
    obtain ⟨error, rfl, hs', -⟩ := hr
    exact ⟨hs', rfl⟩

/-- **The sequence up to the candidate.** -/
theorem captureCandidate_keeps (hI : ∀ s', Captured request.allocation captureId s s' → I s') :
    service.Keeps G I (captureCandidate request captureId).run
      (IsCandidate request captureId s) s := by
  have h : I s := hI s .refl
  have hstop (e : Stopped) (he : e.isRecordStaged = false) :
      IsCandidate request captureId s (.error e) s := ⟨.refl, he⟩
  unfold captureCandidate
  -- the gates before the capture
  refine quiet_bind (quiet_attempt (keeps_silent h fun _ _ _ hexec => by cases hexec; rfl)) hstop
    fun published => ?_
  refine quiet_bind quiet_headroom hstop fun _ => ?_
  refine quiet_bind (quiet_remaining h) hstop fun _ => ?_
  refine quiet_bind (quiet_attempt (keeps_silent h fun _ _ _ hexec => by cases hexec; rfl)) hstop
    fun _ => ?_
  refine quiet_bind (quiet_remaining h) hstop fun _ => ?_
  refine quiet_bind (quiet_attempt (keeps_silent h fun _ _ _ hexec => by cases hexec; rfl)) hstop
    fun _ => ?_
  refine quiet_bind (quiet_remaining h) hstop fun _ => ?_
  refine quiet_bind (quiet_attempt (keeps_silent h fun _ _ _ hexec => by cases hexec; rfl)) hstop
    fun _ => ?_
  refine quiet_bind (quiet_remaining h) hstop fun _ => ?_
  refine .tryBind (warmCapture_keeps hI) ?_ fun e s' hr => hr
  rintro staged s₁ ⟨hcaptured, hmade⟩
  refine quiet_bind (quiet_remaining (hI s₁ hcaptured)) (fun e he => ⟨hcaptured, he⟩) fun _ => ?_
  refine (warmVerify_keeps (hI s₁ hcaptured)).mono ?_
  rintro r s₂ ⟨rfl, hr⟩
  cases r with
  | error e => exact ⟨hcaptured, hr⟩
  | ok pointer => exact ⟨hcaptured, hr.1, hr.2.1, hr.2.2, hmade⟩

/-! ## The record and the pointer -/

/-- A fresh identity names no volume and no capture. -/
theorem newCaptureId_keeps (h : I s) :
    service.Keeps G I (perform .newCaptureId)
      (fun captureId s' => s' = s ∧ (∀ volume ∈ s.volumes, volume.name ≠ warmVolumeName captureId) ∧
        s.origin (warmVolumeName captureId) = none) s := by
  refine .perform fun a s' r _ hexec => ?_
  simp only [service, libvirtExec] at hexec
  split at hexec
  · rename_i hfresh
    cases hexec
    simp only [LibvirtState.isFresh, Bool.and_eq_true, Option.isNone_iff_eq_none] at hfresh
    refine ⟨h, rfl, fun volume hvolume hname => ?_, hfresh.2⟩
    exact List.find?_eq_none.mp hfresh.1.1 volume hvolume (by simpa using hname)
  · cases hexec

/-- How the write of a record ends. -/
def IsSaved {ε : Type} (G : Conditions LibvirtState LibvirtOp LibvirtAnswer Kind)
    (record : WarmImageRecord) (s : LibvirtState) (r : Except ε Unit) (s' : LibvirtState) : Prop :=
  ∃ a, G.call s (.save record) a = true ∧ s' = a.written s (s.putRecord record) ∧
    (r = .ok () ↔ a.outcome = .done)

theorem IsSaved.cases {ε : Type} {record : WarmImageRecord} {r : Except ε Unit}
    (h : IsSaved G record s r s') : s' = s ∨ s' = s.putRecord record := by
  obtain ⟨a, -, rfl, -⟩ := h
  exact written_eq_or ..

/-- A write that is reported as done. -/
theorem IsSaved.put {ε : Type} {record : WarmImageRecord}
    (h : IsSaved G record s (.ok () : Except ε Unit) s') : s' = s.putRecord record := by
  obtain ⟨a, -, rfl, hok⟩ := h
  exact written_of_done (hok.mp rfl) ..

theorem save_keeps {record : WarmImageRecord} (h : I s)
    (hput : ∀ a, G.call s (.save record) a = true → I (s.putRecord record)) :
    service.Keeps G I (perform (.save record)) (IsSaved G record s) s := by
  refine .perform fun a s' r hcall hexec => ?_
  obtain ⟨hs', hr⟩ := Prod.mk.inj (Option.some.inj hexec)
  refine ⟨?_, a, hcall, hs'.symm, fun hok => (of_stored (hr.trans hok)).1, fun hdone => ?_⟩
  · rw [← hs']
    rcases written_eq_or a s (s.putRecord record) with heq | heq <;> rw [heq]
    · exact h
    · exact hput a hcall
  · rw [← hr, LibvirtAnswer.stored, if_pos hdone]

theorem recordWarmImage_keeps {record : WarmImageRecord} (h : I s)
    (hput : ∀ a, G.call s (.save record) a = true → I (s.putRecord record)) :
    service.Keeps G I (recordWarmImage port record) (IsSaved G record s) s := by
  unfold recordWarmImage
  split
  · refine .bind (keeps_silent h fun _ _ _ hexec => by cases hexec; rfl) ?_
    rintro - s' rfl
    exact save_keeps h hput
  · exact save_keeps h hput

theorem unixTime_keeps (hclock : ∀ now, I { s with now := now }) :
    service.Keeps G I (perform .unixTime) (fun now s' => s' = { s with now := now }) s := by
  refine .perform fun a s' r _ hexec => ?_
  cases hexec
  exact ⟨hclock _, rfl⟩

/-- One of the two records of a promotion. -/
theorem record_keeps {state : WarmImageState} (hclock : ∀ now, I { s with now := now })
    (hput : ∀ now a, G.call { s with now := now } (.save (request.record state now)) a = true →
      I ({ s with now := now }.putRecord (request.record state now))) :
    service.Keeps G I (record request state)
      (fun r s' => ∃ now, IsSaved G (request.record state now) { s with now := now } r s') s := by
  unfold record
  refine .bind (unixTime_keeps hclock) ?_
  rintro now s₁ rfl
  refine .bind (recordWarmImage_keeps (hclock now) (hput now)) ?_
  rintro r s₂ ⟨a, hcall, hs₂, hok⟩
  cases r with
  | ok _ => exact ⟨now, a, hcall, hs₂, by simpa using hok⟩
  | error e => exact ⟨now, a, hcall, hs₂, by simpa using hok⟩

/-- The write of the pointer: a new document whose first entry is the candidate
and whose others are those of the old one, or nothing. -/
def Repointed (profile : ProfileName) (verified : VolumePointer) (s : LibvirtState)
    (document : PublishedWarm) : Prop :=
  document.profile = profile.value ∧ document.current = verified ∧
    document.superseded = ((s.document profile).map (·.pointers)).getD []

theorem document_profile (h : s.document profile = some document) :
    document.profile = profile.value := by
  simpa using List.find?_some h

theorem repoint_spec (h : repoint request (s.document request.profile) verified = .ok document) :
    Repointed request.profile verified s document := by
  unfold repoint at h
  split at h
  · rename_i published hpublished
    have hdocument := PublishedWarm.document_of_check h
    have hprofile : published.profile = request.profile.value := document_profile hpublished
    exact ⟨by rw [hdocument]; exact hprofile, by rw [hdocument],
      by rw [hdocument, hpublished]; rfl⟩
  · rename_i hnone
    have hdocument := PublishedWarm.document_of_check h
    exact ⟨by rw [hdocument], by rw [hdocument], by rw [hdocument, hnone]; rfl⟩

theorem publishCandidate_keeps (h : I s)
    (hput : ∀ document, Repointed request.profile verified s document → I (s.putDocument document))
    :
    service.Keeps G I (publishCandidate request verified)
      (fun r s' => (s' = s ∧ r ≠ .ok ()) ∨
        ∃ document a, Repointed request.profile verified s document ∧ s' = s.putDocument document ∧
          G.call s (.publishPointer document) a = true ∧ (r = .ok () ∨ a.outcome = .late)) s := by
  unfold publishCandidate
  refine .bind (loadPointer_keeps h) ?_
  rintro r s₁ ⟨rfl, hloaded⟩
  cases r with
  | error e => exact .inl ⟨rfl, fun hr => by cases hr⟩
  | ok published =>
    obtain rfl := hloaded published rfl
    dsimp only
    split
    · exact .inl ⟨rfl, fun hr => by cases hr⟩
    · rename_i document hrepoint
      have hrepointed := repoint_spec hrepoint
      refine .perform fun a s' r hcall hexec => ?_
      obtain ⟨hs', hr⟩ := Prod.mk.inj (Option.some.inj hexec)
      simp only [LibvirtAnswer.written, LibvirtAnswer.reported] at hs' hr
      cases houtcome : a.outcome with
      | failed =>
        simp only [houtcome, reduceCtorEq, if_true, if_false] at hs' hr
        subst hs' hr
        exact ⟨h, .inl ⟨rfl, fun hr => by cases hr⟩⟩
      | late =>
        simp only [houtcome, reduceCtorEq, if_false] at hs'
        subst hs'
        exact ⟨hput document hrepointed, .inr ⟨document, a, hrepointed, rfl, hcall, .inr houtcome⟩⟩
      | done =>
        simp only [houtcome, reduceCtorEq, if_true, if_false] at hs' hr
        subst hs' hr
        exact ⟨hput document hrepointed, .inr ⟨document, a, hrepointed, rfl, hcall, .inl rfl⟩⟩

end Libvirt

end FlanForge
