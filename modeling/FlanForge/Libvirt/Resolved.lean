import FlanForge.Libvirt.CaptureKeeps
import FlanForge.Libvirt.Retire

/-!
# A promotion leaves no dangling pointer

Every volume that a profile's pointer document names is in the pool before a
promotion; it is to be there after it, wherever the promotion stopped. The
rollback deletes the candidate's volume and takes the pointer never to have
moved. That is so when the sequence stopped before the pointer was replaced,
and it is the argument of `promotion_keeps_resolved`.

Two failures come later: the directory sync after the rename, and the write
of the `promoted` record. Both run the same rollback, with the pointer already
at the candidate. `settled` excludes them, and `rollback_leaves_dangling` is a
run with each.
-/

namespace FlanForge

namespace Libvirt

variable {s s' : LibvirtState} {profile : ProfileName} {captureId : String}

/-- Every volume the profile's document names is in the pool. -/
def Resolved (profile : ProfileName) (s : LibvirtState) : Prop :=
  ∀ document, s.document profile = some document → ∀ pointer ∈ document.pointers, Resolves s pointer

instance (profile : ProfileName) (s : LibvirtState) : Decidable (Resolved profile s) :=
  decidable_of_iff
    (((s.document profile).all fun document => document.pointers.all fun pointer =>
      s.volumes.any fun volume =>
        volume.name = pointer.volumeName && volume.key = pointer.volumeKey) = true)
    (by
      unfold Resolved
      cases s.document profile <;> simp [Resolves])

/-- The profile's document does not name the candidate. -/
def Unnamed (profile : ProfileName) (captureId : String) (s : LibvirtState) : Prop :=
  ∀ document, s.document profile = some document → ∀ pointer ∈ document.pointers,
    pointer.volumeName ≠ warmVolumeName captureId

/-- Once the pointer is replaced nothing fails that would run the rollback: not
the directory sync, and not the write of the allocation's `promoted` record. -/
def settled (id : AllocationId) : Conditions LibvirtState LibvirtOp LibvirtAnswer Kind where
  call _ op a :=
    match op with
    | .publishPointer _ => a.outcome ≠ .late
    | .save record => record.state = .staging || record.producedBy ≠ id || a.outcome = .done
    | _ => true
  start _ _ := true
  crash _ := true

/-! ## What the parts of the state carry -/

theorem document_congr (h : s'.documents = s.documents) :
    s'.document profile = s.document profile := by
  unfold LibvirtState.document
  rw [h]

theorem Resolved.mono (h : Resolved profile s) (hdocuments : s'.documents = s.documents)
    (hvolumes : s.volumes ⊆ s'.volumes) : Resolved profile s' := by
  intro document hdocument pointer hpointer
  rw [document_congr hdocuments] at hdocument
  obtain ⟨volume, hmem, hvolume⟩ := h document hdocument pointer hpointer
  exact ⟨volume, hvolumes hmem, hvolume⟩

theorem Unnamed.congr (h : Unnamed profile captureId s) (hdocuments : s'.documents = s.documents) :
    Unnamed profile captureId s' := by
  intro document hdocument
  rw [document_congr hdocuments] at hdocument
  exact h document hdocument

/-- A new name is one the document does not have. -/
theorem Resolved.unnamed (h : Resolved profile s)
    (hfresh : ∀ volume ∈ s.volumes, volume.name ≠ warmVolumeName captureId) :
    Unnamed profile captureId s := by
  intro document hdocument pointer hpointer hname
  obtain ⟨volume, hmem, hvolume, -⟩ := h document hdocument pointer hpointer
  exact hfresh volume hmem (hvolume.trans hname)

/-- The repointed document names the candidate and what the old one named. -/
theorem Resolved.putDocument {verified : VolumePointer} {document : PublishedWarm}
    (h : Resolved profile s) (hverified : Resolves s verified)
    (hrepointed : Repointed profile verified s document) :
    Resolved profile (s.putDocument document) := by
  obtain ⟨hprofile, hcurrent, hsuperseded⟩ := hrepointed
  have hget : (s.putDocument document).document profile = some document := by
    unfold LibvirtState.document LibvirtState.putDocument
    rw [← hprofile]
    exact Table.get_put_self
  intro document' hdocument' pointer hpointer
  rw [hget] at hdocument'
  cases hdocument'
  simp only [WarmDocument.pointers, hcurrent, hsuperseded, List.mem_cons] at hpointer
  rcases hpointer with rfl | hpointer
  · exact hverified
  · cases hold : s.document profile with
    | none => simp [hold] at hpointer
    | some old =>
      rw [hold] at hpointer
      exact h old hold pointer hpointer

/-- The candidate's volume may go while the document does not name it. -/
theorem Resolved.eraseVolume {volume : Volume} (h : Resolved profile s)
    (hunnamed : Unnamed profile captureId s) (hname : volume.name = warmVolumeName captureId) :
    Resolved profile (s.eraseVolume volume) := by
  intro document hdocument pointer hpointer
  obtain ⟨kept, hmem, hkept, hkey⟩ := h document hdocument pointer hpointer
  have hne : kept ≠ volume := by
    rintro rfl
    exact hunnamed document hdocument pointer hpointer (hkept.symm.trans hname)
  exact ⟨kept, (List.mem_erase_of_ne hne).mpr hmem, hkept, hkey⟩

/-! ## The parts of a promotion -/

variable {request : WarmRequest} {G : Conditions LibvirtState LibvirtOp LibvirtAnswer Kind}

/-- A program of the promotion, with what holds when it ends. -/
abbrev Leaves {α : Type} (G : Conditions LibvirtState LibvirtOp LibvirtAnswer Kind)
    (p : LibvirtProg α) (Q : α → LibvirtState → Prop) (s : LibvirtState) : Prop :=
  service.Keeps G (fun _ => True) p Q s

/-- A record write touches neither documents nor volumes. -/
theorem frame_of_isSaved {ε : Type} {record : WarmImageRecord} {r : Except ε Unit}
    (h : IsSaved G record s r s') : s'.documents = s.documents ∧ s'.volumes = s.volumes := by
  rcases h.cases with rfl | rfl <;> exact ⟨rfl, rfl⟩

/-- Writing or removing a record. -/
theorem ensureWarmReverted_leaves {warm : VmName} {previous : Option WarmGeneration} :
    Leaves G (ensureWarmReverted port profile warm previous)
      (fun _ s' => s'.documents = s.documents ∧ s'.volumes = s.volumes) s := by
  cases previous with
  | some previous =>
    exact (save_keeps trivial fun _ _ => trivial).mono fun _ _ hsaved => frame_of_isSaved hsaved
  | none =>
    refine .perform fun a s' r _ hexec => ⟨trivial, ?_⟩
    cases hexec
    rcases written_eq_or a s (s.eraseRecord profile) with heq | heq <;> rw [heq]
      <;> exact ⟨rfl, rfl⟩

/-- Deleting by name touches one volume of that name, if any. -/
theorem deleteExact_cases (a : LibvirtAnswer) (key : Option String) (name : String)
    (s : LibvirtState) : (deleteExact a key name s).1 = s ∨
      ∃ volume, volume.name = name ∧ (deleteExact a key name s).1 = s.eraseVolume volume := by
  unfold deleteExact
  split
  · exact .inl rfl
  · rename_i volume hfound
    split
    · exact .inl rfl
    · rcases written_eq_or a s (s.eraseVolume volume) with heq | heq
      · exact .inl heq
      · exact .inr ⟨volume, by simpa using List.find?_some hfound, heq⟩

theorem removeCheckpoint_leaves (h : Resolved profile s) :
    Leaves G (perform (.removeCheckpoint captureId)) (fun _ => Resolved profile) s := by
  refine .perform fun a s' r _ hexec => ⟨trivial, ?_⟩
  cases hexec
  rcases written_eq_or a s (s.eraseCheckpoint captureId) with heq | heq <;> rw [heq]
  · exact h
  · exact h.mono rfl fun _ hmem => hmem

/-- **The rollback is safe while the pointer has not moved.** -/
theorem rollback_leaves {stopped : Stopped} (h : Resolved profile s)
    (hunnamed : Unnamed profile captureId s) :
    Leaves G (rollback request captureId stopped) (fun _ => Resolved profile) s := by
  unfold rollback
  refine .bind (Q := fun _ s' => s'.documents = s.documents ∧ s'.volumes = s.volumes)
    ?_ ?_
  · unfold revertStaged
    split
    · exact .bind ensureWarmReverted_leaves fun _ _ hsame => hsame
    · exact ⟨rfl, rfl⟩
  rintro - s₁ ⟨hdocuments, hvolumes⟩
  have h₁ : Resolved profile s₁ := h.mono hdocuments (hvolumes ▸ fun _ hmem => hmem)
  have hunnamed₁ := hunnamed.congr hdocuments
  refine .bind (keeps_silent trivial fun _ _ _ hexec => by cases hexec; rfl) ?_
  rintro loaded s₂ rfl
  refine .bind (Q := fun _ => Resolved profile) ?_ ?_
  · refine .perform fun a s' r _ hexec => ⟨trivial, ?_⟩
    have hs' : (deleteExact a (recordedKey loaded) (warmVolumeName captureId) s₂).1 = s' :=
      congrArg Prod.fst (Option.some.inj hexec)
    rcases deleteExact_cases a (recordedKey loaded) (warmVolumeName captureId) s₂ with
      heq | ⟨volume, hname, heq⟩
    · rw [← hs', heq]
      exact h₁
    · rw [← hs', heq]
      exact h₁.eraseVolume hunnamed₁ hname
  · intro r s₃ h₃
    cases r with
    | error e => exact h₃
    | ok _ => exact .bind (removeCheckpoint_leaves h₃) fun _ _ h₄ => h₄

/-- One of the two records, of which the second is always written. -/
theorem record_leaves {state : WarmImageState} :
    Leaves (settled request.allocation.id) (record request state)
      (fun r s' => (s'.documents = s.documents ∧ s'.volumes = s.volumes) ∧
        (state = .promoted → r = .ok ())) s := by
  refine (record_keeps (fun _ => trivial) fun _ _ _ => trivial).mono ?_
  rintro r s' ⟨now, hsaved⟩
  have hframe := frame_of_isSaved hsaved
  refine ⟨hframe, fun hstate => ?_⟩
  obtain ⟨a, hcall, -, hok⟩ := hsaved
  rw [hok]
  simpa [settled, WarmRequest.record, hstate] using hcall

/-- Where the sequence stops: at its end, or with the pointer where it was. -/
theorem promote_leaves (h : Resolved request.profile s)
    (hunnamed : Unnamed request.profile captureId s) :
    Leaves (settled request.allocation.id) (promote request captureId).run
      (fun r s' => Resolved request.profile s' ∧
        ∀ e, r = .error e → Unnamed request.profile captureId s') s := by
  unfold promote
  refine .tryBind (captureCandidate_keeps fun _ _ => trivial) ?_ ?_
  swap
  · rintro e s₁ ⟨hcaptured, -⟩
    exact ⟨h.mono hcaptured.documents hcaptured.volumes, fun _ _ =>
      hunnamed.congr hcaptured.documents⟩
  rintro verified s₁ ⟨hcaptured, -, -, hverified, -⟩
  have h₁ := h.mono hcaptured.documents hcaptured.volumes
  have hunnamed₁ := hunnamed.congr hcaptured.documents
  -- the record of the candidate, while the pointer is where it was
  refine .tryBind (attempt_keeps record_leaves) ?_ ?_
  swap
  · rintro e s₂ ⟨error, rfl, ⟨hdocuments, hvolumes⟩, -⟩
    exact ⟨h₁.mono hdocuments (hvolumes ▸ fun _ hmem => hmem), fun _ _ =>
      hunnamed₁.congr hdocuments⟩
  rintro - s₂ ⟨⟨hdocuments, hvolumes⟩, -⟩
  have h₂ : Resolved request.profile s₂ := h₁.mono hdocuments (hvolumes ▸ fun _ hmem => hmem)
  have hunnamed₂ := hunnamed₁.congr hdocuments
  have hverified₂ : Resolves s₂ verified := by
    obtain ⟨volume, hmem, hvolume⟩ := hverified
    exact ⟨volume, hvolumes ▸ hmem, hvolume⟩
  -- the pointer moves, or the step fails before it does
  refine .tryBind (attempt_keeps (publishCandidate_keeps trivial fun _ _ => trivial)) ?_ ?_
  swap
  · rintro e s₃ ⟨error, rfl, ⟨rfl, -⟩ | ⟨document, a, -, -, hcall, hr | hlate⟩⟩
    · exact ⟨h₂, fun _ _ => hunnamed₂⟩
    · cases hr
    · simp [settled, hlate] at hcall
  rintro ⟨⟩ s₃ (⟨-, hne⟩ | ⟨document, a, hrepointed, rfl, -⟩)
  · exact absurd rfl hne
  have h₃ := h₂.putDocument hverified₂ hrepointed
  -- nothing after it fails
  refine .tryBind (attempt_keeps record_leaves) ?_ ?_
  swap
  · rintro e s₄ ⟨error, rfl, -, hok⟩
    cases hok rfl
  rintro - s₄ ⟨⟨hdocuments, hvolumes⟩, -⟩
  have h₄ : Resolved request.profile s₄ := h₃.mono hdocuments (hvolumes ▸ fun _ hmem => hmem)
  refine .tryBind (lift_keeps (removeCheckpoint_leaves h₄)) ?_ ?_
  · rintro r s₅ ⟨_, -, h₅⟩
    exact ⟨h₅, fun e he => by cases he⟩
  · rintro e s₅ ⟨_, he, -⟩
    cases he

/-- **A promotion leaves no dangling pointer**, wherever it or its rollback
fails, as long as nothing fails between the replacement of the pointer and the
`promoted` record. -/
theorem promotion_keeps_resolved (request : WarmRequest) {outcome : RetentionOutcome}
    (h : Resolved request.profile s)
    (hends : service.Ends (settled request.allocation.id) (retainWarm request) s outcome s') :
    Resolved request.profile s' := by
  suffices hleaves : Leaves (settled request.allocation.id) (retainWarm request)
      (fun _ => Resolved request.profile) s from hleaves.ends hends
  unfold retainWarm
  refine .bind (newCaptureId_keeps trivial) ?_
  rintro captureId s₁ ⟨rfl, hfresh, -⟩
  refine .bind (promote_leaves h (h.unnamed hfresh)) ?_
  rintro r s₂ ⟨h₂, hunnamed⟩
  cases r with
  | ok _ => exact h₂
  | error stopped =>
    refine .bind (Q := fun _ => Resolved request.profile) ?_ fun _ _ h₃ => h₃
    unfold compensate
    split
    · exact h₂
    · exact rollback_leaves h₂ (hunnamed stopped rfl)

/-! ## Three promotions -/

/-- The third generation of the sample profile. -/
def sampleWarmRequest : WarmRequest where
  allocation := sampleRegeneration secondId
  profile := sampleProfileName
  warmTemplate := sampleWarm
  baseFingerprint := ⟨"aa"⟩
  generation := 3
  previous := some ⟨2, ⟨"aa"⟩, firstId, 2000⟩
  virtualBytes := 1048576

/-- Calls that go well. -/
def fine (n : ℕ) : List LibvirtAnswer := List.replicate n {}

/-- The answers up to the candidate that was read back: nothing fails. -/
def captureAnswers : List LibvirtAnswer :=
  { captureId := "c" } :: fine 8 ++ { key := "/pool/warm-c.qcow2", now := 5000 } :: fine 2

/-- A promotion that stops at the pointer, and its rollback. -/
def stopAtPointer (outcome : CallOutcome) : List LibvirtAnswer :=
  captureAnswers ++ fine 3 ++ { outcome := outcome } :: fine 4

/-- A promotion whose `promoted` record is not written, and its rollback. -/
def stopAtPromoted : List LibvirtAnswer :=
  captureAnswers ++ fine 6 ++ { outcome := .failed } :: fine 4

/-- The pointer cannot be written, and the promotion is rolled back. -/
theorem promotion_keeps_resolved_rolledBack : ∃ outcome s',
    service.Ends (settled secondId) (retainWarm sampleWarmRequest)
      (samplePool documentP) outcome s' ∧
      outcome.outcome = .failed ∧ Resolved sampleProfileName s' := by
  obtain ⟨outcome, s', hends, hcheck⟩ : ∃ outcome s',
      service.Ends (settled secondId) (retainWarm sampleWarmRequest)
        (samplePool documentP) outcome s' ∧
        decide (outcome.outcome = .failed) = true :=
    Service.exists_ends (stopAtPointer .failed) (by decide +kernel)
  exact ⟨outcome, s', hends, of_decide_eq_true hcheck,
    promotion_keeps_resolved sampleWarmRequest (by decide +kernel) hends⟩

/-- Every write of a record succeeds. -/
def storeWorks : Conditions LibvirtState LibvirtOp LibvirtAnswer Kind where
  call _ op a :=
    match op with
    | .save _ => a.outcome = .done
    | _ => true
  start _ _ := true
  crash _ := true

/-- What is reported as failed did not happen. -/
def neverLate : Conditions LibvirtState LibvirtOp LibvirtAnswer Kind where
  call _ _ a := a.outcome ≠ .late
  start _ _ := true
  crash _ := true

/-- **The rollback deletes the volume the pointer names**, when the directory
sync after the rename fails though the store works, and when the `promoted`
record cannot be written though every failure is one. Every volume the document
named before is in the pool. -/
theorem rollback_leaves_dangling :
    Resolved sampleProfileName (samplePool documentP) ∧
    (∃ outcome s', service.Ends storeWorks (retainWarm sampleWarmRequest) (samplePool documentP)
      outcome s' ∧ ¬ Resolved sampleProfileName s') ∧
    ∃ outcome s', service.Ends neverLate (retainWarm sampleWarmRequest) (samplePool documentP)
      outcome s' ∧ ¬ Resolved sampleProfileName s' := by
  obtain ⟨o₁, s₁, hends₁, hcheck₁⟩ : ∃ outcome s',
      service.Ends storeWorks (retainWarm sampleWarmRequest) (samplePool documentP) outcome s' ∧
        decide (¬ Resolved sampleProfileName s') = true :=
    Service.exists_ends (stopAtPointer .late) (by decide +kernel)
  obtain ⟨o₂, s₂, hends₂, hcheck₂⟩ : ∃ outcome s',
      service.Ends neverLate (retainWarm sampleWarmRequest) (samplePool documentP) outcome s' ∧
        decide (¬ Resolved sampleProfileName s') = true :=
    Service.exists_ends stopAtPromoted (by decide +kernel)
  exact ⟨by decide +kernel, ⟨o₁, s₁, hends₁, of_decide_eq_true hcheck₁⟩,
    o₂, s₂, hends₂, of_decide_eq_true hcheck₂⟩

end Libvirt

end FlanForge
