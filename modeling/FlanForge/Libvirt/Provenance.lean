import FlanForge.Libvirt.Resolved

/-!
# The record and the volume the pointer names

A warm image may be booted when the record is `promoted` and the pointer's
generation is the record's. Nothing else ties the two: the record says which
allocation produced the image and from which base, and the pointer says which
volume it is. `Traced` is the invariant that makes the number enough. The
first entry of the document that carries the record's generation was captured
by the allocation the record names, and so was the one the record can fall
back to.

Numbers are issued again, after a rollback and after a record was removed, so
the first entry with a number can be an older capture. `numbered` says when
it is not: a generation is recorded as `staging` only while the pointer's
current entry does not carry its number, and a regeneration begins only when
no candidate is recorded. `bootable_image_is_recorded` is the result for all
runs, and `recovery_finalizes_stale` is a run that leaves the conditions in
one step.
-/

namespace FlanForge

namespace Libvirt

variable {s s' : LibvirtState} {profile : ProfileName} {record : WarmImageRecord}
variable {document : PublishedWarm} {pointer : VolumePointer} {generation : UInt64}
variable {producedBy : AllocationId} {base : BaseFingerprint} {pointers : List VolumePointer}
variable {old : WarmGeneration}

/-! ## Who made a volume -/

/-- The pointer's volume was captured by the allocation, whose guest was built
from the base. -/
def MadeBy (s : LibvirtState) (pointer : VolumePointer) (producedBy : AllocationId)
    (base : BaseFingerprint) : Prop :=
  ∃ allocation, s.origin pointer.volumeName = some allocation ∧ allocation.id = producedBy ∧
    allocation.source.bind (·.baseFingerprint) = some base

/-- The first entry that carries the number was made by the allocation. -/
def FirstBy (s : LibvirtState) (pointers : List VolumePointer) (generation : UInt64)
    (producedBy : AllocationId) (base : BaseFingerprint) : Prop :=
  ∀ pointer, pointers.find? (·.generation = generation) = some pointer →
    MadeBy s pointer producedBy base

/-- A captured volume keeps its origin. -/
def Remembers (s s' : LibvirtState) : Prop :=
  ∀ name allocation, s.origin name = some allocation → s'.origin name = some allocation

theorem MadeBy.mono (h : MadeBy s pointer producedBy base) (hs' : Remembers s s') :
    MadeBy s' pointer producedBy base := by
  obtain ⟨allocation, horigin, hmade⟩ := h
  exact ⟨allocation, hs' _ _ horigin, hmade⟩

theorem FirstBy.mono (h : FirstBy s pointers generation producedBy base) (hs' : Remembers s s') :
    FirstBy s' pointers generation producedBy base :=
  fun pointer hfirst => (h pointer hfirst).mono hs'

/-- An entry with another number in front. -/
theorem FirstBy.cons (h : FirstBy s pointers generation producedBy base)
    (hne : pointer.generation ≠ generation) :
    FirstBy s (pointer :: pointers) generation producedBy base := by
  intro first hfirst
  rw [List.find?_cons_of_neg (by simpa using hne)] at hfirst
  exact h first hfirst

/-- An entry with the number in front. -/
theorem firstBy_cons (h : MadeBy s pointer producedBy base) (heq : pointer.generation = generation)
    :
    FirstBy s (pointer :: pointers) generation producedBy base := by
  intro first hfirst
  rw [List.find?_cons_of_pos (by simpa using heq)] at hfirst
  cases hfirst
  exact h

/-! ## The invariant -/

/-- What a record says about its profile's document. -/
structure Trace (s : LibvirtState) (record : WarmImageRecord) : Prop where
  distinct : ∀ old, record.previous = some old → old.generation ≠ record.generation
  promoted : record.state = .promoted → ∀ document, s.document record.profile = some document →
    FirstBy s document.pointers record.generation record.producedBy record.baseFingerprint
  staging : record.state = .staging → ∀ document, s.document record.profile = some document →
    document.current.generation = record.generation →
    MadeBy s document.current record.producedBy record.baseFingerprint
  previous : ∀ old, record.previous = some old →
    ∀ document, s.document record.profile = some document →
    FirstBy s document.pointers old.generation old.producedBy old.baseFingerprint

/-- Every record is right about its document. -/
def Traced (s : LibvirtState) : Prop :=
  ∀ profile record, s.record profile = some record → Trace s record

theorem record_profile (h : s.record profile = some record) : record.profile = profile :=
  Table.key_of_get h

theorem record_putRecord : (s.putRecord record).record record.profile = some record :=
  Table.get_put_self

theorem record_putRecord_of_ne (h : record.profile ≠ profile) :
    (s.putRecord record).record profile = s.record profile :=
  Table.get_put_of_ne h

theorem document_putDocument (h : document.profile = profile.value) :
    (s.putDocument document).document profile = some document := by
  unfold LibvirtState.document LibvirtState.putDocument
  rw [← h]
  exact Table.get_put_self

theorem document_putDocument_of_ne (h : document.profile ≠ profile.value) :
    (s.putDocument document).document profile = s.document profile :=
  Table.get_put_of_ne h

/-- Whatever leaves the document alone and remembers the captures. -/
theorem Trace.mono (h : Trace s record)
    (hdocument : s'.document record.profile = s.document record.profile) (hs' : Remembers s s') :
    Trace s' record where
  distinct := h.distinct
  promoted hstate document hget := (h.promoted hstate document (hdocument ▸ hget)).mono hs'
  staging hstate document hget hgeneration :=
    (h.staging hstate document (hdocument ▸ hget) hgeneration).mono hs'
  previous old hold document hget := (h.previous old hold document (hdocument ▸ hget)).mono hs'

theorem Traced.mono (h : Traced s) (hrecords : s'.records = s.records)
    (hdocuments : s'.documents = s.documents) (hs' : Remembers s s') : Traced s' := by
  intro profile record hrecord
  unfold LibvirtState.record at hrecord
  rw [hrecords] at hrecord
  exact (h profile record hrecord).mono (document_congr hdocuments) hs'

/-- Only volumes, checkpoints or the clock changed. -/
theorem Traced.congr (h : Traced s) (hrecords : s'.records = s.records)
    (hdocuments : s'.documents = s.documents) (hcaptures : s'.captures = s.captures) :
      Traced s' := by
  refine h.mono hrecords hdocuments fun name allocation horigin => ?_
  unfold LibvirtState.origin
  rwa [hcaptures]

theorem Traced.putRecord (h : Traced s) (hrecord : Trace s record) :
    Traced (s.putRecord record) := by
  intro profile other hother
  by_cases hprofile : record.profile = profile
  · subst hprofile
    rw [record_putRecord] at hother
    cases hother
    exact hrecord.mono rfl fun _ _ horigin => horigin
  · rw [record_putRecord_of_ne hprofile] at hother
    exact (h profile other hother).mono rfl fun _ _ horigin => horigin

theorem Traced.eraseRecord (h : Traced s) : Traced (s.eraseRecord profile) := by
  intro name other hother
  have hmem := Table.mem_of_get hother
  by_cases hname : profile = name
  · subst hname
    unfold LibvirtState.record LibvirtState.eraseRecord at hother
    rw [Table.get_erase_self] at hother
    cases hother
  · unfold LibvirtState.record LibvirtState.eraseRecord at hother
    rw [Table.get_erase_of_ne hname] at hother
    exact (h name other hother).mono rfl fun _ _ horigin => horigin

/-- A new document, right for the record of its profile. -/
theorem Traced.putDocument (h : Traced s) (hprofile : document.profile = profile.value)
    (hrecord : ∀ record, s.record profile = some record → Trace (s.putDocument document) record) :
    Traced (s.putDocument document) := by
  intro name other hother
  by_cases hname : document.profile = name.value
  · obtain rfl : profile = name := Identifier.ext_value (hprofile.symm.trans hname)
    exact hrecord other hother
  · have hsame : s.record name = some other := hother
    refine (h name other hsame).mono ?_ fun _ _ horigin => horigin
    rw [record_profile hsame]
    exact document_putDocument_of_ne hname

/-! ## The two ways a document changes -/

/-- Erasing an entry does not change which is the first with another number. -/
theorem find?_eraseP {other : UInt64} (hne : generation ≠ other) :
    (pointers.eraseP (·.generation = other)).find? (·.generation = generation) =
      pointers.find? (·.generation = generation) := by
  induction pointers with
  | nil => rfl
  | cons first rest ih =>
    by_cases hother : first.generation = other
    · have hfirst : first.generation ≠ generation := fun h => hne (h.symm.trans hother)
      simp [hother, Ne.symm hne]
    · by_cases hfirst : first.generation = generation
      · simp [hfirst, hne]
      · simpa [List.eraseP_cons, hother, hfirst] using ih

/-- **A restore keeps the record right**, whether it is reverted afterwards or
not. -/
theorem Trace.restored {restored : PublishedWarm} (h : Trace s record)
    (hdocument : s.document record.profile = some document) (hold : record.previous = some old)
    (hcurrent : document.generation ≠ old.generation)
    (hrestored : document.restored old.generation = .ok restored) :
    Trace (s.putDocument restored) record := by
  obtain ⟨hprofile, hfound, hsuperseded⟩ := PublishedWarm.restored_spec hrestored
  have hgeneration : restored.current.generation = old.generation := by
    simpa using List.find?_some hfound
  have hne : document.current.generation ≠ old.generation := by
    rwa [PublishedWarm.generation_eq]
  have hdistinct := h.distinct old hold
  have hget : (s.putDocument restored).document record.profile = some restored :=
    document_putDocument (hprofile.trans (document_profile hdocument))
  refine ⟨h.distinct, fun hstate document' hdocument' => ?_,
    fun hstate document' hdocument' hsame => ?_,
    fun old' hold' document' hdocument' => ?_⟩ <;> rw [hget] at hdocument' <;> cases hdocument'
  · -- the entries with another number keep their order
    unfold WarmDocument.pointers
    refine FirstBy.cons ?_ (hgeneration.trans_ne hdistinct)
    intro pointer hfirst
    refine h.promoted hstate document hdocument pointer ?_
    rw [hsuperseded] at hfirst
    unfold WarmDocument.pointers
    by_cases hhead : document.current.generation = record.generation
    · rw [List.find?_cons_of_pos (by simpa using hhead)] at hfirst ⊢
      exact hfirst
    · rw [List.find?_cons_of_neg (by simpa using hhead)] at hfirst ⊢
      rwa [find?_eraseP hdistinct.symm] at hfirst
  · exact absurd (hgeneration.symm.trans hsame) hdistinct
  · obtain rfl : old = old' := Option.some.inj (hold.symm.trans hold')
    refine firstBy_cons ?_ hgeneration
    refine h.previous old hold document hdocument restored.current ?_
    unfold WarmDocument.pointers
    rwa [List.find?_cons_of_neg (by simpa using hne)]

/-- What a promotion knows from its plan until it ends: its base, and the entry
it can fall back to. -/
structure Planned (request : WarmRequest) (s : LibvirtState) : Prop where
  base : request.allocation.source.bind (·.baseFingerprint) = some request.baseFingerprint
  distinct : ∀ old, request.previous = some old → old.generation ≠ request.generation
  previous : ∀ old, request.previous = some old →
    ∀ document, s.document request.profile = some document →
    FirstBy s document.pointers old.generation old.producedBy old.baseFingerprint

variable {request : WarmRequest} {verified : VolumePointer} {now : UInt64}

theorem Planned.mono (h : Planned request s) (hdocuments : s'.documents = s.documents)
    (hs' : Remembers s s') : Planned request s' where
  base := h.base
  distinct := h.distinct
  previous old hold document hget :=
    (h.previous old hold document (document_congr hdocuments ▸ hget)).mono hs'

/-- The candidate is in front of what was there. -/
theorem Planned.putDocument (h : Planned request s)
    (hgeneration : verified.generation = request.generation)
    (hrepointed : Repointed request.profile verified s document) :
    Planned request (s.putDocument document) := by
  obtain ⟨hprofile, hcurrent, hsuperseded⟩ := hrepointed
  refine ⟨h.base, h.distinct, fun old hold document' hdocument' => ?_⟩
  rw [document_putDocument hprofile] at hdocument'
  cases hdocument'
  unfold WarmDocument.pointers
  refine FirstBy.cons ?_ (by rw [hcurrent, hgeneration]; exact (h.distinct old hold).symm)
  rw [hsuperseded]
  cases hpublished : s.document request.profile with
  | none => exact fun pointer hfirst => by cases hfirst
  | some published => exact h.previous old hold published hpublished

/-- The `staging` record, while no entry in front carries its number. -/
theorem Planned.staging (h : Planned request s)
    (hcurrent : ∀ document, s.document request.profile = some document →
      document.current.generation = request.generation →
      MadeBy s document.current request.allocation.id request.baseFingerprint) :
    Trace s (request.record .staging now) where
  distinct := h.distinct
  promoted hstate := by cases hstate
  staging _ := hcurrent
  previous := h.previous

/-- The `promoted` record, with the candidate in front. -/
theorem Planned.promoted (h : Planned request s)
    (hcurrent : ∀ document, s.document request.profile = some document →
      document.current.generation = request.generation ∧
        MadeBy s document.current request.allocation.id request.baseFingerprint) :
    Trace s (request.record .promoted now) where
  distinct := h.distinct
  promoted _ document hdocument :=
    firstBy_cons (hcurrent document hdocument).2 (hcurrent document hdocument).1
  staging hstate := by cases hstate
  previous := h.previous

/-- The record of the generation that survives. -/
theorem trace_reverted {warm : VmName}
    (h : ∀ document, s.document profile = some document →
      FirstBy s document.pointers old.generation old.producedBy old.baseFingerprint) :
    Trace s (revertedRecord profile warm old) where
  distinct _ hold := by cases hold
  promoted _ := h
  staging hstate := by cases hstate
  previous _ hold := by cases hold

end Libvirt

end FlanForge
