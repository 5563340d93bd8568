import FlanForge.Core.Image

/-!
# Pointer documents

On libvirt a warm image is a volume, and which volume it is stands in one
document per profile: the generation allocations boot from, and every
superseded generation that could not be retired yet. A `PublishedWarm` is a
document that passed its validation, as every way to make or read one ends
with it. Generation numbers are not unique in a document: a rolled-back
number is issued again. Volumes are.
-/

namespace FlanForge

/-! ## Names and keys -/

/-- A character twice in a row. -/
def hasPair (c : Char) : List Char → Bool
  | a :: b :: rest => (a == c && b == c) || hasPair c (b :: rest)
  | _ => false

def isSafeName (value : String) (maximumBytes : ℕ) : Bool :=
  1 ≤ value.utf8ByteSize && value.utf8ByteSize ≤ maximumBytes && value != "." && value != ".." &&
    !hasPair '.' value.toList && value.toList.all isNameByte

/-- A storage key, which is a path on most pools. -/
def isSafeKey (value : String) (maximumBytes : ℕ) : Bool :=
  !value.isEmpty && value.utf8ByteSize ≤ maximumBytes &&
    !value.toList.any (fun c => c.toNat < 32 || c.toNat = 127) &&
    (value.toList.head? != some '/' || !hasPair '/' value.toList) &&
    !(splitAll '/' value.toList).any fun segment => segment = ['.'] || segment = ['.', '.']

/-- Why a document is not accepted. -/
structure WireError where
  contract : String
  field : String
  deriving DecidableEq, Repr

def WireError.message (e : WireError) : String :=
  e.contract ++ " field " ++ e.field ++ " is structurally invalid"

/-! ## Pointers -/

/-- What the boot path enforces of a volume: identity, size and provenance. -/
structure VolumePointer where
  pool : String
  volumeName : String
  volumeKey : String
  virtualBytes : UInt64
  generation : UInt64
  producedAtUnix : UInt64
  deriving DecidableEq

namespace VolumePointer

def ensureValid (pointer : VolumePointer) : Except WireError Unit :=
  let invalid (field : String) : Except WireError Unit := .error ⟨"libvirt volume pointer", field⟩
  if !isSafeName pointer.pool 128 then invalid "pool"
  else if !isSafeName pointer.volumeName 128 then invalid "volume_name"
  else if !isSafeKey pointer.volumeKey 4096 then invalid "volume_key"
  else if pointer.virtualBytes = 0 || pointer.virtualBytes > 1099511627776 then
    invalid "virtual_bytes"
  else .ok ()

/-- Two pointers naming the same physical volume, by either identity. -/
def isSameVolume (a b : VolumePointer) : Bool :=
  a.volumeName = b.volumeName || a.volumeKey = b.volumeKey

end VolumePointer

/-! ## Documents -/

/-- One profile's document as it is read, before validation. -/
structure WarmDocument where
  schemaVersion : UInt8
  profile : String
  logicalName : String
  generation : UInt64
  producedBy : AllocationId
  producedAtUnix : UInt64
  current : VolumePointer
  superseded : List VolumePointer
  deriving DecidableEq

/-- The structural bound on superseded entries. -/
def maxSupersededPointers : ℕ := 8

/-- The identity no allocation has. -/
def AllocationId.isNil (id : AllocationId) : Bool :=
  id.value = "00000000-0000-0000-0000-000000000000"

namespace WarmDocument

/-- Every pointer the document names, current first. -/
def pointers (document : WarmDocument) : List VolumePointer :=
  document.current :: document.superseded

/-- No pointer is the volume of one before it. -/
def isDistinct : List VolumePointer → Bool
  | [] => true
  | pointer :: rest => rest.all (fun other => !pointer.isSameVolume other) && isDistinct rest

/-- The first pointer that is not valid. -/
def ensurePointers : List VolumePointer → Except WireError Unit
  | [] => .ok ()
  | pointer :: rest =>
    match pointer.ensureValid with
    | .ok _ => ensurePointers rest
    | .error e => .error e

def ensureValid (document : WarmDocument) : Except WireError Unit :=
  let invalid (field : String) : Except WireError Unit :=
    .error ⟨"published libvirt warm image", field⟩
  if document.schemaVersion ≠ 1 then invalid "schema_version"
  else if !isSafeName document.profile 128 then invalid "profile"
  else if !isSafeName document.logicalName 128 then invalid "logical_name"
  else if document.generation = 0 || document.producedBy.isNil then invalid "generation"
  else if document.superseded.length > maxSupersededPointers then invalid "superseded"
  else
    match ensurePointers document.pointers with
    | .error e => .error e
    | .ok _ =>
      if !isDistinct document.pointers then invalid "duplicate pointer"
      else if document.current.generation ≠ document.generation then invalid "current generation"
      else if document.superseded.any (·.generation = 0) then invalid "superseded generation"
      else .ok ()

end WarmDocument

/-- A document that passed its validation. -/
structure PublishedWarm extends WarmDocument where
  valid : toWarmDocument.ensureValid.isOk = true

namespace PublishedWarm

/-- Two documents that say the same are the same. -/
theorem ext_document {a b : PublishedWarm} (h : a.toWarmDocument = b.toWarmDocument) : a = b := by
  cases a
  cases b
  simpa using h

instance : DecidableEq PublishedWarm := fun a b =>
  decidable_of_iff (a.toWarmDocument = b.toWarmDocument)
    ⟨ext_document, fun h => h ▸ rfl⟩

/-- Accept a document, or name the field that is wrong. -/
def check (document : WarmDocument) : Except WireError PublishedWarm :=
  match h : document.ensureValid with
  | .ok _ => .ok ⟨document, by simp [h, Except.isOk, Except.toBool]⟩
  | .error e => .error e

theorem document_of_check {document : WarmDocument} {published : PublishedWarm}
    (h : check document = .ok published) : published.toWarmDocument = document := by
  unfold check at h
  split at h
  · cases h
    rfl
  · cases h

/-- The first document of a profile. -/
def new (profile logicalName : String) (producedBy : AllocationId) (producedAtUnix : UInt64)
    (current : VolumePointer) : Except WireError PublishedWarm :=
  check
    { schemaVersion := 1
      profile := profile
      logicalName := logicalName
      generation := current.generation
      producedBy := producedBy
      producedAtUnix := producedAtUnix
      current := current
      superseded := [] }

/-- Repoint the profile at a new generation, retaining the outgoing one. -/
def repointed (document : PublishedWarm) (logicalName : String) (producedBy : AllocationId)
    (producedAtUnix : UInt64) (current : VolumePointer) : Except WireError PublishedWarm :=
  check
    { schemaVersion := 1
      profile := document.profile
      logicalName := logicalName
      generation := current.generation
      producedBy := producedBy
      producedAtUnix := producedAtUnix
      current := current
      superseded := document.current :: document.superseded }

/-- Make one superseded generation current again: of those that carry the
number, the most recently superseded one. -/
def restored (document : PublishedWarm) (generation : UInt64) : Except WireError PublishedWarm :=
  match document.superseded.find? (·.generation = generation) with
  | none => .error ⟨"published libvirt warm image", "restored generation"⟩
  | some current =>
    check
      { schemaVersion := 1
        profile := document.profile
        logicalName := document.logicalName
        generation := current.generation
        producedBy := document.producedBy
        producedAtUnix := current.producedAtUnix
        current := current
        superseded := document.current ::
          document.superseded.eraseP (·.generation = generation) }

/-- Drop one retired entry by its key. -/
def withoutSuperseded (document : PublishedWarm) (volumeKey : String) :
    Except WireError PublishedWarm :=
  check { document.toWarmDocument with
    superseded := document.superseded.filter (·.volumeKey ≠ volumeKey) }

theorem ensurePointers_eq_ok {l : List VolumePointer} :
    WarmDocument.ensurePointers l = .ok () ↔ ∀ pointer ∈ l, pointer.ensureValid = .ok () := by
  induction l with
  | nil => simp [WarmDocument.ensurePointers]
  | cons pointer l ih =>
    rw [WarmDocument.ensurePointers, List.forall_mem_cons, ← ih]
    cases pointer.ensureValid <;> simp

theorem isDistinct_iff {l : List VolumePointer} : WarmDocument.isDistinct l = true ↔
    l.Pairwise fun pointer other => pointer.isSameVolume other = false := by
  induction l with
  | nil => simp [WarmDocument.isDistinct]
  | cons pointer l ih => simp [WarmDocument.isDistinct, ih]

/-- **An entry can always be dropped.** -/
theorem exists_withoutSuperseded (document : PublishedWarm) (volumeKey : String) :
    ∃ updated, document.withoutSuperseded volumeKey = .ok updated := by
  have hsub : (document.superseded.filter (·.volumeKey ≠ volumeKey)).Sublist document.superseded :=
    List.filter_sublist
  have hvalid : WarmDocument.ensureValid { document.toWarmDocument with
      superseded := document.superseded.filter (·.volumeKey ≠ volumeKey) } = .ok () := by
    have h := document.valid
    simp only [WarmDocument.ensureValid, WarmDocument.pointers] at h ⊢
    -- the first four checks do not look at the entries
    iterate 4
      split at h
      · cases h
      rename_i hfield
      rw [if_neg hfield]
    split at h
    · cases h
    rename_i hfew
    have hlength := hsub.length_le
    rw [if_neg (by omega)]
    split at h
    · cases h
    rename_i hpointers
    rw [ensurePointers_eq_ok.mpr fun pointer hmem =>
      ensurePointers_eq_ok.mp hpointers pointer ((hsub.cons_cons _).mem hmem)]
    simp only at h ⊢
    split_ifs at h with hdistinct hcurrent hzero <;> try cases h
    rw [Bool.not_eq_true', Bool.not_eq_false, isDistinct_iff] at hdistinct
    rw [if_neg, if_neg hcurrent, if_neg]
    · simp only [List.any_eq_true, not_exists, not_and] at hzero ⊢
      exact fun pointer hmem => hzero pointer (hsub.mem hmem)
    · rw [Bool.not_eq_true', Bool.not_eq_false, isDistinct_iff]
      exact hdistinct.sublist (hsub.cons_cons _)
  unfold withoutSuperseded check
  split
  · exact ⟨_, rfl⟩
  · rename_i herror
    rw [hvalid] at herror
    cases herror

/-- A restored document begins with the first superseded entry of the number,
and goes on with the others in their order. -/
theorem restored_spec {document restored : PublishedWarm} {generation : UInt64}
    (h : document.restored generation = .ok restored) :
    restored.profile = document.profile ∧
      document.superseded.find? (·.generation = generation) = some restored.current ∧
      restored.superseded =
        document.current :: document.superseded.eraseP (·.generation = generation) := by
  unfold PublishedWarm.restored at h
  split at h
  · cases h
  · rename_i current hcurrent
    have hdocument := document_of_check h
    rw [hdocument]
    exact ⟨rfl, hcurrent, rfl⟩

/-- The document's generation is the one of its current entry. -/
theorem generation_eq (document : PublishedWarm) :
    document.current.generation = document.generation := by
  have h := document.valid
  simp only [WarmDocument.ensureValid] at h
  -- every check before this one ends in an error
  iterate 5 (split at h; · cases h)
  split at h
  · cases h
  · split at h
    · cases h
    · split at h
      · cases h
      · rename_i hsame
        exact Decidable.not_not.mp hsame

end PublishedWarm

end FlanForge
