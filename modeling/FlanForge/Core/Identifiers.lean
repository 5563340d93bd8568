import FlanForge.Core.Text

/-!
# Identifiers

The validated names of the daemon: profile names, runner labels, VM names
and the VM-name prefix are one family, an `Identifier` under its
`IdentifierRules`, and repository names have the two-segment shape of
their own. A value carries the proof that it passes its own check, as the
constructors of the source leave no other way to build one. Every accepted
text is ASCII, so the checks read characters where the source reads bytes;
lengths are UTF-8 bytes in both.

An allocation identity is a UUID. It is represented by its canonical
hyphenated text, which is what the records store and the logs print.
-/

namespace FlanForge

/-- Why a text is not an identifier. -/
inductive IdentifierError
  | length (kind : String) (min max : ℕ)
  | character (kind : String)
  | repository
  | vmPrefix
  deriving DecidableEq, Repr

/-- The parameters one kind of identifier is checked with. -/
structure IdentifierRules where
  kind : String
  min : ℕ
  max : ℕ
  valid : Char → Bool

/-- The check every identifier of the family passes: a length range, an
alphanumeric first character and an alphabet. -/
def IdentifierRules.check (rules : IdentifierRules) (value : String) :
    Except IdentifierError Unit :=
  if !(rules.min ≤ value.utf8ByteSize && value.utf8ByteSize ≤ rules.max) then
    .error (.length rules.kind rules.min rules.max)
  else if !(value.toList.head?.any Char.isAlphanum) || !value.toList.all rules.valid then
    .error (.character rules.kind)
  else .ok ()

/-- The text passes the check. -/
def IdentifierRules.accepts (rules : IdentifierRules) (value : String) : Bool :=
  (rules.check value).isOk

/-- A text that passes its rules' check. -/
structure Identifier (rules : IdentifierRules) where
  value : String
  accepted : rules.accepts value = true
  deriving DecidableEq

namespace Identifier

variable {rules : IdentifierRules}

instance : LawfulBEq (Identifier rules) := inferInstance

/-- Two identifiers with the same text are the same. -/
theorem ext_value {a b : Identifier rules} (h : a.value = b.value) : a = b := by
  cases a
  cases b
  simpa using h

/-- Build an identifier, or say why the text is not one. -/
def new (rules : IdentifierRules) (value : String) : Except IdentifierError (Identifier rules) :=
  match h : rules.check value with
  | .ok _ => .ok ⟨value, by simp [IdentifierRules.accepts, h, Except.isOk, Except.toBool]⟩
  | .error e => .error e

/-- An accepted text builds the identifier with that text. -/
@[simp] theorem new_value (a : Identifier rules) : new rules a.value = .ok a := by
  have hok := a.accepted
  unfold new
  split
  · rfl
  · rename_i e he
    simp [IdentifierRules.accepts, he, Except.isOk, Except.toBool] at hok

/-- What `new` returns has the text it was given. -/
theorem value_of_new {value : String} {a : Identifier rules} (h : new rules value = .ok a) :
    a.value = value := by
  unfold new at h
  split at h
  · cases h
    rfl
  · cases h

end Identifier

/-- `[A-Za-z0-9._-]`. -/
def isNameByte (c : Char) : Bool := c.isAlphanum || c == '-' || c == '_' || c == '.'

/-- `[a-z0-9_-]`. -/
def isProfileByte (c : Char) : Bool := c.isLower || c.isDigit || c == '_' || c == '-'

theorem isNameByte_of_isAlphanum {c : Char} (h : c.isAlphanum = true) : isNameByte c = true := by
  simp [isNameByte, h]

theorem isNameByte_of_isDigit {c : Char} (h : c.isDigit = true) : isNameByte c = true :=
  isNameByte_of_isAlphanum (Bool.or_eq_true_iff.mpr (.inr h))

theorem isAlphanum_of_isLower {c : Char} (h : c.isLower = true) : c.isAlphanum = true :=
  Bool.or_eq_true_iff.mpr (.inl (Bool.or_eq_true_iff.mpr (.inr h)))

def profileNameRules : IdentifierRules := ⟨"profile name", 1, 32, isProfileByte⟩
def runnerLabelRules : IdentifierRules := ⟨"runner label", 1, 64, isNameByte⟩
def vmNameRules : IdentifierRules := ⟨"VM name", 1, 80, isNameByte⟩
def vmPrefixRules : IdentifierRules := ⟨"VM prefix", 3, 24, isNameByte⟩

abbrev ProfileName := Identifier profileNameRules
abbrev RunnerLabel := Identifier runnerLabelRules
abbrev VmName := Identifier vmNameRules
abbrev VmPrefix := Identifier vmPrefixRules

/-- A prefix that ends in a hyphen cannot merge with the profile segment. -/
def VmPrefix.ensureValid (p : VmPrefix) : Except IdentifierError Unit :=
  if p.value.toList.getLast? = some '-' then .ok () else .error .vmPrefix

/-! ## Repositories -/

/-- One segment of a repository name. -/
def isRepositorySegment (seg : List Char) : Bool :=
  !seg.isEmpty && seg.length ≤ 100 && seg != ['.'] && seg != ['.', '.'] &&
    seg.head?.any Char.isAlphanum && seg.all isNameByte

/-- `owner/name`, both safe path segments. -/
def isRepositoryName (value : String) : Bool :=
  value.utf8ByteSize ≤ 201 &&
    match splitAll '/' value.toList with
    | [owner, repository] => isRepositorySegment owner && isRepositorySegment repository
    | _ => false

/-- A validated `owner/name`. -/
structure RepositoryName where
  value : String
  accepted : isRepositoryName value = true
  deriving DecidableEq

/-- The part before the slash. -/
def RepositoryName.owner (r : RepositoryName) : String :=
  String.ofList (r.value.toList.takeWhile (· ≠ '/'))

/-! ## Allocation identities -/

/-- The canonical text of a UUID: lower-case hexadecimal digits in groups of
8, 4, 4, 4 and 12. -/
def isUuidText (value : String) : Bool :=
  (splitAll '-' value.toList).map List.length = [8, 4, 4, 4, 12] &&
    value.toList.all fun c => c == '-' || c.isDigit || ('a' ≤ c && c ≤ 'f')

/-- The identity of an allocation. -/
structure AllocationId where
  value : String
  canonical : isUuidText value = true
  deriving DecidableEq

/-- Read an identity back from its text. The source's parser also takes other
spellings of a UUID; no record holds one. -/
def AllocationId.parse (value : String) : Option AllocationId :=
  if h : isUuidText value = true then some ⟨value, h⟩ else none

@[simp] theorem AllocationId.parse_value (id : AllocationId) :
    AllocationId.parse id.value = some id := by
  simp [AllocationId.parse, id.canonical]

/-! ## Fingerprints -/

/-- Identity of the base a guest was produced from. Deserialization does not
check it, so validity is a predicate and not part of the type. -/
structure BaseFingerprint where
  value : String
  deriving DecidableEq

/-- Between 1 and 128 hexadecimal digits. -/
def BaseFingerprint.isValid (f : BaseFingerprint) : Bool :=
  1 ≤ f.value.utf8ByteSize && f.value.utf8ByteSize ≤ 128 &&
    f.value.toList.all fun c => c.isDigit || ('a' ≤ c && c ≤ 'f') || ('A' ≤ c && c ≤ 'F')

/-- Both known and equal. -/
def isFingerprintMatch (recorded current : Option BaseFingerprint) : Bool :=
  match recorded, current with
  | some recorded, some current => recorded = current
  | _, _ => false

end FlanForge
