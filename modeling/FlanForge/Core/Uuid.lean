import FlanForge.Core.Identifiers

/-!
# UUIDs

A UUID is written one way and read four ways: as 32 hexadecimal digits,
hyphenated, hyphenated in braces, and as a URN, in either case. `Uuid` is
the written form, so that two equal identities are one text, and
`Uuid.parseStr` reads any of the four into it.
-/

namespace FlanForge

/-- An identity, by its canonical text. -/
@[ext] structure Uuid where
  value : String
  canonical : isUuidText value = true

instance : DecidableEq Uuid := fun a b => decidable_of_iff (a.value = b.value) Uuid.ext_iff.symm

namespace Uuid

/-- The identity nothing has. -/
def nil : Uuid := ⟨"00000000-0000-0000-0000-000000000000", by decide⟩

def isNil (id : Uuid) : Bool := id = nil

/-- The identity a hyphenated text writes, in either case. -/
def parseHyphenated (text : List Char) : Option Uuid :=
  if h : isUuidText (String.ofList (text.map Char.toLower)) = true then some ⟨_, h⟩ else none

/-- Digits without hyphens, in the five groups of a UUID. -/
def hyphenate (digits : List Char) : List Char :=
  digits.take 8 ++ '-' :: ((digits.drop 8).take 4 ++ '-' :: ((digits.drop 12).take 4 ++
    '-' :: ((digits.drop 16).take 4 ++ '-' :: digits.drop 20)))

/-- Read an identity in any of its spellings. -/
def parseStr (value : String) : Option Uuid :=
  let text := value.toList
  let hyphenated :=
    match text with
    | '\x7b' :: rest => (stripTail ['\x7d'] rest).getD text
    | _ => (stripHead "urn:uuid:".toList text).getD text
  if text.length = 32 then parseHyphenated (hyphenate text) else parseHyphenated hyphenated

/-! ## Canonical texts -/

/-- The segments of a text account for all of it but the separators. -/
theorem length_splitAll (sep : Char) (text : List Char) :
    ((splitAll sep text).map List.length).sum + (splitAll sep text).length = text.length + 1 := by
  induction text with
  | nil => rfl
  | cons c cs ih =>
    simp only [splitAll]
    split
    · simp only [List.map_cons, List.length_nil, List.sum_cons, List.length_cons]
      omega
    · split
      · rename_i seg rest hsplit
        rw [hsplit] at ih
        simp only [List.map_cons, List.sum_cons, List.length_cons] at ih ⊢
        omega
      · rename_i hsplit
        rw [hsplit] at ih
        simp at ih

/-- A character of a canonical text. -/
def isUuidChar (c : Char) : Bool := c == '-' || c.isDigit || ('a' ≤ c && c ≤ 'f')

theorem mem_value {id : Uuid} {c : Char} (h : c ∈ id.value.toList) : isUuidChar c = true := by
  have hcanonical := id.canonical
  simp only [isUuidText, Bool.and_eq_true, List.all_eq_true] at hcanonical
  exact hcanonical.2 c h

theorem length_value (id : Uuid) : id.value.toList.length = 36 := by
  have hcanonical := id.canonical
  simp only [isUuidText, Bool.and_eq_true, decide_eq_true_eq] at hcanonical
  have hlength := length_splitAll '-' id.value.toList
  have hgroups := congrArg List.length hcanonical.1
  rw [List.length_map] at hgroups
  rw [hcanonical.1, hgroups] at hlength
  simpa using hlength.symm

/-- A canonical text has as many bytes as characters. -/
theorem utf8ByteSize_value (id : Uuid) : id.value.utf8ByteSize = 36 := by
  have hascii : ∀ c ∈ id.value.toList, c.toNat < 128 := by
    intro c hc
    have hchar := mem_value hc
    simp only [isUuidChar, Bool.or_eq_true, beq_iff_eq, Char.isDigit, Bool.and_eq_true,
      decide_eq_true_eq, Char.le_def, UInt32.le_iff_toNat_le] at hchar
    have hval : c.toNat = c.val.toNat := rfl
    have h9 : '9'.val.toNat = 57 := rfl
    have hf : 'f'.val.toNat = 102 := rfl
    rcases hchar with (rfl | hchar) | hchar
    · decide
    · omega
    · omega
  have hsize := utf8ByteSize_ofList hascii
  rwa [String.ofList_toList, length_value] at hsize

theorem toLower_of_isUuidChar {c : Char} (h : isUuidChar c = true) : c.toLower = c := by
  refine dif_neg ?_
  rintro ⟨hlow, hhigh⟩
  rw [ge_iff_le, UInt32.le_iff_toNat_le] at hlow
  rw [UInt32.le_iff_toNat_le] at hhigh
  have hA : 'A'.val.toNat = 65 := rfl
  have hZ : 'Z'.val.toNat = 90 := rfl
  simp only [isUuidChar, Bool.or_eq_true, beq_iff_eq, Char.isDigit, Bool.and_eq_true,
    decide_eq_true_eq, Char.le_def, UInt32.le_iff_toNat_le, ge_iff_le] at h
  rcases h with (rfl | h) | h
  · exact absurd hlow (by decide)
  · have h9 : '9'.val.toNat = 57 := rfl
    omega
  · have ha : 'a'.val.toNat = 97 := rfl
    omega

theorem map_toLower_value (id : Uuid) : id.value.toList.map Char.toLower = id.value.toList := by
  rw [List.map_congr_left fun c hc => toLower_of_isUuidChar (mem_value hc), List.map_id']

/-- **A written identity reads back as itself.** -/
theorem parseStr_value (id : Uuid) : parseStr id.value = some id := by
  have hread : parseHyphenated id.value.toList = some id := by
    simp [parseHyphenated, map_toLower_value, id.canonical]
  have hurn : stripHead "urn:uuid:".toList id.value.toList = none := by
    refine Option.eq_none_iff_forall_ne_some.mpr fun rest hrest => ?_
    have hu : 'u' ∈ id.value.toList := by
      rw [stripHead_eq_some.mp hrest]
      simp
    exact absurd (mem_value hu) (by decide)
  simp only [parseStr, id.length_value]
  rw [if_neg (by decide)]
  split
  · rename_i rest hbrace
    have hopen : '\x7b' ∈ id.value.toList := by simp [hbrace]
    exact absurd (mem_value hopen) (by decide)
  · rw [hurn]
    exact hread

end Uuid

end FlanForge
