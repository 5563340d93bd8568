import Mathlib.Algebra.Ring.Int.Defs
import Mathlib.Algebra.Ring.Nat

/-!
# Text checks

The string helpers the authorization policy is built from: decimal
numbers, the allowlist glob, and the shape of a safe Git ref. The glob
matcher is the source's loop with its single backtrack point; a fuel
argument bounds the number of iterations, and `isGlobMatch` supplies more
than the loop can use: between two backtracks the pattern position only
grows, and every backtrack moves the resume position forward.
-/

namespace FlanForge

open List

/-- The bytes of a text. -/
def utf8Bytes (s : String) : List UInt8 := s.toByteArray.data.toList

/-- Read decimal digits, at least one. -/
def parseDigits (text : List Char) : Option ℕ :=
  if text.isEmpty || !text.all Char.isDigit then none
  else some (text.foldl (fun n c => 10 * n + (c.toNat - '0'.toNat)) 0)

/-- Read an unsigned decimal number: digits, after an optional plus sign. -/
def parseDecimal (s : String) : Option ℕ :=
  match s.toList with
  | '+' :: digits => parseDigits digits
  | digits => parseDigits digits

def parseU64 (s : String) : Option UInt64 :=
  match parseDecimal s with
  | some n => if n < 2 ^ 64 then some (UInt64.ofNat n) else none
  | none => none

def parseU32 (s : String) : Option UInt32 :=
  match parseDecimal s with
  | some n => if n < 2 ^ 32 then some (UInt32.ofNat n) else none
  | none => none

/-- A positive number in decimal digits, without a sign. -/
def isPositiveDecimal (value : String) : Bool :=
  !value.isEmpty && value.utf8ByteSize ≤ 20 && value.toList.all Char.isDigit &&
    (parseU64 value).any (0 < ·)

def parseI64 (s : String) : Option Int64 :=
  match s.toList with
  | '-' :: digits =>
    match parseDigits digits with
    | some n => if n ≤ 2 ^ 63 then some (Int64.ofInt (-n)) else none
    | none => none
  | _ =>
    match parseDecimal s with
    | some n => if n < 2 ^ 63 then some (Int64.ofInt n) else none
    | none => none

/-- Read `true` or `false`. -/
def parseBool (s : String) : Option Bool :=
  if s = "true" then some true else if s = "false" then some false else none

/-- The rest of a text after its head, when it starts with it. -/
def stripHead : List Char → List Char → Option (List Char)
  | [], text => some text
  | c :: cs, t :: ts => if c = t then stripHead cs ts else none
  | _ :: _, [] => none

/-- The part of a text before its tail, when it ends with it. -/
def stripTail (tail text : List Char) : Option (List Char) :=
  (stripHead tail.reverse text.reverse).map List.reverse

theorem stripHead_append (head text : List Char) : stripHead head (head ++ text) = some text := by
  induction head with
  | nil => cases text <;> rfl
  | cons c cs ih => simp [stripHead, ih]

/-- Stripping a head succeeds exactly on the texts that start with it. -/
theorem stripHead_eq_some {head text rest : List Char} :
    stripHead head text = some rest ↔ text = head ++ rest := by
  refine ⟨fun h => ?_, fun h => h ▸ stripHead_append head rest⟩
  induction head generalizing text with
  | nil => cases text <;> simpa [stripHead] using h
  | cons c cs ih =>
    cases text with
    | nil => simp [stripHead] at h
    | cons t ts =>
      simp only [stripHead] at h
      split at h
      · rename_i hct
        rw [hct, ih h, cons_append]
      · cases h

/-- Stripping a tail succeeds exactly on the texts that end with it. -/
theorem stripTail_eq_some {tail text stem : List Char} :
    stripTail tail text = some stem ↔ text = stem ++ tail := by
  rw [stripTail, Option.map_eq_some_iff]
  constructor
  · rintro ⟨rest, hrest, rfl⟩
    have htext := congrArg List.reverse (stripHead_eq_some.mp hrest)
    simpa using htext
  · rintro rfl
    exact ⟨stem.reverse, by simp [stripHead_eq_some], by simp⟩

theorem stripHead_toList {head text : String} {rest : List Char} :
    stripHead head.toList text.toList = some rest ↔ text = head ++ String.ofList rest := by
  rw [stripHead_eq_some, ← String.toList_inj, String.toList_append, String.toList_ofList]

theorem stripTail_toList {tail text : String} {stem : List Char} :
    stripTail tail.toList text.toList = some stem ↔ text = String.ofList stem ++ tail := by
  rw [stripTail_eq_some, ← String.toList_inj, String.toList_append, String.toList_ofList]

/-- Split a text at the first occurrence of a character. -/
def splitOnce (sep : Char) : List Char → Option (List Char × List Char)
  | [] => none
  | c :: cs =>
    if c = sep then some ([], cs)
    else
      match splitOnce sep cs with
      | some (before, after) => some (c :: before, after)
      | none => none

variable {sep : Char}

/-- Two parts around a separator split there when the first does not contain
it. -/
theorem splitOnce_append {before : List Char} (after : List Char) (h : sep ∉ before) :
    splitOnce sep (before ++ sep :: after) = some (before, after) := by
  induction before with
  | nil => simp [splitOnce]
  | cons c cs ih =>
    obtain ⟨hc, hcs⟩ := not_or.mp fun hmem => h (mem_cons.mpr hmem)
    rw [cons_append, splitOnce, if_neg (Ne.symm hc), ih hcs]

/-- A text that splits is the two parts around the separator, which the first
part does not contain. -/
theorem eq_of_splitOnce {text before after : List Char}
    (h : splitOnce sep text = some (before, after)) :
    text = before ++ sep :: after ∧ sep ∉ before := by
  induction text generalizing before with
  | nil => simp [splitOnce] at h
  | cons c cs ih =>
    simp only [splitOnce] at h
    split at h
    · rename_i hc
      obtain ⟨rfl, rfl⟩ := Prod.mk.inj (Option.some.inj h)
      simp [hc]
    · rename_i hc
      split at h
      · rename_i hcs
        obtain ⟨rfl, rfl⟩ := Prod.mk.inj (Option.some.inj h)
        obtain ⟨rfl, hbefore⟩ := ih hcs
        refine ⟨rfl, ?_⟩
        simp [hbefore, Ne.symm hc]
      · cases h

/-- The segments of a text between occurrences of a separator. -/
def splitAll (sep : Char) : List Char → List (List Char)
  | [] => [[]]
  | c :: cs =>
    if c = sep then [] :: splitAll sep cs
    else
      match splitAll sep cs with
      | seg :: rest => (c :: seg) :: rest
      | [] => [[c]]

variable {text : List Char}

/-- A character of a text is in one of its segments, or separates them. -/
theorem mem_splitAll {sep x : Char} (hx : x ∈ text) (hne : x ≠ sep) :
    ∃ seg ∈ splitAll sep text, x ∈ seg := by
  induction text with
  | nil => cases hx
  | cons c cs ih =>
    simp only [splitAll]
    split
    · rename_i hc
      rcases mem_cons.mp hx with rfl | hcs
      · exact absurd hc hne
      · obtain ⟨seg, hseg, hmem⟩ := ih hcs
        exact ⟨seg, mem_cons_of_mem _ hseg, hmem⟩
    · split
      · rename_i head rest hsplit
        rcases mem_cons.mp hx with rfl | hcs
        · exact ⟨_, mem_cons_self .., mem_cons_self ..⟩
        · obtain ⟨seg, hseg, hmem⟩ := ih hcs
          rcases mem_cons.mp (hsplit ▸ hseg) with rfl | hrest
          · exact ⟨_, mem_cons_self .., mem_cons_of_mem _ hmem⟩
          · exact ⟨seg, mem_cons_of_mem _ hrest, hmem⟩
      · rename_i hsplit
        rcases mem_cons.mp hx with rfl | hcs
        · exact ⟨_, mem_cons_self .., mem_cons_self ..⟩
        · obtain ⟨seg, hseg, -⟩ := ih hcs
          rw [hsplit] at hseg
          cases hseg

theorem splitAll_of_not_mem (h : sep ∉ text) :
    splitAll sep text = [text] := by
  induction text with
  | nil => rfl
  | cons c cs ih =>
    have hc : c ≠ sep := (ne_of_not_mem_cons h).symm
    simp only [splitAll, ih (not_mem_of_not_mem_cons h), if_neg hc]

/-! ## Decimal texts -/

/-- A text of ASCII characters has a byte for each. -/
theorem utf8ByteSize_ofList (h : ∀ c ∈ text, c.toNat < 128) :
    (String.ofList text).utf8ByteSize = text.length := by
  induction text with
  | nil => rfl
  | cons c cs ih =>
    have hc : c.utf8Size = 1 := by
      have hlt : c.val.toNat < 128 := h c (mem_cons_self ..)
      exact if_pos (UInt32.le_iff_toNat_le.mpr (Nat.le_of_lt_succ hlt))
    rw [String.ofList_cons, String.utf8ByteSize_append, String.utf8ByteSize_singleton, hc,
      ih fun d hd => h d (mem_cons_of_mem _ hd), length_cons, Nat.add_comm]

theorem isDigit_toString {n : ℕ} {c : Char} (h : c ∈ (toString n).toList) : c.isDigit = true := by
  rw [Nat.toString_eq_repr, Nat.toList_repr] at h
  exact Nat.isDigit_of_mem_toDigits (by omega) (by omega) h

theorem parseDigits_toString (n : ℕ) : parseDigits (toString n).toList = some n := by
  have hdigits : (toString n).toList.all Char.isDigit = true :=
    all_eq_true.mpr fun _ => isDigit_toString
  have hne : (toString n).toList.isEmpty = false := by
    rw [Nat.toString_eq_repr, Nat.toList_repr]
    exact isEmpty_eq_false_iff.mpr Nat.toDigits_ne_nil
  rw [parseDigits, hne, hdigits, Bool.not_true, Bool.or_self, if_neg Bool.false_ne_true,
    Nat.toString_eq_repr, Nat.toList_repr, ← Nat.ofDigitChars_eq_foldl,
    Nat.ofDigitChars_ten_toDigits]

/-- A text of digits has no sign to skip. -/
theorem parseDecimal_of_digits {s : String} (h : s.toList.all Char.isDigit = true) :
    parseDecimal s = parseDigits s.toList := by
  unfold parseDecimal
  split
  · rename_i digits hplus
    rw [hplus] at h
    exact absurd (all_eq_true.mp h '+' mem_cons_self) (by decide)
  · rfl

/-- **A printed number reads back as itself.** -/
theorem parseDecimal_toString (n : ℕ) : parseDecimal (toString n) = some n := by
  rw [parseDecimal_of_digits (all_eq_true.mpr fun _ => isDigit_toString), parseDigits_toString]

/-- A signed number is printed with digits and a minus sign. -/
theorem mem_toString_int {i : Int} {c : Char} (h : c ∈ (toString i).toList) :
    c = '-' ∨ c.isDigit = true := by
  cases i with
  | ofNat n => exact .inr (isDigit_toString (n := n) h)
  | negSucc n =>
    have hprint : toString (Int.negSucc n) = "-" ++ toString (n + 1) := rfl
    rw [hprint, String.toList_append] at h
    rcases mem_append.mp h with hminus | hdigit
    · exact .inl (mem_singleton.mp hminus)
    · exact .inr (isDigit_toString hdigit)

/-- **A printed signed number reads back as itself.** -/
theorem parseI64_toString (i : Int64) : parseI64 (toString i.toInt) = some i := by
  have hmin := i.le_toInt
  have hmax := i.toInt_lt
  cases hi : i.toInt with
  | ofNat n =>
    have hn : i.toInt = n := hi
    have hprint : toString (Int.ofNat n) = toString n := rfl
    rw [hprint]
    unfold parseI64
    split
    · rename_i digits hminus
      have hmem : '-' ∈ (toString n).toList := hminus ▸ mem_cons_self
      exact absurd (isDigit_toString hmem) (by decide)
    · rw [parseDecimal_toString]
      simp only
      rw [if_pos (by omega), ← hn, Int64.ofInt_toInt]
  | negSucc n =>
    have hn : i.toInt = -((n + 1 : ℕ) : Int) := by
      rw [hi]
      omega
    have hprint : toString (Int.negSucc n) = "-" ++ toString (n + 1) := rfl
    have hchars : (toString (Int.negSucc n)).toList = '-' :: (toString (n + 1)).toList := by
      rw [hprint, String.toList_append]
      rfl
    unfold parseI64
    rw [hchars]
    simp only
    rw [parseDigits_toString]
    simp only
    rw [if_pos (by omega), ← hn, Int64.ofInt_toInt]

/-- A number of at most `k` digits prints as at most `k` bytes. -/
theorem utf8ByteSize_toString_le {n k : ℕ} (hk : 0 < k) (h : n < 10 ^ k) :
    (toString n).utf8ByteSize ≤ k := by
  have hascii : ∀ c ∈ (toString n).toList, c.toNat < 128 := by
    intro c hc
    have hdigit := isDigit_toString hc
    simp only [Char.isDigit, Bool.and_eq_true, decide_eq_true_eq, UInt32.le_iff_toNat_le] at hdigit
    have hnine : '9'.val.toNat = 57 := rfl
    have hval : c.toNat = c.val.toNat := rfl
    omega
  have hsize := utf8ByteSize_ofList hascii
  rw [String.ofList_toList] at hsize
  rw [hsize, Nat.toString_eq_repr, Nat.toList_repr]
  exact (Nat.length_toDigits_le_iff (by omega) hk).mpr h

/-! ## Globs -/

/-- The variables of the matching loop. -/
structure GlobState where
  p : ℕ
  v : ℕ
  star : Option ℕ
  resume : ℕ

/-- `*` -/
def starByte : UInt8 := 42

/-- `?` -/
def questionByte : UInt8 := 63

/-- The matching loop: one iteration per unit of fuel. -/
def globLoop (pattern value : List UInt8) : ℕ → GlobState → Bool
  | 0, _ => false
  | fuel + 1, g =>
    match value[g.v]? with
    | none => (pattern.drop g.p).all (· = starByte)
    | some byte =>
      if pattern[g.p]? = some starByte then
        globLoop pattern value fuel { g with p := g.p + 1, star := some g.p, resume := g.v }
      else if pattern[g.p]? = some questionByte || pattern[g.p]? = some byte then
        globLoop pattern value fuel { g with p := g.p + 1, v := g.v + 1 }
      else
        match g.star with
        | some index =>
          globLoop pattern value fuel
            { g with p := index + 1, resume := g.resume + 1, v := g.resume + 1 }
        | none => false

/-- The pattern matches the value in full. -/
def isGlobMatch (pattern value : String) : Bool :=
  globLoop (utf8Bytes pattern) (utf8Bytes value)
    (((utf8Bytes value).length + 2) * ((utf8Bytes pattern).length + 2)) ⟨0, 0, none, 0⟩

/-! ## Git refs -/

/-- A text occurs somewhere in another. -/
def isInfixText (needle : List Char) : List Char → Bool
  | [] => needle.isEmpty
  | c :: cs => (stripHead needle (c :: cs)).isSome || isInfixText needle cs

def isSafeRefShape (value : String) (wildcards : Bool) : Bool :=
  let text := value.toList
  (stripHead "refs/".toList text).isSome && value.utf8ByteSize ≤ 256 &&
    !(text.getLast?.any fun c => c == '/' || c == '.') &&
    !isInfixText "//".toList text && !isInfixText "..".toList text &&
    !isInfixText ['@', Char.ofNat 123] text &&
    text.all (fun c => c.isAlphanum || c == '/' || c == '-' || c == '_' || c == '.' ||
      (wildcards && (c == '*' || c == '?'))) &&
    ((splitAll '/' text).drop 1).all fun seg =>
      !seg.isEmpty && seg.head? != some '.' &&
        !(stripTail ".lock".toList (seg.map Char.toLower)).isSome

def isSafeGitRef (value : String) : Bool := isSafeRefShape value false

def isSafeGitRefPattern (value : String) : Bool := isSafeRefShape value true

/-- A workflow file name, or a pattern for one. -/
def isSafeWorkflowShape (value : String) (wildcards : Bool) : Bool :=
  !value.isEmpty && !value.toList.contains '/' && value.utf8ByteSize ≤ 128 &&
    value.toList.all fun c =>
      c.isAlphanum || c == '-' || c == '_' || c == '.' || (wildcards && (c == '*' || c == '?'))

end FlanForge
