import FlanForge.Common.Checks
import FlanForge.Common.Keyset
import FlanForge.Core.Text

/-!
# Allocation history

The history of allocations as the web interface pages through it, newest
first. A page ends with a cursor, the update time and the identity of its
last row, which travels as text; the next page holds what comes strictly
before it. Rows of one second are told apart by their identity, in the order
the database has for texts: a `Collation` is any total order.

`readPages` asks for page after page with the cursor it was given last, and
with a limit that may change from page to page. Of a row only the columns
the query reads are kept.
-/

namespace FlanForge

open List

/-! ## Rows and cursors -/

/-- A row of the allocation table. -/
structure AllocationModel where
  id : String
  profile : String
  state : String
  updatedAtUnix : Int64
  deriving DecidableEq

/-- The order the database compares identities in. -/
structure Collation where
  le : String → String → Bool
  total : ∀ a b, le a b = true ∨ le b a = true
  trans : ∀ a b c, le a b = true → le b c = true → le a c = true
  antisymm : ∀ a b, le a b = true → le b a = true → a = b

def Collation.lt (collation : Collation) (a b : String) : Bool := !collation.le b a

/-- A position in the history: the page continues strictly before it. -/
structure AllocationCursor where
  updatedAtUnix : Int64
  id : String
  deriving DecidableEq

namespace AllocationCursor

def parse (value : String) : Option AllocationCursor :=
  match splitOnce ':' value.toList with
  | none => none
  | some (updated, id) =>
    match parseI64 (String.ofList updated) with
    | none => none
    | some updatedAtUnix => some ⟨updatedAtUnix, String.ofList id⟩

def encode (cursor : AllocationCursor) : String :=
  toString cursor.updatedAtUnix.toInt ++ ":" ++ cursor.id

end AllocationCursor

/-! ## The query -/

def maxPageSize : ℕ := 200
def defaultPageSize : ℕ := 50

/-- The limit of a page, as it is applied. -/
def pageLimit (limit : Option UInt64) : ℕ :=
  max 1 (min (limit.elim defaultPageSize UInt64.toNat) maxPageSize)

namespace AllocationModel

/-- `ORDER BY updated_at_unix DESC, id DESC`: the first row comes no later. -/
def IsNewer (collation : Collation) (a b : AllocationModel) : Prop :=
  b.updatedAtUnix < a.updatedAtUnix ∨
    (b.updatedAtUnix = a.updatedAtUnix ∧ collation.le b.id a.id = true)

instance (collation : Collation) : DecidableRel (IsNewer collation) :=
  fun _ _ => inferInstanceAs (Decidable (_ ∨ _))

/-- The row passes the filters. -/
def isSelected (profile state : Option String) (row : AllocationModel) : Bool :=
  profile.all (row.profile = ·) && state.all (row.state = ·)

/-- The row comes strictly before the cursor. -/
def isBefore (collation : Collation) (cursor : AllocationCursor) (row : AllocationModel) : Bool :=
  row.updatedAtUnix < cursor.updatedAtUnix ||
    (row.updatedAtUnix = cursor.updatedAtUnix && collation.lt row.id cursor.id)

def cursor (row : AllocationModel) : AllocationCursor := ⟨row.updatedAtUnix, row.id⟩

end AllocationModel

/-- One page of the history, newest first, and where the next one begins. -/
def allocationsPage (collation : Collation) (table : List AllocationModel)
    (profile state : Option String) (limit : Option UInt64) (before : Option AllocationCursor) :
    List AllocationModel × Option AllocationCursor :=
  let rows := ((table.filter fun row => row.isSelected profile state &&
    before.all (row.isBefore collation)).insertionSort
      (AllocationModel.IsNewer collation)).take (pageLimit limit)
  (rows, if rows.length = pageLimit limit then rows.getLast?.map AllocationModel.cursor else none)

inductive WebuiFault
  | invalid (reason : String)
  deriving DecidableEq, Repr

/-- The request of the web interface, with the cursor as text. -/
def historyPage (collation : Collation) (table : List AllocationModel)
    (profile state : Option String) (limit : Option UInt64) (before : Option String) :
    Except WebuiFault (List AllocationModel × Option String) := do
  let cursor ← match before with
    | none => .ok none
    | some value =>
      match AllocationCursor.parse value with
      | some cursor => .ok (some cursor)
      | none => .error (.invalid "invalid cursor")
  let (rows, next) := allocationsPage collation table profile state limit cursor
  return (rows, next.map AllocationCursor.encode)

/-- Ask for pages until one has no cursor, at most so many; the n-th page is
asked for with the n-th limit. -/
def readPages (collation : Collation) (table : List AllocationModel)
    (profile state : Option String) (limits : ℕ → Option UInt64) :
    ℕ → ℕ → Option String → Except WebuiFault (Option (List (List AllocationModel)))
  | 0, _, _ => .ok none
  | fuel + 1, n, before => do
    let (rows, next) ← historyPage collation table profile state (limits n) before
    match next with
    | none => return some [rows]
    | some cursor =>
      let rest ← readPages collation table profile state limits fuel (n + 1) (some cursor)
      return rest.map (rows :: ·)

/-! ## The cursor as text -/

/-- **A cursor survives its text.** The update time has no colon, so the first
one is the separator, whatever the identity holds. -/
theorem AllocationCursor.parse_encode (cursor : AllocationCursor) :
    parse cursor.encode = some cursor := by
  have hsep : ':' ∉ (toString cursor.updatedAtUnix.toInt).toList := by
    intro hmem
    rcases mem_toString_int hmem with hminus | hdigit
    · cases hminus
    · exact absurd hdigit (by decide)
  have htext : cursor.encode.toList =
      (toString cursor.updatedAtUnix.toInt).toList ++ ':' :: cursor.id.toList := by
    rw [encode, String.toList_append, String.toList_append, append_assoc]
    rfl
  rw [parse, htext, splitOnce_append _ hsep]
  simp only [String.ofList_toList, parseI64_toString]

/-! ## The order of the listing -/

namespace AllocationModel

variable {collation : Collation} {a b : AllocationModel}

theorem isNewer_total (a b : AllocationModel) : IsNewer collation a b ∨ IsNewer collation b a := by
  unfold IsNewer
  by_cases heq : a.updatedAtUnix = b.updatedAtUnix
  · rcases collation.total a.id b.id with hle | hle
    · exact .inr (.inr ⟨heq, hle⟩)
    · exact .inl (.inr ⟨heq.symm, hle⟩)
  · rcases Int64.lt_or_lt_of_ne heq with hlt | hgt
    · exact .inr (.inl hlt)
    · exact .inl (.inl hgt)

theorem isNewer_trans {c : AllocationModel} (hab : IsNewer collation a b)
    (hbc : IsNewer collation b c) : IsNewer collation a c := by
  rcases hab with hab | ⟨hab, hid⟩
  · rcases hbc with hbc | ⟨hbc, -⟩
    · exact .inl (Int64.lt_trans hbc hab)
    · exact .inl (hbc ▸ hab)
  · rcases hbc with hbc | ⟨hbc, hid'⟩
    · exact .inl (hab ▸ hbc)
    · exact .inr ⟨hbc.trans hab, collation.trans _ _ _ hid' hid⟩

instance : Std.Total (IsNewer collation) := ⟨isNewer_total⟩

instance : IsTrans AllocationModel (IsNewer collation) := ⟨fun _ _ _ => isNewer_trans⟩

/-- Two rows that each come no later than the other have one identity. -/
theorem id_eq_of_isNewer (hab : IsNewer collation a b) (hba : IsNewer collation b a) :
    a.id = b.id := by
  rcases hab with hab | ⟨hab, hid⟩
  · rcases hba with hba | ⟨hba, -⟩
    · exact absurd (Int64.lt_trans hab hba) (Int64.lt_irrefl)
    · exact absurd (hba ▸ hab) (Int64.lt_irrefl)
  · rcases hba with hba | ⟨-, hid'⟩
    · exact absurd (hab ▸ hba) (Int64.lt_irrefl)
    · exact collation.antisymm _ _ hid' hid

/-- The query's condition on the cursor is the strict side of the order. -/
theorem isBefore_cursor : a.isBefore collation b.cursor = decide (¬ IsNewer collation a b) := by
  rw [Bool.eq_iff_iff, decide_eq_true_eq]
  simp only [isBefore, Collation.lt, Bool.or_eq_true, Bool.and_eq_true, decide_eq_true_eq,
    Bool.not_eq_true']
  simp only [cursor, IsNewer]
  by_cases heq : a.updatedAtUnix = b.updatedAtUnix
  · simp [heq]
  · have hsym : b.updatedAtUnix ≠ a.updatedAtUnix := Ne.symm heq
    simp only [heq, hsym, false_and, or_false, Int64.not_lt]
    exact ⟨Int64.le_of_lt, fun hle => Int64.lt_of_le_of_ne hle heq⟩

end AllocationModel

/-! ## Pages -/

section Pages

open AllocationModel

variable {collation : Collation} {table : List AllocationModel} {profile state : Option String}
variable {limit : Option UInt64} {seen left : List AllocationModel}

/-- The whole listing. -/
def listing (collation : Collation) (table : List AllocationModel) (profile state : Option String) :
    List AllocationModel :=
  (table.filter (isSelected profile state)).insertionSort (IsNewer collation)

theorem pageLimit_pos (limit : Option UInt64) : 1 ≤ pageLimit limit := Nat.le_max_left _ _

/-- Identities are unique, so the order tells the selected rows apart. -/
theorem separates_selected (hunique : (table.map (·.id)).Nodup) :
    Keyset.Separates (IsNewer collation) (table.filter (isSelected profile state)) := by
  intro a ha b hb hab hba
  exact inj_on_of_nodup_map hunique (mem_of_mem_filter ha) (mem_of_mem_filter hb)
    (id_eq_of_isNewer hab hba)

/-- The rows of a page are the next ones of the listing. -/
theorem allocationsPage_rows (hunique : (table.map (·.id)).Nodup)
    (hsplit : listing collation table profile state = seen ++ left) :
    (allocationsPage collation table profile state limit (seen.getLast?.map cursor)).1 =
      left.take (pageLimit limit) := by
  unfold allocationsPage
  simp only
  congr 1
  rcases eq_nil_or_concat' seen with rfl | ⟨before, y, rfl⟩
  · simpa [listing] using hsplit
  · have hfilter : (table.filter fun row => row.isSelected profile state &&
        ((before ++ [y]).getLast?.map cursor).all (row.isBefore collation)) =
        (table.filter (isSelected profile state)).filter fun row => ¬ IsNewer collation row y := by
      rw [filter_filter]
      refine filter_congr fun row _ => ?_
      rw [List.getLast?_concat, Option.map_some, Option.all_some, isBefore_cursor, Bool.and_comm]
    have hsplit' : listing collation table profile state = before ++ y :: left := by
      rw [hsplit, append_assoc, singleton_append]
    rw [hfilter]
    exact Keyset.sort_after (separates_selected hunique)
      ((List.Nodup.of_map _ hunique).filter _) hsplit'

/-- A page that is full ends with the cursor of its last row. -/
theorem allocationsPage_next {rows : List AllocationModel} {before : Option AllocationCursor}
    (h : (allocationsPage collation table profile state limit before).1 = rows) :
    (allocationsPage collation table profile state limit before).2 =
      if rows.length = pageLimit limit then rows.getLast?.map cursor else none := by
  subst h
  rfl

/-- A cursor that came from a page is understood. -/
theorem historyPage_encode (before : Option AllocationCursor) :
    historyPage collation table profile state limit (before.map AllocationCursor.encode) =
      .ok ((allocationsPage collation table profile state limit before).1,
        (allocationsPage collation table profile state limit before).2.map
          AllocationCursor.encode) := by
  cases before with
  | none => rfl
  | some cursor =>
    simp only [historyPage, Option.map_some, AllocationCursor.parse_encode]
    rfl

/-- From any position, the pages that follow are the rest of the listing. -/
theorem readPages_rest (hunique : (table.map (·.id)).Nodup) {limits : ℕ → Option UInt64}
    {fuel n : ℕ} (hsplit : listing collation table profile state = seen ++ left)
    (hfuel : left.length < fuel) :
    ∃ pages, readPages collation table profile state limits fuel n
        ((seen.getLast?.map cursor).map AllocationCursor.encode) = .ok (some pages) ∧
      pages.flatten = left := by
  -- each full page shortens the rest by at least one row
  induction fuel generalizing n seen left with
  | zero => omega
  | succ fuel ih =>
    have hrows : (allocationsPage collation table profile state (limits n)
        (seen.getLast?.map cursor)).1 = left.take (pageLimit (limits n)) :=
      allocationsPage_rows hunique hsplit
    have hnext := allocationsPage_next hrows
    have hpos := pageLimit_pos (limits n)
    rw [readPages, historyPage_encode, hrows, hnext]
    by_cases hfull : (left.take (pageLimit (limits n))).length = pageLimit (limits n)
    · have hlength := hfull
      rw [length_take] at hlength
      have hsplit' : listing collation table profile state =
          (seen ++ left.take (pageLimit (limits n))) ++ left.drop (pageLimit (limits n)) := by
        rw [hsplit, append_assoc, take_append_drop]
      have hshorter : (left.drop (pageLimit (limits n))).length < fuel := by
        rw [length_drop]
        omega
      obtain ⟨pages, hpages, hflat⟩ := ih (n := n + 1) hsplit' hshorter
      obtain ⟨z, hz⟩ : ∃ z, (left.take (pageLimit (limits n))).getLast? = some z := by
        refine Option.isSome_iff_exists.mp (List.getLast?_isSome.mpr fun hnil => ?_)
        rw [hnil, length_nil] at hfull
        omega
      rw [List.getLast?_append, hz, Option.some_or] at hpages
      refine ⟨left.take (pageLimit (limits n)) :: pages, ?_, ?_⟩
      · rw [if_pos hfull, hz]
        simp only [Option.map_some] at hpages ⊢
        simp only [ok_bind, hpages, Option.map_some]
        rfl
      · rw [flatten_cons, hflat, take_append_drop]
    · -- the rest is shorter than the limit, and this is the last page
      rw [length_take] at hfull
      have hall : left.take (pageLimit (limits n)) = left := take_of_length_le (by omega)
      refine ⟨[left], ?_, flatten_singleton⟩
      rw [if_neg (by rw [length_take]; exact hfull), hall]
      rfl

/-- The newer rows of the listing come strictly before the older. -/
theorem listing_strict (hunique : (table.map (·.id)).Nodup) :
    (listing collation table profile state).Pairwise fun a b =>
      b.updatedAtUnix < a.updatedAtUnix ∨
        (b.updatedAtUnix = a.updatedAtUnix ∧ collation.lt b.id a.id = true) := by
  have hsorted := pairwise_insertionSort (IsNewer collation)
    (table.filter (isSelected profile state))
  have hids : ((listing collation table profile state).map (·.id)).Nodup := by
    have hperm := perm_insertionSort (IsNewer collation)
      (table.filter (isSelected profile state))
    exact (hperm.map _).nodup_iff.mpr ((filter_sublist.map _).nodup hunique)
  refine (hsorted.and (pairwise_map.mp hids)).imp fun {a b} h => ?_
  obtain ⟨hlt | ⟨heq, hle⟩, hne⟩ := h
  · exact .inl hlt
  · refine .inr ⟨heq, ?_⟩
    rw [Collation.lt, Bool.not_eq_true']
    exact Bool.eq_false_iff.mpr fun hge => hne (collation.antisymm _ _ hge hle)

/-- **Paging reads the whole history, once and in order.** Whatever limits the
pages are asked for with, following the cursors ends, after at most one page
more than there are rows; and the pages together are the selected rows, each
once, the newer strictly before the older. -/
theorem paging_reads_history (collation : Collation) (table : List AllocationModel)
    (hunique : (table.map (·.id)).Nodup) (profile state : Option String)
    (limits : ℕ → Option UInt64) :
    ∃ pages, readPages collation table profile state limits (table.length + 1) 0 none =
        .ok (some pages) ∧
      pages.flatten.Perm (table.filter (isSelected profile state)) ∧
      pages.flatten.Pairwise fun a b => b.updatedAtUnix < a.updatedAtUnix ∨
        (b.updatedAtUnix = a.updatedAtUnix ∧ collation.lt b.id a.id = true) := by
  have hperm := perm_insertionSort (IsNewer collation)
    (table.filter (isSelected profile state))
  have hlength : (listing collation table profile state).length < table.length + 1 := by
    have hle := length_filter_le (isSelected profile state) table
    rw [listing, hperm.length_eq]
    omega
  have hsplit : listing collation table profile state =
      [] ++ listing collation table profile state := rfl
  obtain ⟨pages, hpages, hflat⟩ := readPages_rest (n := 0) hunique hsplit hlength
  refine ⟨pages, hpages, hflat ▸ hperm, hflat ▸ listing_strict hunique⟩

/-- Texts in the order of their bytes. -/
def binaryCollation : Collation where
  le a b := a ≤ b
  total a b := by simpa using String.le_total a b
  trans a b c hab hbc := by simpa using String.le_trans (by simpa using hab) (by simpa using hbc)
  antisymm a b hab hba := String.le_antisymm (by simpa using hab) (by simpa using hba)

/-- Two rows of one second. -/
def sameSecond : List AllocationModel := [⟨"a", "p", "failed", 7⟩, ⟨"b", "p", "failed", 7⟩]

theorem paging_reads_same_second :
    ∃ pages, readPages binaryCollation sameSecond none none (fun _ => some 1) 3 0 none =
        .ok (some pages) ∧
      pages.flatten.Perm (sameSecond.filter (isSelected none none)) := by
  obtain ⟨pages, hpages, hperm, -⟩ :=
    paging_reads_history binaryCollation sameSecond (by decide) none none fun _ => some 1
  exact ⟨pages, hpages, hperm⟩

example : readPages binaryCollation sameSecond none none (fun _ => some 1) 3 0 none =
    .ok (some [[⟨"b", "p", "failed", 7⟩], [⟨"a", "p", "failed", 7⟩], []]) := by
  decide +kernel

end Pages

end FlanForge
