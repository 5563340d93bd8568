import Mathlib.Data.List.Nodup

/-!
# Keyed tables

A table with a key column, as a list of rows: lookup, insert-or-update,
deletion and an in-place change of one row. A row is found by its key, a
row that is written twice is updated where it stands, and the order of the
rows carries no meaning. `Unique` says that no key occurs twice; every
operation keeps it.
-/

namespace FlanForge

open List

namespace Table

variable {α κ : Type} [DecidableEq κ] (key : α → κ)

/-- The row under a key. -/
def get (k : κ) (l : List α) : Option α := l.find? fun a => key a = k

/-- Insert a row, or update the one under its key. -/
def put (a : α) : List α → List α
  | [] => [a]
  | b :: l => if key b = key a then a :: l else b :: put a l

/-- Delete the row under a key. -/
def erase (k : κ) (l : List α) : List α := l.filter fun a => key a ≠ k

/-- Change the row under a key, if there is one. -/
def modify (k : κ) (f : α → α) (l : List α) : List α :=
  l.map fun a => if key a = k then f a else a

/-- No key occurs twice. -/
def Unique (l : List α) : Prop := (l.map key).Nodup

variable {key} {a b : α} {k k' : κ} {l : List α} {f : α → α}

/-! ## Lookup -/

theorem mem_of_get (h : get key k l = some a) : a ∈ l := mem_of_find?_eq_some h

theorem key_of_get (h : get key k l = some a) : key a = k := by
  simpa using List.find?_some h

theorem get_eq_none : get key k l = none ↔ ∀ a ∈ l, key a ≠ k := by
  simp [get]

/-- In a table without double keys a row is what its key finds. -/
theorem get_of_mem (hl : Unique key l) (ha : a ∈ l) : get key (key a) l = some a := by
  induction l with
  | nil => simp at ha
  | cons b l ih =>
    simp only [Unique, map_cons, nodup_cons, mem_map, not_exists, not_and] at hl
    rcases mem_cons.mp ha with rfl | ha
    · simp [get]
    · have hne : key b ≠ key a := fun h => hl.1 a ha h.symm
      simpa [get, hne] using ih hl.2 ha

/-! ## Insert or update -/

@[simp] theorem get_put_self : get key (key a) (put key a l) = some a := by
  induction l with
  | nil => simp [put, get]
  | cons b l ih =>
    simp only [put]
    split
    · simp [get]
    · rename_i hb
      simpa [get, hb] using ih

theorem get_put_of_ne (h : key a ≠ k) : get key k (put key a l) = get key k l := by
  induction l with
  | nil => simp [put, get, h]
  | cons b l ih =>
    simp only [put]
    split
    · rename_i hb
      simp [get, h, hb]
    · by_cases hbk : key b = k
      · simp [get, hbk]
      · simpa [get, hbk] using ih

theorem mem_put (h : b ∈ put key a l) : b = a ∨ b ∈ l := by
  induction l with
  | nil => simpa [put] using h
  | cons c l ih =>
    simp only [put] at h
    split at h
    · rcases mem_cons.mp h with h | h
      · exact .inl h
      · exact .inr (mem_cons_of_mem _ h)
    · rcases mem_cons.mp h with rfl | h
      · exact .inr (by simp)
      · exact (ih h).imp id (mem_cons_of_mem _)

theorem mem_put_self : a ∈ put key a l := mem_of_get get_put_self

/-- The rows under other keys stay. -/
theorem mem_put_of_mem (hb : b ∈ l) (hne : key b ≠ key a) : b ∈ put key a l := by
  induction l with
  | nil => cases hb
  | cons c l ih =>
    simp only [put]
    split
    · rename_i hc
      rcases mem_cons.mp hb with rfl | hb
      · exact absurd hc hne
      · exact mem_cons_of_mem _ hb
    · rcases mem_cons.mp hb with rfl | hb
      · exact mem_cons_self
      · exact mem_cons_of_mem _ (ih hb)

omit [DecidableEq κ] in
theorem unique_nil : Unique key ([] : List α) := nodup_nil

theorem unique_put (hl : Unique key l) : Unique key (put key a l) := by
  induction l with
  | nil => simp [put, Unique]
  | cons b l ih =>
    simp only [Unique, map_cons, nodup_cons, mem_map, not_exists, not_and] at hl
    simp only [put]
    split
    · rename_i hb
      simpa [Unique, hb] using hl
    · rename_i hb
      simp only [Unique, map_cons, nodup_cons, mem_map, not_exists, not_and]
      refine ⟨fun c hc => ?_, ih hl.2⟩
      rcases mem_put hc with rfl | hc
      · exact fun h => hb h.symm
      · exact hl.1 c hc

/-! ## Deletion -/

@[simp] theorem get_erase_self : get key k (erase key k l) = none := by
  simp [get_eq_none, erase]

theorem get_erase_of_ne (h : k' ≠ k) : get key k (erase key k' l) = get key k l := by
  induction l with
  | nil => rfl
  | cons b l ih =>
    by_cases hb : key b = k'
    · have hbk : key b ≠ k := by rwa [hb]
      simpa [erase, get, hb, hbk, h] using ih
    · by_cases hbk : key b = k
      · have hk' : k ≠ k' := Ne.symm h
        simp [erase, get, hbk, hk']
      · simpa [erase, get, hb, hbk] using ih

theorem mem_erase : a ∈ erase key k l ↔ a ∈ l ∧ key a ≠ k := by simp [erase]

theorem erase_put : erase key (key a) (put key a l) = erase key (key a) l := by
  induction l with
  | nil => simp [put, erase]
  | cons b l ih =>
    by_cases hb : key b = key a
    · simp [put, erase, hb]
    · simp only [put, hb, if_false]
      simpa [erase, hb] using ih

theorem unique_erase (hl : Unique key l) : Unique key (erase key k l) :=
  hl.sublist (filter_sublist.map key)

/-! ## Change of one row -/

section Modify

variable (hf : ∀ a, key a = k → key (f a) = k)

include hf

theorem get_modify_self : get key k (modify key k f l) = (get key k l).map f := by
  induction l with
  | nil => rfl
  | cons b l ih =>
    by_cases hb : key b = k
    · simp [modify, get, hb, hf b hb]
    · simpa [modify, get, hb] using ih

theorem get_modify_of_ne (h : k ≠ k') : get key k' (modify key k f l) = get key k' l := by
  induction l with
  | nil => rfl
  | cons b l ih =>
    by_cases hb : key b = k
    · have hfb : key (f b) ≠ k' := by rwa [hf b hb]
      simpa [modify, get, hb, hfb, h] using ih
    · by_cases hbk : key b = k'
      · simp [modify, get, hbk, Ne.symm h]
      · simpa [modify, get, hb, hbk] using ih

theorem unique_modify (hl : Unique key l) : Unique key (modify key k f l) := by
  have hmap : (modify key k f l).map key = l.map key := by
    simp only [modify, map_map]
    refine map_congr_left fun a _ => ?_
    by_cases ha : key a = k
    · simp [ha, hf a ha]
    · simp [ha]
  rwa [Unique, hmap]

end Modify

/-- Writing a row that is there changes it where it stands. -/
theorem put_eq_modify (hl : Unique key l) (hb : b ∈ l) (hkey : key b = key a) :
    put key a l = modify key (key a) (fun _ => a) l := by
  induction l with
  | nil => simp at hb
  | cons c l ih =>
    simp only [Unique, map_cons, nodup_cons, mem_map, not_exists, not_and] at hl
    rcases mem_cons.mp hb with rfl | hb
    · have hrest : ∀ d ∈ l, (if key d = key a then a else d) = d := fun d hd =>
        if_neg fun h => hl.1 d hd (h.trans hkey.symm)
      simp only [put, modify, hkey, if_true, map_cons]
      rw [map_congr_left hrest, map_id']
    · have hc : key c ≠ key a := fun h => hl.1 b hb (hkey.trans h.symm)
      simpa [put, modify, hc] using ih hl.2 hb

theorem mem_modify (h : b ∈ modify key k f l) :
    (∃ a ∈ l, key a = k ∧ b = f a) ∨ (b ∈ l ∧ key b ≠ k) := by
  simp only [modify, mem_map] at h
  obtain ⟨a, ha, rfl⟩ := h
  by_cases hk : key a = k
  · exact .inl ⟨a, ha, hk, by simp [hk]⟩
  · exact .inr (by simp [hk, ha])

end Table

end FlanForge
