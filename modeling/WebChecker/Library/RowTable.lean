import Mathlib.Data.List.Nodup
import Mathlib.Data.List.Sort
import Mathlib.Tactic.Common

/-!
# Rowid tables and keyed tables

Two table shapes of a relational store, with the invariant of each carried by its type.

* `RowTable` — rows with an integer primary key, kept in key order.  An insertion takes the key
  `max + 1` (`1` in an empty table), so a key *can* come back after its row was deleted: this is
  the rule of an integer primary key that is not declared `AUTOINCREMENT`.
* `KeyTable` — rows with a caller-chosen key, at most one row per key, written by `upsert`.

Neither names a particular schema.  The point of the invariants is that a table with a repeated
key cannot be written down, so no later proof has to exclude one.
-/

namespace Relational

universe u v

/-! ## Rowid tables -/

/-- Rows with an integer primary key. -/
class HasRowId (α : Type u) where
  rowId : α → ℕ

export HasRowId (rowId)

/-- A table with an integer primary key: its rows in key order, hence without a repeated key. -/
structure RowTable (α : Type u) [HasRowId α] where
  rows : List α
  increasing : rows.Pairwise fun a b => rowId a < rowId b

namespace RowTable

variable {α : Type u} [HasRowId α]

/-- The table without rows. -/
def empty : RowTable α := ⟨[], List.Pairwise.nil⟩

/-- A table is its rows. -/
lemma ext_rows {t t' : RowTable α} (h : t.rows = t'.rows) : t = t' := by
  cases t
  cases t'
  simpa using h

/-- The keys in use. -/
def ids (t : RowTable α) : List ℕ := t.rows.map rowId

/-- The key the next insertion takes: one more than the largest key, or `1`. -/
def nextId (t : RowTable α) : ℕ := t.ids.foldr max 0 + 1

@[simp] lemma rows_empty : (empty : RowTable α).rows = [] := rfl

lemma mem_ids {t : RowTable α} {i : ℕ} : i ∈ t.ids ↔ ∃ r ∈ t.rows, rowId r = i := by
  simp [ids]

lemma rowId_mem_ids {t : RowTable α} {r : α} (h : r ∈ t.rows) : rowId r ∈ t.ids :=
  mem_ids.mpr ⟨r, h, rfl⟩

/-- Every member of a list of naturals is at most its running maximum. -/
lemma le_foldr_max {l : List ℕ} {i : ℕ} (h : i ∈ l) : i ≤ l.foldr max 0 := by
  induction l with
  | nil => simp at h
  | cons a l ih =>
      rw [List.foldr_cons]
      rcases List.mem_cons.mp h with rfl | h
      · exact Nat.le_max_left _ _
      · exact (ih h).trans (Nat.le_max_right _ _)

/-- A running maximum that is not the starting value is attained. -/
lemma foldr_max_mem : ∀ {l : List ℕ}, l.foldr max 0 ≠ 0 → l.foldr max 0 ∈ l
  | [], h => absurd rfl h
  | a :: l, h => by
      rw [List.foldr_cons] at h ⊢
      rcases le_total a (l.foldr max 0) with hle | hle
      · rw [max_eq_right hle] at h ⊢
        exact List.mem_cons_of_mem _ (foldr_max_mem h)
      · rw [max_eq_left hle]
        exact List.mem_cons_self

/-- **The next key is above every key in use.** -/
lemma rowId_lt_nextId {t : RowTable α} {r : α} (h : r ∈ t.rows) : rowId r < t.nextId :=
  Nat.lt_succ_of_le (le_foldr_max (rowId_mem_ids h))

lemma nextId_notMem_ids (t : RowTable α) : t.nextId ∉ t.ids := by
  intro h
  obtain ⟨r, hr, hid⟩ := mem_ids.mp h
  exact absurd (rowId_lt_nextId hr) (by omega)

lemma nodup_ids (t : RowTable α) : t.ids.Nodup :=
  List.pairwise_map.mpr (t.increasing.imp Nat.ne_of_lt)

/-- Two rows with one key are one row. -/
lemma eq_of_rowId_eq {t : RowTable α} {a b : α} (ha : a ∈ t.rows) (hb : b ∈ t.rows)
    (h : rowId a = rowId b) : a = b :=
  List.inj_on_of_nodup_map t.nodup_ids ha hb h

/-! ### Insertion -/

/-- Insert one row.  The row is built from the key it is given. -/
def insert (t : RowTable α) (mk : ℕ → α) (h : ∀ n, rowId (mk n) = n) : RowTable α where
  rows := t.rows ++ [mk t.nextId]
  increasing := by
    refine List.pairwise_append.mpr ⟨t.increasing, List.pairwise_singleton _ _, ?_⟩
    intro a ha b hb
    rw [List.mem_singleton.mp hb, h]
    exact rowId_lt_nextId ha

lemma rows_insert (t : RowTable α) (mk : ℕ → α) (h : ∀ n, rowId (mk n) = n) :
    (t.insert mk h).rows = t.rows ++ [mk t.nextId] := rfl

lemma foldr_max_append_singleton (l : List ℕ) (n : ℕ) :
    (l ++ [n]).foldr max 0 = max (l.foldr max 0) n := by
  induction l with
  | nil => simp
  | cons a l ih => rw [List.cons_append, List.foldr_cons, ih, List.foldr_cons, max_assoc]

@[simp] lemma nextId_insert (t : RowTable α) (mk : ℕ → α) (h : ∀ n, rowId (mk n) = n) :
    (t.insert mk h).nextId = t.nextId + 1 := by
  have hids : (t.insert mk h).ids = t.ids ++ [t.nextId] := by
    simp [ids, rows_insert, h]
  rw [nextId, hids, foldr_max_append_singleton]
  simp [nextId]

/-- Insert a row for each element of a list, in list order. -/
def insertAll {β : Type v} (t : RowTable α) (xs : List β) (mk : β → ℕ → α)
    (h : ∀ x n, rowId (mk x n) = n) : RowTable α :=
  xs.foldl (fun t x => t.insert (mk x) (h x)) t

section InsertAll

variable {β : Type v} {mk : β → ℕ → α} {h : ∀ x n, rowId (mk x n) = n}

@[simp] lemma insertAll_nil (t : RowTable α) : t.insertAll [] mk h = t := rfl

lemma insertAll_cons (t : RowTable α) (x : β) (xs : List β) :
    t.insertAll (x :: xs) mk h = (t.insert (mk x) (h x)).insertAll xs mk h := rfl

lemma insertAll_append (t : RowTable α) (xs ys : List β) :
    t.insertAll (xs ++ ys) mk h = (t.insertAll xs mk h).insertAll ys mk h :=
  List.foldl_append

@[simp] lemma nextId_insertAll (t : RowTable α) (xs : List β) :
    (t.insertAll xs mk h).nextId = t.nextId + xs.length := by
  induction xs generalizing t with
  | nil => rfl
  | cons x xs ih =>
      rw [insertAll_cons, ih, nextId_insert, List.length_cons]
      omega

/-- **A batch of insertions appends consecutive keys**, starting at the next key. -/
lemma rows_insertAll (t : RowTable α) (xs : List β) :
    (t.insertAll xs mk h).rows
      = t.rows ++ (xs.zipIdx t.nextId).map fun p => mk p.1 p.2 := by
  induction xs generalizing t with
  | nil => simp
  | cons x xs ih =>
      rw [insertAll_cons, ih, rows_insert, nextId_insert, List.zipIdx_cons, List.map_cons,
        List.append_assoc, List.singleton_append]

/-- Two batches that build the same rows are one. -/
lemma insertAll_congr {R : β → β → Prop} (hR : ∀ x y, R x y → mk x = mk y) {xs ys : List β}
    (hxy : List.Forall₂ R xs ys) (t : RowTable α) :
    t.insertAll xs mk h = t.insertAll ys mk h := by
  induction hxy generalizing t with
  | nil => rfl
  | @cons x y xs ys hxy _ ih =>
      have hins : t.insert (mk x) (h x) = t.insert (mk y) (h y) := by simp only [hR x y hxy]
      rw [insertAll_cons, insertAll_cons, hins, ih]

/-- The rows of a batch carry keys that were not in use. -/
lemma rowId_ge_of_mem_inserted (h : ∀ x n, rowId (mk x n) = n) {t : RowTable α} {xs : List β}
    {r : α} (hr : r ∈ (xs.zipIdx t.nextId).map fun p => mk p.1 p.2) : t.nextId ≤ rowId r := by
  obtain ⟨⟨x, i⟩, hp, rfl⟩ := List.mem_map.mp hr
  rw [h]
  exact (List.mem_zipIdx hp).1

/-- The keys in use after a batch: the old ones and one interval of new ones. -/
lemma mem_ids_insertAll (h : ∀ x n, rowId (mk x n) = n) {t : RowTable α} {xs : List β} {i : ℕ} :
    i ∈ (t.insertAll xs mk h).ids ↔ i ∈ t.ids ∨ t.nextId ≤ i ∧ i < t.nextId + xs.length := by
  rw [ids, rows_insertAll, List.map_append, List.mem_append, List.map_map]
  refine or_congr Iff.rfl ?_
  have hkeys : (xs.zipIdx t.nextId).map (rowId ∘ fun p => mk p.1 p.2)
      = List.range' t.nextId xs.length := by
    rw [← List.zipIdx_map_snd t.nextId xs]
    exact List.map_congr_left fun p _ => h p.1 p.2
  rw [hkeys, List.mem_range'_1]

end InsertAll

/-! ### Deletion and update -/

/-- Delete the rows that satisfy `p`. -/
def deleteWhere (t : RowTable α) (p : α → Bool) : RowTable α where
  rows := t.rows.filter fun r => !p r
  increasing := t.increasing.filter _

lemma mem_deleteWhere {t : RowTable α} {p : α → Bool} {r : α} :
    r ∈ (t.deleteWhere p).rows ↔ r ∈ t.rows ∧ p r = false := by
  simp [deleteWhere]

/-- Two deletions are one. -/
lemma deleteWhere_deleteWhere (t : RowTable α) (p q : α → Bool) :
    (t.deleteWhere p).deleteWhere q = t.deleteWhere fun r => p r || q r := by
  simp only [deleteWhere, List.filter_filter, mk.injEq]
  refine List.filter_congr fun r _ => ?_
  rw [Bool.not_or, Bool.and_comm]

/-- The keys in use after a deletion. -/
lemma mem_ids_deleteWhere {t : RowTable α} {p : α → Bool} {i : ℕ} :
    i ∈ (t.deleteWhere p).ids ↔ i ∈ t.ids ∧ i ∉ (t.rows.filter p).map rowId := by
  simp only [mem_ids, mem_deleteWhere, List.mem_map, List.mem_filter, not_exists, not_and]
  constructor
  · rintro ⟨r, ⟨hr, hp⟩, rfl⟩
    refine ⟨⟨r, hr, rfl⟩, fun x hx hid => ?_⟩
    rw [eq_of_rowId_eq hx.1 hr hid, hp] at hx
    exact absurd hx.2 Bool.false_ne_true
  · rintro ⟨⟨r, hr, rfl⟩, hnot⟩
    refine ⟨r, ⟨hr, ?_⟩, rfl⟩
    by_contra hp
    exact hnot r ⟨hr, by simpa using hp⟩ rfl

/-- Rewrite the rows that satisfy `p`; a rewrite keeps the key. -/
def updateWhere (t : RowTable α) (p : α → Bool) (f : α → α) (h : ∀ r, rowId (f r) = rowId r) :
    RowTable α where
  rows := t.rows.map fun r => if p r then f r else r
  increasing := by
    refine List.pairwise_map.mpr (t.increasing.imp ?_)
    intro a b hab
    split <;> split <;> simpa [h] using hab

lemma rows_updateWhere (t : RowTable α) (p : α → Bool) (f : α → α)
    (h : ∀ r, rowId (f r) = rowId r) :
    (t.updateWhere p f h).rows = t.rows.map fun r => if p r then f r else r := rfl

lemma mem_updateWhere {t : RowTable α} {p : α → Bool} {f : α → α}
    {h : ∀ r, rowId (f r) = rowId r} {r : α} :
    r ∈ (t.updateWhere p f h).rows ↔ ∃ r' ∈ t.rows, (if p r' then f r' else r') = r :=
  List.mem_map

/-- What holds of every rewritten row holds of every row after the update. -/
lemma forall_mem_updateWhere {t : RowTable α} {p : α → Bool} {f : α → α}
    {h : ∀ r, rowId (f r) = rowId r} {P : α → Prop}
    (hP : ∀ r ∈ t.rows, P (if p r then f r else r)) : ∀ r ∈ (t.updateWhere p f h).rows, P r := by
  intro r hr
  obtain ⟨r', hr', rfl⟩ := mem_updateWhere.mp hr
  exact hP r' hr'

@[simp] lemma ids_updateWhere (t : RowTable α) (p : α → Bool) (f : α → α)
    (h : ∀ r, rowId (f r) = rowId r) : (t.updateWhere p f h).ids = t.ids := by
  rw [ids, rows_updateWhere, List.map_map]
  refine List.map_congr_left fun r _ => ?_
  simp only [Function.comp_apply]
  split
  · exact h r
  · rfl

@[simp] lemma nextId_updateWhere (t : RowTable α) (p : α → Bool) (f : α → α)
    (h : ∀ r, rowId (f r) = rowId r) : (t.updateWhere p f h).nextId = t.nextId := by
  rw [nextId, ids_updateWhere, nextId]

/-! ### Counting a key -/

/-- One row has the key of a row, so a statement `… WHERE id = ? AND …` that selects the row touches
exactly one. -/
lemma countP_rowId_eq {t : RowTable α} {r : α} (hr : r ∈ t.rows) {p : α → Bool} (hp : p r = true) :
    t.rows.countP (fun x => rowId x == rowId r && p x) = 1 := by
  have hnd : (t.rows.filter fun x => rowId x == rowId r && p x).Nodup :=
    (List.Nodup.of_map rowId t.nodup_ids).filter _
  have hmem : ∀ x, x ∈ (t.rows.filter fun x => rowId x == rowId r && p x) ↔ x ∈ [r] := by
    intro x
    rw [List.mem_filter, Bool.and_eq_true, beq_iff_eq, List.mem_singleton]
    constructor
    · rintro ⟨hx, hid, _⟩
      exact eq_of_rowId_eq hx hr hid
    · rintro rfl
      exact ⟨hr, rfl, hp⟩
  have hfilter : (t.rows.filter fun x => rowId x == rowId r && p x) = [r] :=
    List.perm_singleton.mp ((List.perm_ext_iff_of_nodup hnd (List.nodup_singleton r)).mpr hmem)
  rw [List.countP_eq_length_filter, hfilter, List.length_singleton]

/-- The same for a row known to be in a selection of the table. -/
lemma countP_rowId_eq_one_iff {t : RowTable α} {sel p : α → Bool} {i : ℕ}
    (hi : i ∈ (t.rows.filter sel).map rowId) :
    t.rows.countP (fun x => rowId x == i && p x) = 1 ↔
      ∃ r ∈ t.rows.filter sel, (rowId r == i && p r) = true := by
  obtain ⟨r, hr, rfl⟩ := List.mem_map.mp hi
  have hrow := (List.mem_filter.mp hr).1
  constructor
  · intro hcount
    obtain ⟨x, hx, hsel⟩ := List.countP_pos_iff.mp (hcount ▸ Nat.one_pos)
    have hid : rowId x = rowId r := by
      rw [Bool.and_eq_true, beq_iff_eq] at hsel
      exact hsel.1
    exact ⟨r, hr, eq_of_rowId_eq hx hrow hid ▸ hsel⟩
  · rintro ⟨x, hx, hsel⟩
    rw [Bool.and_eq_true, beq_iff_eq] at hsel
    rw [← hsel.1]
    exact countP_rowId_eq (List.mem_filter.mp hx).1 hsel.2

end RowTable

/-! ## Keyed tables -/

/-- Rows with a caller-chosen key. -/
class HasKey (κ : outParam (Type v)) (α : Type u) where
  key : α → κ

export HasKey (key)

/-- A table with a caller-chosen primary key: no two rows share one. -/
structure KeyTable (κ : Type v) (α : Type u) [HasKey κ α] where
  rows : List α
  nodup : (rows.map key).Nodup

namespace KeyTable

variable {κ : Type v} {α : Type u} [HasKey κ α]

/-- The table without rows. -/
def empty : KeyTable κ α := ⟨[], List.nodup_nil⟩

@[simp] lemma rows_empty : (empty : KeyTable κ α).rows = [] := rfl

/-- Two rows with one key are one row. -/
lemma eq_of_key_eq {t : KeyTable κ α} {a b : α} (ha : a ∈ t.rows) (hb : b ∈ t.rows)
    (h : key a = key b) : a = b :=
  List.inj_on_of_nodup_map t.nodup ha hb h

/-- Rewrite every row; a rewrite keeps the key. -/
def update (t : KeyTable κ α) (f : α → α) (h : ∀ r, key (f r) = key r) : KeyTable κ α where
  rows := t.rows.map f
  nodup := by
    rw [List.map_map]
    exact (List.map_congr_left fun r _ => h r) ▸ t.nodup

variable [DecidableEq κ]

/-- The row with key `k`, if there is one. -/
def lookup (t : KeyTable κ α) (k : κ) : Option α := t.rows.find? fun r => key r == k

lemma lookup_eq_some {t : KeyTable κ α} {k : κ} {r : α} :
    t.lookup k = some r ↔ r ∈ t.rows ∧ key r = k := by
  constructor
  · intro h
    exact ⟨List.mem_of_find?_eq_some h, by simpa using List.find?_some h⟩
  · rintro ⟨hr, rfl⟩
    cases hf : t.lookup (key r) with
    | none => simpa using List.find?_eq_none.mp hf r hr
    | some r' =>
        have hk : key r' = key r := by simpa using List.find?_some hf
        rw [eq_of_key_eq (List.mem_of_find?_eq_some hf) hr hk]

lemma lookup_eq_none {t : KeyTable κ α} {k : κ} :
    t.lookup k = none ↔ ∀ r ∈ t.rows, key r ≠ k := by
  simp [lookup, List.find?_eq_none]

@[simp] lemma lookup_empty (k : κ) : (empty : KeyTable κ α).lookup k = none := rfl

/-- `INSERT`: add a row under a key that is free. -/
def insertNew (t : KeyTable κ α) (new : α) (h : t.lookup (key new) = none) : KeyTable κ α where
  rows := t.rows ++ [new]
  nodup := by
    rw [List.map_append, List.nodup_append]
    refine ⟨t.nodup, List.nodup_singleton _, ?_⟩
    rintro a ha b hb rfl
    obtain ⟨r, hr, hra⟩ := List.mem_map.mp ha
    exact lookup_eq_none.mp h r hr (hra.trans (List.mem_singleton.mp hb))

/-- `INSERT … ON CONFLICT DO UPDATE`: rewrite the row with key `k`, or add `new`. -/
def upsert (t : KeyTable κ α) (k : κ) (new : α) (f : α → α) (hnew : key new = k)
    (hf : ∀ r, key (f r) = key r) : KeyTable κ α :=
  if hk : (t.lookup k).isSome then
    t.update (fun r => if key r = k then f r else r) (by intro r; split <;> simp [hf])
  else t.insertNew new (by simpa [hnew] using hk)

variable {k : κ} {new : α} {f : α → α} {hnew : key new = k} {hf : ∀ r, key (f r) = key r}

/-- **What an upsert leaves under its key.** -/
lemma lookup_upsert_self (t : KeyTable κ α) :
    (t.upsert k new f hnew hf).lookup k = some (((t.lookup k).map f).getD new) := by
  rw [lookup_eq_some, upsert]
  split
  · next hsome =>
      obtain ⟨r, hl⟩ := Option.isSome_iff_exists.mp hsome
      obtain ⟨hr, hk⟩ := lookup_eq_some.mp hl
      rw [hl, Option.map_some, Option.getD_some]
      exact ⟨List.mem_map.mpr ⟨r, hr, by rw [if_pos hk]⟩, (hf r).trans hk⟩
  · next hnone =>
      rw [Option.not_isSome_iff_eq_none.mp hnone, Option.map_none, Option.getD_none]
      exact ⟨List.mem_append_right _ (List.mem_singleton_self _), hnew⟩

/-- **An upsert leaves every other key alone.** -/
lemma lookup_upsert_of_ne (t : KeyTable κ α) {k' : κ} (hne : k' ≠ k) :
    (t.upsert k new f hnew hf).lookup k' = t.lookup k' := by
  have hmem : ∀ r, r ∈ (t.upsert k new f hnew hf).rows ∧ key r = k' ↔ r ∈ t.rows ∧ key r = k' := by
    intro r
    rw [upsert]
    split
    · simp only [update, List.mem_map]
      constructor
      · rintro ⟨⟨x, hx, rfl⟩, hk⟩
        split at hk
        · next hxk => exact absurd (hk.symm.trans ((hf x).trans hxk)) hne
        · next hxk => rw [if_neg hxk]; exact ⟨hx, hk⟩
      · rintro ⟨hr, rfl⟩
        exact ⟨⟨r, hr, if_neg hne⟩, rfl⟩
    · simp only [insertNew, List.mem_append, List.mem_singleton]
      constructor
      · rintro ⟨hr | rfl, hk⟩
        · exact ⟨hr, hk⟩
        · exact absurd (hk.symm.trans hnew) hne
      · rintro ⟨hr, hk⟩
        exact ⟨Or.inl hr, hk⟩
  refine Option.ext fun r => ?_
  rw [lookup_eq_some, lookup_eq_some]
  exact hmem r

/-- **An upsert adds one key.** -/
lemma mem_keys_upsert (t : KeyTable κ α) (k' : κ) :
    k' ∈ (t.upsert k new f hnew hf).rows.map key ↔ k' = k ∨ k' ∈ t.rows.map key := by
  have hkeys : ∀ (t : KeyTable κ α), k' ∈ t.rows.map key ↔ (t.lookup k').isSome := by
    intro t
    simp [lookup, List.find?_isSome]
  rw [hkeys, hkeys]
  by_cases h : k' = k
  · simp [h, lookup_upsert_self]
  · simp [h, lookup_upsert_of_ne]

/-- A rewrite of the whole table, seen through one key. -/
lemma lookup_update (t : KeyTable κ α) (g : α → α) (hg : ∀ r, key (g r) = key r) (k : κ) :
    (t.update g hg).lookup k = (t.lookup k).map g := by
  refine Option.ext fun r => ?_
  rw [lookup_eq_some, Option.map_eq_some_iff]
  simp only [update, List.mem_map]
  constructor
  · rintro ⟨⟨x, hx, rfl⟩, hk⟩
    exact ⟨x, lookup_eq_some.mpr ⟨hx, (hg x).symm.trans hk⟩, rfl⟩
  · rintro ⟨x, hx, rfl⟩
    obtain ⟨hx, hk⟩ := lookup_eq_some.mp hx
    exact ⟨⟨x, hx, rfl⟩, (hg x).trans hk⟩

end KeyTable

end Relational
