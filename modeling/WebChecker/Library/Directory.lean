import Mathlib.Data.List.Sort
import WebChecker.Library.RowTable

/-!
# Directories of files

A directory as a table of files with their names as keys, and the operations that write and remove
files, seen through the names and through the reading of one file.

What survives when only the first few of a sorted list of names are kept is `mem_take_iff`: a name
does exactly if not that many others come before it.
-/

open Relational

/-- A file under its name. -/
structure NamedFile (α : Type) where
  name : String
  body : α

instance (α : Type) : HasKey String (NamedFile α) := ⟨NamedFile.name⟩

/-- The files of a directory. -/
abbrev Directory (α : Type) := KeyTable String (NamedFile α)

namespace Directory

variable {α : Type} (d : Directory α)

def names : List String := d.rows.map NamedFile.name

/-- What a file holds. -/
def read (name : String) : Option α := (d.lookup name).map NamedFile.body

/-- Write a file, or write it again. -/
def write (name : String) (body : α) : Directory α :=
  d.upsert name ⟨name, body⟩ (fun file => { file with body }) rfl fun _ => rfl

/-- Remove the files of these names. -/
def remove (removed : List String) : Directory α where
  rows := d.rows.filter fun file => file.name ∉ removed
  nodup := d.nodup.sublist (List.filter_sublist.map _)

variable {d}

lemma names_nodup : d.names.Nodup := d.nodup

/-- **Writing adds one name.** -/
lemma mem_names_write {name other : String} {body : α} :
    other ∈ (d.write name body).names ↔ other = name ∨ other ∈ d.names :=
  KeyTable.mem_keys_upsert d other

/-- **Removing takes away those names.** -/
lemma mem_names_remove {removed : List String} {name : String} :
    name ∈ (d.remove removed).names ↔ name ∈ d.names ∧ name ∉ removed := by
  simp only [names, remove, List.mem_map, List.mem_filter, decide_eq_true_eq]
  constructor
  · rintro ⟨file, ⟨hfile, hnot⟩, rfl⟩
    exact ⟨⟨file, hfile, rfl⟩, hnot⟩
  · rintro ⟨⟨file, hfile, rfl⟩, hnot⟩
    exact ⟨file, ⟨hfile, hnot⟩, rfl⟩

lemma ext_rows {d d' : Directory α} (h : d.rows = d'.rows) : d = d' := by
  cases d
  cases d'
  simp only at h
  subst h
  rfl

lemma remove_nil : d.remove [] = d :=
  ext_rows (List.filter_eq_self.mpr (by simp))

/-- Removing files one after the other. -/
lemma remove_remove (a b : List String) : (d.remove a).remove b = d.remove (a ++ b) := by
  have hrows : ((d.remove a).remove b).rows = (d.remove (a ++ b)).rows := by
    simp only [remove, List.filter_filter]
    refine List.filter_congr fun file _ => ?_
    simp only [List.mem_append, not_or, Bool.decide_and, Bool.and_comm]
  exact ext_rows hrows

/-- A file that is there can be read. -/
lemma read_isSome {name : String} : (d.read name).isSome = true ↔ name ∈ d.names := by
  rw [read, Option.isSome_map, names, List.mem_map]
  constructor
  · intro h
    obtain ⟨file, hfile⟩ := Option.isSome_iff_exists.mp h
    exact ⟨file, KeyTable.lookup_eq_some.mp hfile⟩
  · rintro ⟨file, hfile⟩
    exact Option.isSome_iff_exists.mpr ⟨file, KeyTable.lookup_eq_some.mpr hfile⟩

/-- **What has been written is read.** -/
lemma read_write_self (name : String) (body : α) : (d.write name body).read name = some body := by
  rw [read, write, KeyTable.lookup_upsert_self]
  cases d.lookup name <;> rfl

/-- **Writing leaves every other file alone.** -/
lemma read_write_of_ne {name other : String} (h : other ≠ name) (body : α) :
    (d.write name body).read other = d.read other := by
  rw [read, read, write, KeyTable.lookup_upsert_of_ne d h]

/-- **Removing leaves every other file alone.** -/
lemma read_remove_of_notMem {removed : List String} {name : String} (h : name ∉ removed) :
    (d.remove removed).read name = d.read name := by
  have hlookup : (d.remove removed).lookup name = d.lookup name := by
    refine Option.ext fun file => ?_
    rw [KeyTable.lookup_eq_some, KeyTable.lookup_eq_some, remove, List.mem_filter]
    constructor
    · exact fun hfile => ⟨hfile.1.1, hfile.2⟩
    · rintro ⟨hfile, rfl⟩
      exact ⟨⟨hfile, decide_eq_true h⟩, rfl⟩
  rw [read, read, hlookup]

end Directory

/-! ## The first names -/

section First

variable {α : Type*} [LinearOrder α]

/-- **An element is among the first `n`** of a descending list exactly if fewer than `n` elements
are larger. -/
lemma mem_take_iff {l : List α} (hl : l.Pairwise (· > ·)) {x : α} (hx : x ∈ l) (n : ℕ) :
    x ∈ l.take n ↔ l.countP (fun y => x < y) < n := by
  induction l generalizing n with
  | nil => simp at hx
  | cons a l ih =>
      rw [List.pairwise_cons] at hl
      cases n with
      | zero => simp
      | succ n =>
          rcases List.mem_cons.mp hx with rfl | hxl
          · have hzero : (x :: l).countP (fun y => decide (x < y)) = 0 := by
              rw [List.countP_eq_zero]
              intro y hy
              rcases List.mem_cons.mp hy with rfl | hy
              · simp
              · simpa using (hl.1 y hy).le
            simp [hzero]
          · have hlt : x < a := hl.1 x hxl
            rw [List.take_succ_cons, List.mem_cons, or_iff_right hlt.ne, ih hl.2 hxl n,
              List.countP_cons_of_pos (by simpa using hlt)]
            omega

end First
