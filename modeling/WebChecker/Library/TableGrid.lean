import Mathlib.Data.List.Basic
import Mathlib.Tactic.Common

/-!
# Tables with spanning cells

The layout of a table whose cells may span rows.  A table is given row by row; the cells of a row
take the columns that no cell from above covers, from the left.  So a cell does not stand in the
column of its position in the row, and `cellAt` says what covers a place of the table.

How far a cell spans is the number of rows below its own.  A place is covered by a cell of its row
or of a row above that spans down to it (`exists_of_cellAt`).
-/

namespace TableGrid

variable {α : Type*}

/-- What covers a column in a row: a cell, and the number of rows below that it also covers. -/
abbrev Cover (α : Type*) := Option (α × ℕ)

/-- What of a cover reaches into the next row. -/
def Cover.next : Cover α → Cover α
  | some (cell, n + 1) => some (cell, n)
  | _ => none

variable (below : α → ℕ)

/-- Put the cells of a row into the columns that are free. -/
def place : List (Cover α) → List α → List (Cover α)
  | [], cells => cells.map fun cell => some (cell, below cell)
  | some cover :: covers, cells => some cover :: place covers cells
  | none :: covers, [] => none :: place covers []
  | none :: covers, cell :: cells => some (cell, below cell) :: place covers cells

/-- The rows of the table with what covers their columns. -/
def layout : List (Cover α) → List (List α) → List (List (Cover α))
  | _, [] => []
  | covers, row :: rows =>
    place below covers row :: layout ((place below covers row).map Cover.next) rows

/-- The cell that covers a place of the table. -/
def cellAt (rows : List (List α)) (row column : ℕ) : Option α :=
  (((layout below [] rows)[row]?).bind fun placed => (placed[column]?).join).map Prod.fst

/-! ## Where a cell comes from -/

variable {below}

/-- A row shows what comes from above and its own cells. -/
lemma mem_place {covers : List (Cover α)} {cells : List α} {cell : α} {n : ℕ}
    (h : some (cell, n) ∈ place below covers cells) :
    some (cell, n) ∈ covers ∨ cell ∈ cells ∧ n = below cell := by
  induction covers generalizing cells with
  | nil =>
      obtain ⟨cell', hcell, heq⟩ := List.mem_map.mp h
      obtain ⟨rfl, rfl⟩ := Prod.mk.inj (Option.some.inj heq)
      exact Or.inr ⟨hcell, rfl⟩
  | cons cover covers ih =>
      cases cover with
      | some cover =>
          rcases List.mem_cons.mp h with heq | h
          · exact Or.inl (heq ▸ List.mem_cons_self)
          · exact (ih h).imp_left (List.mem_cons_of_mem _)
      | none =>
          cases cells with
          | nil =>
              rcases List.mem_cons.mp h with heq | h
              · simp at heq
              · exact (ih h).imp_left (List.mem_cons_of_mem _)
          | cons first cells =>
              rcases List.mem_cons.mp h with heq | h
              · obtain ⟨rfl, rfl⟩ := Prod.mk.inj (Option.some.inj heq)
                exact Or.inr ⟨List.mem_cons_self, rfl⟩
              · exact (ih h).imp (List.mem_cons_of_mem _)
                  fun own => ⟨List.mem_cons_of_mem _ own.1, own.2⟩

lemma eq_of_next {cover : Cover α} {cell : α} {n : ℕ} (h : cover.next = some (cell, n)) :
    cover = some (cell, n + 1) := by
  rcases cover with _ | ⟨cell', _ | m⟩
  · simp [Cover.next] at h
  · simp [Cover.next] at h
  · obtain ⟨rfl, rfl⟩ := Prod.mk.inj (Option.some.inj h)
    rfl

lemma mem_layout {covers : List (Cover α)} {rows : List (List α)} {row : ℕ}
    {placed : List (Cover α)} {cell : α} {n : ℕ}
    (hrow : (layout below covers rows)[row]? = some placed) (h : some (cell, n) ∈ placed) :
    some (cell, n + row) ∈ covers ∨
      ∃ k cells, k ≤ row ∧ rows[k]? = some cells ∧ cell ∈ cells ∧ n + row = k + below cell := by
  induction rows generalizing covers row with
  | nil => simp [layout] at hrow
  | cons cells rows ih =>
      have hfirst : ∀ m, some (cell, m) ∈ place below covers cells → some (cell, m) ∈ covers ∨
          ∃ k cells', k ≤ row ∧ (cells :: rows)[k]? = some cells' ∧ cell ∈ cells' ∧
            m = k + below cell := by
        intro m hm
        refine (mem_place hm).imp_right fun ⟨hcell, hbelow⟩ => ?_
        exact ⟨0, cells, Nat.zero_le _, rfl, hcell, by omega⟩
      cases row with
      | zero =>
          rw [layout, List.getElem?_cons_zero, Option.some.injEq] at hrow
          exact hfirst n (hrow ▸ h)
      | succ row =>
          rw [layout, List.getElem?_cons_succ] at hrow
          rcases ih hrow with hcover | ⟨k, cells', hk, hcells', hcell, hn⟩
          · obtain ⟨cover, hcover, hnext⟩ := List.mem_map.mp hcover
            exact hfirst _ (eq_of_next hnext ▸ hcover)
          · exact Or.inr ⟨k + 1, cells', by omega, hcells', hcell, by omega⟩

/-- **What covers a place** is a cell of its row, or one of a row above that spans down to it. -/
theorem exists_of_cellAt {rows : List (List α)} {row column : ℕ} {cell : α}
    (h : cellAt below rows row column = some cell) :
    ∃ k cells, rows[k]? = some cells ∧ cell ∈ cells ∧ k ≤ row ∧ row ≤ k + below cell := by
  obtain ⟨⟨cell', n⟩, hbind, rfl⟩ := Option.map_eq_some_iff.mp h
  obtain ⟨placed, hrow, hjoin⟩ := Option.bind_eq_some_iff.mp hbind
  have hmem := List.mem_of_getElem? (Option.join_eq_some_iff.mp hjoin)
  rcases mem_layout hrow hmem with hnone | ⟨k, cells, hk, hcells, hcell, hn⟩
  · simp at hnone
  · exact ⟨k, cells, hcells, hcell, hk, Nat.le_trans (Nat.le_add_left row n) (Nat.le_of_eq hn)⟩

end TableGrid
