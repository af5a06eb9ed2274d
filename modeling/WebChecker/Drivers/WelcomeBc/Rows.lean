import WebChecker.Drivers.WelcomeBc.Parser
import WebChecker.Library.Results
import WebChecker.Library.TableGrid

/-!
# The rows of the table and its layout

The reader of the table counts the cells of a row.  Whether that agrees with the layout of the
table is another matter: a cell may span rows in any column, and the row below has one cell less
without being one of those that continue a date.

`Accounted` is what the layout asks of the reader, row by row: a row that the layout puts under
High Economic Impact gives one route to the draw of the date that the layout puts it under, and no
other row gives any.  `accounted_iff` says for which tables the reader does that.  The reader fails
on no table in any other way than with an invalid draw.
-/

namespace WebChecker

open Relational Results

variable {u : UnicodeData}

/-! ## One row -/

/-- The cell that the reader takes for the type of the draw. -/
def typeCell : List TableCell → Option TableCell
  | [_, itaType, _, _, _] => some itaType
  | [itaType, _, _, _] => some itaType
  | _ => none

lemma mem_of_typeCell {cells : List TableCell} {cell : TableCell} (h : typeCell cells = some cell) :
    cell ∈ cells := by
  unfold typeCell at h
  split at h
  · simp [← Option.some.inj h]
  · simp [← Option.some.inj h]
  · simp at h

/-- The routes of a date so far. -/
def TableState.routesAt (s : TableState) (d : Date) : List SelectionRoute :=
  ((s.grouped.lookup d).map HighImpactDraw.routes).getD []

/-- Between two states one route has been added, to the draw of that date. -/
structure Contributes (s s' : TableState) (d : Date) (route : SelectionRoute) : Prop where
  added : s'.routesAt d = s.routesAt d ++ [route]
  others : ∀ e ≠ d, s'.routesAt e = s.routesAt e

/-- The date of the draw is the only one that gets a route. -/
lemma Contributes.date_eq {s s' : TableState} {d e : Date} {route route' : SelectionRoute}
    (h : Contributes s s' d route) (h' : Contributes s s' e route') : d = e := by
  by_contra hne
  have hsame := h'.others d hne
  simp [h.added] at hsame

lemma Contributes.grouped_ne {s s' : TableState} {d : Date} {route : SelectionRoute}
    (h : Contributes s s' d route) : s'.grouped ≠ s.grouped := by
  intro hsame
  have hadded := h.added
  simp [TableState.routesAt, hsame] at hadded

/-- The state after a date cell or a count, before the route is read. -/
lemma readRoute_ok {s s' : TableState} {itaType factors score invitations : String}
    (h : s.readRoute u itaType factors score invitations = .ok s') :
    s'.currentDate = s.currentDate ∧
      ((u.isHighImpact itaType = true ∧ ∃ d route, s.currentDate = some d ∧
          Contributes s s' d route) ∨
        (u.isHighImpact itaType = false ∧ s'.grouped = s.grouped)) := by
  rw [TableState.readRoute] at h
  cases himpact : u.isHighImpact itaType with
  | false =>
      rw [himpact, if_neg (by decide)] at h
      obtain rfl := Except.ok.inj h
      exact ⟨rfl, Or.inr ⟨rfl, rfl⟩⟩
  | true =>
      rw [himpact, if_pos rfl] at h
      cases hdate : s.currentDate with
      | none => simp [hdate] at h
      | some d =>
          simp only [hdate, bind_eq_ok] at h
          obtain ⟨route, _, h⟩ := h
          split_ifs at h
          obtain rfl := Except.ok.inj h
          refine ⟨rfl, Or.inl ⟨rfl, d, route, rfl, ?_, fun e he => ?_⟩⟩
          · rw [TableState.routesAt, TableState.routesAt]
            dsimp only
            rw [KeyTable.lookup_upsert_self]
            cases s.grouped.lookup d <;> rfl
          · rw [TableState.routesAt, TableState.routesAt]
            dsimp only
            rw [KeyTable.lookup_upsert_of_ne _ he]

/-- **One turn of the loop.**  It adds a route exactly if the type that the reader takes is High
Economic Impact, under the date that is then the current one. -/
lemma readRow_ok {s s' : TableState} {cells : List TableCell}
    (h : s.readRow u cells = .ok s') :
    ((∃ cell, typeCell cells = some cell ∧ u.isHighImpact cell.text = true) ∧
        ∃ d route, s'.currentDate = some d ∧ Contributes s s' d route) ∨
      ((∀ cell, typeCell cells = some cell → u.isHighImpact cell.text = false) ∧
        s'.grouped = s.grouped) := by
  unfold TableState.readRow at h
  split at h
  · next rawDate itaType factors score invitations =>
      split at h
      · next date rows hdate =>
          obtain ⟨hcurrent, ⟨himpact, d, route, hd, hadds⟩ | ⟨hother, hsame⟩⟩ := readRoute_ok h
          · exact Or.inl ⟨⟨itaType, rfl, himpact⟩, d, route, hcurrent.trans hd,
              hadds.added, hadds.others⟩
          · exact Or.inr ⟨by simpa [typeCell] using hother, hsame⟩
      · split_ifs at h with himpact
        obtain rfl := Except.ok.inj h
        exact Or.inr ⟨by simpa [typeCell] using himpact, rfl⟩
  · next itaType factors score invitations =>
      obtain ⟨hcurrent, ⟨himpact, d, route, hd, hadds⟩ | ⟨hother, hsame⟩⟩ := readRoute_ok h
      · refine Or.inl ⟨⟨itaType, rfl, himpact⟩, d, route, hcurrent.trans hd, ?_, fun e he => ?_⟩
        · rw [hadds.added, TableState.routesAt, TableState.routesAt]
          split <;> rfl
        · rw [hadds.others e he, TableState.routesAt, TableState.routesAt]
          split <;> rfl
      · refine Or.inr ⟨by simpa [typeCell] using hother, hsame.trans ?_⟩
        split <;> rfl
  · next hfive hfour =>
      split_ifs at h
      obtain rfl := Except.ok.inj h
      have hnone : typeCell cells = none := by
        unfold typeCell
        split
        · exact (hfive _ _ _ _ _ rfl).elim
        · exact (hfour _ _ _ _ rfl).elim
        · rfl
      exact Or.inr ⟨by simp [hnone], rfl⟩

/-- A row of five cells declares the date in its first cell. -/
def dateCellOf : List TableCell → Option TableCell
  | [rawDate, _, _, _, _] => some rawDate
  | _ => none

/-- **The current date after a row** is the one that the row declares, or else the one before. -/
lemma currentDate_of_readRow {s s' : TableState} {cells : List TableCell} {d : Date}
    (h : s.readRow u cells = .ok s') (hd : s'.currentDate = some d) :
    match dateCellOf cells with
    | some cell => u.parseDate cell.text = .ok d
    | none => s.currentDate = some d := by
  unfold TableState.readRow at h
  split at h
  · next rawDate itaType factors score invitations =>
      split at h
      · next date rows hdate =>
          have hcurrent := (readRoute_ok h).1.symm.trans hd
          simp only [UnicodeData.dateCell, bind_eq_ok, pure_eq_ok, Except.ok.injEq,
            Prod.mk.injEq] at hdate
          obtain ⟨date', hparse, _, _, rfl, _⟩ := hdate
          exact hparse.trans (congrArg Except.ok (Option.some.inj hcurrent))
      · split_ifs at h
        obtain rfl := Except.ok.inj h
        simp at hd
  · next itaType factors score invitations =>
      have hcurrent := (readRoute_ok h).1.symm.trans hd
      split at hcurrent
      · simp at hcurrent
      · exact hcurrent
  · next hfive _ =>
      split_ifs at h
      obtain rfl := Except.ok.inj h
      have hnone : dateCellOf cells = none := by
        unfold dateCellOf
        split
        · exact (hfive _ _ _ _ _ rfl).elim
        · rfl
      rw [hnone]
      exact hd

/-! ## What the reader raises -/

/-- The exception is a `WelcomeBCInvalidDrawError`. -/
def WelcomeBCFailure.IsInvalidDraw (e : WelcomeBCFailure) : Prop := ∃ m, e = .invalidDrawError m

@[simp] lemma isInvalidDraw_invalidDrawError (m : String) :
    (WelcomeBCFailure.invalidDrawError m).IsInvalidDraw := ⟨m, rfl⟩

lemma raises_tableRoute (factors score invitations : String) :
    Raises WelcomeBCFailure.IsInvalidDraw (u.tableRoute factors score invitations) := by
  have hinteger : ∀ value field, Raises WelcomeBCFailure.IsInvalidDraw (u.integer value field) := by
    intro value field
    unfold UnicodeData.integer
    split
    · split <;> simp
    · simp
  unfold UnicodeData.tableRoute
  split
  · simp
  · split
    · rw [raises_map]
      unfold UnicodeData.invitationCount
      split
      · exact raises_map.mpr (hinteger _ _)
      · split <;> simp
    · simp

lemma raises_readRoute (s : TableState) (itaType factors score invitations : String) :
    Raises WelcomeBCFailure.IsInvalidDraw
      (s.readRoute u itaType factors score invitations) := by
  unfold TableState.readRoute
  split
  · split
    · simp
    · simp only [raises_bind, raises_tableRoute, true_and]
      intro route _
      split <;> simp
  · simp

/-- **A row that cannot be read is an invalid draw.** -/
lemma raises_readRow (s : TableState) (cells : List TableCell) :
    Raises WelcomeBCFailure.IsInvalidDraw (s.readRow u cells) := by
  have hdate : ∀ cell, Raises WelcomeBCFailure.IsInvalidDraw (u.dateCell cell) := by
    intro cell
    simp only [UnicodeData.dateCell, raises_bind, pure_eq_ok, raises_ok, implies_true, and_true]
    constructor
    · unfold UnicodeData.parseDate
      split <;> simp
    · intro _ _
      unfold UnicodeData.rowspan
      split
      · split <;> simp
      · simp
  unfold TableState.readRow
  split
  · split
    · exact raises_readRoute _ _ _ _ _
    · next e he =>
        split
        · exact (raises_error e).mpr (hdate _ e he)
        · simp
  · exact raises_readRoute _ _ _ _ _
  · split <;> simp

/-! ## Tables and their layout -/

/-- A cell of a table with the number of rows that it spans. -/
structure GridCell (u : UnicodeData) where
  cell : TableCell
  span : ℕ
  pos : 0 < span
  reads : u.rowspan cell = .ok span

/-- The rows below its own that a cell spans. -/
def GridCell.below (c : GridCell u) : ℕ := c.span - 1

/-- The text of the cell is the High Economic Impact type. -/
def GridCell.IsImpact (c : GridCell u) : Prop := u.isHighImpact c.cell.text = true

/-- A table under the expected header, as the document has it and row by row.  No cell spans more
than one column. -/
structure InvitationsTable (u : UnicodeData) where
  node : DomNode
  header : List (GridCell u)
  rows : List (List (GridCell u))
  headers : header.map (fun c => u.foldCase c.cell.text) = expectedHeaders
  reads : (node.findAll "tr").map rowCells = (header :: rows).map (List.map GridCell.cell)

namespace InvitationsTable

variable (t : InvitationsTable u)

/-- The rows below the header as the reader sees them. -/
def cells : List (List TableCell) := t.rows.map (List.map GridCell.cell)

/-- The cell that covers a column in a row below the header. -/
def cellAt (row column : ℕ) : Option (GridCell u) :=
  TableGrid.cellAt GridCell.below (t.header :: t.rows) (row + 1) column

/-- The row is one of High Economic Impact: it has such a cell, or such a cell covers it in the
column of the types. -/
def Concerns (i : ℕ) (row : List (GridCell u)) : Prop :=
  (∃ c ∈ row, c.IsImpact) ∨ ∃ c, t.cellAt i 1 = some c ∧ c.IsImpact

/-- The state of the reader before a row. -/
def stateBefore (i : ℕ) : Except WelcomeBCFailure TableState :=
  (t.cells.take i).foldlM (TableState.readRow u) {}

/-- **What the layout asks of the reader**: a row of High Economic Impact adds one route, to the
draw of the date that covers the row in the column of the dates, and no other row adds any. -/
def Accounted : Prop :=
  ∀ i row s s', t.rows[i]? = some row → t.stateBefore i = .ok s →
    s.readRow u (row.map GridCell.cell) = .ok s' →
      (t.Concerns i row → ∃ c d route, t.cellAt i 0 = some c ∧ u.parseDate c.cell.text = .ok d ∧
        Contributes s s' d route) ∧
      (¬ t.Concerns i row → s'.grouped = s.grouped)

/-- The date cell of the last row of five cells. -/
def declaring (rows : List (List TableCell)) : Option TableCell :=
  (rows.filterMap dateCellOf).getLast?

/-- A row of High Economic Impact has its type where the reader looks for it, and the column of the
dates gives it the date that the last row of five cells has declared. -/
def WellLaidOut : Prop :=
  ∀ i row, t.rows[i]? = some row → t.Concerns i row →
    (∃ cell, typeCell (row.map GridCell.cell) = some cell ∧ u.isHighImpact cell.text = true) ∧
      ∃ c declared d, t.cellAt i 0 = some c ∧ declaring (t.cells.take (i + 1)) = some declared ∧
        u.parseDate c.cell.text = .ok d ∧ u.parseDate declared.text = .ok d

/-- **The current date is the one that the last row of five cells has declared.** -/
lemma currentDate_declared {rows : List (List TableCell)} {s : TableState} {d : Date}
    (h : rows.foldlM (TableState.readRow u) {} = .ok s) (hd : s.currentDate = some d) :
    ∃ cell, declaring rows = some cell ∧ u.parseDate cell.text = .ok d := by
  induction rows using List.reverseRecOn generalizing s with
  | nil =>
      obtain rfl := Except.ok.inj h
      simp at hd
  | append_singleton rows row ih =>
      rw [List.foldlM_append, bind_eq_ok] at h
      obtain ⟨before, hbefore, h⟩ := h
      rw [List.foldlM_cons, bind_eq_ok] at h
      obtain ⟨after, hrow, hafter⟩ := h
      obtain rfl := Except.ok.inj hafter
      have hdate := currentDate_of_readRow hrow hd
      rw [declaring, List.filterMap_append]
      cases hcell : dateCellOf row with
      | some cell =>
          rw [hcell] at hdate
          exact ⟨cell, by simp [hcell], hdate⟩
      | none =>
          rw [hcell] at hdate
          obtain ⟨cell, hdeclared, hparse⟩ := ih hbefore hdate
          refine ⟨cell, ?_, hparse⟩
          rw [List.filterMap_cons_none hcell, List.filterMap_nil, List.append_nil]
          exact hdeclared

lemma parse_eq : u.parseTableDraws t.node =
    (t.cells.foldlM (TableState.readRow u) {}).map TableState.grouped := by
  have htail : (t.node.findAll "tr").tail.map rowCells = t.cells := by
    rw [List.map_tail, t.reads]
    rfl
  rw [UnicodeData.parseTableDraws, htail, UnicodeData.parseTableRows]

/-- The states around a row of a table that the reader accepts. -/
lemma exists_states {draws : Draws} (h : u.parseTableDraws t.node = .ok draws) {i : ℕ}
    {row : List (GridCell u)} (hrow : t.rows[i]? = some row) :
    ∃ s s', t.stateBefore i = .ok s ∧ s.readRow u (row.map GridCell.cell) = .ok s' ∧
      (t.cells.take (i + 1)).foldlM (TableState.readRow u) {} = .ok s' := by
  rw [t.parse_eq, map_eq_ok] at h
  obtain ⟨last, hlast, -⟩ := h
  have hcells : t.cells[i]? = some (row.map GridCell.cell) := by
    rw [cells, List.getElem?_map, hrow, Option.map_some]
  exact foldlM_take_eq_ok hlast hcells

/-- **On a table that the reader accepts**, it does what the layout asks exactly if the rows of
High Economic Impact are laid out as it expects. -/
lemma accounted_iff_wellLaidOut {draws : Draws} (h : u.parseTableDraws t.node = .ok draws) :
    t.Accounted ↔ t.WellLaidOut := by
  constructor
  · intro haccounted i row hrow hconcerns
    obtain ⟨s, s', hbefore, hread, hafter⟩ := t.exists_states h hrow
    obtain ⟨c, d, route, hc, hparse, hadds⟩ :=
      (haccounted i row s s' hrow hbefore hread).1 hconcerns
    rcases readRow_ok hread with ⟨htype, d', route', hd', hadds'⟩ | ⟨_, hsame⟩
    · obtain rfl := hadds.date_eq hadds'
      obtain ⟨declared, hdeclared, hparse'⟩ := currentDate_declared hafter hd'
      exact ⟨htype, c, declared, d, hc, hdeclared, hparse, hparse'⟩
    · exact absurd hsame hadds.grouped_ne
  · intro hlaid i row s s' hrow hbefore hread
    have hafter : (t.cells.take (i + 1)).foldlM (TableState.readRow u) {} = .ok s' := by
      obtain ⟨s₁, s₂, h₁, h₂, h₃⟩ := t.exists_states h hrow
      obtain rfl := Except.ok.inj (h₁.symm.trans hbefore)
      rwa [Except.ok.inj (h₂.symm.trans hread)] at h₃
    rcases readRow_ok hread with ⟨⟨cell, hcell, himpact⟩, d', route, hd', hadds⟩ | ⟨hother, hsame⟩
    · obtain ⟨declared, hdeclared, hparse⟩ := currentDate_declared hafter hd'
      refine ⟨fun hconcerns => ?_, fun hnot => absurd ?_ hnot⟩
      · obtain ⟨-, c, declared', d, hc, hdeclared', hparse', hdate⟩ := hlaid i row hrow hconcerns
        obtain rfl := Option.some.inj (hdeclared.symm.trans hdeclared')
        obtain rfl := Except.ok.inj (hparse.symm.trans hdate)
        exact ⟨c, d', route, hc, hparse', hadds⟩
      · obtain ⟨c, hc, rfl⟩ := List.mem_map.mp (mem_of_typeCell hcell)
        exact Or.inl ⟨c, hc, himpact⟩
    · refine ⟨fun hconcerns => ?_, fun _ => hsame⟩
      obtain ⟨⟨cell, hcell, himpact⟩, -⟩ := hlaid i row hrow hconcerns
      rw [hother cell hcell] at himpact
      simp at himpact

/-- **No row of High Economic Impact is dropped silently**, exactly if the layout is the expected
one whenever the reader returns.  Otherwise it raises an invalid draw. -/
theorem accounted_iff :
    ((∃ draws, u.parseTableDraws t.node = .ok draws ∧ t.Accounted) ∨
      ∃ m, u.parseTableDraws t.node = .error (.invalidDrawError m)) ↔
      ∀ draws, u.parseTableDraws t.node = .ok draws → t.WellLaidOut := by
  have hraises : Raises WelcomeBCFailure.IsInvalidDraw (u.parseTableDraws t.node) := by
    rw [t.parse_eq, raises_map]
    exact Raises.foldlM raises_readRow {}
  constructor
  · rintro (⟨draws, hdraws, haccounted⟩ | ⟨m, hm⟩) draws' hdraws'
    · exact (t.accounted_iff_wellLaidOut hdraws).mp haccounted
    · simp [hm] at hdraws'
  · intro hlaid
    rcases hraises.returns_or with ⟨draws, hdraws⟩ | ⟨e, he, m, rfl⟩
    · exact Or.inl ⟨draws, hdraws, (t.accounted_iff_wellLaidOut hdraws).mpr (hlaid draws hdraws)⟩
    · exact Or.inr ⟨m, he⟩

/-- **If no High Economic Impact cell spans rows**, the rows of that type are those that have such
a cell themselves. -/
theorem concerns_iff_of_span_one
    (hspan : ∀ row ∈ t.header :: t.rows, ∀ c ∈ row, c.IsImpact → c.span = 1) {i : ℕ}
    {row : List (GridCell u)} (hrow : t.rows[i]? = some row) :
    t.Concerns i row ↔ ∃ c ∈ row, c.IsImpact := by
  refine ⟨?_, Or.inl⟩
  rintro (hown | ⟨c, hc, himpact⟩)
  · exact hown
  · obtain ⟨k, cells, hcells, hmem, hk, hspans⟩ := TableGrid.exists_of_cellAt hc
    have hone := hspan cells (List.mem_of_getElem? hcells) c hmem himpact
    have hsame : k = i + 1 := by
      rw [GridCell.below, hone] at hspans
      omega
    rw [hsame, List.getElem?_cons_succ, hrow, Option.some.injEq] at hcells
    exact ⟨c, hcells ▸ hmem, himpact⟩

end InvitationsTable

/-! ## A type that spans two rows -/

/-- A cell with the number of rows that it spans. -/
def spanCell (text : String) (span : ℕ) (pos : 0 < span := by decide)
    (h : UnicodeData.ascii.rowspan ⟨text, toString span⟩ = .ok span := by decide +kernel) :
    GridCell .ascii where
  cell := ⟨text, toString span⟩
  span
  pos
  reads := h

/-- The element of a cell. -/
def cellElement (cell : TableCell) : DomNode :=
  .element "td" [("rowspan", cell.rowspan)] [.text .content cell.text]

/-- One draw with two routes, whose date and type both span the two rows. -/
def spannedTypeRows : List (List (GridCell .ascii)) :=
  [[spanCell "January 6, 2026" 2, spanCell "Innovate: High Economic Impact" 2,
      spanCell "Offer of at least $70 an hour" 1, spanCell "N/A" 1, spanCell "25" 1],
    [spanCell "Registration score" 1, spanCell "140" 1, spanCell "10" 1]]

def spannedTypeTable : InvitationsTable .ascii where
  header := [spanCell "Date" 1, spanCell "ITA Type" 1, spanCell "Selection factors" 1,
    spanCell "Minimum score" 1, spanCell "Number of invitations" 1]
  rows := spannedTypeRows
  node := .element "table" [] ((([spanCell "Date" 1, spanCell "ITA Type" 1,
    spanCell "Selection factors" 1, spanCell "Minimum score" 1,
    spanCell "Number of invitations" 1] :: spannedTypeRows).map (List.map GridCell.cell)).map
      fun row => .element "tr" [] (row.map cellElement))
  headers := by decide +kernel
  reads := by decide +kernel

/-- **A type that spans two rows** leaves the second with three cells, and the reader skips it. -/
theorem spannedType_dropped :
    ¬ ((∃ draws, UnicodeData.ascii.parseTableDraws spannedTypeTable.node = .ok draws ∧
        spannedTypeTable.Accounted) ∨
      ∃ m, UnicodeData.ascii.parseTableDraws spannedTypeTable.node
        = .error (.invalidDrawError m)) := by
  obtain ⟨draws, hdraws⟩ := exists_ok
    (x := UnicodeData.ascii.parseTableDraws spannedTypeTable.node) (by decide +kernel)
  rintro (⟨_, _, haccounted⟩ | ⟨m, hm⟩)
  · have hlaid := (spannedTypeTable.accounted_iff_wellLaidOut hdraws).mp haccounted
    have hconcerns : spannedTypeTable.Concerns 1
        [spanCell "Registration score" 1, spanCell "140" 1, spanCell "10" 1] :=
      Or.inr ⟨spanCell "Innovate: High Economic Impact" 2, rfl, by unfold GridCell.IsImpact; decide⟩
    obtain ⟨⟨cell, hcell, -⟩, -⟩ := hlaid 1 _ rfl hconcerns
    simp [typeCell] at hcell
  · simp [hm] at hdraws

end WebChecker
