import Mathlib.Algebra.Order.Ring.Rat
import Mathlib.Data.List.Sort
import Mathlib.Data.List.TakeWhile
import Mathlib.Order.WithBot
import Mathlib.Tactic.Common

/-!
# Database files

A SQLite file as its schema version, its tables with all their rows, and its indexes: whatever
another program may have put there.  A value has one of the five storage classes.  Names of tables,
columns and indexes compare without regard to the case of ASCII letters, and tables and indexes
share their names (`File.taken`).

The statements are those that make tables and indexes.  They only add: a name that is taken stays
so (`taken_createTable`, `taken_createIndex`).

A connection to a URI opens the file that the URI names, which is its path up to the query or the
fragment, with percent escapes read as bytes (`parseUri`).  What the parameters of the query ask
for is left to the library that reads them.
-/

namespace Sqlite

/-! ## Values -/

/-- A number that is not an integer, or infinite. -/
abbrev RealValue := WithBot (WithTop ℚ)

/-- A value of a row.  A real number has the text that it is converted to. -/
inductive Value where
  | null
  | integer (n : ℤ)
  | real (value : RealValue) (text : String)
  | text (s : String)
  | blob (bytes : List UInt8)
deriving DecidableEq

/-- The order of the storage classes. -/
def Value.rank : Value → ℕ
  | null => 0
  | integer _ => 1
  | real .. => 1
  | text _ => 2
  | blob _ => 3

/-- The value of a number. -/
def Value.number : Value → RealValue
  | integer n => ((n : ℚ) : WithTop ℚ)
  | real r _ => r
  | _ => ⊥

/-- How values sort. -/
def Value.lt (a b : Value) : Bool :=
  match a, b with
  | text s, text t => s < t
  | blob x, blob y => x < y
  | a, b => a.rank < b.rank || (a.rank = b.rank && decide (a.number < b.number))

/-- Neither sorts before the other. -/
def Value.same (a b : Value) : Bool := !a.lt b && !b.lt a

/-- A value in a column with text affinity. -/
def Value.asText : Value → Value
  | integer n => .text (toString n)
  | real _ s => .text s
  | v => v

/-- `MIN`: the least value that is not null. -/
def minimum (values : List Value) : Value :=
  (values.filter (· ≠ .null)).foldl
    (fun least v => if least = .null ∨ v.lt least = true then v else least) .null

/-- `MAX`: the greatest value. -/
def maximum (values : List Value) : Value :=
  values.foldl (fun greatest v => if greatest.lt v then v else greatest) .null

/-! ## Files -/

/-- Names are the same up to the case of letters. -/
def sameName (a b : String) : Bool := a.toLower = b.toLower

structure Table where
  name : String
  columns : List String
  rows : List (List Value)
deriving DecidableEq

/-- The values of a column. -/
def Table.column? (t : Table) (name : String) : Option (List Value) :=
  (t.columns.findIdx? (sameName name)).map fun i => t.rows.map fun row => row.getD i .null

structure File where
  userVersion : ℤ
  tables : List Table
  indexes : List String
deriving DecidableEq

namespace File

def table? (f : File) (name : String) : Option Table := f.tables.find? fun t => sameName name t.name

/-- The name is the name of a table or of an index. -/
def taken (f : File) (name : String) : Bool :=
  (f.table? name).isSome || f.indexes.any (sameName name)

/-- `CREATE TABLE`. -/
def createTable (f : File) (name : String) (columns : List String) : Except String File :=
  if (f.table? name).isSome then .error s!"table {name} already exists"
  else if f.indexes.any (sameName name) then .error s!"there is already an index named {name}"
  else .ok { f with tables := f.tables ++ [⟨name, columns, []⟩] }

/-- `CREATE INDEX` on columns that the table has. -/
def createIndex (f : File) (name table : String) : Except String File :=
  if (f.table? table).isNone then .error s!"no such table: main.{table}"
  else if (f.table? name).isSome then .error s!"there is already a table named {name}"
  else if f.indexes.any (sameName name) then .error s!"index {name} already exists"
  else .ok { f with indexes := f.indexes ++ [name] }

/-- The file with the rows of a table replaced. -/
def setRows (f : File) (name : String) (rows : List (List Value)) : File :=
  { f with tables := f.tables.map fun t => if sameName name t.name then { t with rows } else t }

/-! ## Names that are taken -/

lemma taken_iff {f : File} {name : String} :
    f.taken name = true ↔
      (∃ t ∈ f.tables, sameName name t.name = true) ∨ ∃ i ∈ f.indexes, sameName name i = true := by
  simp [taken, table?, List.find?_isSome]

lemma createTable_of_taken {f : File} {name : String} (h : f.taken name = true)
    (columns : List String) : ∃ m, f.createTable name columns = .error m := by
  unfold createTable
  split_ifs with htable hindex
  · exact ⟨_, rfl⟩
  · exact ⟨_, rfl⟩
  · simp [taken, htable, hindex] at h

/-- A name that is free can be given to a table, and is then taken. -/
lemma createTable_of_free {f : File} {name : String} (h : f.taken name = false)
    (columns : List String) : ∃ f', f.createTable name columns = .ok f' ∧ f'.taken name = true := by
  rw [taken, Bool.or_eq_false_iff] at h
  rw [createTable, if_neg (by simp [h.1]), if_neg (by simp [h.2])]
  refine ⟨_, rfl, taken_iff.mpr (Or.inl ⟨⟨name, columns, []⟩, ?_, ?_⟩)⟩
  · exact List.mem_append_right _ (List.mem_singleton_self _)
  · simp [sameName]

/-- **A new table leaves the names taken.** -/
lemma taken_createTable {f f' : File} {name other : String} {columns : List String}
    (h : f.createTable name columns = .ok f') (htaken : f.taken other = true) :
    f'.taken other = true := by
  rw [createTable] at h
  split_ifs at h
  rw [← Except.ok.inj h, taken_iff]
  exact (taken_iff.mp htaken).imp_left fun ⟨t, ht, hname⟩ => ⟨t, List.mem_append_left _ ht, hname⟩

/-- **A new index leaves the names taken.** -/
lemma taken_createIndex {f f' : File} {name table other : String}
    (h : f.createIndex name table = .ok f') (htaken : f.taken other = true) :
    f'.taken other = true := by
  rw [createIndex] at h
  split_ifs at h
  rw [← Except.ok.inj h, taken_iff]
  exact (taken_iff.mp htaken).imp_right fun ⟨i, hi, hname⟩ => ⟨i, List.mem_append_left _ hi, hname⟩

/-- New rows do not change the names. -/
lemma taken_setRows {f : File} {name other : String} {rows : List (List Value)}
    (htaken : f.taken other = true) : (f.setRows name rows).taken other = true := by
  rw [taken_iff] at htaken ⊢
  refine htaken.imp_left fun ⟨t, ht, hname⟩ => ?_
  refine ⟨_, List.mem_map_of_mem ht, ?_⟩
  split <;> exact hname

end File

/-! ## URIs -/

/-- The bytes of a file name. -/
abbrev FileName := List UInt8

/-- The name that a path has as it is. -/
def fileName (path : List Char) : FileName := path.flatMap String.utf8EncodeChar

/-- The value of a hexadecimal digit. -/
def hexValue (c : Char) : Option ℕ :=
  if c.isDigit then some (c.toNat - '0'.toNat)
  else if 'a' ≤ c ∧ c ≤ 'f' then some (c.toNat - 'a'.toNat + 10)
  else if 'A' ≤ c ∧ c ≤ 'F' then some (c.toNat - 'A'.toNat + 10)
  else none

/-- A percent escape at the beginning, as the byte that it stands for. -/
def escapedByte : List Char → Option ℕ
  | '%' :: high :: low :: _ => do
    let x ← hexValue high
    let y ← hexValue low
    some (16 * x + y)
  | _ => none

/-- The name that a path of a URI stands for.  An escape of zero ends it.  The first argument is
the number of characters of an escape that are still to be skipped. -/
def decodeName : ℕ → List Char → FileName
  | _, [] => []
  | skip + 1, _ :: cs => decodeName skip cs
  | 0, c :: cs =>
    match escapedByte (c :: cs) with
    | none => String.utf8EncodeChar c ++ decodeName 0 cs
    | some byte => if byte = 0 then [] else UInt8.ofNat byte :: decodeName 2 cs

/-- A URI after its scheme, without an authority: the file that it names, and its query. -/
def parseUri (uri : List Char) : FileName × Option (List Char) :=
  let text := uri.takeWhile (· ≠ '#')
  (decodeName 0 (text.takeWhile (· ≠ '?')), (text.dropWhile (· ≠ '?')).tail?)

/-- A character that is not itself in the path of a URI. -/
def reserved (c : Char) : Bool := c = '?' || c = '#' || c = '%'

lemma reserved_eq_false {c : Char} : reserved c = false ↔ c ≠ '?' ∧ c ≠ '#' ∧ c ≠ '%' := by
  simp [reserved, and_assoc]

/-- A path without escapes is a name as it is. -/
lemma decodeName_plain {path : List Char} (h : ∀ c ∈ path, c ≠ '%') :
    decodeName 0 path = fileName path := by
  induction path with
  | nil => rfl
  | cons c path ih =>
      have hnone : escapedByte (c :: path) = none := by
        have hc := h c List.mem_cons_self
        unfold escapedByte
        split
        · next heq => exact absurd (List.cons.inj heq).1 hc
        · rfl
      rw [decodeName, hnone, ih fun d hd => h d (List.mem_cons_of_mem _ hd)]
      rfl

/-- **A path without reserved characters** names itself, whatever the query. -/
lemma parseUri_plain {path query : List Char} (h : ∀ c ∈ path, reserved c = false)
    (hquery : '#' ∉ query) :
    parseUri (path ++ '?' :: query) = (fileName path, some query) := by
  have hfragment : ∀ c ∈ path ++ '?' :: query, decide (c ≠ '#') = true := by
    intro c hc
    rcases List.mem_append.mp hc with hc | hc
    · exact decide_eq_true (reserved_eq_false.mp (h c hc)).2.1
    · rcases List.mem_cons.mp hc with rfl | hc
      · rfl
      · exact decide_eq_true fun heq => hquery (heq ▸ hc)
  have hpath : ∀ c ∈ path, decide (c ≠ '?') = true := fun c hc =>
    decide_eq_true (reserved_eq_false.mp (h c hc)).1
  have hescape : ∀ c ∈ path, c ≠ '%' := fun c hc => (reserved_eq_false.mp (h c hc)).2.2
  have htake : (path ++ '?' :: query).takeWhile (· ≠ '?') = path := by
    rw [List.takeWhile_append_of_pos hpath]
    simp
  have hdrop : (path ++ '?' :: query).dropWhile (· ≠ '?') = '?' :: query := by
    rw [List.dropWhile_append_of_pos hpath]
    simp
  rw [parseUri, List.takeWhile_eq_self_iff.mpr hfragment, htake, hdrop,
    decodeName_plain hescape]
  rfl

end Sqlite
