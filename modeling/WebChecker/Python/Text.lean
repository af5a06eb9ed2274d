import Mathlib.Data.List.Dedup
import Mathlib.Data.List.DropRight
import Mathlib.Data.String.Basic
import Mathlib.Tactic.Common

/-!
# Python text

The string operations of the language that the checker relies on: `str.strip`, slicing from the
left, `repr` and the search for repeated strings.  A Python string is taken as a Lean `String`, that
is, as a sequence of Unicode scalar values; a string with a lone surrogate cannot be bound to an SQL
statement and is left out.
-/

namespace WebChecker

/-! ## Stripping -/

/-- The characters `str.isspace` accepts. -/
def isSpace (c : Char) : Bool :=
  let n := c.toNat
  (9 ≤ n && n ≤ 13) || (28 ≤ n && n ≤ 32) || n == 0x85 || n == 0xA0 || n == 0x1680 ||
    (0x2000 ≤ n && n ≤ 0x200A) || n == 0x2028 || n == 0x2029 || n == 0x202F || n == 0x205F ||
    n == 0x3000

/-- `str.strip` on the characters of a string. -/
def stripChars (cs : List Char) : List Char := (cs.dropWhile isSpace).rdropWhile isSpace

/-- `str.strip`. -/
def strip (s : String) : String := String.ofList (stripChars s.toList)

/-- A list with a non-blank first element keeps it when blanks are dropped on the right. -/
lemma dropWhile_rdropWhile {cs : List Char} (h : cs.dropWhile isSpace = cs) :
    (cs.rdropWhile isSpace).dropWhile isSpace = cs.rdropWhile isSpace := by
  rw [List.dropWhile_eq_self_iff] at h ⊢
  intro hl
  have hpre : cs.rdropWhile isSpace <+: cs := List.rdropWhile_prefix isSpace cs
  have hcs : 0 < cs.length := hl.trans_le hpre.length_le
  rw [hpre.getElem]
  exact h hcs

@[simp] lemma stripChars_stripChars (cs : List Char) :
    stripChars (stripChars cs) = stripChars cs := by
  have hfront : (cs.dropWhile isSpace).dropWhile isSpace = cs.dropWhile isSpace :=
    List.dropWhile_idempotent isSpace cs
  rw [stripChars, stripChars, dropWhile_rdropWhile hfront, List.rdropWhile_idempotent]

/-- **Stripping twice is stripping once.** -/
@[simp] lemma strip_strip (s : String) : strip (strip s) = strip s := by
  simp [strip]

/-- Dropping stops inside a part that is not blank. -/
lemma dropWhile_append_of_exists {α : Type*} {p : α → Bool} {a : List α}
    (h : ∃ c ∈ a, p c = false) (l : List α) : (a ++ l).dropWhile p = a.dropWhile p ++ l := by
  induction a with
  | nil => simp at h
  | cons c a ih =>
      cases hc : p c with
      | false => simp [hc]
      | true =>
          have hrest : ∃ c ∈ a, p c = false := by simpa [hc] using h
          simpa [hc] using ih hrest

/-- Dropping on the right stops inside a part that is not blank. -/
lemma rdropWhile_append_of_exists {α : Type*} {p : α → Bool} {b : List α}
    (h : ∃ c ∈ b, p c = false) (l : List α) : (l ++ b).rdropWhile p = l ++ b.rdropWhile p := by
  have hreverse : ∃ c ∈ b.reverse, p c = false := by simpa using h
  simp [List.rdropWhile, dropWhile_append_of_exists hreverse]

/-- **Stripping between two parts that are not blank.** -/
lemma stripChars_append {a b : List Char} (ha : ∃ c ∈ a, isSpace c = false)
    (hb : ∃ c ∈ b, isSpace c = false) (l : List Char) :
    stripChars (a ++ (l ++ b)) = a.dropWhile isSpace ++ (l ++ b.rdropWhile isSpace) := by
  rw [stripChars, dropWhile_append_of_exists ha, ← List.append_assoc,
    rdropWhile_append_of_exists hb, List.append_assoc]

/-- A text with a character that is not blank is not blank. -/
lemma strip_ne_empty {s : String} (h : ∃ c ∈ s.toList, isSpace c = false) : strip s ≠ "" := by
  intro hempty
  have hchars : stripChars s.toList = [] := by
    simpa [strip] using congrArg String.toList hempty
  rw [stripChars, List.rdropWhile_eq_nil_iff] at hchars
  obtain ⟨c, hc, hblank⟩ := h
  have hdrop : ∃ c ∈ s.toList.dropWhile isSpace, isSpace c = false := by
    by_contra hnot
    push Not at hnot
    rw [← List.takeWhile_append_dropWhile (p := isSpace) (l := s.toList), List.mem_append] at hc
    rcases hc with hc | hc
    · simp [List.mem_takeWhile_imp hc] at hblank
    · exact hnot c hc hblank
  obtain ⟨c, hc, hblank⟩ := hdrop
  simp [hchars c hc] at hblank

/-! ## Splitting -/

/-- `str.split` at one character, on the characters of a string: a string without the separator
is its only part. -/
def splitChars (separator : Char) : List Char → List (List Char)
  | [] => [[]]
  | c :: cs =>
    if c = separator then [] :: splitChars separator cs
    else
      match splitChars separator cs with
      | [] => [[c]]
      | part :: parts => (c :: part) :: parts

/-- `str.split` at one character. -/
def split (separator : Char) (s : String) : List String :=
  (splitChars separator s.toList).map String.ofList

/-! ## Prefixes -/

/-- `str.startswith` with `str.removeprefix`: what follows the prefix, if the string starts with
it. -/
def afterPrefix (start s : String) : Option String :=
  if start.toList <+: s.toList then some (String.ofList (s.toList.drop start.toList.length))
  else none

/-- **Texts differ if their beginnings do.** -/
lemma append_ne_append {a b : String} (n : ℕ) (ha : n < a.toList.length)
    (hb : n < b.toList.length) (h : a.toList[n]? ≠ b.toList[n]?) (s t : String) :
    a ++ s ≠ b ++ t := by
  intro heq
  have hchar := congrArg (fun u => u.toList[n]?) heq
  simp only [String.toList_append, List.getElem?_append_left ha,
    List.getElem?_append_left hb] at hchar
  exact h hchar

/-! ## Replacing -/

/-- `str.replace` of one character. -/
def replaceChar (c : Char) (replacement s : String) : String :=
  String.ofList (s.toList.flatMap fun d => if d = c then replacement.toList else [d])

/-! ## Repeated texts -/

/-- `sorted({text for text in texts if texts.count(text) > 1})`. -/
def duplicates (texts : List String) : List String :=
  (texts.filter fun text => 1 < texts.count text).dedup.mergeSort fun a b => a ≤ b

/-- There are none exactly if no text is repeated. -/
lemma duplicates_eq_nil {texts : List String} : duplicates texts = [] ↔ texts.Nodup := by
  rw [duplicates, ← List.length_eq_zero_iff, List.length_mergeSort, List.length_eq_zero_iff,
    List.dedup_eq_nil, List.filter_eq_nil_iff, List.nodup_iff_count_le_one]
  simp only [decide_eq_true_eq, not_lt]
  refine ⟨fun h text => ?_, fun h text _ => h text⟩
  by_cases htext : text ∈ texts
  · exact h text htext
  · simp [List.count_eq_zero_of_not_mem htext]

/-! ## Slices and representations -/

/-- The slice `s[:n]`. -/
def sliceTo (n : ℕ) (s : String) : String := String.ofList (s.toList.take n)

/-- The single quote. -/
def singleQuote : Char := Char.ofNat 39

/-- The double quote. -/
def doubleQuote : Char := Char.ofNat 34

/-- The backslash. -/
def backslash : Char := Char.ofNat 92

/-- The two-digit hexadecimal escape of a control character. -/
def hexEscape (c : Char) : List Char :=
  [backslash, 'x', Nat.digitChar (c.toNat / 16), Nat.digitChar (c.toNat % 16)]

/-- How `repr` writes one character between `quote`s.  Characters above ASCII are written as they
are; Python escapes those of them that are not printable. -/
def reprChar (quote : Char) (c : Char) : List Char :=
  if c = quote ∨ c = backslash then [backslash, c]
  else if c.toNat = 10 then [backslash, 'n']
  else if c.toNat = 13 then [backslash, 'r']
  else if c.toNat = 9 then [backslash, 't']
  else if c.toNat < 32 ∨ c.toNat = 127 then hexEscape c
  else [c]

/-- `repr` of a string: double quotes only around a string with a single quote and no double. -/
def pyRepr (s : String) : String :=
  let quote :=
    if singleQuote ∈ s.toList ∧ doubleQuote ∉ s.toList then doubleQuote else singleQuote
  String.ofList (quote :: s.toList.flatMap (reprChar quote) ++ [quote])

end WebChecker
