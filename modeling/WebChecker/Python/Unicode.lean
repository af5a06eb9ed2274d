import WebChecker.Library.Regex
import WebChecker.Python.Json

/-!
# Text, digits and letters of Unicode

What the language takes from its character database: full case folding, decimal digits in every
script, and the letters that a pattern matches when case is ignored.  The database changes with the
version of the language, so the two tables are a parameter (`UnicodeData`), and `UnicodeData.ascii`
is their part below 128.  The third is small: apart from the two cases of an ASCII letter, only the
two Turkish `i`s, the long `s` and the Kelvin sign compare equal to one.

`int` reads digits of any script, with single underscores between them, and refuses texts of more
than 4300 digits; `str` refuses such numbers.
-/

namespace WebChecker

open Regex

/-- The character database: what a character folds to, and the value of a decimal digit. -/
structure UnicodeData where
  casefold : Char → List Char
  decimal : Char → Option ℕ

/-- The part of the database below 128. -/
def UnicodeData.ascii : UnicodeData where
  casefold c := [c.toLower]
  decimal c := if 48 ≤ c.toNat ∧ c.toNat ≤ 57 then some (c.toNat - 48) else none

/-! ## Words -/

/-- `str.split` without an argument, on the characters of a string. -/
def splitWords : List Char → List (List Char)
  | [] => []
  | c :: cs =>
    if isSpace c then splitWords cs
    else
      match cs with
      | [] => [[c]]
      | c' :: _ =>
        if isSpace c' then [c] :: splitWords cs
        else
          match splitWords cs with
          | [] => [[c]]
          | word :: words => (c :: word) :: words

/-- `str.split` without an argument. -/
def words (s : String) : List String := (splitWords s.toList).map String.ofList

/-- The words of a text are not empty and have no blanks. -/
lemma mem_splitWords {cs : List Char} :
    ∀ w ∈ splitWords cs, w ≠ [] ∧ ∀ c ∈ w, isSpace c = false := by
  fun_induction splitWords cs with
  | case1 => simp
  | case2 c cs h ih => exact ih
  | case3 c h => simpa using h
  | case4 c h c' cs h' ih =>
      intro w hw
      rcases List.mem_cons.mp hw with rfl | hw
      · simpa using h
      · exact ih w hw
  | case5 c h c' cs h' hsplit ih =>
      intro w hw
      simp only [hsplit, List.mem_singleton] at hw
      subst hw
      simpa using h
  | case6 c h c' cs h' word rest hsplit ih =>
      intro w hw
      rw [hsplit] at ih hw
      rcases List.mem_cons.mp hw with rfl | hw
      · have hword := (ih word List.mem_cons_self).2
        simpa using ⟨by simpa using h, hword⟩
      · exact ih w (List.mem_cons_of_mem _ hw)

/-- Words joined with blanks neither begin nor end with one. -/
lemma stripChars_intercalate {ws : List (List Char)}
    (h : ∀ w ∈ ws, w ≠ [] ∧ ∀ c ∈ w, isSpace c = false) :
    stripChars ([' '].intercalate ws) = [' '].intercalate ws := by
  have hfront : ([' '].intercalate ws).dropWhile isSpace = [' '].intercalate ws := by
    cases ws with
    | nil => rfl
    | cons w ws =>
        obtain ⟨hne, hw⟩ := h w List.mem_cons_self
        obtain ⟨c, w, rfl⟩ := List.exists_cons_of_ne_nil hne
        rw [List.intercalate_cons_cons_left, List.dropWhile_cons_of_neg]
        simp [hw c List.mem_cons_self]
  rw [stripChars, hfront]
  clear hfront
  induction ws with
  | nil => rfl
  | cons w ws ih =>
      obtain ⟨hne, hw⟩ := h w List.mem_cons_self
      cases ws with
      | nil =>
          rw [List.intercalate_singleton, List.rdropWhile_eq_self_iff]
          intro _
          simp [hw _ (List.getLast_mem _)]
      | cons w' ws =>
          have hrest := ih fun v hv => h v (List.mem_cons_of_mem _ hv)
          obtain ⟨hne', hw'⟩ := h w' (List.mem_cons_of_mem _ List.mem_cons_self)
          obtain ⟨c, w', rfl⟩ := List.exists_cons_of_ne_nil hne'
          have hexists : ∃ d ∈ [' '].intercalate ((c :: w') :: ws), isSpace d = false := by
            rw [List.intercalate_cons_cons_left]
            exact ⟨c, List.mem_cons_self, hw' c List.mem_cons_self⟩
          rw [List.intercalate_cons_cons, rdropWhile_append_of_exists hexists, hrest]

/-- `part in s`. -/
def containsText (part s : String) : Bool := s.toList.tails.any part.toList.isPrefixOf

/-- `str.replace` of one character by nothing. -/
def removeChar (c : Char) (s : String) : String := String.ofList (s.toList.filter (· ≠ c))

/-- `str.rstrip` of some characters. -/
def rstripOf (chars s : String) : String :=
  String.ofList (s.toList.rdropWhile fun c => chars.toList.contains c)

/-- `str.casefold`. -/
def UnicodeData.foldCase (u : UnicodeData) (s : String) : String :=
  String.ofList (s.toList.flatMap u.casefold)

/-! ## Integers as text -/

/-- The most digits that `int` and `str` convert. -/
def maxStrDigits : ℕ := 4300

/-- The blanks around a number: `int` does not count the separators below 32 among them. -/
def isIntSpace (c : Char) : Bool := isSpace c && !(28 ≤ c.toNat && c.toNat < 32)

/-- Digits, with single underscores between them. -/
def UnicodeData.readDigits (u : UnicodeData) : List Char → Option (List ℕ)
  | [] => none
  | [c] => (u.decimal c).map fun d => [d]
  | c :: '_' :: cs => (u.decimal c).bind fun d => (u.readDigits cs).map (d :: ·)
  | c :: cs => (u.decimal c).bind fun d => (u.readDigits cs).map (d :: ·)

/-- A sign, then digits. -/
def UnicodeData.readSigned (u : UnicodeData) (cs : List Char) : Option (ℤ × List ℕ) :=
  match cs with
  | '-' :: cs => (u.readDigits cs).map fun ds => (-1, ds)
  | '+' :: cs => (u.readDigits cs).map fun ds => (1, ds)
  | cs => (u.readDigits cs).map fun ds => (1, ds)

/-- `int` of a text; `none` is its `ValueError`. -/
def UnicodeData.readInt (u : UnicodeData) (s : String) : Option ℤ := do
  let (sign, digits) ← u.readSigned ((s.toList.dropWhile isIntSpace).rdropWhile isIntSpace)
  if digits.length ≤ maxStrDigits then some (sign * (digits.foldl (fun n d => 10 * n + d) 0 : ℕ))
  else none

/-- `str` of a number. -/
def intText (n : ℕ) : Except PyError String :=
  let digits := toString n
  if digits.length ≤ maxStrDigits then .ok digits
  else
    .error (.valueError ("Exceeds the limit (4300 digits) for integer string conversion; " ++
      "use sys.set_int_max_str_digits() to increase the limit"))

/-! ## Patterns -/

/-- Whether a character matches a character of a pattern when case is ignored. -/
def sameIgnoringCase (p c : Char) : Bool :=
  p.toLower = c.toLower ||
    (p.toLower = 'i' && (c.toNat = 0x130 || c.toNat = 0x131)) ||
    (p.toLower = 's' && c.toNat = 0x17F) || (p.toLower = 'k' && c.toNat = 0x212A)

/-- A text of a pattern. -/
def exactly (s : String) : Expr := .literal (fun p c => p = c) s

/-- A text of a pattern when case is ignored. -/
def ignoringCase (s : String) : Expr := .literal sameIgnoringCase s

/-- `\s`. -/
def blank : Expr := .chars isSpace

/-- `\d`. -/
def UnicodeData.digit (u : UnicodeData) : Expr := .chars fun c => (u.decimal c).isSome

/-- `[\d,]`. -/
def UnicodeData.digitOrComma (u : UnicodeData) : Expr :=
  .chars fun c => (u.decimal c).isSome || c = ','

end WebChecker
