import Mathlib.Data.List.Basic

/-!
# Regular expressions with priorities

Matching as a backtracking matcher does it.  `runs` lists every way an expression can match at the
front of a text, in the order in which a backtracking matcher would try them: the left side of an
alternative first, and a repetition as often as possible first.  The match is the first of them
(`matchFront`), with the groups it has captured; `search` looks for the first position that has
one.

A repetition whose body matches without consuming anything is not tried again, so the list is
finite.
-/

namespace Regex

/-- Regular expressions over characters. -/
inductive Expr where
  | chars (p : Char → Bool)
  | empty
  | seq (a b : Expr)
  | alt (a b : Expr)
  | star (a : Expr)
  | group (n : ℕ) (a : Expr)
  | atEnd

/-- A way to match: the captured groups, and what is left of the text. -/
structure Run where
  groups : List (ℕ × List Char)
  rest : List Char

namespace Expr

/-- One or more. -/
def plus (a : Expr) : Expr := .seq a (.star a)

/-- One or none. -/
def optional (a : Expr) : Expr := .alt a .empty

/-- All of them, one after the other. -/
def sequence : List Expr → Expr
  | [] => .empty
  | a :: as => .seq a (sequence as)

/-- The first of them that matches. -/
def anyOf : List Expr → Expr
  | [] => .chars fun _ => false
  | a :: as => .alt a (anyOf as)

/-- A text, character by character under a comparison. -/
def literal (same : Char → Char → Bool) (s : String) : Expr :=
  sequence (s.toList.map fun c => .chars (same c))

/-- As many turns as the body can take, each of which consumes something. -/
def starRuns (body : List Char → List Run) : ℕ → List Char → List Run
  | 0, cs => [⟨[], cs⟩]
  | n + 1, cs =>
    (((body cs).filter fun r => r.rest.length < cs.length).flatMap fun r =>
      (starRuns body n r.rest).map fun r' => ⟨r.groups ++ r'.groups, r'.rest⟩) ++ [⟨[], cs⟩]

/-- The ways to match at the front of a text, in order of priority. -/
def runs : Expr → List Char → List Run
  | .chars p, cs =>
    match cs with
    | [] => []
    | c :: cs => if p c then [⟨[], cs⟩] else []
  | .empty, cs => [⟨[], cs⟩]
  | .seq a b, cs => (a.runs cs).flatMap fun r =>
      (b.runs r.rest).map fun r' => ⟨r.groups ++ r'.groups, r'.rest⟩
  | .alt a b, cs => a.runs cs ++ b.runs cs
  | .star a, cs => starRuns a.runs cs.length cs
  | .group n a, cs => (a.runs cs).map fun r =>
      ⟨(n, cs.take (cs.length - r.rest.length)) :: r.groups, r.rest⟩
  | .atEnd, cs => if cs.all (· = Char.ofNat 10) ∧ cs.length ≤ 1 then [⟨[], cs⟩] else []

/-- The match at the front of a text. -/
def matchFront (a : Expr) (cs : List Char) : Option Run := (a.runs cs).head?

/-- The expression matches the whole text. -/
def matchesAll (a : Expr) (cs : List Char) : Bool := (a.runs cs).any fun r => r.rest.isEmpty

/-- The first match in a text. -/
def search (a : Expr) : List Char → Option Run
  | [] => a.matchFront []
  | c :: cs => (a.matchFront (c :: cs)).or (search a cs)

/-- A text without the matches that are found in it from left to right. -/
def erase (a : Expr) : ℕ → List Char → List Char
  | 0, cs => cs
  | _ + 1, [] => []
  | n + 1, c :: cs =>
    match a.matchFront (c :: cs) with
    | some r => if r.rest.length ≤ cs.length then erase a n r.rest else c :: erase a n cs
    | none => c :: erase a n cs

end Expr

/-- The text of a group. -/
def Run.group (r : Run) (n : ℕ) : Option (List Char) := r.groups.lookup n

end Regex
