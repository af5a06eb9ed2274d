import WebChecker.Library.Results

/-!
# Verdicts

For the one who calls it, a program that may fail ends in one of three ways: it returns, it fails
with an error that the caller handles, or with another one.  A sequence of programs stops at the
first that does not return, so its verdict is the first one that is not `returns`
(`ofExcept_bind`, `ofExcept_mapM`), and nothing has to be known of the values they pass on.
-/

/-- How a program ends for its caller. -/
inductive Verdict where
  | returns
  | handled
  | escapes
deriving DecidableEq, Repr

namespace Verdict

universe u v

/-- The verdict on a program that is followed by another one. -/
def andThen : Verdict → Verdict → Verdict
  | returns, v => v
  | handled, _ => handled
  | escapes, _ => escapes

@[simp] lemma returns_andThen (v : Verdict) : returns.andThen v = v := rfl

@[simp] lemma handled_andThen (v : Verdict) : handled.andThen v = handled := rfl

@[simp] lemma escapes_andThen (v : Verdict) : escapes.andThen v = escapes := rfl

@[simp] lemma andThen_returns (v : Verdict) : v.andThen returns = v := by cases v <;> rfl

lemma andThen_assoc (v w x : Verdict) : (v.andThen w).andThen x = v.andThen (w.andThen x) := by
  cases v <;> rfl

/-- The first verdict that is not `returns`. -/
def first : List Verdict → Verdict
  | [] => returns
  | v :: vs => v.andThen (first vs)

@[simp] lemma first_nil : first [] = returns := rfl

@[simp] lemma first_cons (v : Verdict) (vs : List Verdict) :
    first (v :: vs) = v.andThen (first vs) := rfl

lemma first_append (vs ws : List Verdict) : first (vs ++ ws) = (first vs).andThen (first ws) := by
  induction vs with
  | nil => rfl
  | cons v vs ih => rw [List.cons_append, first_cons, first_cons, ih, andThen_assoc]

lemma first_flatMap {α : Type u} (f : α → List Verdict) (xs : List α) :
    first (xs.flatMap f) = first (xs.map fun x => first (f x)) := by
  induction xs with
  | nil => rfl
  | cons x xs ih => rw [List.flatMap_cons, first_append, ih, List.map_cons, first_cons]

/-- Tests none of which is handled fail if one of them does. -/
lemma first_map_escapes {α : Type u} (p : α → Bool) (xs : List α) :
    first (xs.map fun x => if p x then returns else escapes) =
      if xs.all p then returns else escapes := by
  induction xs with
  | nil => rfl
  | cons x xs ih =>
      rw [List.map_cons, first_cons, ih, List.all_cons]
      cases p x <;> simp

/-! ## Programs -/

section Programs

open Results

variable {ε : Type u} {α β : Type v} {isHandled : ε → Bool}

/-- The verdict on a program, for a caller who handles some of the errors. -/
def ofExcept (isHandled : ε → Bool) : Except ε α → Verdict
  | .ok _ => returns
  | .error e => if isHandled e then handled else escapes

@[simp] lemma ofExcept_ok (a : α) : ofExcept isHandled (.ok a : Except ε α) = returns := rfl

@[simp] lemma ofExcept_error (e : ε) :
    ofExcept isHandled (.error e : Except ε α) = if isHandled e then handled else escapes := rfl

/-- **A sequence of two programs.** -/
lemma ofExcept_bind {x : Except ε α} {f : α → Except ε β} {v w : Verdict}
    (hx : ofExcept isHandled x = v) (hf : ∀ a, x = .ok a → ofExcept isHandled (f a) = w) :
    ofExcept isHandled (x >>= f) = v.andThen w := by
  subst hx
  cases x with
  | ok a => exact hf a rfl
  | error e =>
      rw [error_bind, ofExcept_error, ofExcept_error]
      cases isHandled e <;> rfl

/-- What follows a program without escaping does not change whether it escapes. -/
lemma ofExcept_bind_eq_escapes {x : Except ε α} {f : α → Except ε β}
    (hf : ∀ a, ofExcept isHandled (f a) ≠ escapes) :
    ofExcept isHandled (x >>= f) = escapes ↔ ofExcept isHandled x = escapes := by
  cases x with
  | ok a => simpa using hf a
  | error e => rfl

/-- **A sequence escapes** in its first part, or in the second one after the first has returned. -/
lemma ofExcept_bind_escapes {x : Except ε α} {f : α → Except ε β} :
    ofExcept isHandled (x >>= f) = escapes ↔
      ofExcept isHandled x = escapes ∨ ∃ a, x = .ok a ∧ ofExcept isHandled (f a) = escapes := by
  cases x with
  | ok a => simp
  | error e =>
      rw [error_bind, ofExcept_error, ofExcept_error]
      simp

lemma ofExcept_map {x : Except ε α} {f : α → β} :
    ofExcept isHandled (x.map f) = ofExcept isHandled x := by
  cases x <;> rfl

/-- **A program for each element of a list.** -/
lemma ofExcept_mapM {f : α → Except ε β} {v : α → Verdict} {xs : List α}
    (h : ∀ x ∈ xs, ofExcept isHandled (f x) = v x) :
    ofExcept isHandled (xs.mapM f) = first (xs.map v) := by
  induction xs with
  | nil => rfl
  | cons x xs ih =>
      have hrest := ih fun y hy => h y (List.mem_cons_of_mem _ hy)
      rw [List.mapM_cons, List.map_cons, first_cons]
      refine ofExcept_bind (h x List.mem_cons_self) fun y _ => ?_
      rw [← hrest, ← andThen_returns (ofExcept isHandled (xs.mapM f))]
      exact ofExcept_bind rfl fun ys _ => rfl

/-- **A program for each element of a list escapes** at an element before which all have
returned. -/
lemma ofExcept_mapM_escapes {f : α → Except ε β} {xs : List α} :
    ofExcept isHandled (xs.mapM f) = escapes ↔
      ∃ before x after, xs = before ++ x :: after ∧ (∀ y ∈ before, ∃ b, f y = .ok b) ∧
        ofExcept isHandled (f x) = escapes := by
  induction xs with
  | nil => simp
  | cons x xs ih =>
      have hrest : ∀ b, ofExcept isHandled (xs.mapM f >>= fun bs => pure (b :: bs)) = escapes ↔
          ofExcept isHandled (xs.mapM f) = escapes :=
        fun b => ofExcept_bind_eq_escapes fun bs => by simp
      simp only [List.mapM_cons, ofExcept_bind_escapes, hrest, ih]
      constructor
      · rintro (hx | ⟨b, hb, before, y, after, rfl, hbefore, hy⟩)
        · exact ⟨[], x, xs, rfl, by simp, hx⟩
        · refine ⟨x :: before, y, after, rfl, ?_, hy⟩
          exact List.forall_mem_cons.mpr ⟨⟨b, hb⟩, hbefore⟩
      · rintro ⟨before, y, after, hxs, hbefore, hy⟩
        cases before with
        | nil =>
            obtain ⟨rfl, rfl⟩ := List.cons.inj hxs
            exact Or.inl hy
        | cons z before =>
            obtain ⟨rfl, rfl⟩ := List.cons.inj hxs
            obtain ⟨⟨b, hb⟩, hbefore⟩ := List.forall_mem_cons.mp hbefore
            exact Or.inr ⟨b, hb, before, y, after, rfl, hbefore, hy⟩

/-- A program does not escape its caller exactly if it returns or fails with a handled error. -/
lemma ofExcept_ne_escapes {x : Except ε α} :
    ofExcept isHandled x ≠ escapes ↔
      (∃ a, x = .ok a) ∨ ∃ e, x = .error e ∧ isHandled e = true := by
  cases x with
  | ok a => simp
  | error e => cases h : isHandled e <;> simp [h]

/-- It does not escape if what it raises is handled. -/
lemma ofExcept_ne_escapes_of_raises {x : Except ε α}
    (h : Raises (fun e => isHandled e = true) x) : ofExcept isHandled x ≠ escapes :=
  ofExcept_ne_escapes.mpr h.returns_or

end Programs

end Verdict
