import Mathlib.Data.List.Forall2
import Mathlib.Data.List.ReduceOption
import Mathlib.Data.Option.Basic
import Mathlib.Tactic.Common

/-!
# Computations that can fail

Inversion and congruence facts about `Except`, stated once so that a proof can take a sequence of
fallible steps apart without unfolding the monad, and what relates two options or two lists of
results element by element.
-/

namespace Results

universe u v w

variable {ε : Type u} {α β : Type v}

@[simp] lemma ok_bind (a : α) (f : α → Except ε β) : (Except.ok a >>= f) = f a := rfl

@[simp] lemma error_bind (e : ε) (f : α → Except ε β) :
    ((Except.error e : Except ε α) >>= f) = Except.error e := rfl

@[simp] lemma pure_eq_ok (a : α) : (pure a : Except ε α) = Except.ok a := rfl

@[simp] lemma isOk_error (e : ε) : (Except.error e : Except ε α).isOk = false := rfl

/-- What has succeeded has a value. -/
lemma exists_ok {x : Except ε α} (h : x.isOk = true) : ∃ a, x = .ok a := by
  cases x with
  | error e => simp at h
  | ok a => exact ⟨a, rfl⟩

/-- What has succeeded with a value that passes a test. -/
lemma exists_ok_of_any {x : Except ε α} {p : α → Bool} (h : x.toOption.any p = true) :
    ∃ a, x = .ok a ∧ p a = true := by
  cases x with
  | error e => simp [Except.toOption] at h
  | ok a => exact ⟨a, rfl, by simpa [Except.toOption] using h⟩

/-- A sequence succeeds when both steps do. -/
lemma bind_eq_ok {x : Except ε α} {f : α → Except ε β} {b : β} :
    (x >>= f) = .ok b ↔ ∃ a, x = .ok a ∧ f a = .ok b := by
  cases x <;> simp

@[simp] lemma map_ok (a : α) (f : α → β) : (Except.ok a : Except ε α).map f = .ok (f a) := rfl

@[simp] lemma map_error (e : ε) (f : α → β) : (Except.error e : Except ε α).map f = .error e := rfl

lemma map_eq_ok {x : Except ε α} {f : α → β} {b : β} :
    x.map f = .ok b ↔ ∃ a, x = .ok a ∧ f a = b := by
  cases x <;> simp

/-- A list of computations that all succeed. -/
lemma mapM_eq_ok {f : α → Except ε β} {g : α → β} {xs : List α}
    (h : ∀ x ∈ xs, f x = .ok (g x)) : xs.mapM f = .ok (xs.map g) := by
  induction xs with
  | nil => rfl
  | cons x xs ih =>
      rw [List.mapM_cons, h x List.mem_cons_self, ih fun y hy => h y (List.mem_cons_of_mem _ hy)]
      rfl

/-- What a list of computations returned came from its elements. -/
lemma mem_of_mapM_eq_ok {f : α → Except ε β} {xs : List α} :
    ∀ {ys : List β}, xs.mapM f = .ok ys → ∀ y ∈ ys, ∃ x ∈ xs, f x = .ok y := by
  induction xs with
  | nil =>
      intro ys h y hy
      rw [List.mapM_nil, pure_eq_ok, Except.ok.injEq] at h
      simp [← h] at hy
  | cons x xs ih =>
      intro ys h y hy
      simp only [List.mapM_cons, bind_eq_ok, pure_eq_ok, Except.ok.injEq] at h
      obtain ⟨z, hz, zs, hzs, rfl⟩ := h
      rcases List.mem_cons.mp hy with rfl | hy
      · exact ⟨x, List.mem_cons_self, hz⟩
      · obtain ⟨w, hw, hwy⟩ := ih hzs y hy
        exact ⟨w, List.mem_cons_of_mem _ hw, hwy⟩

/-- What can be told of every result from its element can be told of the lists. -/
lemma map_of_mapM_eq_ok {γ : Type w} {f : α → Except ε β} {g : β → γ} {h : α → γ}
    {xs : List α} : ∀ {ys : List β}, xs.mapM f = .ok ys →
      (∀ x y, f x = .ok y → g y = h x) → ys.map g = xs.map h := by
  induction xs with
  | nil =>
      intro ys hys _
      rw [List.mapM_nil, pure_eq_ok, Except.ok.injEq] at hys
      simp [← hys]
  | cons x xs ih =>
      intro ys hys hgh
      simp only [List.mapM_cons, bind_eq_ok, pure_eq_ok, Except.ok.injEq] at hys
      obtain ⟨y, hy, ys, hys, rfl⟩ := hys
      rw [List.map_cons, List.map_cons, hgh x y hy, ih hys hgh]

/-- A list of computations that returned has returned something for each element. -/
lemma exists_of_mapM_eq_ok {f : α → Except ε β} {xs : List α} :
    ∀ {ys : List β}, xs.mapM f = .ok ys → ∀ x ∈ xs, ∃ y ∈ ys, f x = .ok y := by
  induction xs with
  | nil => simp
  | cons x xs ih =>
      intro ys h z hz
      simp only [List.mapM_cons, bind_eq_ok, pure_eq_ok, Except.ok.injEq] at h
      obtain ⟨y, hy, ys, hys, rfl⟩ := h
      rcases List.mem_cons.mp hz with rfl | hz
      · exact ⟨y, List.mem_cons_self, hy⟩
      · obtain ⟨w, hw, hzw⟩ := ih hys z hz
        exact ⟨w, List.mem_cons_of_mem _ hw, hzw⟩

/-- A list of computations succeeds element by element. -/
lemma mapM_eq_ok_iff {f : α → Except ε β} {xs : List α} {ys : List β} :
    xs.mapM f = .ok ys ↔ List.Forall₂ (fun x y => f x = .ok y) xs ys := by
  induction xs generalizing ys with
  | nil =>
      rw [List.mapM_nil, pure_eq_ok, Except.ok.injEq, List.forall₂_nil_left_iff]
      exact eq_comm
  | cons x xs ih =>
      simp only [List.mapM_cons, bind_eq_ok, pure_eq_ok, Except.ok.injEq, ih]
      constructor
      · rintro ⟨y, hy, ys, hys, rfl⟩
        exact .cons hy hys
      · rintro (_ | ⟨hy, hys⟩)
        exact ⟨_, hy, _, hys, rfl⟩

/-- A loop that returns has gone through each of its elements. -/
lemma foldlM_take_eq_ok {f : β → α → Except ε β} {xs : List α} {b b' : β}
    (h : xs.foldlM f b = .ok b') {i : ℕ} {x : α} (hx : xs[i]? = some x) :
    ∃ c c', (xs.take i).foldlM f b = .ok c ∧ f c x = .ok c' ∧
      (xs.take (i + 1)).foldlM f b = .ok c' := by
  rw [← List.take_append_drop (i + 1) xs, List.foldlM_append, bind_eq_ok] at h
  obtain ⟨c', hc', -⟩ := h
  have htake : xs.take (i + 1) = xs.take i ++ [x] := by
    rw [List.take_add_one, hx, Option.toList_some]
  rw [htake, List.foldlM_append, bind_eq_ok] at hc'
  obtain ⟨c, hc, hx'⟩ := hc'
  rw [List.foldlM_cons, bind_eq_ok] at hx'
  obtain ⟨d, hd, hlast⟩ := hx'
  obtain rfl := Except.ok.inj hlast
  refine ⟨c, d, hc, hd, ?_⟩
  rw [htake, List.foldlM_append, hc, ok_bind, List.foldlM_cons, hd]
  rfl

/-! ## Which errors -/

section Raising

variable {P : ε → Prop}

/-- If the computation fails, its error satisfies `P`. -/
def Raises (P : ε → Prop) (x : Except ε α) : Prop := ∀ e, x = .error e → P e

@[simp] lemma raises_ok (a : α) : Raises P (Except.ok a : Except ε α) := by simp [Raises]

@[simp] lemma raises_error (e : ε) : Raises P (Except.error e : Except ε α) ↔ P e := by
  simp [Raises]

@[simp] lemma raises_bind {x : Except ε α} {f : α → Except ε β} :
    Raises P (x >>= f) ↔ Raises P x ∧ ∀ a, x = .ok a → Raises P (f a) := by
  cases x <;> simp

@[simp] lemma raises_map {x : Except ε α} {f : α → β} : Raises P (x.map f) ↔ Raises P x := by
  cases x <;> simp

lemma Raises.imp {Q : ε → Prop} {x : Except ε α} (h : Raises P x) (hpq : ∀ e, P e → Q e) :
    Raises Q x :=
  fun e he => hpq e (h e he)

lemma Raises.mapM {f : α → Except ε β} {xs : List α} (h : ∀ a ∈ xs, Raises P (f a)) :
    Raises P (xs.mapM f) := by
  induction xs with
  | nil => exact raises_ok []
  | cons x xs ih =>
      have hx := h x List.mem_cons_self
      have hxs := ih fun a ha => h a (List.mem_cons_of_mem _ ha)
      simp [List.mapM_cons, hx, hxs]

lemma Raises.foldlM {f : β → α → Except ε β} {xs : List α} (h : ∀ b a, Raises P (f b a)) (b : β) :
    Raises P (xs.foldlM f b) := by
  induction xs generalizing b with
  | nil => exact raises_ok b
  | cons x xs ih => simp [List.foldlM_cons, h, ih]

/-- A computation that raises only what satisfies `P` returns or fails with such an error. -/
lemma Raises.returns_or {x : Except ε α} (h : Raises P x) :
    (∃ a, x = .ok a) ∨ ∃ e, x = .error e ∧ P e := by
  cases x with
  | error e => exact Or.inr ⟨e, rfl, h e rfl⟩
  | ok a => exact Or.inl ⟨a, rfl⟩

/-- A list of computations none of which fails succeeds. -/
lemma exists_mapM_eq_ok {f : α → Except ε β} {xs : List α} (h : ∀ x ∈ xs, ∃ y, f x = .ok y) :
    ∃ ys, xs.mapM f = .ok ys := by
  have hnone : Raises (fun _ => False) (xs.mapM f) := .mapM fun x hx => by
    obtain ⟨y, hy⟩ := h x hx
    simp [hy]
  exact hnone.returns_or.resolve_right fun ⟨_, _, hfalse⟩ => hfalse

/-- **A list of computations one of which fails** fails with an error of one of them. -/
lemma exists_mapM_eq_error {f : α → Except ε β} {xs : List α} {x : α} {e : ε} (hx : x ∈ xs)
    (hfails : f x = .error e) (h : ∀ x ∈ xs, Raises P (f x)) :
    ∃ e, xs.mapM f = .error e ∧ P e := by
  refine (Raises.mapM h).returns_or.resolve_left ?_
  rintro ⟨ys, hys⟩
  obtain ⟨y, _, hy⟩ := exists_of_mapM_eq_ok hys x hx
  rw [hfails] at hy
  simp at hy

end Raising

/-! ## Element by element -/

/-- Related options are both absent or both there. -/
lemma rel_cases {γ : Type w} {R : α → γ → Prop} {x : Option α} {y : Option γ}
    (h : Option.Rel R x y) :
    (x = none ∧ y = none) ∨ ∃ a b, x = some a ∧ y = some b ∧ R a b := by
  cases h with
  | none => exact Or.inl ⟨rfl, rfl⟩
  | some h => exact Or.inr ⟨_, _, rfl, rfl, h⟩

/-- A reading that related elements share gives equal lists. -/
lemma map_eq_of_forall₂ {γ : Type w} {δ : Type u} {R : α → γ → Prop} {f : α → δ} {g : γ → δ}
    {l : List α} {l' : List γ} (h : List.Forall₂ R l l') (hfg : ∀ a b, R a b → g b = f a) :
    l'.map g = l.map f := by
  induction h with
  | nil => rfl
  | cons hab _ ih => rw [List.map_cons, List.map_cons, hfg _ _ hab, ih]

/-- **What is left of the results** belongs to the elements that a test selects, in their order. -/
lemma forall₂_reduceOption {γ : Type w} {R : α → Option γ → Prop} {S : α → γ → Prop}
    {p : α → Bool} {l : List α} {l' : List (Option γ)} (h : List.Forall₂ R l l')
    (hnone : ∀ a ∈ l, R a none → p a = false)
    (hsome : ∀ a ∈ l, ∀ b, R a (some b) → p a = true ∧ S a b) :
    List.Forall₂ S (l.filter p) l'.reduceOption := by
  induction h with
  | nil => exact .nil
  | @cons a r l l' hab _ ih =>
      have hrest := ih (fun a ha => hnone a (List.mem_cons_of_mem _ ha))
        (fun a ha => hsome a (List.mem_cons_of_mem _ ha))
      cases r with
      | none =>
          rw [List.filter_cons_of_neg (by simp [hnone a List.mem_cons_self hab]),
            List.reduceOption_cons_of_none]
          exact hrest
      | some b =>
          obtain ⟨hp, hs⟩ := hsome a List.mem_cons_self b hab
          rw [List.filter_cons_of_pos hp, List.reduceOption_cons_of_some]
          exact .cons hs hrest

end Results
