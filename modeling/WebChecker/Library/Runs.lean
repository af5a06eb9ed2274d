import Mathlib.Data.List.Induction
import Mathlib.Tactic.Common

/-!
# Runs

What it means to apply operations one after another, and the two inductions every statement about
runs goes through.  `afterLast` and `lastSome` look back in a history: what happened since the
last event of a kind, and which event that was.

* `Machine` — every operation can always be applied and returns a result.  `exec` is the state
  reached, `history` the list of what happened, and `history_induction` the rule that a relation
  between the two which each operation preserves holds after every run.  `restricts_iff` compares a
  run with what is left of it when some operations are left out.
* `Process` — an action may be disabled in a state, as a step of a concurrent party is.  `run` is
  the state reached, `AllSteps` says that every step of a run met a condition on the state before
  it, `run_invariant` is the invariant rule relative to such a condition, and `run_refines` takes a
  run to the actions of another process that it amounts to.
-/

namespace Runs

universe u v w x

/-! ## Looking back -/

section LookingBack

variable {α : Type u} {p : α → Bool} {l : List α} {a : α}

/-- The elements of a list after the last one that satisfies `p`; all of them if none does. -/
def afterLast (p : α → Bool) (l : List α) : List α := (l.reverse.takeWhile fun a => !p a).reverse

/-- The last element that satisfies `p`. -/
def lastSome (p : α → Bool) (l : List α) : Option α := l.reverse.find? p

lemma afterLast_snoc_of_pos (h : p a = true) : afterLast p (l ++ [a]) = [] := by
  simp [afterLast, h]

lemma afterLast_snoc_of_neg (h : p a = false) :
    afterLast p (l ++ [a]) = afterLast p l ++ [a] := by
  simp [afterLast, h]

lemma lastSome_snoc_of_pos (h : p a = true) : lastSome p (l ++ [a]) = some a := by
  simp [lastSome, h]

lemma lastSome_snoc_of_neg (h : p a = false) : lastSome p (l ++ [a]) = lastSome p l := by
  simp [lastSome, h]

lemma eq_false_of_mem_afterLast (h : a ∈ afterLast p l) : p a = false := by
  have hall : (l.reverse.takeWhile fun a => !p a).all (fun a => !p a) = true := List.all_takeWhile
  simpa using List.all_eq_true.mp hall a (List.mem_reverse.mp h)

lemma afterLast_map {β : Type v} (f : β → α) (l : List β) :
    afterLast p (l.map f) = (afterLast (p ∘ f) l).map f := by
  rw [afterLast, ← List.map_reverse, List.takeWhile_map, ← List.map_reverse]
  rfl

end LookingBack

/-! ## Machines -/

/-- An object driven by operations that return results. -/
structure Machine (σ : Type u) (ω : Type v) (ρ : Type w) where
  apply : σ → ω → ρ × σ

/-- One applied operation: the state before, the operation, its result and the state after. -/
structure Event (σ : Type u) (ω : Type v) (ρ : Type w) where
  before : σ
  op : ω
  result : ρ
  after : σ

namespace Machine

variable {σ : Type u} {ω : Type v} {ρ : Type w} (m : Machine σ ω ρ)

/-- What applying `op` in `s` amounts to. -/
def event (s : σ) (op : ω) : Event σ ω ρ := ⟨s, op, (m.apply s op).1, (m.apply s op).2⟩

/-- The state after a list of operations. -/
def exec (s : σ) (ops : List ω) : σ := ops.foldl (fun s op => (m.apply s op).2) s

/-- Everything that happened during a list of operations, in order. -/
def history (s : σ) : List ω → List (Event σ ω ρ)
  | [] => []
  | op :: ops => m.event s op :: history (m.apply s op).2 ops

@[simp] lemma exec_nil (s : σ) : m.exec s [] = s := rfl

@[simp] lemma exec_cons (s : σ) (op : ω) (ops : List ω) :
    m.exec s (op :: ops) = m.exec (m.apply s op).2 ops := rfl

@[simp] lemma history_nil (s : σ) : m.history s [] = [] := rfl

lemma exec_append (s : σ) (as bs : List ω) :
    m.exec s (as ++ bs) = m.exec (m.exec s as) bs := List.foldl_append

lemma history_append (s : σ) (as bs : List ω) :
    m.history s (as ++ bs) = m.history s as ++ m.history (m.exec s as) bs := by
  induction as generalizing s with
  | nil => rfl
  | cons op as ih =>
      simp only [List.cons_append, history, exec_cons, ih]

lemma exec_snoc (s : σ) (ops : List ω) (op : ω) :
    m.exec s (ops ++ [op]) = (m.apply (m.exec s ops) op).2 := by
  rw [exec_append, exec_cons, exec_nil]

lemma history_snoc (s : σ) (ops : List ω) (op : ω) :
    m.history s (ops ++ [op]) = m.history s ops ++ [m.event (m.exec s ops) op] := by
  rw [history_append, history, history_nil]

/-- A history is made of the operations of its run. -/
lemma op_mem_of_mem_history {s : σ} {ops : List ω} {e : Event σ ω ρ} (h : e ∈ m.history s ops) :
    e.op ∈ ops := by
  induction ops generalizing s with
  | nil => simp at h
  | cons op ops ih =>
      rw [history, List.mem_cons] at h
      rcases h with rfl | h
      · exact List.mem_cons_self
      · exact List.mem_cons_of_mem _ (ih h)

/-- **Induction over a run.**  A relation between the history and the state that holds at the
start and that every admitted operation preserves holds after every run of such operations. -/
theorem history_induction {admitted : ω → Prop} {P : List (Event σ ω ρ) → σ → Prop} {s : σ}
    (start : P [] s)
    (step : ∀ h s op, P h s → admitted op → P (h ++ [m.event s op]) (m.apply s op).2)
    {ops : List ω} (hops : ∀ op ∈ ops, admitted op) : P (m.history s ops) (m.exec s ops) := by
  induction ops using List.reverseRecOn with
  | nil => exact start
  | append_singleton ops op ih =>
      rw [history_snoc, exec_snoc]
      exact step _ _ _ (ih fun o ho => hops o (List.mem_append_left _ ho))
        (hops op (List.mem_append_right _ (List.mem_singleton_self op)))

/-- The invariant rule: what every operation preserves holds after every run. -/
theorem exec_invariant {I : σ → Prop} (step : ∀ s op, I s → I (m.apply s op).2) {s : σ}
    (start : I s) (ops : List ω) : I (m.exec s ops) := by
  induction ops generalizing s with
  | nil => exact start
  | cons op ops ih => exact ih (step s op start)

/-- **Simulation.**  If related states stay related and give equal results under an operation and
its translation, then a run and its translation give equal results and end related. -/
theorem simulation {R : σ → σ → Prop} {A : σ → ω → Prop} {f : ω → ω}
    (step : ∀ s t op, R s t → A s op →
      (m.apply t (f op)).1 = (m.apply s op).1 ∧ R (m.apply s op).2 (m.apply t (f op)).2)
    {s t : σ} (h : R s t) {ops : List ω} (hA : ∀ e ∈ m.history s ops, A e.before e.op) :
    (m.history t (ops.map f)).map Event.result = (m.history s ops).map Event.result ∧
      R (m.exec s ops) (m.exec t (ops.map f)) := by
  induction ops generalizing s t with
  | nil => exact ⟨rfl, h⟩
  | cons op ops ih =>
      rw [history, List.forall_mem_cons] at hA
      obtain ⟨hresult, hnext⟩ := step s t op h hA.1
      obtain ⟨hresults, hend⟩ := ih hnext hA.2
      refine ⟨?_, hend⟩
      rw [List.map_cons, history, history, List.map_cons, List.map_cons, hresults]
      exact congrArg (· :: _) hresult

/-! ### Restricting a run

A run from `s` beside the run from `t` of those of its operations that `keep` selects.  An
operation may name something of the state it is meant for, so the shorter run makes it under the
name that this has there: `translate s t op`. -/

section Restriction

variable (keep : σ → ω → Bool) (translate : σ → σ → ω → ω)

/-- The operations of the shorter run. -/
def restrict (s t : σ) : List ω → List ω
  | [] => []
  | op :: ops =>
    if keep s op then
      translate s t op :: restrict (m.apply s op).2 (m.apply t (translate s t op)).2 ops
    else restrict (m.apply s op).2 t ops

/-- The operations of a run that `keep` selects. -/
def kept (s : σ) (ops : List ω) : List (Event σ ω ρ) :=
  (m.history s ops).filter fun e => keep e.before e.op

/-- Event by event as `Q` says, and states at the end as `P` says. -/
def Restricts (P : σ → σ → Prop) (Q : Event σ ω ρ → Event σ ω ρ → Prop) (s t : σ)
    (ops : List ω) : Prop :=
  List.Forall₂ Q (m.kept keep s ops) (m.history t (m.restrict keep translate s t ops)) ∧
    P (m.exec s ops) (m.exec t (m.restrict keep translate s t ops))

variable {m keep translate} {P : σ → σ → Prop} {Q : Event σ ω ρ → Event σ ω ρ → Prop} {s t : σ}
  {op : ω} {ops : List ω}

lemma restricts_cons_of_pos (hkeep : keep s op = true) :
    m.Restricts keep translate P Q s t (op :: ops) ↔
      Q (m.event s op) (m.event t (translate s t op)) ∧
        m.Restricts keep translate P Q (m.apply s op).2 (m.apply t (translate s t op)).2 ops := by
  simp [Restricts, kept, history, restrict, event, hkeep, and_assoc]

lemma restricts_cons_of_neg (hkeep : keep s op = false) :
    m.Restricts keep translate P Q s t (op :: ops) ↔
      m.Restricts keep translate P Q (m.apply s op).2 t ops := by
  simp [Restricts, kept, history, restrict, event, hkeep]

/-- **When a run restricts.**  If the operations that are left out are invisible and those that are
kept agree under a condition, and only then, every beginning of a run restricts exactly if each of
its operations meets the condition. -/
theorem restricts_iff {R : σ → σ → Prop} {A : σ → ω → Prop} (weaken : ∀ s t, R s t → P s t)
    (hidden : ∀ s t op, R s t → keep s op = false → A s op ∧ R (m.apply s op).2 t)
    (agree : ∀ s t op, R s t → keep s op = true → A s op →
      Q (m.event s op) (m.event t (translate s t op)) ∧
        R (m.apply s op).2 (m.apply t (translate s t op)).2)
    (differ : ∀ s t op, R s t → keep s op = true → ¬ A s op →
      ¬ P (m.apply s op).2 (m.apply t (translate s t op)).2)
    (h : R s t) :
    (∀ as, as <+: ops → m.Restricts keep translate P Q s t as) ↔
      ∀ e ∈ m.history s ops, A e.before e.op := by
  induction ops generalizing s t with
  | nil => simp [Restricts, kept, restrict, weaken s t h]
  | cons op ops ih =>
      have hnil : m.Restricts keep translate P Q s t [] := by
        simp [Restricts, kept, restrict, weaken s t h]
      have hprefixes : (∀ as, as <+: op :: ops → m.Restricts keep translate P Q s t as) ↔
          ∀ as, as <+: ops → m.Restricts keep translate P Q s t (op :: as) := by
        simp only [List.prefix_cons_iff, forall_eq_or_imp, forall_exists_index, and_imp]
        constructor
        · rintro ⟨_, hall⟩ as has
          exact hall _ as rfl has
        · rintro hall
          refine ⟨hnil, ?_⟩
          rintro _ as rfl has
          exact hall as has
      rw [hprefixes, history, List.forall_mem_cons]
      cases hkeep : keep s op with
      | false =>
          obtain ⟨hA, hR⟩ := hidden s t op h hkeep
          simp only [restricts_cons_of_neg hkeep, ih hR]
          exact ⟨fun hall => ⟨hA, hall⟩, And.right⟩
      | true =>
          simp only [restricts_cons_of_pos hkeep]
          by_cases hA : A s op
          · obtain ⟨hQ, hR⟩ := agree s t op h hkeep hA
            simp only [hQ, true_and, ih hR]
            exact ⟨fun hall => ⟨hA, hall⟩, And.right⟩
          · refine iff_of_false (fun hall => ?_) fun hall => hA hall.1
            exact differ s t op h hkeep hA (hall [] (List.nil_prefix)).2.2

end Restriction

/-- A state some run from `s₀` reaches. -/
def Reachable (s₀ s : σ) : Prop := ∃ ops, m.exec s₀ ops = s

lemma reachable_refl (s : σ) : m.Reachable s s := ⟨[], rfl⟩

lemma Reachable.apply {m : Machine σ ω ρ} {s₀ s : σ} (h : m.Reachable s₀ s) (op : ω) :
    m.Reachable s₀ (m.apply s op).2 := by
  obtain ⟨ops, rfl⟩ := h
  exact ⟨ops ++ [op], m.exec_snoc s₀ ops op⟩

lemma Reachable.exec {m : Machine σ ω ρ} {s₀ s : σ} (h : m.Reachable s₀ s) (ops : List ω) :
    m.Reachable s₀ (m.exec s ops) := by
  obtain ⟨as, rfl⟩ := h
  exact ⟨as ++ ops, m.exec_append s₀ as ops⟩

theorem Reachable.invariant {m : Machine σ ω ρ} {I : σ → Prop} {s₀ s : σ}
    (h : m.Reachable s₀ s) (start : I s₀) (step : ∀ s op, I s → I (m.apply s op).2) : I s := by
  obtain ⟨ops, rfl⟩ := h
  exact m.exec_invariant step start ops

end Machine

/-! ## Processes -/

/-- An object whose actions may be disabled. -/
structure Process (σ : Type u) (α : Type v) where
  step : σ → α → Option σ

namespace Process

variable {σ : Type u} {α : Type v} (p : Process σ α)

/-- The state after a list of actions, if each was enabled when its turn came. -/
def run (s : σ) : List α → Option σ
  | [] => some s
  | a :: as => (p.step s a).bind fun s' => run s' as

/-- What the steps of a run yield, in order. -/
def collect {β : Type x} (f : σ → α → Option β) (s : σ) : List α → List β
  | [] => []
  | a :: as => (f s a).toList ++ ((p.step s a).map fun s' => collect f s' as).getD []

/-- Every step of the run met `C`, a condition on the state before the step and the action. -/
def AllSteps (C : σ → α → Prop) (s : σ) : List α → Prop
  | [] => True
  | a :: as => C s a ∧ ∀ s', p.step s a = some s' → AllSteps C s' as

/-- Every state that the run reaches has `G`. -/
def AllStates (G : σ → Prop) (s : σ) : List α → Prop
  | [] => G s
  | a :: as => G s ∧ ∀ s', p.step s a = some s' → AllStates G s' as

variable {p}

lemma run_cons {s s' : σ} {a : α} {as : List α} :
    p.run s (a :: as) = some s' ↔ ∃ t, p.step s a = some t ∧ p.run t as = some s' := by
  rw [run, Option.bind_eq_some_iff]

lemma run_append {s t u : σ} {as bs : List α} (has : p.run s as = some t)
    (hbs : p.run t bs = some u) : p.run s (as ++ bs) = some u := by
  induction as generalizing s with
  | nil =>
      rw [run, Option.some.injEq] at has
      simpa [has] using hbs
  | cons a as ih =>
      obtain ⟨s', hs', has⟩ := run_cons.mp has
      exact run_cons.mpr ⟨s', hs', ih has⟩

/-- A run that goes on yields more. -/
lemma collect_append {β : Type x} (f : σ → α → Option β) {s t : σ} {as : List α}
    (has : p.run s as = some t) (bs : List α) :
    p.collect f s (as ++ bs) = p.collect f s as ++ p.collect f t bs := by
  induction as generalizing s with
  | nil =>
      rw [run, Option.some.injEq] at has
      rw [has, List.nil_append, collect, List.nil_append]
  | cons a as ih =>
      obtain ⟨u, hu, has⟩ := run_cons.mp has
      rw [List.cons_append, collect, collect, hu, Option.map_some, Option.map_some,
        Option.getD_some, Option.getD_some, ih has, List.append_assoc]

lemma collect_snoc {β : Type x} (f : σ → α → Option β) {s t : σ} {as : List α}
    (has : p.run s as = some t) (a : α) :
    p.collect f s (as ++ [a]) = p.collect f s as ++ (f t a).toList := by
  rw [collect_append f has, collect]
  cases p.step t a <;> simp [collect]

/-- Along a given run a condition can be checked. -/
instance decidableAllSteps {C : σ → α → Prop} [∀ s a, Decidable (C s a)] :
    ∀ (s : σ) (as : List α), Decidable (p.AllSteps C s as)
  | _, [] => isTrue trivial
  | s, a :: as =>
    match h : p.step s a with
    | none => decidable_of_iff (C s a) (by simp [AllSteps, h])
    | some t =>
      have : Decidable (p.AllSteps C t as) := decidableAllSteps t as
      decidable_of_iff (C s a ∧ p.AllSteps C t as) (by simp [AllSteps, h])

/-- A condition that the actions meet in any state. -/
lemma allSteps_of_forall {C : σ → α → Prop} {as : List α} (h : ∀ a ∈ as, ∀ s, C s a) (s : σ) :
    p.AllSteps C s as := by
  induction as generalizing s with
  | nil => trivial
  | cons a as ih =>
      refine ⟨h a List.mem_cons_self s, fun s' _ => ih (fun b hb => ?_) s'⟩
      exact h b (List.mem_cons_of_mem _ hb)

/-- A condition that another one implies. -/
lemma AllSteps.mono {C D : σ → α → Prop} {s : σ} {as : List α} (h : p.AllSteps C s as)
    (hCD : ∀ s a, C s a → D s a) : p.AllSteps D s as := by
  induction as generalizing s with
  | nil => trivial
  | cons a as ih => exact ⟨hCD s a h.1, fun s' hs' => ih (h.2 s' hs')⟩

/-- **The invariant rule, relative to a condition on the steps.** -/
theorem run_invariant {I : σ → Prop} {C : σ → α → Prop}
    (step : ∀ s a s', I s → C s a → p.step s a = some s' → I s') {s s' : σ} {as : List α}
    (start : I s) (hC : p.AllSteps C s as) (hrun : p.run s as = some s') : I s' := by
  induction as generalizing s with
  | nil =>
      rw [run, Option.some.injEq] at hrun
      exact hrun ▸ start
  | cons a as ih =>
      obtain ⟨t, ht, hrun⟩ := run_cons.mp hrun
      exact ih (step s a t start hC.1 ht) (hC.2 t ht) hrun

/-- What an invariant says of the next action, along a run on which the invariant is kept. -/
lemma AllSteps.of_invariant {I : σ → Prop} {C D : σ → α → Prop}
    (step : ∀ s a s', I s → C s a → p.step s a = some s' → I s')
    (here : ∀ s a, I s → C s a → D s a) {s : σ} {as : List α} (start : I s)
    (hC : p.AllSteps C s as) : p.AllSteps D s as := by
  induction as generalizing s with
  | nil => trivial
  | cons a as ih =>
      refine ⟨here s a start hC.1, fun s' hs' => ?_⟩
      exact ih (step s a s' start hC.1 hs') (hC.2 s' hs')

/-- Two conditions that agree wherever an invariant holds. -/
lemma allSteps_congr {I : σ → Prop} {C D : σ → α → Prop}
    (step : ∀ s a s', I s → p.step s a = some s' → I s')
    (here : ∀ s a, I s → (C s a ↔ D s a)) {s : σ} {as : List α} (start : I s) :
    p.AllSteps C s as ↔ p.AllSteps D s as :=
  ⟨fun h => h.of_invariant (fun s a s' hs _ => step s a s' hs)
      (fun s a hs => (here s a hs).mp) start,
    fun h => h.of_invariant (fun s a s' hs _ => step s a s' hs)
      (fun s a hs => (here s a hs).mpr) start⟩

/-- The invariant rule without a condition. -/
theorem run_stable {I : σ → Prop} (step : ∀ s a s', I s → p.step s a = some s' → I s')
    {s s' : σ} {as : List α} (start : I s) (hrun : p.run s as = some s') : I s' := by
  induction as generalizing s with
  | nil =>
      rw [run, Option.some.injEq] at hrun
      exact hrun ▸ start
  | cons a as ih =>
      obtain ⟨t, ht, hrun⟩ := run_cons.mp hrun
      exact ih (step s a t start ht) hrun

/-- **Induction over a run.**  A relation between the actions so far and the state that holds at
the start and that every step continues holds after every run. -/
theorem run_induction {P : List α → σ → Prop} {s : σ} (start : P [] s)
    (step : ∀ as t a t', P as t → p.step t a = some t' → P (as ++ [a]) t')
    {s' : σ} {as : List α} (hrun : p.run s as = some s') : P as s' := by
  have generalized : ∀ {bs : List α} {t : σ} (past : List α), P past t →
      p.run t bs = some s' → P (past ++ bs) s' := by
    intro bs
    induction bs with
    | nil =>
        intro t past hP hbs
        rw [run, Option.some.injEq] at hbs
        rw [List.append_nil]
        exact hbs ▸ hP
    | cons b bs ih =>
        intro t past hP hbs
        obtain ⟨u, hu, hbs⟩ := run_cons.mp hbs
        have hnext := ih (past ++ [b]) (step past t b u hP hu) hbs
        rwa [List.append_assoc] at hnext
  exact generalized [] start hrun

lemma allSteps_append {C : σ → α → Prop} {s t : σ} {as bs : List α} (has : p.run s as = some t) :
    p.AllSteps C s (as ++ bs) ↔ p.AllSteps C s as ∧ p.AllSteps C t bs := by
  induction as generalizing s with
  | nil =>
      rw [run, Option.some.injEq] at has
      simp [AllSteps, has]
  | cons a as ih =>
      obtain ⟨s', hs', has⟩ := run_cons.mp has
      simp [AllSteps, hs', ih has, and_assoc]

/-- **Refinement.**  If a step of `p` amounts to some actions of `q` on what `f` shows of the
state, and meets `C` exactly if these all meet `D`, then the same is true of a run. -/
theorem run_refines {τ : Type w} {β : Type x} {q : Process τ β} {f : σ → τ} {I : σ → Prop}
    {C : σ → α → Prop} {D : τ → β → Prop}
    (inv : ∀ s a s', I s → p.step s a = some s' → I s')
    (step : ∀ s a s', I s → p.step s a = some s' →
      ∃ bs, q.run (f s) bs = some (f s') ∧ (q.AllSteps D (f s) bs ↔ C s a))
    {s s' : σ} {as : List α} (hI : I s) (hrun : p.run s as = some s') :
    ∃ bs, q.run (f s) bs = some (f s') ∧ (q.AllSteps D (f s) bs ↔ p.AllSteps C s as) := by
  induction as generalizing s with
  | nil =>
      rw [run, Option.some.injEq] at hrun
      exact ⟨[], by rw [run, hrun], by simp [AllSteps]⟩
  | cons a as ih =>
      obtain ⟨t, ht, hrun⟩ := run_cons.mp hrun
      obtain ⟨bs, hbs, hD⟩ := step s a t hI ht
      obtain ⟨cs, hcs, hDs⟩ := ih (inv s a t hI ht) hrun
      refine ⟨bs ++ cs, run_append hbs hcs, ?_⟩
      rw [allSteps_append hbs, hD, hDs]
      simp [AllSteps, ht]

/-- **When a condition is exact, step by step.**  If from a state with `I ∧ G` the steps that meet
`C` are those that reach a state with `G`, then every state of a run has `G` exactly when all its
steps met `C`. -/
theorem allStates_iff_allSteps {I G : σ → Prop} {C : σ → α → Prop}
    (inv : ∀ s a s', I s → p.step s a = some s' → I s')
    (step : ∀ s a s', I s → G s → p.step s a = some s' → (G s' ↔ C s a))
    {s s' : σ} {as : List α} (hI : I s) (hG : G s) (hrun : p.run s as = some s') :
    p.AllStates G s as ↔ p.AllSteps C s as := by
  induction as generalizing s with
  | nil => exact iff_of_true hG trivial
  | cons a as ih =>
      obtain ⟨t, ht, hrun⟩ := run_cons.mp hrun
      have hIt : I t := inv s a t hI ht
      have hstep := step s a t hI hG ht
      simp only [AllStates, AllSteps, ht, Option.some.injEq, forall_eq', hG, true_and]
      constructor
      · intro hall
        have hGt : G t := by cases as with | nil => exact hall | cons b bs => exact hall.1
        exact ⟨hstep.mp hGt, (ih hIt hGt hrun).mp hall⟩
      · rintro ⟨hC, hall⟩
        exact (ih hIt (hstep.mpr hC) hrun).mpr hall

/-- **When a condition is exact.**  If steps that meet `C` keep `I ∧ G`, and from a state with
`I ∧ G` a step that breaks `C` reaches a state without `G` that no later step repairs, then a run
ends in a state with `G` exactly when all its steps met `C`. -/
theorem run_iff_allSteps {I G : σ → Prop} {C : σ → α → Prop}
    (inv : ∀ s a s', I s → p.step s a = some s' → I s')
    (keep : ∀ s a s', I s → G s → C s a → p.step s a = some s' → G s')
    (lose : ∀ s a s', I s → G s → ¬ C s a → p.step s a = some s' → ¬ G s')
    (lost : ∀ s a s', I s → ¬ G s → p.step s a = some s' → ¬ G s')
    {s s' : σ} {as : List α} (hI : I s) (hG : G s) (hrun : p.run s as = some s') :
    G s' ↔ p.AllSteps C s as := by
  constructor
  · intro hG'
    induction as generalizing s with
    | nil => trivial
    | cons a as ih =>
        obtain ⟨t, ht, hrun⟩ := run_cons.mp hrun
        have hIt : I t := inv s a t hI ht
        have hGt : G t := by
          by_contra hGt
          have hend : I s' ∧ ¬ G s' :=
            run_stable (I := fun x => I x ∧ ¬ G x)
              (fun x b y hx hxy => ⟨inv x b y hx.1 hxy, lost x b y hx.1 hx.2 hxy⟩) ⟨hIt, hGt⟩ hrun
          exact hend.2 hG'
        have hC : C s a := by
          by_contra hC
          exact lose s a t hI hG hC ht hGt
        refine ⟨hC, fun t' ht' => ?_⟩
        obtain rfl : t = t' := Option.some.inj (ht.symm.trans ht')
        exact ih hIt hGt hrun
  · intro hC
    exact (run_invariant (I := fun x => I x ∧ G x)
      (fun x b y hx hb hxy => ⟨inv x b y hx.1 hxy, keep x b y hx.1 hx.2 hb hxy⟩)
      ⟨hI, hG⟩ hC hrun).2

end Process

end Runs
