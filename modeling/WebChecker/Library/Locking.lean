import Mathlib.Logic.Function.Basic
import WebChecker.Library.Runs

/-!
# One lock

Parties that do two things to a shared state.  Each prepares at any time, from what it then reads,
and later runs a section under a lock that one party holds at a time.  `observe` is the part of
the shared state that only sections write; a party remembers what it observed when it took the
lock.

`Exclusive` is the invariant of every run: the party in its section holds the lock, and what it
observed is what is still there.  Nothing of the kind is true of what it *prepared*, which is as
old as its waiting.  `allStates_iff` is the rule for a property of the shared state that a section
keeps exactly under a condition, and `allSteps_sections` says how the condition follows from what
the other parties do: if no step puts what a waiting party has prepared out of date, then no
section runs on what is out of date.
-/

namespace Locking

open Runs

variable {ι σ α δ κ ω ε : Type*}

/-- What the parties do.  `prepare` is `none` if the party gives up instead of waiting, and `body`
is the section with the outcome of everything it runs, `none` if that is an outcome it cannot
have. -/
structure Protocol (σ α δ κ ω ε : Type*) where
  prepare : σ → α → Option δ
  observe : σ → κ
  body : σ → δ → κ → ω → Option σ
  outside : σ → ε → σ
  observe_outside : ∀ s e, observe (outside s e) = observe s

/-- Where a party stands. -/
inductive Stage (δ κ : Type*) where
  | idle
  | waiting (prepared : δ)
  | holding (prepared : δ) (observed : κ)
  | finished

/-- What a party that holds the lock has prepared. -/
def Stage.held {δ κ : Type*} : Stage δ κ → Option δ
  | .holding prepared _ => some prepared
  | _ => none

/-- The shared state, the party that holds the lock, and where every party stands. -/
structure System (ι σ δ κ : Type*) where
  shared : σ
  lock : Option ι := none
  stage : ι → Stage δ κ := fun _ => .idle

/-- Before any party has moved. -/
def System.start (shared : σ) : System ι σ δ κ := { shared }

/-- A step of a party, or something that happens to the shared state outside. -/
inductive Action (ι α ω ε : Type*) where
  | prepare (i : ι) (request : α)
  | acquire (i : ι)
  | body (i : ι) (outcome : ω)
  | outside (event : ε)

namespace Protocol

variable [DecidableEq ι] (p : Protocol σ α δ κ ω ε)

/-- The next step of the parties. -/
def step (s : System ι σ δ κ) : Action ι α ω ε → Option (System ι σ δ κ)
  | .prepare i request =>
    match s.stage i with
    | .idle =>
      match p.prepare s.shared request with
      | some prepared => some { s with stage := Function.update s.stage i (.waiting prepared) }
      | none => some { s with stage := Function.update s.stage i .finished }
    | _ => none
  | .acquire i =>
    match s.stage i, s.lock with
    | .waiting prepared, none =>
      let holding := Stage.holding prepared (p.observe s.shared)
      some { s with lock := some i, stage := Function.update s.stage i holding }
    | _, _ => none
  | .body i outcome =>
    match s.stage i with
    | .holding prepared observed =>
      (p.body s.shared prepared observed outcome).map fun shared =>
        ⟨shared, none, Function.update s.stage i .finished⟩
    | _ => none
  | .outside event => some { s with shared := p.outside s.shared event }

/-- Parties over one shared state. -/
def process : Process (System ι σ δ κ) (Action ι α ω ε) := ⟨p.step⟩

/-- Everything a step can do. -/
inductive Effect (s : System ι σ δ κ) : Action ι α ω ε → System ι σ δ κ → Prop
  | waits {i request prepared} (hprepare : p.prepare s.shared request = some prepared) :
      Effect s (.prepare i request)
        { s with stage := Function.update s.stage i (.waiting prepared) }
  | gaveUp {i request} :
      Effect s (.prepare i request) { s with stage := Function.update s.stage i .finished }
  | acquired {i prepared} (hstage : s.stage i = .waiting prepared) (hfree : s.lock = none) :
      Effect s (.acquire i)
        { s with
          lock := some i
          stage := Function.update s.stage i (.holding prepared (p.observe s.shared)) }
  | ran {i outcome prepared observed shared} (hstage : s.stage i = .holding prepared observed)
      (hbody : p.body s.shared prepared observed outcome = some shared) :
      Effect s (.body i outcome) ⟨shared, none, Function.update s.stage i .finished⟩
  | outside {event} : Effect s (.outside event) { s with shared := p.outside s.shared event }

variable {p}

/-- **Every step has one of these effects.** -/
lemma effect_of_step {s s' : System ι σ δ κ} {a : Action ι α ω ε} (h : p.step s a = some s') :
    p.Effect s a s' := by
  cases a with
  | prepare i request =>
      rw [step] at h
      split at h
      · cases hprepare : p.prepare s.shared request with
        | some prepared =>
            rw [hprepare] at h
            exact Option.some.inj h ▸ .waits hprepare
        | none =>
            rw [hprepare] at h
            exact Option.some.inj h ▸ .gaveUp
      · simp at h
  | acquire i =>
      rw [step] at h
      split at h
      · next hstage hfree => exact Option.some.inj h ▸ .acquired hstage hfree
      · simp at h
  | body i outcome =>
      rw [step] at h
      split at h
      · next hstage =>
          obtain ⟨shared, hbody, rfl⟩ := Option.map_eq_some_iff.mp h
          exact .ran hstage hbody
      · simp at h
  | outside event => exact Option.some.inj h ▸ .outside

/-! ## Exclusion -/

/-- A party in its section holds the lock, and nobody has written what it observed. -/
structure Exclusive (p : Protocol σ α δ κ ω ε) (s : System ι σ δ κ) : Prop where
  holder : ∀ i prepared observed, s.stage i = .holding prepared observed → s.lock = some i
  observed : ∀ i prepared observed, s.stage i = .holding prepared observed →
    observed = p.observe s.shared

omit [DecidableEq ι] in
lemma exclusive_start (shared : σ) : p.Exclusive (System.start shared : System ι σ δ κ) :=
  ⟨fun _ _ _ h => by simp [System.start] at h, fun _ _ _ h => by simp [System.start] at h⟩

/-- Where the others stand after one party has moved. -/
lemma stage_of_update {f : ι → Stage δ κ} {i j : ι} {next : Stage δ κ} {prepared : δ}
    {observed : κ} (hnext : ∀ d k, next ≠ .holding d k)
    (h : Function.update f i next j = .holding prepared observed) :
    j ≠ i ∧ f j = .holding prepared observed := by
  rcases eq_or_ne j i with rfl | hne
  · rw [Function.update_self] at h
    exact absurd h (hnext _ _)
  · rw [Function.update_of_ne hne] at h
    exact ⟨hne, h⟩

/-- **Exclusion is kept by every step.** -/
lemma exclusive_step (s : System ι σ δ κ) (a : Action ι α ω ε) (s' : System ι σ δ κ)
    (hs : p.Exclusive s) (h : p.process.step s a = some s') : p.Exclusive s' := by
  cases effect_of_step h with
  | waits hprepare =>
      constructor
      · intro j d k hj
        exact hs.holder j d k (stage_of_update (by simp) hj).2
      · intro j d k hj
        exact hs.observed j d k (stage_of_update (by simp) hj).2
  | gaveUp =>
      constructor
      · intro j d k hj
        exact hs.holder j d k (stage_of_update (by simp) hj).2
      · intro j d k hj
        exact hs.observed j d k (stage_of_update (by simp) hj).2
  | @acquired i prepared hstage hfree =>
      have hothers : ∀ j d k, s.stage j ≠ .holding d k := by
        intro j d k hj
        simp [hs.holder j d k hj] at hfree
      constructor
      · intro j d k hj
        rcases eq_or_ne j i with rfl | hne
        · rfl
        · simp only [Function.update_of_ne hne] at hj
          exact absurd hj (hothers j d k)
      · intro j d k hj
        rcases eq_or_ne j i with rfl | hne
        · simp only [Function.update_self, Stage.holding.injEq] at hj
          exact hj.2.symm
        · simp only [Function.update_of_ne hne] at hj
          exact absurd hj (hothers j d k)
  | @ran i _ prepared observed shared hstage hbody =>
      -- whoever else were in its section would hold the same lock
      have hnobody : ∀ j d k, Function.update s.stage i .finished j ≠ .holding d k := by
        intro j d k hj
        obtain ⟨hne, hj⟩ := stage_of_update (by simp) hj
        have hlock := (hs.holder j d k hj).symm.trans (hs.holder i prepared observed hstage)
        exact hne (Option.some.inj hlock)
      exact ⟨fun j d k hj => absurd hj (hnobody j d k), fun j d k hj => absurd hj (hnobody j d k)⟩
  | outside =>
      exact ⟨hs.holder, fun j d k hj => (hs.observed j d k hj).trans
        (p.observe_outside _ _).symm⟩

/-! ## Sections under a condition -/

/-- Every section that runs meets `D`, a condition on the shared state, on what was prepared and on
the outcome. -/
def Sections (D : σ → δ → ω → Prop) (s : System ι σ δ κ) : Action ι α ω ε → Prop
  | .body i outcome => ∀ prepared observed, s.stage i = .holding prepared observed →
      D s.shared prepared outcome
  | _ => True

omit [DecidableEq ι] in
lemma sections_body {D : σ → δ → ω → Prop} {s : System ι σ δ κ} {i : ι} {outcome : ω} :
    Sections D s (.body i outcome : Action ι α ω ε) ↔
      ∀ prepared ∈ (s.stage i).held, D s.shared prepared outcome := by
  rw [Sections]
  cases s.stage i <;> simp [Stage.held]

instance {D : σ → δ → ω → Prop} [∀ s prepared outcome, Decidable (D s prepared outcome)]
    (s : System ι σ δ κ) : ∀ a : Action ι α ω ε, Decidable (Sections D s a)
  | .body _ _ => decidable_of_iff _ sections_body.symm
  | .prepare _ _ | .acquire _ | .outside _ => isTrue trivial

/-- **A property that sections keep exactly under a condition** is kept by a run exactly if all its
sections meet the condition. -/
theorem allStates_iff {G : σ → Prop} {D : σ → δ → ω → Prop}
    (body : ∀ s prepared outcome s', G s →
      p.body s prepared (p.observe s) outcome = some s' → (G s' ↔ D s prepared outcome))
    (outside : ∀ s event, G s → G (p.outside s event)) {shared : σ} (hstart : G shared)
    {as : List (Action ι α ω ε)} {s' : System ι σ δ κ}
    (hrun : p.process.run (System.start shared) as = some s') :
    p.process.AllStates (fun s => G s.shared) (System.start shared) as ↔
      p.process.AllSteps (Sections D) (System.start shared) as := by
  refine Process.allStates_iff_allSteps (I := p.Exclusive) exclusive_step ?_
    (exclusive_start shared) hstart hrun
  intro s a t hs hG hstep
  cases effect_of_step hstep with
  | waits => exact iff_of_true hG trivial
  | gaveUp => exact iff_of_true hG trivial
  | acquired => exact iff_of_true hG trivial
  | @ran i outcome prepared observed shared' hstage hbody =>
      rw [hs.observed i prepared observed hstage] at hbody
      rw [body _ _ _ _ hG hbody]
      constructor
      · intro hD d k hd
        obtain ⟨rfl, -⟩ := Stage.holding.inj (hd.symm.trans hstage)
        exact hD
      · intro hall
        exact hall prepared observed hstage
  | outside => exact iff_of_true (outside _ _ hG) trivial

/-! ## Not being overtaken -/

/-- What every waiting party has prepared still fits the shared state after the step. -/
def KeepsFitting (p : Protocol σ α δ κ ω ε) (Fits : δ → κ → Prop) (s : System ι σ δ κ)
    (a : Action ι α ω ε) : Prop :=
  ∀ s', p.step s a = some s' → ∀ i prepared, s'.stage i = .waiting prepared →
    Fits prepared (p.observe s'.shared)

/-- **If no step puts what a waiting party has prepared out of date, no section runs on what is out
of date.**  A party that holds the lock cannot be overtaken, so what it prepared fits as it did
when its waiting ended. -/
theorem allSteps_sections {Fits : δ → κ → Prop} {as : List (Action ι α ω ε)} {shared : σ}
    (hkeeps : p.process.AllSteps (p.KeepsFitting Fits) (System.start shared) as) :
    p.process.AllSteps (Sections fun s prepared _ => Fits prepared (p.observe s))
      (System.start shared) as := by
  refine Process.AllSteps.of_invariant
    (I := fun s => p.Exclusive s ∧
      (∀ i prepared, s.stage i = .waiting prepared → Fits prepared (p.observe s.shared)) ∧
      ∀ i prepared observed, s.stage i = .holding prepared observed →
        Fits prepared (p.observe s.shared))
    ?_ ?_ ⟨exclusive_start shared, by simp [System.start], by simp [System.start]⟩ hkeeps
  · rintro s a s' ⟨hs, hwaiting, hholding⟩ hfitting hstep
    have hexclusive := exclusive_step s a s' hs hstep
    refine ⟨hexclusive, hfitting s' hstep, ?_⟩
    intro i prepared observed hi
    cases effect_of_step hstep with
    | waits => exact hholding i _ _ (stage_of_update (by simp) hi).2
    | gaveUp => exact hholding i _ _ (stage_of_update (by simp) hi).2
    | @acquired j d hstage hfree =>
        rcases eq_or_ne i j with rfl | hne
        · simp only [Function.update_self, Stage.holding.injEq] at hi
          exact hi.1 ▸ hwaiting i d hstage
        · simp only [Function.update_of_ne hne] at hi
          exact hholding i _ _ hi
    | ran => exact absurd (hexclusive.holder i prepared observed hi) (by simp)
    | outside =>
        rw [p.observe_outside]
        exact hholding i _ _ hi
  · rintro s a ⟨-, -, hholding⟩ -
    cases a with
    | body i outcome => exact hholding i
    | prepare => trivial
    | acquire => trivial
    | outside => trivial

end Protocol

end Locking
