import Mathlib.Data.List.Basic
import Mathlib.Logic.Function.Basic
import WebChecker.Library.Runs

/-!
# Attempts that commit

A party executes a task again and again.  An execution is a sequence of attempts; each attempt may
commit a change at some point and then succeeds or fails, a failed one may be followed by another,
and the failure of the last one may be reported.  What an attempt does after its commit can still
fail, and nothing takes the commit back.

* `State` — where every party stands, and the log of what its attempts did.
* `process` — the interleavings of the parties.
* `Kept` — no committed attempt ends without success.

`kept_iff` says that this holds exactly in the runs in which no attempt fails after its commit, and
`Kept.unreported` that no execution with a commit is then reported.
-/

namespace Retrying

open Runs

variable {κ : Type*}

/-! ## The parties and their log -/

/-- An attempt: whose it is, in which execution, and which one of that execution. -/
structure Attempt (κ : Type*) where
  party : κ
  execution : ℕ
  number : ℕ
deriving DecidableEq

/-- The attempt after a failed one. -/
def Attempt.next (x : Attempt κ) : Attempt κ := { x with number := x.number + 1 }

/-- What the log says about an attempt. -/
inductive Mark where
  | started
  | committed
  | succeeded
  | failed
  /-- The failure of the execution was reported. -/
  | reported
deriving DecidableEq

/-- Where a party stands. -/
inductive Phase (κ : Type*) where
  | idle
  | running (x : Attempt κ) (committed : Bool)
  /-- Between a failed attempt and the next one. -/
  | waiting (x : Attempt κ)

/-- The attempt a party is in, or has just failed in. -/
def Phase.attempt : Phase κ → Option (Attempt κ)
  | idle => none
  | running x _ => some x
  | waiting x => some x

/-- The parties, the number of executions each of them has begun, and the log. -/
structure State (κ : Type*) where
  phase : κ → Phase κ
  begun : κ → ℕ
  log : List (Attempt κ × Mark)

inductive Action (κ : Type*) where
  | begin (k : κ)
  | commit (k : κ)
  | succeed (k : κ)
  /-- Fail, with another attempt to come. -/
  | retry (k : κ)
  /-- Fail for good. -/
  | giveUp (k : κ) (report : Bool)
  | again (k : κ)

namespace State

variable [DecidableEq κ]

/-- Nobody has begun. -/
def start : State κ := ⟨fun _ => .idle, fun _ => 0, []⟩

/-- A party moves on, and the log says what its attempt did. -/
def moved (s : State κ) (k : κ) (phase : Phase κ) (x : Attempt κ) (marks : List Mark) : State κ :=
  { s with phase := Function.update s.phase k phase, log := s.log ++ marks.map (Prod.mk x) }

end State

section Process

variable [DecidableEq κ]

/-- The interleavings of the parties. -/
def process : Process (State κ) (Action κ) where
  step s
    | .begin k =>
      match s.phase k with
      | .idle =>
        let x : Attempt κ := ⟨k, s.begun k, 1⟩
        some { s.moved k (.running x false) x [.started] with
                begun := Function.update s.begun k (s.begun k + 1) }
      | _ => none
    | .commit k =>
      match s.phase k with
      | .running x false => some (s.moved k (.running x true) x [.committed])
      | _ => none
    | .succeed k =>
      match s.phase k with
      | .running x true => some (s.moved k .idle x [.succeeded])
      | _ => none
    | .retry k =>
      match s.phase k with
      | .running x _ => some (s.moved k (.waiting x) x [.failed])
      | _ => none
    | .giveUp k report =>
      match s.phase k with
      | .running x _ =>
        some (s.moved k .idle x (if report then [.failed, .reported] else [.failed]))
      | _ => none
    | .again k =>
      match s.phase k with
      | .waiting x => some (s.moved k (.running x.next false) x.next [.started])
      | _ => none

/-- Everything an action can do. -/
inductive Effect (s : State κ) : Action κ → State κ → Prop
  | begun {k} (h : s.phase k = .idle) :
      Effect s (.begin k)
        { s.moved k (.running ⟨k, s.begun k, 1⟩ false) ⟨k, s.begun k, 1⟩ [.started] with
          begun := Function.update s.begun k (s.begun k + 1) }
  | committed {k x} (h : s.phase k = .running x false) :
      Effect s (.commit k) (s.moved k (.running x true) x [.committed])
  | succeeded {k x} (h : s.phase k = .running x true) :
      Effect s (.succeed k) (s.moved k .idle x [.succeeded])
  | retried {k x c} (h : s.phase k = .running x c) :
      Effect s (.retry k) (s.moved k (.waiting x) x [.failed])
  | gaveUp {k x c report} (h : s.phase k = .running x c) :
      Effect s (.giveUp k report)
        (s.moved k .idle x (if report then [.failed, .reported] else [.failed]))
  | again {k x} (h : s.phase k = .waiting x) :
      Effect s (.again k) (s.moved k (.running x.next false) x.next [.started])

/-- **Every action has one of these effects.** -/
lemma effect_of_step {s s' : State κ} {a : Action κ} (h : process.step s a = some s') :
    Effect s a s' := by
  cases a with
  | begin k =>
      simp only [process] at h
      split at h
      next hk => exact Option.some.inj h ▸ .begun hk
      next => simp at h
  | commit k =>
      simp only [process] at h
      split at h
      next hk => exact Option.some.inj h ▸ .committed hk
      next => simp at h
  | succeed k =>
      simp only [process] at h
      split at h
      next hk => exact Option.some.inj h ▸ .succeeded hk
      next => simp at h
  | retry k =>
      simp only [process] at h
      split at h
      next hk => exact Option.some.inj h ▸ .retried hk
      next => simp at h
  | giveUp k report =>
      simp only [process] at h
      split at h
      next hk => exact Option.some.inj h ▸ .gaveUp hk
      next => simp at h
  | again k =>
      simp only [process] at h
      split at h
      next hk => exact Option.some.inj h ▸ .again hk
      next => simp at h

end Process

/-! ## The invariant -/

/-- What holds in every run. -/
structure Inv (s : State κ) : Prop where
  /-- A party is in its last execution. -/
  own : ∀ k x, (s.phase k).attempt = some x → x.party = k ∧ x.execution + 1 = s.begun k
  /-- The log is about executions that have begun. -/
  begun : ∀ y m, (y, m) ∈ s.log → y.execution < s.begun y.party
  /-- While an execution goes on, no later attempt of it is in the log, and it has neither
  succeeded nor been reported. -/
  open_execution : ∀ k x, (s.phase k).attempt = some x → ∀ y m, (y, m) ∈ s.log → y.party = k →
    y.execution = x.execution → y.number ≤ x.number ∧ m ≠ .succeeded ∧ m ≠ .reported
  /-- While an attempt goes on, the log says that it has committed exactly if it has. -/
  open_attempt : ∀ k x c, s.phase k = .running x c →
    (x, .failed) ∉ s.log ∧ ((x, .committed) ∈ s.log ↔ c = true)
  /-- A successful attempt has not failed. -/
  not_failed : ∀ x, (x, .succeeded) ∈ s.log → (x, .failed) ∉ s.log
  /-- A reported execution has no successful attempt. -/
  not_reported : ∀ x y, (x, .reported) ∈ s.log → (y, .succeeded) ∈ s.log → y.party = x.party →
    y.execution ≠ x.execution

lemma inv_start [DecidableEq κ] : Inv (State.start : State κ) := by
  constructor <;> simp [State.start, Phase.attempt]

variable [DecidableEq κ] {s s' : State κ} {k : κ} {x : Attempt κ}

lemma mem_log_moved {phase : Phase κ} {marks : List Mark} {y : Attempt κ} {m : Mark} :
    (y, m) ∈ (s.moved k phase x marks).log ↔ (y, m) ∈ s.log ∨ (y = x ∧ m ∈ marks) := by
  simp [State.moved, and_comm, eq_comm]

lemma phase_moved_self {phase : Phase κ} {marks : List Mark} :
    (s.moved k phase x marks).phase k = phase := by
  simp [State.moved]

lemma phase_moved_of_ne {phase : Phase κ} {marks : List Mark} {q : κ} (h : q ≠ k) :
    (s.moved k phase x marks).phase q = s.phase q := by
  simp [State.moved, h]

/-- **A move within an execution keeps the invariant.**  The execution must be the last one of the
party, with nothing in the log that ends it, and the marks must agree with the new phase. -/
lemma Inv.moved (inv : Inv s) {phase : Phase κ} {marks : List Mark} (hparty : x.party = k)
    (hbegun : x.execution + 1 = s.begun k)
    (hlog : ∀ y m, (y, m) ∈ s.log → y.party = k → y.execution = x.execution →
      y.number ≤ x.number ∧ m ≠ .succeeded ∧ m ≠ .reported)
    (hphase : ∀ y, phase.attempt = some y → y = x ∧ .succeeded ∉ marks ∧ .reported ∉ marks)
    (hopen : ∀ c, phase = .running x c → (x, .failed) ∉ s.log ∧ .failed ∉ marks ∧
      ((x, .committed) ∈ s.log ∨ .committed ∈ marks ↔ c = true))
    (hends : .succeeded ∈ marks → (x, .failed) ∉ s.log ∧ .failed ∉ marks ∧ .reported ∉ marks) :
    Inv (s.moved k phase x marks) where
  own q y hy := by
    by_cases hq : q = k
    · subst hq
      rw [phase_moved_self] at hy
      obtain ⟨rfl, _⟩ := hphase y hy
      exact ⟨hparty, hbegun⟩
    · rw [phase_moved_of_ne hq] at hy
      exact inv.own q y hy
  begun y m hm := by
    rcases mem_log_moved.mp hm with hm | ⟨rfl, _⟩
    · exact inv.begun y m hm
    · show y.execution < s.begun y.party
      rw [hparty]
      omega
  open_execution q z hz y m hm hyq hexecution := by
    by_cases hq : q = k
    · subst hq
      rw [phase_moved_self] at hz
      obtain ⟨rfl, hsucceeded, hreported⟩ := hphase z hz
      rw [mem_log_moved] at hm
      rcases hm with hm | ⟨rfl, hm⟩
      · exact hlog y m hm hyq hexecution
      · exact ⟨Nat.le_refl _, fun h => hsucceeded (h ▸ hm), fun h => hreported (h ▸ hm)⟩
    · rw [phase_moved_of_ne hq] at hz
      rcases mem_log_moved.mp hm with hm | ⟨rfl, _⟩
      · exact inv.open_execution q z hz y m hm hyq hexecution
      · exact absurd (hyq.symm.trans hparty) hq
  open_attempt q z c hz := by
    by_cases hq : q = k
    · subst hq
      rw [phase_moved_self] at hz
      obtain ⟨rfl, _⟩ := hphase z (by rw [hz]; rfl)
      obtain ⟨hfailed, hmarks, hcommitted⟩ := hopen c hz
      simp only [mem_log_moved, true_and, not_or]
      exact ⟨⟨hfailed, hmarks⟩, hcommitted⟩
    · rw [phase_moved_of_ne hq] at hz
      have hzx : z ≠ x := by
        rintro rfl
        exact hq ((inv.own q z (by rw [hz]; rfl)).1.symm.trans hparty)
      simp only [mem_log_moved, hzx, false_and, or_false]
      exact inv.open_attempt q z c hz
  not_failed y hy := by
    rw [mem_log_moved] at hy ⊢
    rintro (hfailed | ⟨rfl, hfailed⟩)
    · rcases hy with hy | ⟨rfl, hy⟩
      · exact inv.not_failed y hy hfailed
      · exact (hends hy).1 hfailed
    · rcases hy with hy | ⟨_, hy⟩
      · exact (hlog y _ hy hparty rfl).2.1 rfl
      · exact (hends hy).2.1 hfailed
  not_reported y z hy hz hzy hexecution := by
    rw [mem_log_moved] at hy hz
    rcases hy with hy | ⟨rfl, hy⟩
    · rcases hz with hz | ⟨rfl, hz⟩
      · exact inv.not_reported y z hy hz hzy hexecution
      · exact (hlog y _ hy (hzy.symm.trans hparty) hexecution.symm).2.2 rfl
    · rcases hz with hz | ⟨_, hz⟩
      · exact (hlog z _ hz (hzy.trans hparty) hexecution).2.1 rfl
      · exact (hends hz).2.2 hy

/-- The attempt that the party is in can move, as long as the marks agree with the new phase. -/
lemma Inv.moved_own (inv : Inv s) {phase : Phase κ} {marks : List Mark}
    (hx : (s.phase k).attempt = some x)
    (hphase : ∀ y, phase.attempt = some y → y = x ∧ .succeeded ∉ marks ∧ .reported ∉ marks)
    (hopen : ∀ c, phase = .running x c → (x, .failed) ∉ s.log ∧ .failed ∉ marks ∧
      ((x, .committed) ∈ s.log ∨ .committed ∈ marks ↔ c = true))
    (hends : .succeeded ∈ marks → (x, .failed) ∉ s.log ∧ .failed ∉ marks ∧ .reported ∉ marks) :
    Inv (s.moved k phase x marks) := by
  obtain ⟨hparty, hbegun⟩ := inv.own k x hx
  exact inv.moved hparty hbegun (inv.open_execution k x hx) hphase hopen hends

/-- A new execution of an idle party. -/
lemma Inv.begins (inv : Inv s) (hidle : s.phase k = .idle) :
    Inv { s with begun := Function.update s.begun k (s.begun k + 1) } where
  own q y hy := by
    have hq : q ≠ k := by
      rintro rfl
      rw [show s.phase q = .idle from hidle] at hy
      simp [Phase.attempt] at hy
    simpa [hq] using inv.own q y hy
  begun y m hm := by
    have hlt := inv.begun y m hm
    by_cases hy : y.party = k
    · simp [hy] at hlt ⊢
      omega
    · simpa [hy] using hlt
  open_execution := inv.open_execution
  open_attempt := inv.open_attempt
  not_failed := inv.not_failed
  not_reported := inv.not_reported

/-- **Every effect keeps the invariant.** -/
lemma Inv.step (inv : Inv s) {a : Action κ} (h : process.step s a = some s') : Inv s' := by
  cases effect_of_step h with
  | @begun k hk =>
      have hfresh : ∀ y m, (y, m) ∈ s.log → y.party = k → y.execution ≠ s.begun k := by
        intro y m hm hy hexecution
        have := inv.begun y m hm
        rw [hy] at this
        omega
      refine (inv.begins hk).moved rfl (by simp) ?_ ?_ ?_ ?_
      · exact fun y m hm hy hexecution => absurd hexecution (hfresh y m hm hy)
      · simp [Phase.attempt, eq_comm]
      · rintro c hc
        cases hc
        simp only [List.mem_singleton, reduceCtorEq, not_false_eq_true, or_false, iff_false,
          true_and, Bool.false_eq_true]
        exact ⟨fun hm => hfresh _ _ hm rfl rfl, fun hm => hfresh _ _ hm rfl rfl⟩
      · simp
  | @committed k x hk =>
      refine inv.moved_own (by rw [hk]; rfl) ?_ ?_ ?_
      · simp [Phase.attempt, eq_comm]
      · rintro c hc
        cases hc
        simp [(inv.open_attempt k x false hk).1]
      · simp
  | @succeeded k x hk =>
      refine inv.moved_own (by rw [hk]; rfl) ?_ ?_ ?_
      · simp [Phase.attempt]
      · simp
      · simp [(inv.open_attempt k x true hk).1]
  | @retried k x c hk =>
      refine inv.moved_own (by rw [hk]; rfl) ?_ ?_ ?_
      · simp [Phase.attempt, eq_comm]
      · simp
      · simp
  | @gaveUp k x c report hk =>
      refine inv.moved_own (by rw [hk]; rfl) ?_ ?_ ?_
      · simp [Phase.attempt]
      · simp
      · cases report <;> simp
  | @again k x hk =>
      obtain ⟨hparty, hbegun⟩ := inv.own k x (by rw [hk]; rfl)
      have hopen := inv.open_execution k x (by rw [hk]; rfl)
      have hnew : ∀ m, (x.next, m) ∉ s.log := by
        intro m hm
        have hnumber : x.number + 1 ≤ x.number := (hopen _ m hm hparty rfl).1
        omega
      refine inv.moved (x := x.next) hparty hbegun ?_ ?_ ?_ ?_
      · intro y m hm hy hexecution
        obtain ⟨hnumber, hends⟩ := hopen y m hm hy hexecution
        exact ⟨Nat.le_succ_of_le hnumber, hends⟩
      · simp [Phase.attempt, eq_comm]
      · rintro c hc
        cases hc
        simp [hnew]
      · simp

/-! ## Commits that are kept -/

/-- No committed attempt ends without success: it still goes on, or it has succeeded. -/
def Kept (s : State κ) : Prop :=
  ∀ x, (x, .committed) ∈ s.log → s.phase x.party = .running x true ∨ (x, .succeeded) ∈ s.log

/-- The action does not make a committed attempt fail. -/
def SparesCommitted (s : State κ) : Action κ → Prop
  | .retry k => ∀ x, s.phase k ≠ .running x true
  | .giveUp k _ => ∀ x, s.phase k ≠ .running x true
  | _ => True

omit [DecidableEq κ] in
/-- **With every commit kept, no execution with a commit is reported**, and no committed attempt
has failed. -/
lemma Kept.unreported (hkept : Kept s) (inv : Inv s) (hx : (x, .committed) ∈ s.log) :
    (x, .failed) ∉ s.log ∧
      ∀ y, (y, .reported) ∈ s.log → y.party = x.party → y.execution ≠ x.execution := by
  rcases hkept x hx with hrunning | hsucceeded
  · refine ⟨(inv.open_attempt _ x true hrunning).1, fun y hy hparty hexecution => ?_⟩
    exact (inv.open_execution _ x (by rw [hrunning]; rfl) y _ hy hparty hexecution).2.2 rfl
  · refine ⟨inv.not_failed x hsucceeded, fun y hy hparty hexecution => ?_⟩
    exact inv.not_reported y x hy hsucceeded hparty.symm hexecution.symm

/-- A move that commits nothing and ends no committed attempt keeps every commit. -/
lemma Kept.moved (hkept : Kept s) {phase : Phase κ} {marks : List Mark}
    (hphase : ∀ y, s.phase k = .running y true → y = x ∧ .succeeded ∈ marks)
    (hmarks : .committed ∈ marks → x.party = k ∧ phase = .running x true) :
    Kept (s.moved k phase x marks) := by
  intro y hy
  rw [mem_log_moved] at hy ⊢
  rcases hy with hy | ⟨rfl, hy⟩
  · rcases hkept y hy with hrunning | hsucceeded
    · by_cases hq : y.party = k
      · rw [hq] at hrunning
        exact Or.inr (Or.inr (hphase y hrunning))
      · rw [phase_moved_of_ne hq]
        exact Or.inl hrunning
    · exact Or.inr (Or.inl hsucceeded)
  · obtain ⟨hparty, rfl⟩ := hmarks hy
    rw [hparty, phase_moved_self]
    exact Or.inl rfl

lemma Kept.step (hkept : Kept s) (inv : Inv s) {a : Action κ} (hspares : SparesCommitted s a)
    (h : process.step s a = some s') : Kept s' := by
  cases effect_of_step h with
  | begun hk => exact hkept.moved (by simp [hk]) (by simp)
  | committed hk =>
      refine hkept.moved (by simp [hk]) fun _ => ⟨?_, rfl⟩
      exact (inv.own _ _ (by rw [hk]; rfl)).1
  | succeeded hk => exact hkept.moved (by simp [hk]) (by simp)
  | retried hk => exact hkept.moved (fun y hy => absurd hy (hspares y)) (by simp)
  | @gaveUp k x c report hk =>
      exact hkept.moved (fun y hy => absurd hy (hspares y)) (by cases report <;> simp)
  | again hk => exact hkept.moved (by simp [hk]) (by simp)

/-- A committed attempt that is over without success. -/
def Lost (s : State κ) (x : Attempt κ) : Prop :=
  (x, .committed) ∈ s.log ∧ s.phase x.party ≠ .running x true ∧ (x, .succeeded) ∉ s.log

omit [DecidableEq κ] in
lemma not_kept_iff : ¬ Kept s ↔ ∃ x, Lost s x := by
  simp [Kept, Lost]

/-- What is lost stays lost, unless it runs again or its success is logged. -/
lemma Lost.moved {y : Attempt κ} (h : Lost s y) {phase : Phase κ} {marks : List Mark}
    (hphase : phase ≠ .running y true)
    (hmarks : .succeeded ∈ marks → s.phase k = .running x true ∧ x.party = k) :
    Lost (s.moved k phase x marks) y := by
  obtain ⟨hcommitted, hrunning, hsucceeded⟩ := h
  refine ⟨mem_log_moved.mpr (Or.inl hcommitted), ?_, ?_⟩
  · by_cases hq : y.party = k
    · subst hq
      rwa [phase_moved_self]
    · rwa [phase_moved_of_ne hq]
  · rw [mem_log_moved]
    rintro (hs | ⟨rfl, hs⟩)
    · exact hsucceeded hs
    · obtain ⟨hp, rfl⟩ := hmarks hs
      exact hrunning hp

/-- No action repairs a lost commit. -/
lemma Lost.step {y : Attempt κ} (hlost : Lost s y) (inv : Inv s) {a : Action κ}
    (h : process.step s a = some s') : Lost s' y := by
  cases effect_of_step h with
  | begun => exact hlost.moved (by simp) (by simp)
  | @committed k x hk =>
      refine hlost.moved (fun hp => ?_) (by simp)
      -- it would commit a second time
      rw [Phase.running.injEq] at hp
      have hcommitted := hlost.1
      rw [← hp.1, (inv.open_attempt k x false hk).2] at hcommitted
      simp at hcommitted
  | @succeeded k x hk =>
      exact hlost.moved (by simp) fun _ => ⟨hk, (inv.own k x (by rw [hk]; rfl)).1⟩
  | retried => exact hlost.moved (by simp) (by simp)
  | gaveUp => exact hlost.moved (by simp) (by split <;> simp)
  | again => exact hlost.moved (by simp) (by simp)

/-- A running committed attempt that stops without success is lost. -/
lemma Inv.lost_of_stops (inv : Inv s) {phase : Phase κ} {marks : List Mark}
    (hk : s.phase k = .running x true) (hphase : phase ≠ .running x true)
    (hmarks : .succeeded ∉ marks) : Lost (s.moved k phase x marks) x := by
  obtain ⟨hparty, _⟩ := inv.own k x (by rw [hk]; rfl)
  refine ⟨mem_log_moved.mpr (Or.inl ((inv.open_attempt k x true hk).2.mpr rfl)), ?_, ?_⟩
  · rwa [hparty, phase_moved_self]
  · rw [mem_log_moved]
    rintro (hs | ⟨_, hs⟩)
    · exact (inv.open_execution k x (by rw [hk]; rfl) x _ hs hparty rfl).2.1 rfl
    · exact hmarks hs

/-- **A failure after the commit loses the commit.** -/
lemma Inv.lost_of_fails (inv : Inv s) {a : Action κ} (hfails : ¬ SparesCommitted s a)
    (h : process.step s a = some s') : ∃ x, Lost s' x := by
  cases effect_of_step h with
  | begun => exact absurd trivial hfails
  | committed => exact absurd trivial hfails
  | succeeded => exact absurd trivial hfails
  | again => exact absurd trivial hfails
  | @retried k x c hk =>
      simp only [SparesCommitted, not_forall, not_not] at hfails
      obtain ⟨y, hy⟩ := hfails
      cases hk.symm.trans hy
      exact ⟨x, inv.lost_of_stops hk (by simp) (by simp)⟩
  | @gaveUp k x c report hk =>
      simp only [SparesCommitted, not_forall, not_not] at hfails
      obtain ⟨y, hy⟩ := hfails
      cases hk.symm.trans hy
      exact ⟨x, inv.lost_of_stops hk (by simp) (by split <;> simp)⟩

/-- **When commits are kept**: exactly if no attempt fails after its commit. -/
theorem kept_iff {acts : List (Action κ)}
    (hrun : process.run (State.start : State κ) acts = some s') :
    Kept s' ↔ process.AllSteps SparesCommitted (State.start : State κ) acts :=
  Process.run_iff_allSteps (I := Inv) (fun _ _ _ inv h => inv.step h)
    (fun _ _ _ inv hkept hspares h => hkept.step inv hspares h)
    (fun _ _ _ inv _ hfails h => not_kept_iff.mpr (inv.lost_of_fails hfails h))
    (fun _ _ _ inv hkept h =>
      not_kept_iff.mpr ((not_kept_iff.mp hkept).imp fun _ hlost => hlost.step inv h))
    inv_start (by simp [Kept, State.start]) hrun

/-- The invariant holds in every run. -/
theorem inv_run {acts : List (Action κ)}
    (hrun : process.run (State.start : State κ) acts = some s') : Inv s' :=
  Process.run_stable (I := Inv) (fun _ _ _ inv h => inv.step h) inv_start hrun

end Retrying
