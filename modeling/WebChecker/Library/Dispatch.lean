import Mathlib.Data.List.Nodup
import Mathlib.Logic.Function.Basic
import WebChecker.Library.Runs

/-!
# Dispatchers

A dispatcher lists the pending items of an outbox, sends them one after the other and records how
each send ended.  A send suspends the dispatcher, so the steps of any number of passes interleave
with each other and with other writers of the outbox.

* `Outbox` — what a pass uses: the list, the adapters it can refuse an item for, and the record.
* `Pass` — where one pass stands.  `Outbox.step` is its next step, and `Outbox.Effect` lists once
  what a step can do.
* `Outbox.process` — passes over one store, interleaved with other writers.

`Durable` is the contract of an outbox whose entries stay: an entry that is no longer pending never
becomes pending again.  It does *not* make a send happen once, because the list of a pass is a
snapshot: `Durable.sent_nodup_iff` says that it does exactly in the runs in which every send that
succeeds finds its entry still pending.
-/

namespace Dispatch

open Runs

variable {σ ι τ ε ξ β π κ δ : Type*}

/-! ## One pass -/

/-- What a pass uses of an outbox and of the adapters.  Listing and recording may raise; `refuse`
is the error of an item that no adapter takes. -/
structure Outbox (σ ι τ ε ξ : Type*) where
  list : σ → Except ξ (List ι)
  refuse : ι → Option ε
  record : σ → ι → τ → Option ε → Except ξ σ

/-- Where a pass stands.  A pass that is `running []` is over. -/
inductive Pass (ι τ ξ : Type*) where
  | idle
  | running (todo : List ι)
  /-- Suspended in a send that was started at a clock reading. -/
  | sending (item : ι) (startedAt : τ) (todo : List ι)
  | raised (error : ξ)

/-- A step of a pass: list, take the next item, or resume after a send with its error, if any. -/
inductive PassStep (τ ε : Type*) where
  | list
  | send (now : τ)
  | complete (error : Option ε)

namespace Pass

/-- The items a pass has listed and is not done with. -/
def held : Pass ι τ ξ → List ι
  | idle => []
  | running todo => todo
  | sending item _ todo => item :: todo
  | raised _ => []

/-- The item whose send a step completes successfully. -/
def delivers : Pass ι τ ξ → PassStep τ ε → Option ι
  | sending item _ _, .complete none => some item
  | _, _ => none

lemma mem_held_of_delivers {pass : Pass ι τ ξ} {a : PassStep τ ε} {item : ι}
    (h : pass.delivers a = some item) : item ∈ pass.held := by
  cases pass with
  | sending i now todo =>
      cases a with
      | list => simp [delivers] at h
      | send => simp [delivers] at h
      | complete error =>
          cases error with
          | some e => simp [delivers] at h
          | none => exact Option.some.inj h ▸ List.mem_cons_self
  | idle => simp [delivers] at h
  | running => simp [delivers] at h
  | raised => simp [delivers] at h

end Pass

namespace Outbox

variable (o : Outbox σ ι τ ε ξ)

/-- After a record: go on with the rest, or raise. -/
def resume (s : σ) (todo : List ι) : Except ξ σ → σ × Pass ι τ ξ
  | .ok s' => (s', .running todo)
  | .error e => (s, .raised e)

/-- The next step of a pass. -/
def step (s : σ) : Pass ι τ ξ → PassStep τ ε → Option (σ × Pass ι τ ξ)
  | .idle, .list =>
    match o.list s with
    | .ok items => some (s, .running items)
    | .error e => some (s, .raised e)
  | .running (item :: todo), .send now =>
    match o.refuse item with
    | none => some (s, .sending item now todo)
    | some e => some (resume s todo (o.record s item now (some e)))
  | .sending item now todo, .complete error =>
    some (resume s todo (o.record s item now error))
  | _, _ => none

/-- The item whose outcome a step records: of a send that completes, or of an item that no adapter
takes. -/
def records : Pass ι τ ξ → PassStep τ ε → Option ι
  | .running (item :: _), .send _ => (o.refuse item).map fun _ => item
  | .sending item _ _, .complete _ => some item
  | _, _ => none

/-- Everything a step of a pass can do to the store and to the pass. -/
inductive Effect (s : σ) : Pass ι τ ξ → PassStep τ ε → σ → Pass ι τ ξ → Prop
  | listed {items} (h : o.list s = .ok items) : Effect s .idle .list s (.running items)
  | unlisted {e} (h : o.list s = .error e) : Effect s .idle .list s (.raised e)
  | started {item todo now} (h : o.refuse item = none) :
      Effect s (.running (item :: todo)) (.send now) s (.sending item now todo)
  | refused {item todo now e s'} (h : o.refuse item = some e)
      (hrecord : o.record s item now (some e) = .ok s') :
      Effect s (.running (item :: todo)) (.send now) s' (.running todo)
  | refusalRaised {item todo now e error} (h : o.refuse item = some e)
      (hrecord : o.record s item now (some e) = .error error) :
      Effect s (.running (item :: todo)) (.send now) s (.raised error)
  | recorded {item todo now error s'} (hrecord : o.record s item now error = .ok s') :
      Effect s (.sending item now todo) (.complete error) s' (.running todo)
  | recordRaised {item todo now error e} (hrecord : o.record s item now error = .error e) :
      Effect s (.sending item now todo) (.complete error) s (.raised e)

variable {o}

/-- **Every step has one of these effects.** -/
lemma effect_of_step {s s' : σ} {pass pass' : Pass ι τ ξ} {a : PassStep τ ε}
    (h : o.step s pass a = some (s', pass')) : o.Effect s pass a s' pass' := by
  cases pass with
  | idle =>
      cases a with
      | list =>
          rw [step] at h
          cases hlist : o.list s <;> rw [hlist] at h <;> cases h
          · exact .unlisted hlist
          · exact .listed hlist
      | send => simp [step] at h
      | complete => simp [step] at h
  | running todo =>
      cases todo with
      | nil => cases a <;> simp [step] at h
      | cons item todo =>
          cases a with
          | list => simp [step] at h
          | complete => simp [step] at h
          | send now =>
              rw [step] at h
              cases href : o.refuse item with
              | none =>
                  rw [href] at h
                  cases h
                  exact .started href
              | some e =>
                  rw [href] at h
                  dsimp only at h
                  cases hrecord : o.record s item now (some e) <;> rw [hrecord] at h <;> cases h
                  · exact .refusalRaised href hrecord
                  · exact .refused href hrecord
  | sending item now todo =>
      cases a with
      | list => simp [step] at h
      | send => simp [step] at h
      | complete error =>
          rw [step] at h
          cases hrecord : o.record s item now error <;> rw [hrecord] at h <;> cases h
          · exact .recordRaised hrecord
          · exact .recorded hrecord
  | raised e => cases a <;> simp [step] at h

/-- A step never picks up an item except by listing it. -/
lemma Effect.held {s s' : σ} {pass pass' : Pass ι τ ξ} {a : PassStep τ ε}
    (h : o.Effect s pass a s' pass') {item : ι} (hitem : item ∈ pass'.held) :
    item ∈ pass.held ∨ ∃ items, o.list s = .ok items ∧ item ∈ items := by
  cases h with
  | listed h => exact Or.inr ⟨_, h, hitem⟩
  | unlisted => simp [Pass.held] at hitem
  | started => exact Or.inl hitem
  | refused => exact Or.inl (List.mem_cons_of_mem _ hitem)
  | refusalRaised => simp [Pass.held] at hitem
  | recorded => exact Or.inl (List.mem_cons_of_mem _ hitem)
  | recordRaised => simp [Pass.held] at hitem

/-- A step changes the store only by a record. -/
lemma Effect.store {s s' : σ} {pass pass' : Pass ι τ ξ} {a : PassStep τ ε}
    (h : o.Effect s pass a s' pass') : s' = s ∨ ∃ i t error, o.record s i t error = .ok s' := by
  cases h with
  | listed => exact Or.inl rfl
  | unlisted => exact Or.inl rfl
  | started => exact Or.inl rfl
  | refused _ hrecord => exact Or.inr ⟨_, _, _, hrecord⟩
  | refusalRaised => exact Or.inl rfl
  | recorded hrecord => exact Or.inr ⟨_, _, _, hrecord⟩
  | recordRaised => exact Or.inl rfl

/-- **When a pass raises.**  If listing cannot raise, and recording raises exactly for an item that
is not pending, then a step raises exactly if it records the outcome of such an item. -/
lemma Effect.raised_iff {s s' : σ} {pass pass' : Pass ι τ ξ} {a : PassStep τ ε}
    (h : o.Effect s pass a s' pass') {pending : ι → Prop} (hlist : ∀ e, o.list s ≠ .error e)
    (hrecord : ∀ i t error, (∃ e, o.record s i t error = .error e) ↔ ¬ pending i) :
    (∃ e, pass' = .raised e) ↔ ¬ ∀ item, o.records pass a = some item → pending item := by
  cases h with
  | listed => simp [records]
  | unlisted h => exact absurd h (hlist _)
  | started h => simp [records, h]
  | @refused item todo now e s' h hok =>
      have hpending : pending item := by
        by_contra hnot
        obtain ⟨error, herror⟩ := (hrecord item now (some e)).mpr hnot
        simp [hok] at herror
      simp [records, h, hpending]
  | @refusalRaised item todo now e error h herror =>
      have hnot : ¬ pending item := (hrecord item now (some e)).mp ⟨error, herror⟩
      simp [records, h, hnot]
  | @recorded item todo now error s' hok =>
      have hpending : pending item := by
        by_contra hnot
        obtain ⟨e, herror⟩ := (hrecord item now error).mpr hnot
        simp [hok] at herror
      simp [records, hpending]
  | @recordRaised item todo now error e herror =>
      have hnot : ¬ pending item := (hrecord item now error).mp ⟨e, herror⟩
      simp [records, hnot]

end Outbox

/-! ## Many passes -/

/-- A store, the passes over it, and the items whose send has completed successfully, in order. -/
structure System (σ π ι τ ξ : Type*) where
  store : σ
  passes : π → Pass ι τ ξ
  sent : List ι

/-- A step of some pass, or of another writer. -/
inductive Action (π τ ε β : Type*) where
  | pass (p : π) (a : PassStep τ ε)
  | write (op : β)

namespace System

/-- No pass has begun. -/
def start (s : σ) : System σ π ι τ ξ := ⟨s, fun _ => .idle, []⟩

/-- The item whose send an action completes successfully. -/
def delivers (s : System σ π ι τ ξ) : Action π τ ε β → Option ι
  | .pass p a => (s.passes p).delivers a
  | .write _ => none

lemma mem_held_of_delivers {s : System σ π ι τ ξ} {act : Action π τ ε β} {item : ι}
    (h : s.delivers act = some item) : ∃ p, item ∈ (s.passes p).held := by
  cases act with
  | pass p a => exact ⟨p, Pass.mem_held_of_delivers h⟩
  | write => simp [delivers] at h

end System

namespace Outbox

variable [DecidableEq π] (o : Outbox σ ι τ ε ξ) (write : σ → β → σ)

/-- The interleavings of the passes `π` with the writes `β`. -/
def process : Process (System σ π ι τ ξ) (Action π τ ε β) where
  step s
    | .pass p a =>
      (o.step s.store (s.passes p) a).map fun r =>
        ⟨r.1, Function.update s.passes p r.2, s.sent ++ ((s.passes p).delivers a).toList⟩
    | .write op => some { s with store := write s.store op }

variable {o write}

/-- **What one action does.** -/
lemma process_cases {s s' : System σ π ι τ ξ} {act : Action π τ ε β}
    (h : (o.process write).step s act = some s') :
    (∃ p a store pass, act = .pass p a ∧ o.Effect s.store (s.passes p) a store pass ∧
      s' = ⟨store, Function.update s.passes p pass, s.sent ++ ((s.passes p).delivers a).toList⟩) ∨
    ∃ op, act = .write op ∧ s' = { s with store := write s.store op } := by
  cases act with
  | pass p a =>
      obtain ⟨⟨store, pass⟩, hstep, rfl⟩ := Option.map_eq_some_iff.mp h
      exact Or.inl ⟨p, a, store, pass, rfl, effect_of_step hstep, rfl⟩
  | write op => exact Or.inr ⟨op, rfl, (Option.some.inj h).symm⟩

lemma process_sent {s s' : System σ π ι τ ξ} {act : Action π τ ε β}
    (h : (o.process write).step s act = some s') : s'.sent = s.sent ++ (s.delivers act).toList := by
  rcases process_cases h with ⟨p, a, store, pass, rfl, _, rfl⟩ | ⟨op, rfl, rfl⟩
  · rfl
  · simp [System.delivers]

/-- A pass that drops items holds no new ones. -/
lemma held_update_of_subset {passes : π → Pass ι τ ξ} {p : π} {pass : Pass ι τ ξ}
    (h : ∀ i ∈ pass.held, i ∈ (passes p).held) (q : π) :
    ∀ i ∈ (Function.update passes p pass q).held, i ∈ (passes q).held := by
  by_cases hq : q = p
  · subst hq
    rwa [Function.update_self]
  · rw [Function.update_of_ne hq]
    exact fun _ hi => hi

lemma held_update {s : σ} {passes : π → Pass ι τ ξ} {p q : π} {a : PassStep τ ε} {s' : σ}
    {pass : Pass ι τ ξ} (h : o.Effect s (passes p) a s' pass) {item : ι}
    (hitem : item ∈ (Function.update passes p pass q).held) :
    item ∈ (passes q).held ∨ ∃ items, o.list s = .ok items ∧ item ∈ items := by
  by_cases hq : q = p
  · subst hq
    rw [Function.update_self] at hitem
    exact h.held hitem
  · rw [Function.update_of_ne hq] at hitem
    exact Or.inl hitem

end Outbox

/-! ## Entries that stay -/

/-- An outbox whose entries are never removed, and of which only a successful delivery settles
one.  `known` and `pending` say which keys have an entry, and which entries are still to be sent. -/
structure Durable (o : Outbox σ ι τ ε ξ) (write : σ → β → σ) (key : ι → κ)
    (known pending : σ → κ → Prop) : Prop where
  listed : ∀ {s items}, o.list s = .ok items →
    ∀ i ∈ items, known s (key i) ∧ pending s (key i)
  delivered : ∀ {s i t s'}, o.record s i t none = .ok s' →
    ∀ k, known s k → known s' k ∧ (pending s' k ↔ pending s k ∧ k ≠ key i)
  refused : ∀ {s i t e}, o.record s i t none = .error e → ¬ pending s (key i)
  failed : ∀ {s i t error s'}, o.record s i t (some error) = .ok s' →
    ∀ k, known s k → known s' k ∧ (pending s' k ↔ pending s k)
  written : ∀ s op k, known s k → known (write s op) k ∧ (pending (write s op) k ↔ pending s k)

namespace Durable

variable {o : Outbox σ ι τ ε ξ} {write : σ → β → σ} {key : ι → κ} {known pending : σ → κ → Prop}

/-- A send that succeeds finds its entry still pending. -/
def FindsPending (key : ι → κ) (pending : σ → κ → Prop) (s : System σ π ι τ ξ)
    (act : Action π τ ε β) : Prop :=
  ∀ item, s.delivers act = some item → pending s.store (key item)

/-- What holds in every run: held items have an entry, and an entry that is no longer pending is
one that was sent. -/
structure Inv (key : ι → κ) (known pending : σ → κ → Prop) (s : System σ π ι τ ξ) : Prop where
  held : ∀ p, ∀ item ∈ (s.passes p).held, known s.store (key item) ∧
    (¬ pending s.store (key item) → key item ∈ s.sent.map key)
  sent : ∀ item ∈ s.sent, known s.store (key item) ∧ ¬ pending s.store (key item)

lemma inv_start (s : σ) : Inv key known pending (System.start s : System σ π ι τ ξ) :=
  ⟨by simp [System.start, Pass.held], by simp [System.start]⟩

/-- A step that sends nothing keeps the invariant, if it settles no entry. -/
lemma Inv.quiet {s : System σ π ι τ ξ} (inv : Inv key known pending s) {store : σ}
    {passes : π → Pass ι τ ξ}
    (hstore : ∀ k, known s.store k → known store k ∧ (pending store k ↔ pending s.store k))
    (hheld : ∀ q, ∀ item ∈ (passes q).held, item ∈ (s.passes q).held ∨
      (known s.store (key item) ∧ pending s.store (key item))) :
    Inv key known pending (⟨store, passes, s.sent⟩ : System σ π ι τ ξ) := by
  constructor
  · intro q item hitem
    rcases hheld q item hitem with hitem | ⟨hknown, hpending⟩
    · obtain ⟨hknown, hsent⟩ := inv.held q item hitem
      obtain ⟨hknown', hiff⟩ := hstore _ hknown
      exact ⟨hknown', fun hnot => hsent fun hp => hnot (hiff.mpr hp)⟩
    · obtain ⟨hknown', hiff⟩ := hstore _ hknown
      exact ⟨hknown', fun hnot => absurd (hiff.mpr hpending) hnot⟩
  · intro item hitem
    obtain ⟨hknown, hnot⟩ := inv.sent item hitem
    obtain ⟨hknown', hiff⟩ := hstore _ hknown
    exact ⟨hknown', fun hp => hnot (hiff.mp hp)⟩

/-- A successful send of a held item keeps the invariant, if it settles that item's entry and no
other. -/
lemma Inv.sends {s : System σ π ι τ ξ} (inv : Inv key known pending s) {p : π} {item : ι}
    (hitem : item ∈ (s.passes p).held) {store : σ} {passes : π → Pass ι τ ξ}
    (hstore : ∀ k, known s.store k →
      known store k ∧ (pending store k ↔ pending s.store k ∧ k ≠ key item))
    (hheld : ∀ q, ∀ i ∈ (passes q).held, i ∈ (s.passes q).held) :
    Inv key known pending (⟨store, passes, s.sent ++ [item]⟩ : System σ π ι τ ξ) := by
  constructor
  · intro q i hi
    obtain ⟨hknown, hsent⟩ := inv.held q i (hheld q i hi)
    obtain ⟨hknown', hiff⟩ := hstore _ hknown
    refine ⟨hknown', fun hnot => ?_⟩
    rw [List.map_append, List.mem_append]
    by_cases hkey : key i = key item
    · exact Or.inr (by simp [hkey])
    · exact Or.inl (hsent fun hp => hnot (hiff.mpr ⟨hp, hkey⟩))
  · intro i hi
    rcases List.mem_append.mp hi with hi | hi
    · obtain ⟨hknown, hnot⟩ := inv.sent i hi
      obtain ⟨hknown', hiff⟩ := hstore _ hknown
      exact ⟨hknown', fun hp => hnot (hiff.mp hp).1⟩
    · rw [List.mem_singleton.mp hi]
      obtain ⟨hknown, _⟩ := inv.held p item hitem
      obtain ⟨hknown', hiff⟩ := hstore _ hknown
      exact ⟨hknown', fun hp => (hiff.mp hp).2 rfl⟩

variable [DecidableEq π]

/-- **One action keeps the invariant.** -/
lemma inv_step (d : Durable o write key known pending) {s s' : System σ π ι τ ξ}
    {act : Action π τ ε β} (inv : Inv key known pending s)
    (h : (o.process write).step s act = some s') : Inv key known pending s' := by
  rcases Outbox.process_cases h with ⟨p, a, store, pass, rfl, heffect, rfl⟩ | ⟨op, rfl, rfl⟩
  · have hsame : ∀ k, known s.store k →
        known s.store k ∧ (pending s.store k ↔ pending s.store k) := fun k hk => ⟨hk, Iff.rfl⟩
    -- what the passes hold afterwards
    have hheld : ∀ q, ∀ item ∈ (Function.update s.passes p pass q).held,
        item ∈ (s.passes q).held ∨ (known s.store (key item) ∧ pending s.store (key item)) := by
      intro q item hitem
      rcases Outbox.held_update heffect hitem with hitem | ⟨items, hlist, hitem⟩
      · exact Or.inl hitem
      · exact Or.inr (d.listed hlist item hitem)
    generalize hpass : s.passes p = before at heffect
    cases heffect with
    | listed => simpa [Pass.delivers] using inv.quiet hsame hheld
    | unlisted => simpa [Pass.delivers] using inv.quiet hsame hheld
    | started => simpa [Pass.delivers] using inv.quiet hsame hheld
    | refused _ hrecord => simpa [Pass.delivers] using inv.quiet (d.failed hrecord) hheld
    | refusalRaised => simpa [Pass.delivers] using inv.quiet hsame hheld
    | @recorded item todo now error store hrecord =>
        have hitem : item ∈ (s.passes p).held := hpass ▸ List.mem_cons_self
        have hdrop : ∀ i ∈ (Pass.running todo : Pass ι τ ξ).held, i ∈ (s.passes p).held :=
          fun i hi => hpass ▸ List.mem_cons_of_mem _ hi
        cases error with
        | some e => simpa [Pass.delivers] using inv.quiet (d.failed hrecord) hheld
        | none =>
            simpa [Pass.delivers] using
              inv.sends hitem (d.delivered hrecord) (Outbox.held_update_of_subset hdrop)
    | @recordRaised item todo now error e hrecord =>
        have hitem : item ∈ (s.passes p).held := hpass ▸ List.mem_cons_self
        have hdrop : ∀ i ∈ (Pass.raised e : Pass ι τ ξ).held, i ∈ (s.passes p).held :=
          fun _ hi => absurd hi List.not_mem_nil
        cases error with
        | some e => simpa [Pass.delivers] using inv.quiet hsame hheld
        | none =>
            -- the record was refused because the entry is settled already
            have hsettled : ∀ k, known s.store k →
                known s.store k ∧ (pending s.store k ↔ pending s.store k ∧ k ≠ key item) := by
              refine fun k hk => ⟨hk, fun hp => ⟨hp, ?_⟩, And.left⟩
              rintro rfl
              exact d.refused hrecord hp
            simpa [Pass.delivers] using
              inv.sends hitem hsettled (Outbox.held_update_of_subset hdrop)
  · simpa using inv.quiet (d.written s.store op) fun _ _ hitem => Or.inl hitem

/-- **When every entry is sent at most once.**  From a store without passes, in any interleaving
of any number of passes and other writes: no two sends of one entry complete successfully if and
only if every send that completes successfully finds its entry still pending. -/
theorem sent_nodup_iff (d : Durable o write key known pending) {s : σ}
    {s' : System σ π ι τ ξ} {acts : List (Action π τ ε β)}
    (hrun : (o.process write).run (System.start s) acts = some s') :
    (s'.sent.map key).Nodup ↔
      (o.process write).AllSteps (FindsPending key pending) (System.start s) acts := by
  refine Process.run_iff_allSteps (I := Inv key known pending)
    (G := fun s => (s.sent.map key).Nodup) (fun _ _ _ => d.inv_step) ?_ ?_ ?_ (inv_start s)
    (by simp [System.start]) hrun
  · intro s act s' inv hnodup hC hstep
    rw [Outbox.process_sent hstep, List.map_append]
    cases hdelivers : s.delivers act with
    | none => simpa using hnodup
    | some item =>
        -- the entry was pending, so it has not been sent
        refine List.nodup_append.mpr ⟨hnodup, List.nodup_singleton _, fun k hk k' hk' heq => ?_⟩
        obtain ⟨i, hi, hkey⟩ := List.mem_map.mp hk
        have hsame : key i = key item := hkey.trans (heq.trans (List.mem_singleton.mp hk'))
        exact (inv.sent i hi).2 (hsame ▸ hC item hdelivers)
  · intro s act s' inv _ hC hstep hnodup
    simp only [FindsPending, not_forall] at hC
    obtain ⟨item, hdelivers, hsettled⟩ := hC
    obtain ⟨p, hheld⟩ := System.mem_held_of_delivers hdelivers
    rw [Outbox.process_sent hstep, hdelivers, List.map_append] at hnodup
    exact (List.nodup_append.mp hnodup).2.2 _ ((inv.held p item hheld).2 hsettled) _
      (List.mem_singleton_self _) rfl
  · intro s act s' _ hnot hstep hnodup
    rw [Outbox.process_sent hstep, List.map_append] at hnodup
    exact hnot (List.nodup_append.mp hnodup).1

end Durable

/-! ## Keys that come back -/

/-- An outbox whose entries can be removed, and whose keys can then be assigned again.  `pending`
and `delivered` say what the entry under a key is about; `assigns` is what a write inserts. -/
structure Recycling (o : Outbox σ ι τ ε ξ) (write : σ → β → σ) (key : ι → κ) (about : ι → δ)
    (pending delivered : σ → κ → δ → Prop) (assigns : σ → β → κ → δ → Prop) : Prop where
  unique : ∀ {s k d d'}, pending s k d → pending s k d' → d = d'
  listed : ∀ {s items}, o.list s = .ok items → ∀ i ∈ items, pending s (key i) (about i)
  recorded : ∀ {s i t error s'}, o.record s i t error = .ok s' → ∀ k d,
    (pending s' k d → pending s k d) ∧
      (delivered s' k d → delivered s k d ∨ (error = none ∧ k = key i ∧ pending s k d))
  written : ∀ s op k d,
    (pending (write s op) k d → pending s k d ∨ assigns s op k d) ∧
      (delivered (write s op) k d → delivered s k d)

namespace Recycling

variable {o : Outbox σ ι τ ε ξ} {write : σ → β → σ} {key : ι → κ} {about : ι → δ}
  {pending delivered : σ → κ → δ → Prop} {assigns : σ → β → κ → δ → Prop}

/-- A write inserts nothing under a key that a pass still holds for something else. -/
def SparesHeld (key : ι → κ) (about : ι → δ) (assigns : σ → β → κ → δ → Prop)
    (s : System σ π ι τ ξ) (act : Action π τ ε β) : Prop :=
  ∀ op, act = .write op → ∀ p, ∀ item ∈ (s.passes p).held, ∀ d,
    assigns s.store op (key item) d → d = about item

/-- A held item is about what its key's entry is about, and what has been delivered was sent. -/
structure Inv (key : ι → κ) (about : ι → δ) (pending delivered : σ → κ → δ → Prop) (s₀ : σ)
    (s : System σ π ι τ ξ) : Prop where
  held : ∀ p, ∀ item ∈ (s.passes p).held, ∀ d, pending s.store (key item) d → d = about item
  delivered : ∀ k d, delivered s.store k d → delivered s₀ k d ∨ d ∈ s.sent.map about

variable [DecidableEq π]

omit [DecidableEq π] in
/-- What a step of a pass does to the entries. -/
lemma effect_entries (r : Recycling o write key about pending delivered assigns) {s s' : σ}
    {pass pass' : Pass ι τ ξ} {a : PassStep τ ε} (h : o.Effect s pass a s' pass') (k : κ) (d : δ) :
    (pending s' k d → pending s k d) ∧ (delivered s' k d → delivered s k d ∨
      ∃ item, pass.delivers a = some item ∧ k = key item ∧ pending s k d) := by
  cases h with
  | listed => exact ⟨id, Or.inl⟩
  | unlisted => exact ⟨id, Or.inl⟩
  | started => exact ⟨id, Or.inl⟩
  | refusalRaised => exact ⟨id, Or.inl⟩
  | recordRaised => exact ⟨id, Or.inl⟩
  | refused _ hrecord =>
      obtain ⟨hpending, hdelivered⟩ := r.recorded hrecord k d
      exact ⟨hpending, fun h => (hdelivered h).imp_right fun ⟨hnone, _⟩ => absurd hnone (by simp)⟩
  | @recorded item todo now error s' hrecord =>
      obtain ⟨hpending, hdelivered⟩ := r.recorded hrecord k d
      refine ⟨hpending, fun h => (hdelivered h).imp_right fun ⟨hnone, hk, hp⟩ => ?_⟩
      exact ⟨item, by rw [hnone]; rfl, hk, hp⟩

/-- **One action keeps the invariant**, if it spares what the passes hold. -/
lemma inv_step (r : Recycling o write key about pending delivered assigns) {s₀ : σ}
    {s s' : System σ π ι τ ξ} {act : Action π τ ε β}
    (inv : Inv key about pending delivered s₀ s) (hspares : SparesHeld key about assigns s act)
    (h : (o.process write).step s act = some s') : Inv key about pending delivered s₀ s' := by
  rcases Outbox.process_cases h with ⟨p, a, store, pass, rfl, heffect, rfl⟩ | ⟨op, rfl, rfl⟩
  · constructor
    · intro q item hitem d hp
      have hp' : pending s.store (key item) d := (r.effect_entries heffect _ d).1 hp
      rcases Outbox.held_update heffect hitem with hitem | ⟨items, hlist, hitem⟩
      · exact inv.held q item hitem d hp'
      · exact r.unique hp' (r.listed hlist item hitem)
    · intro k d hd
      rw [List.map_append, List.mem_append]
      rcases (r.effect_entries heffect k d).2 hd with hd | ⟨item, hdelivers, rfl, hp⟩
      · exact (inv.delivered k d hd).imp_right Or.inl
      · have hd : d = about item :=
          inv.held p item (Pass.mem_held_of_delivers hdelivers) d hp
        exact Or.inr (Or.inr (by simp [hdelivers, hd]))
  · constructor
    · intro q item hitem d hp
      rcases (r.written s.store op _ d).1 hp with hp | hassigns
      · exact inv.held q item hitem d hp
      · exact hspares op rfl q item hitem d hassigns
    · exact fun k d hd => inv.delivered k d ((r.written s.store op k d).2 hd)

/-- **Only what was sent is delivered.**  In every interleaving of passes and writes in which no
write assigns a key that a pass holds for something else, an entry is delivered only if a send of
what it is about has completed successfully. -/
theorem delivered_sent (r : Recycling o write key about pending delivered assigns) {s : σ}
    {s' : System σ π ι τ ξ} {acts : List (Action π τ ε β)}
    (hspares : (o.process write).AllSteps (SparesHeld key about assigns) (System.start s) acts)
    (hrun : (o.process write).run (System.start s) acts = some s') {k : κ} {d : δ}
    (h : delivered s'.store k d) : delivered s k d ∨ d ∈ s'.sent.map about := by
  have hstart : Inv key about pending delivered s (System.start s : System σ π ι τ ξ) :=
    ⟨by simp [System.start, Pass.held], fun _ _ h => Or.inl h⟩
  exact (Process.run_invariant (fun _ _ _ inv hC hstep => r.inv_step inv hC hstep) hstart hspares
    hrun).delivered k d h

end Recycling

end Dispatch
