import WebChecker.Config
import WebChecker.Library.Verdicts
import WebChecker.Python.Unicode

/-!
# Parsing a schedule

`_parse_schedule` turns what stands under a job's `schedule` key into a `ScheduleDefinition`, and
everything it refuses is meant to be a `ConfigurationError`.  A value is checked in two layers, the
shape of the mappings and then the numbers by the constructors, and each check is one demand on the
value (`scheduleDemands`).  Two of them are not guarded: `isfinite` of an integer that no float can
hold, and `str` of a key with more than 4300 digits in the report of unsupported fields.
-/

namespace WebChecker

open Results

/-! ## Values -/

/-- A key of a YAML mapping.  A float, a date or a binary is named by its `str`. -/
inductive YamlKey where
  | null
  | bool (b : Bool)
  | int (n : ℤ)
  | str (s : String)
  | other (text : String)
deriving DecidableEq, Repr

/-- What the YAML loader gives.  A float that is not finite, a date, a binary and a set have no
part that the schedule reads.  Only the first two levels of a value are looked at, so one that
contains itself stands for each of its unfoldings. -/
inductive YamlValue where
  | null
  | bool (b : Bool)
  | int (n : ℤ)
  | float (x : ℚ)
  | nonFinite
  | str (s : String)
  | list (xs : List YamlValue)
  | mapping (items : List (YamlKey × YamlValue))
  | other

/-- What a value of the configuration is refused with. -/
inductive ConfigurationFailure where
  | configurationError (message : String)
  | overflowError (message : String)
  | valueError (message : String)
  /-- Any other exception, with its name. -/
  | other (name message : String)
deriving DecidableEq, Repr

/-- `except ConfigurationError`, which is all that the callers of `load_config` handle. -/
def ConfigurationFailure.isConfigurationError : ConfigurationFailure → Bool
  | configurationError _ => true
  | _ => false

/-- The items of a mapping. -/
abbrev YamlItems := List (YamlKey × YamlValue)

/-- `value.get(name)`, with the absence of the key told from a null. -/
def getField (items : YamlItems) (name : String) : Option YamlValue := items.lookup (.str name)

/-! ## Keys -/

/-- `str(item)` of a key. -/
def YamlKey.text : YamlKey → Except ConfigurationFailure String
  | null => .ok "None"
  | bool b => .ok (if b then "True" else "False")
  | int n =>
    match intText n.natAbs with
    | .ok digits => .ok (if n < 0 then "-" ++ digits else digits)
    | .error e => .error (.valueError e.message)
  | str s => .ok s
  | other text => .ok text

/-- `set(value) - allowed`. -/
def unexpectedKeys (allowed : List String) (items : YamlItems) : List YamlKey :=
  (items.map Prod.fst).filter fun key => key ∉ allowed.map YamlKey.str

/-- The report of the fields that a mapping should not have. -/
def refuseUnexpected (label : String) (allowed : List String) (items : YamlItems) :
    Except ConfigurationFailure Unit :=
  match unexpectedKeys allowed items with
  | [] => .ok ()
  | unexpected => do
    let texts ← unexpected.mapM YamlKey.text
    .error (.configurationError ("unsupported " ++ label ++ " fields: " ++
      ", ".intercalate (texts.mergeSort fun a b => a ≤ b)))

/-! ## Numbers -/

/-- The least positive integer that is rounded to no finite float. -/
def floatRange : ℕ := 2 ^ 1024 - 2 ^ 970

/-- `isfinite` of a number that is not a boolean; `none` for a value that is not a finite number. -/
def YamlValue.isfinite : YamlValue → Except ConfigurationFailure (Option ℚ)
  | int n =>
    if n.natAbs < floatRange then .ok (some n)
    else .error (.overflowError "int too large to convert to float")
  | float x => .ok (some x)
  | _ => .ok none

lemma isfinite_int {n : ℤ} (h : n.natAbs < floatRange) :
    (YamlValue.int n).isfinite = .ok (some (n : ℚ)) := by
  rw [YamlValue.isfinite, if_pos h]

/-- The keyword arguments of `_validate_finite_number`. -/
structure Bounds where
  minimum : ℤ
  maximum : Option ℤ := none
  minimumInclusive : Bool := true

/-- `minimum_valid`. -/
def Bounds.minimumValid (bounds : Bounds) (x : ℚ) : Bool :=
  if bounds.minimumInclusive then decide ((bounds.minimum : ℚ) ≤ x)
  else decide ((bounds.minimum : ℚ) < x)

/-- A number within the bounds. -/
structure Bounds.Admits (bounds : Bounds) (x : ℚ) : Prop where
  minimumValid : bounds.minimumValid x = true
  le_maximum : ∀ maximum ∈ bounds.maximum, x ≤ (maximum : ℚ)

instance (bounds : Bounds) (x : ℚ) : Decidable (bounds.Admits x) :=
  decidable_of_iff (bounds.minimumValid x = true ∧ ∀ maximum ∈ bounds.maximum, x ≤ (maximum : ℚ))
    ⟨fun h => ⟨h.1, h.2⟩, fun h => ⟨h.1, h.2⟩⟩

/-- The comparison that the minimum is reported with. -/
def Bounds.comparison (bounds : Bounds) : String :=
  if bounds.minimumInclusive then "greater than or equal to" else "greater than"

/-- `_validate_finite_number`. -/
def validateFiniteNumber (value : YamlValue) (label : String) (bounds : Bounds) :
    Except ConfigurationFailure {x : ℚ // bounds.Admits x} := do
  match ← value.isfinite with
  | none => .error (.configurationError (label ++ " must be a finite number"))
  | some x =>
    if hminimum : bounds.minimumValid x = true then
      match hmaximum : bounds.maximum with
      | none => .ok ⟨x, hminimum, by simp [hmaximum]⟩
      | some maximum =>
        if hle : x ≤ (maximum : ℚ) then .ok ⟨x, hminimum, by simpa [hmaximum] using hle⟩
        else
          .error (.configurationError
            (label ++ " must be less than or equal to " ++ toString maximum))
    else
      .error (.configurationError
        (label ++ " must be " ++ bounds.comparison ++ " " ++ toString bounds.minimum))

/-! ## The constructors -/

/-- The first check of the constructor of `RetryPolicy`. -/
def validateMaxAttempts (value : YamlValue) :
    Except ConfigurationFailure {n : ℕ // 1 ≤ n ∧ n ≤ 10} :=
  match value with
  | .int n =>
    if h : 1 ≤ n ∧ n ≤ 10 then .ok ⟨n.toNat, by omega⟩
    else .error (.configurationError "retry max_attempts must be between 1 and 10")
  | _ => .error (.configurationError "retry max_attempts must be between 1 and 10")

/-- `minimum=0`. -/
def delayBounds : Bounds := { minimum := 0 }

/-- `minimum=0, maximum=1`. -/
def fractionBounds : Bounds := { minimum := 0, maximum := some 1 }

/-- `minimum=0, minimum_inclusive=False`. -/
def intervalBounds : Bounds := { minimum := 0, minimumInclusive := false }

lemma Bounds.Admits.delay_nonneg {x : ℚ} (h : delayBounds.Admits x) : 0 ≤ x := by
  simpa [delayBounds, Bounds.minimumValid] using h.minimumValid

lemma Bounds.Admits.fraction_nonneg {x : ℚ} (h : fractionBounds.Admits x) : 0 ≤ x := by
  simpa [fractionBounds, Bounds.minimumValid] using h.minimumValid

lemma Bounds.Admits.fraction_le {x : ℚ} (h : fractionBounds.Admits x) : x ≤ 1 := by
  simpa [fractionBounds] using h.le_maximum 1

lemma Bounds.Admits.interval_pos {x : ℚ} (h : intervalBounds.Admits x) : 0 < x := by
  simpa [intervalBounds, Bounds.minimumValid] using h.minimumValid

/-- The constructor of `RetryPolicy`. -/
def RetryPolicy.create (maxAttempts initialDelaySeconds maxDelaySeconds jitterFraction :
    YamlValue) : Except ConfigurationFailure RetryPolicy := do
  let maxAttempts ← validateMaxAttempts maxAttempts
  let initialDelay ←
    validateFiniteNumber initialDelaySeconds "retry initial_delay_seconds" delayBounds
  let maxDelay ← validateFiniteNumber maxDelaySeconds "retry max_delay_seconds" delayBounds
  let jitter ← validateFiniteNumber jitterFraction "retry jitter_fraction" fractionBounds
  if hle : maxDelay.1 < initialDelay.1 then
    .error (.configurationError
      "retry max_delay_seconds must be greater than or equal to initial_delay_seconds")
  else if hne : 1 < maxAttempts.1 ∧ initialDelay.1 = 0 then
    .error (.configurationError ("retry initial_delay_seconds must be greater than 0 when " ++
      "max_attempts is greater than 1"))
  else
    .ok {
      maxAttempts := maxAttempts
      initialDelaySeconds := initialDelay
      maxDelaySeconds := maxDelay
      jitterFraction := jitter
      maxAttempts_pos := maxAttempts.2.1
      maxAttempts_le := maxAttempts.2.2
      initialDelay_nonneg := initialDelay.2.delay_nonneg
      maxDelay_nonneg := maxDelay.2.delay_nonneg
      jitter_nonneg := jitter.2.fraction_nonneg
      jitter_le := jitter.2.fraction_le
      initialDelay_le := not_lt.mp hle
      initialDelay_ne := fun hattempts hzero => hne ⟨hattempts, hzero⟩ }

/-- `RetryPolicy(**items)`, where an absent keyword has its default.  The keys have been checked,
so the call itself does not raise `TypeError`. -/
def RetryPolicy.ofKeywords (items : YamlItems) : Except ConfigurationFailure RetryPolicy :=
  RetryPolicy.create ((getField items "max_attempts").getD (.int 3))
    ((getField items "initial_delay_seconds").getD (.float 5))
    ((getField items "max_delay_seconds").getD (.float 60))
    ((getField items "jitter_fraction").getD (.float (1 / 5)))

/-- The constructor of `ScheduleDefinition`. -/
def ScheduleDefinition.create (intervalSeconds : YamlValue) (retry : RetryPolicy) :
    Except ConfigurationFailure ScheduleDefinition :=
  (validateFiniteNumber intervalSeconds "schedule interval_seconds" intervalBounds).map
    fun interval => {
      intervalSeconds := interval.1
      retry := retry
      interval_pos := interval.2.interval_pos }

/-! ## `_parse_schedule` -/

/-- The keys of a schedule. -/
def scheduleFields : List String := ["interval_seconds", "retry"]

/-- The keys of a retry policy. -/
def retryFields : List String :=
  ["max_attempts", "initial_delay_seconds", "max_delay_seconds", "jitter_fraction"]

/-- The retry policy of a schedule. -/
def parseRetry (retryValue : Option YamlValue) (jobLabel : String) :
    Except ConfigurationFailure RetryPolicy :=
  match retryValue with
  | none | some .null => RetryPolicy.ofKeywords []
  | some (.mapping items) => do
    refuseUnexpected (jobLabel ++ ".schedule.retry") retryFields items
    RetryPolicy.ofKeywords items
  | some _ => .error (.configurationError (jobLabel ++ ".schedule.retry must be a mapping"))

/-- `raise ConfigurationError(f"{context}: {error}") from error`. -/
def ConfigurationFailure.within (context : String) : ConfigurationFailure → ConfigurationFailure
  | configurationError message => configurationError (context ++ ": " ++ message)
  | e => e

/-- `_parse_schedule`. -/
def parseSchedule (value : YamlValue) (jobLabel : String) :
    Except ConfigurationFailure (Option ScheduleDefinition) :=
  match value with
  | .null => .ok none
  | .mapping items => do
    refuseUnexpected (jobLabel ++ ".schedule") scheduleFields items
    match getField items "interval_seconds" with
    | none =>
      .error (.configurationError ("missing " ++ jobLabel ++ ".schedule fields: interval_seconds"))
    | some interval =>
      let retry ← parseRetry (getField items "retry") jobLabel
      let schedule ← (ScheduleDefinition.create interval retry).mapError
        (ConfigurationFailure.within ("invalid " ++ jobLabel ++ ".schedule"))
      .ok (some schedule)
  | _ => .error (.configurationError (jobLabel ++ ".schedule must be a mapping"))

/-! ## What is asked of a value -/

/-- `str` accepts the key. -/
def YamlKey.printable : YamlKey → Bool
  | int n => n.natAbs < 10 ^ maxStrDigits
  | _ => true

/-- The number that a value is. -/
def YamlValue.number : YamlValue → ℚ
  | int n => n
  | float x => x
  | _ => 0

/-- No unexpected keys, which the report has to name. -/
def keysVerdict (allowed : List String) (items : YamlItems) : Verdict :=
  match unexpectedKeys allowed items with
  | [] => .returns
  | unexpected => if unexpected.all YamlKey.printable then .handled else .escapes

/-- A finite number within the bounds. -/
def numberVerdict (bounds : Bounds) : YamlValue → Verdict
  | .int n =>
    if n.natAbs < floatRange then if bounds.Admits n then .returns else .handled else .escapes
  | .float x => if bounds.Admits x then .returns else .handled
  | _ => .handled

/-- An integer from one to ten. -/
def attemptsVerdict : YamlValue → Verdict
  | .int n => if 1 ≤ n ∧ n ≤ 10 then .returns else .handled
  | _ => .handled

/-- What the numbers of a policy have to be for each other. -/
def delaysVerdict (maxAttempts initialDelay maxDelay : ℚ) : Verdict :=
  if maxDelay < initialDelay ∨ 1 < maxAttempts ∧ initialDelay = 0 then .handled else .returns

/-- What the constructor of `RetryPolicy` asks of its arguments. -/
def policyDemands (items : YamlItems) : List Verdict :=
  let maxAttempts := (getField items "max_attempts").getD (.int 3)
  let initialDelay := (getField items "initial_delay_seconds").getD (.float 5)
  let maxDelay := (getField items "max_delay_seconds").getD (.float 60)
  let jitter := (getField items "jitter_fraction").getD (.float (1 / 5))
  [attemptsVerdict maxAttempts, numberVerdict delayBounds initialDelay,
    numberVerdict delayBounds maxDelay, numberVerdict fractionBounds jitter,
    delaysVerdict maxAttempts.number initialDelay.number maxDelay.number]

/-- What is asked of the value under `retry`. -/
def retryDemands : Option YamlValue → List Verdict
  | none | some .null => []
  | some (.mapping items) => keysVerdict retryFields items :: policyDemands items
  | some _ => [.handled]

/-- What is asked of the value under `schedule`, in the order of the checks. -/
def scheduleDemands : YamlValue → List Verdict
  | .null => []
  | .mapping items =>
    keysVerdict scheduleFields items ::
      match getField items "interval_seconds" with
      | none => [.handled]
      | some interval =>
        retryDemands (getField items "retry") ++ [numberVerdict intervalBounds interval]
  | _ => [.handled]

/-! ## One check -/

/-- The verdict of the callers of `load_config` on a step of the parser. -/
abbrev configurationVerdict {α : Type} (x : Except ConfigurationFailure α) : Verdict :=
  .ofExcept ConfigurationFailure.isConfigurationError x

lemma verdict_text (key : YamlKey) :
    configurationVerdict key.text = if key.printable then .returns else .escapes := by
  cases key with
  | int n =>
      have hlength : (toString n.natAbs).length ≤ maxStrDigits ↔ n.natAbs < 10 ^ maxStrDigits :=
        Nat.length_repr_le_iff (by decide)
      simp only [YamlKey.text, YamlKey.printable, intText, hlength, decide_eq_true_eq]
      by_cases hprintable : n.natAbs < 10 ^ maxStrDigits
      · rw [if_pos hprintable, if_pos hprintable]
        rfl
      · rw [if_neg hprintable, if_neg hprintable]
        rfl
  | _ => rfl

/-- **The report of unexpected fields** escapes if one of them has no text. -/
lemma verdict_refuseUnexpected (label : String) (allowed : List String) (items : YamlItems) :
    configurationVerdict (refuseUnexpected label allowed items) = keysVerdict allowed items := by
  rw [refuseUnexpected, keysVerdict]
  cases unexpectedKeys allowed items with
  | nil => rfl
  | cons key keys =>
      have htexts := Verdict.ofExcept_mapM fun k (_ : k ∈ key :: keys) => verdict_text k
      rw [Verdict.first_map_escapes] at htexts
      refine (Verdict.ofExcept_bind htexts (w := .handled) fun texts _ => rfl).trans ?_
      show _ = if (key :: keys).all YamlKey.printable then Verdict.handled else .escapes
      cases (key :: keys).all YamlKey.printable <;> rfl

/-- **A finite number** is returned, or refused for its bounds. -/
lemma validateFiniteNumber_cases {value : YamlValue} {x : ℚ} (h : value.isfinite = .ok (some x))
    (label : String) (bounds : Bounds) :
    (∃ hx : bounds.Admits x, validateFiniteNumber value label bounds = .ok ⟨x, hx⟩) ∨
      ¬ bounds.Admits x ∧
        ∃ message, validateFiniteNumber value label bounds =
          .error (.configurationError message) := by
  rw [validateFiniteNumber, h, ok_bind]
  dsimp only
  split
  · next hminimum =>
      split
      · next hmaximum => exact Or.inl ⟨⟨hminimum, by simp [hmaximum]⟩, rfl⟩
      · next maximum hmaximum =>
          split
          · next hle => exact Or.inl ⟨⟨hminimum, by simpa [hmaximum] using hle⟩, rfl⟩
          · next hle =>
              refine Or.inr ⟨fun hx => hle (hx.le_maximum maximum ?_), _, rfl⟩
              rw [hmaximum, Option.mem_some_iff]
  · next hminimum => exact Or.inr ⟨fun hx => hminimum hx.minimumValid, _, rfl⟩

/-- The number that is returned is the one that the value is. -/
lemma number_eq_of_validate {value : YamlValue} {label : String} {bounds : Bounds}
    {x : {x : ℚ // bounds.Admits x}} (h : validateFiniteNumber value label bounds = .ok x) :
    value.number = x.1 := by
  have hfinite : ∃ y, value.isfinite = .ok (some y) ∧ value.number = y := by
    cases value with
    | int n =>
        by_cases hn : n.natAbs < floatRange
        · exact ⟨n, isfinite_int hn, rfl⟩
        · rw [validateFiniteNumber, YamlValue.isfinite, if_neg hn, error_bind] at h
          simp at h
    | float y => exact ⟨y, rfl, rfl⟩
    | _ => cases h
  obtain ⟨y, hy, hnumber⟩ := hfinite
  rcases validateFiniteNumber_cases hy label bounds with ⟨hx, hok⟩ | ⟨_, message, herror⟩
  · rw [hok, Except.ok.injEq] at h
    rw [hnumber, ← h]
  · rw [herror] at h
    cases h

/-- The verdict on a finite number is the one on its bounds. -/
lemma verdict_of_isfinite {value : YamlValue} {x : ℚ} (h : value.isfinite = .ok (some x))
    (label : String) (bounds : Bounds) :
    configurationVerdict (validateFiniteNumber value label bounds) =
      if bounds.Admits x then .returns else .handled := by
  rcases validateFiniteNumber_cases h label bounds with ⟨hx, hok⟩ | ⟨hx, message, herror⟩
  · rw [hok, if_pos hx]
    rfl
  · rw [herror, if_neg hx]
    rfl

lemma verdict_validateFiniteNumber (value : YamlValue) (label : String) (bounds : Bounds) :
    configurationVerdict (validateFiniteNumber value label bounds) =
      numberVerdict bounds value := by
  cases value with
  | int n =>
      rw [numberVerdict]
      by_cases hn : n.natAbs < floatRange
      · rw [if_pos hn]
        exact verdict_of_isfinite (isfinite_int hn) label bounds
      · rw [if_neg hn, validateFiniteNumber, YamlValue.isfinite, if_neg hn]
        rfl
  | float x => exact verdict_of_isfinite rfl label bounds
  | _ => rfl

/-- **The attempts** are returned as the number that the value is. -/
lemma number_eq_of_validateMaxAttempts {value : YamlValue} {n : {n : ℕ // 1 ≤ n ∧ n ≤ 10}}
    (h : validateMaxAttempts value = .ok n) : value.number = (n.1 : ℚ) := by
  cases value with
  | int m =>
      rw [validateMaxAttempts] at h
      split at h
      · next hm =>
          rw [Except.ok.injEq] at h
          have hcast : ((m.toNat : ℤ) : ℚ) = (m : ℚ) := by rw [Int.toNat_of_nonneg (by omega)]
          rw [← h]
          exact hcast.symm
      · cases h
  | _ => cases h

lemma verdict_validateMaxAttempts (value : YamlValue) :
    configurationVerdict (validateMaxAttempts value) = attemptsVerdict value := by
  cases value with
  | int n =>
      rw [validateMaxAttempts, attemptsVerdict]
      by_cases hn : 1 ≤ n ∧ n ≤ 10
      · rw [dif_pos hn, if_pos hn]
        rfl
      · rw [dif_neg hn, if_neg hn]
        rfl
  | _ => rfl

/-! ## Both layers -/

/-- The demands of the constructor of `RetryPolicy`. -/
lemma verdict_create (maxAttempts initialDelay maxDelay jitter : YamlValue) :
    configurationVerdict (RetryPolicy.create maxAttempts initialDelay maxDelay jitter) =
      .first [attemptsVerdict maxAttempts, numberVerdict delayBounds initialDelay,
        numberVerdict delayBounds maxDelay, numberVerdict fractionBounds jitter,
        delaysVerdict maxAttempts.number initialDelay.number maxDelay.number] := by
  refine Verdict.ofExcept_bind (verdict_validateMaxAttempts _) fun n hn => ?_
  refine Verdict.ofExcept_bind (verdict_validateFiniteNumber _ _ _) fun initial hinitial => ?_
  refine Verdict.ofExcept_bind (verdict_validateFiniteNumber _ _ _) fun maximum hmaximum => ?_
  refine Verdict.ofExcept_bind (verdict_validateFiniteNumber _ _ _) fun fraction _ => ?_
  rw [Verdict.first_cons, Verdict.first_nil, Verdict.andThen_returns,
    number_eq_of_validateMaxAttempts hn, number_eq_of_validate hinitial,
    number_eq_of_validate hmaximum, delaysVerdict]
  by_cases hle : maximum.1 < initial.1
  · rw [dif_pos hle, if_pos (Or.inl hle)]
    rfl
  · rw [dif_neg hle]
    by_cases hne : 1 < n.1 ∧ initial.1 = 0
    · rw [dif_pos hne, if_pos (Or.inr (by exact_mod_cast hne))]
      rfl
    · rw [dif_neg hne, if_neg]
      · rfl
      · rintro (hlt | hzero)
        · exact hle hlt
        · exact hne (by exact_mod_cast hzero)

/-- The defaults of `RetryPolicy` pass its own checks. -/
lemma first_policyDemands_nil : Verdict.first (policyDemands []) = .returns := by
  decide +kernel

lemma verdict_parseRetry (retryValue : Option YamlValue) (jobLabel : String) :
    configurationVerdict (parseRetry retryValue jobLabel) = .first (retryDemands retryValue) := by
  have hdefault : configurationVerdict (RetryPolicy.ofKeywords []) = .returns := by
    rw [← first_policyDemands_nil]
    exact verdict_create _ _ _ _
  match retryValue with
  | none => exact hdefault
  | some .null => exact hdefault
  | some (.mapping items) =>
      exact Verdict.ofExcept_bind (verdict_refuseUnexpected _ _ _) fun _ _ => verdict_create _ _ _ _
  | some (.bool _) => rfl
  | some (.int _) => rfl
  | some (.float _) => rfl
  | some .nonFinite => rfl
  | some (.str _) => rfl
  | some (.list _) => rfl
  | some .other => rfl

/-- The context that a `ConfigurationError` is raised in does not change the verdict. -/
lemma verdict_within {α : Type} (context : String) (x : Except ConfigurationFailure α) :
    configurationVerdict (x.mapError (ConfigurationFailure.within context)) =
      configurationVerdict x := by
  cases x with
  | ok a => rfl
  | error e => cases e <;> rfl

lemma verdict_createSchedule (interval : YamlValue) (retry : RetryPolicy) :
    configurationVerdict (ScheduleDefinition.create interval retry) =
      numberVerdict intervalBounds interval := by
  rw [ScheduleDefinition.create, configurationVerdict, Verdict.ofExcept_map]
  exact verdict_validateFiniteNumber _ _ _

/-! ## `_parse_schedule` -/

/-- **The verdict on a schedule** is the first one among the demands. -/
theorem verdict_parseSchedule (value : YamlValue) (jobLabel : String) :
    configurationVerdict (parseSchedule value jobLabel) = .first (scheduleDemands value) := by
  cases value with
  | mapping items =>
      refine Verdict.ofExcept_bind (verdict_refuseUnexpected _ _ _) fun _ _ => ?_
      cases getField items "interval_seconds" with
      | none => rfl
      | some interval =>
          dsimp only
          rw [Verdict.first_append]
          refine Verdict.ofExcept_bind (verdict_parseRetry _ _) fun retry _ => ?_
          refine Verdict.ofExcept_bind ?_ fun schedule _ => rfl
          rw [← verdict_createSchedule interval retry]
          exact verdict_within _ _
  | _ => rfl

/-- What the scheduler relies on. -/
structure ScheduleDefinition.Valid (schedule : ScheduleDefinition) : Prop where
  interval_pos : 0 < schedule.intervalSeconds
  attempts : 1 ≤ schedule.retry.maxAttempts ∧ schedule.retry.maxAttempts ≤ 10
  delays : 0 ≤ schedule.retry.initialDelaySeconds ∧
    schedule.retry.initialDelaySeconds ≤ schedule.retry.maxDelaySeconds
  jitter : 0 ≤ schedule.retry.jitterFraction ∧ schedule.retry.jitterFraction ≤ 1
  initialDelay_pos : 1 < schedule.retry.maxAttempts → 0 < schedule.retry.initialDelaySeconds

/-- The constructors have checked it. -/
lemma ScheduleDefinition.valid (schedule : ScheduleDefinition) : schedule.Valid where
  interval_pos := schedule.interval_pos
  attempts := ⟨schedule.retry.maxAttempts_pos, schedule.retry.maxAttempts_le⟩
  delays := ⟨schedule.retry.initialDelay_nonneg, schedule.retry.initialDelay_le⟩
  jitter := ⟨schedule.retry.jitter_nonneg, schedule.retry.jitter_le⟩
  initialDelay_pos := fun hattempts =>
    lt_of_le_of_ne schedule.retry.initialDelay_nonneg
      (schedule.retry.initialDelay_ne hattempts).symm

/-- No schedule for a null and only for it, a schedule that the scheduler can rely on, or a
`ConfigurationError`. -/
def ParsesSoundly (value : YamlValue) (jobLabel : String) : Prop :=
  (∃ result, parseSchedule value jobLabel = .ok result ∧ (result = none ↔ value = .null) ∧
    ∀ schedule ∈ result, schedule.Valid) ∨
  ∃ message, parseSchedule value jobLabel = .error (.configurationError message)

/-- Only a null is no schedule. -/
lemma eq_none_iff_of_parseSchedule {value : YamlValue} {jobLabel : String}
    {result : Option ScheduleDefinition} (h : parseSchedule value jobLabel = .ok result) :
    result = none ↔ value = .null := by
  cases value with
  | null =>
      rw [parseSchedule, Except.ok.injEq] at h
      simp [← h]
  | mapping items =>
      rw [parseSchedule, bind_eq_ok] at h
      obtain ⟨_, _, h⟩ := h
      split at h
      · cases h
      · simp only [bind_eq_ok, Except.ok.injEq] at h
        obtain ⟨_, _, _, _, rfl⟩ := h
        simp
  | _ => cases h

/-- **A schedule is parsed soundly** exactly if the first demand that the value does not meet, if
there is one, is neither a number that no float can hold nor a report of a key without a text. -/
theorem parsesSoundly_iff (value : YamlValue) (jobLabel : String) :
    ParsesSoundly value jobLabel ↔ Verdict.first (scheduleDemands value) ≠ .escapes := by
  rw [← verdict_parseSchedule value jobLabel, Verdict.ofExcept_ne_escapes]
  refine or_congr ?_ ?_
  · constructor
    · rintro ⟨result, h, _⟩
      exact ⟨result, h⟩
    · rintro ⟨result, h⟩
      exact ⟨result, h, eq_none_iff_of_parseSchedule h, fun schedule _ => schedule.valid⟩
  · constructor
    · rintro ⟨message, h⟩
      exact ⟨_, h, rfl⟩
    · rintro ⟨e, h, he⟩
      cases e with
      | configurationError message => exact ⟨message, h⟩
      | _ => cases he

/-- `interval_seconds: 10 ** 400`, written out. -/
def hugeInterval : YamlValue := .mapping [(.str "interval_seconds", .int (10 ^ 400))]

/-- **An interval that no float can hold**: `isfinite` raises `OverflowError`. -/
theorem hugeInterval_escapes : ¬ ParsesSoundly hugeInterval "jobs[0]" := by
  have hparse : (parseSchedule hugeInterval "jobs[0]").map (fun _ => ()) =
      .error (.overflowError "int too large to convert to float") := by
    decide +kernel
  rintro (⟨result, h, _⟩ | ⟨message, h⟩)
  · rw [h] at hparse
    simp at hparse
  · rw [h] at hparse
    simp at hparse

end WebChecker
