import Mathlib.Data.List.Dedup
import WebChecker.ScheduleParsing

/-!
# Loading the configuration

`load_config` turns a YAML document into an `ApplicationConfig`.  What a configuration is made of
carries what the constructors check, so there is no invalid one; what a document has to say is
stated apart from the order of the checks and from their messages.

* `Describes` — the document says nothing but a given configuration.
* `loadConfig_describes` — `load_config` returns a configuration exactly if the document describes
  it.
* `loadConfig_escapes` — when it raises something that its callers do not handle.

Documents are finite, and Python's limit on the depth of calls plays no part: a document that
contains itself, on which `_freeze_mapping` raises a `RecursionError`, is no `YamlValue`.
-/

namespace WebChecker

open Results

/-! ## Frozen values -/

/-- A value that cannot be changed: `_freeze_mapping` makes tuples of lists and read-only views of
mappings. -/
inductive FrozenValue where
  | null
  | bool (b : Bool)
  | int (n : ℤ)
  | float (x : ℚ)
  | nonFinite
  | str (s : String)
  | tuple (xs : List FrozenValue)
  | mapping (items : List (YamlKey × FrozenValue))
  | other

/-- The items of a frozen mapping. -/
abbrev FrozenItems := List (YamlKey × FrozenValue)

mutual

/-- `freeze`. -/
def YamlValue.freeze : YamlValue → FrozenValue
  | .null => .null
  | .bool b => .bool b
  | .int n => .int n
  | .float x => .float x
  | .nonFinite => .nonFinite
  | .str s => .str s
  | .list xs => .tuple (freezeList xs)
  | .mapping items => .mapping (freezeItems items)
  | .other => .other

/-- `tuple(freeze(child) for child in item)`. -/
def freezeList : List YamlValue → List FrozenValue
  | [] => []
  | x :: xs => x.freeze :: freezeList xs

/-- `{key: freeze(child) for key, child in item.items()}`. -/
def freezeItems : YamlItems → FrozenItems
  | [] => []
  | (key, child) :: items => (key, child.freeze) :: freezeItems items

end

mutual

/-- The value that has been frozen. -/
def FrozenValue.thaw : FrozenValue → YamlValue
  | .null => .null
  | .bool b => .bool b
  | .int n => .int n
  | .float x => .float x
  | .nonFinite => .nonFinite
  | .str s => .str s
  | .tuple xs => .list (thawList xs)
  | .mapping items => .mapping (thawItems items)
  | .other => .other

def thawList : List FrozenValue → List YamlValue
  | [] => []
  | x :: xs => x.thaw :: thawList xs

def thawItems : FrozenItems → YamlItems
  | [] => []
  | (key, child) :: items => (key, child.thaw) :: thawItems items

end

mutual

/-- **Freezing loses nothing.** -/
lemma thaw_freeze : ∀ value : YamlValue, value.freeze.thaw = value
  | .null => rfl
  | .bool _ => rfl
  | .int _ => rfl
  | .float _ => rfl
  | .nonFinite => rfl
  | .str _ => rfl
  | .list xs => by rw [YamlValue.freeze, FrozenValue.thaw, thawList_freezeList xs]
  | .mapping items => by rw [YamlValue.freeze, FrozenValue.thaw, thawItems_freezeItems items]
  | .other => rfl

lemma thawList_freezeList : ∀ xs : List YamlValue, thawList (freezeList xs) = xs
  | [] => rfl
  | x :: xs => by rw [freezeList, thawList, thaw_freeze x, thawList_freezeList xs]

lemma thawItems_freezeItems : ∀ items : YamlItems, thawItems (freezeItems items) = items
  | [] => rfl
  | (key, child) :: items => by
      rw [freezeItems, thawItems, thaw_freeze child, thawItems_freezeItems items]

end

/-- A driver finds under a key what the document has there, frozen. -/
lemma lookup_freezeItems (items : YamlItems) (key : YamlKey) :
    (freezeItems items).lookup key = (items.lookup key).map YamlValue.freeze := by
  induction items with
  | nil => rfl
  | cons item items ih =>
      obtain ⟨k, child⟩ := item
      rw [freezeItems, List.lookup_cons, List.lookup_cons, ih]
      cases key == k <;> rfl

/-! ## What a configuration is made of -/

/-- `JOB_ID_PATTERN.fullmatch`. -/
def isJobId (s : String) : Bool :=
  match s.toList with
  | [] => false
  | c :: cs => c.isAlphanum && cs.all fun d => d.isAlphanum || d = '.' || d = '_' || d = '-'

/-- The definition of a job with its driver and the configuration of the driver. -/
structure ConfiguredJob extends JobDefinition where
  driver : String
  config : FrozenItems
  id_ok : isJobId id = true
  driver_strip : strip driver = driver
  driver_ne : driver ≠ ""

/-- Uniquely named check jobs. -/
structure ApplicationConfig where
  jobs : List ConfiguredJob
  ids_nodup : (jobs.map fun job => job.id).Nodup

/-- The constructor of `ApplicationConfig`. -/
def ApplicationConfig.create (jobs : List ConfiguredJob) :
    Except ConfigurationFailure ApplicationConfig :=
  let repeated := duplicates (jobs.map fun job => job.id)
  if hrepeated : repeated = [] then .ok ⟨jobs, duplicates_eq_nil.mp hrepeated⟩
  else .error (.configurationError ("duplicate job ids: " ++ ", ".intercalate repeated))

/-- `get_job`. -/
def ApplicationConfig.getJob (config : ApplicationConfig) (jobId : String) :
    Except ConfigurationFailure ConfiguredJob :=
  match config.jobs.find? fun job => job.id = jobId with
  | some job => .ok job
  | none =>
    let ids := ", ".intercalate (config.jobs.map fun job => job.id)
    let available := if ids = "" then "none" else ids
    .error (.configurationError
      ("unknown job " ++ pyRepr jobId ++ "; configured jobs: " ++ available))

/-- A configured job is found under its id. -/
lemma getJob_eq_ok {config : ApplicationConfig} {jobId : String} {job : ConfiguredJob} :
    config.getJob jobId = .ok job ↔ job ∈ config.jobs ∧ job.id = jobId := by
  have hfind : config.getJob jobId = .ok job ↔
      (config.jobs.find? fun job => job.id = jobId) = some job := by
    rw [ApplicationConfig.getJob]
    split
    · next found hfound => rw [hfound, Except.ok.injEq, Option.some.injEq]
    · next hnone => simp [hnone]
  rw [hfind]
  constructor
  · intro h
    exact ⟨List.mem_of_find?_eq_some h, by simpa using List.find?_some h⟩
  · rintro ⟨hjob, rfl⟩
    obtain ⟨other, hother⟩ : ∃ other, config.jobs.find? (fun j => j.id = job.id) = some other := by
      rw [← Option.isSome_iff_exists, List.find?_isSome]
      exact ⟨job, hjob, by simp⟩
    have hid : other.id = job.id := by simpa using List.find?_some hother
    rw [hother, List.inj_on_of_nodup_map config.ids_nodup (List.mem_of_find?_eq_some hother) hjob
      hid]

/-! ## The constructor of a job -/

/-- The check of an id. -/
def validateId (value : YamlValue) : Except ConfigurationFailure {s : String // isJobId s = true} :=
  let error := .error (.configurationError ("job id must start with an alphanumeric character " ++
    "and contain only letters, numbers, dots, underscores, or hyphens"))
  match value with
  | .str s => if h : isJobId s = true then .ok ⟨s, h⟩ else error
  | _ => error

/-- The check of a driver's name, which is stripped. -/
def validateDriver (id : String) (value : YamlValue) :
    Except ConfigurationFailure {s : String // strip s = s ∧ s ≠ ""} :=
  let error := .error (.configurationError ("job " ++ pyRepr id ++ " driver must not be blank"))
  match value with
  | .str s => if h : strip s = "" then error else .ok ⟨strip s, strip_strip s, h⟩
  | _ => error

def validateEnabled (id : String) (value : YamlValue) : Except ConfigurationFailure Bool :=
  match value with
  | .bool b => .ok b
  | _ => .error (.configurationError ("job " ++ pyRepr id ++ " enabled must be a boolean"))

/-- The check of a driver's configuration, which is frozen. -/
def validateConfig (id : String) (value : YamlValue) : Except ConfigurationFailure FrozenItems :=
  match value with
  | .mapping items => .ok (freezeItems items)
  | _ => .error (.configurationError ("job " ++ pyRepr id ++ " config must be a mapping"))

/-- The constructor of `JobDefinition`. -/
def ConfiguredJob.create (id driver config enabled : YamlValue) (notifications : NotificationPlan)
    (schedule : Option ScheduleDefinition) : Except ConfigurationFailure ConfiguredJob := do
  let id ← validateId id
  let driver ← validateDriver id.1 driver
  let enabled ← validateEnabled id.1 enabled
  let config ← validateConfig id.1 config
  .ok {
    id := id
    enabled := enabled
    notifications := notifications
    schedule := schedule
    driver := driver
    config := config
    id_ok := id.2
    driver_strip := driver.2.1
    driver_ne := driver.2.2 }

/-! ## The parts of a document -/

/-- The report of the fields that a mapping should have. -/
def refuseMissing (label : String) (required : List String) (items : YamlItems) :
    Except ConfigurationFailure Unit :=
  match required.filter fun name => (getField items name).isNone with
  | [] => .ok ()
  | missing =>
    .error (.configurationError ("missing " ++ label ++ " fields: " ++
      ", ".intercalate (missing.mergeSort fun a b => a ≤ b)))

/-- `isinstance(value, list) and value`. -/
def nonEmptyList (label : String) (value : Option YamlValue) :
    Except ConfigurationFailure (List YamlValue) :=
  match value with
  | some (.list (x :: xs)) => .ok (x :: xs)
  | _ => .error (.configurationError (label ++ " must be a non-empty list"))

/-- The text that a value is. -/
def YamlValue.text : YamlValue → Option String
  | .str s => some s
  | _ => none

/-- `all(isinstance(channel, str) for channel in channels)`. -/
def channelTexts (label : String) (values : List YamlValue) :
    Except ConfigurationFailure (List String) :=
  match values.mapM YamlValue.text with
  | some channels => .ok channels
  | none => .error (.configurationError (label ++ ".channels must contain strings"))

/-- The members of the enumeration. -/
def TransitionType.all : List TransitionType :=
  [.appeared, .disappeared, .becameAvailable, .becameUnavailable, .availabilityUnknown,
    .initiallyAvailable]

/-- `TransitionType(value)`. -/
def TransitionType.ofValue (value : String) : Option TransitionType :=
  TransitionType.all.find? fun type => type.value = value

/-- The body of the loop over `on`.  A set of transition types is kept in the order of the
enumeration. -/
def addTransition (label : String) (transitions : List TransitionType) (value : YamlValue) :
    Except ConfigurationFailure (List TransitionType) :=
  match value with
  | .str text =>
    match TransitionType.ofValue text with
    | some type => .ok (TransitionType.all.filter fun other => other ∈ transitions ∨ other = type)
    | none =>
      .error (.configurationError
        (label ++ ".on contains unknown transition " ++ pyRepr text))
  | _ => .error (.configurationError (label ++ ".on must contain strings"))

/-- The constructor of `NotificationPlan`, which raises `ValueError`. -/
def NotificationPlan.create (channels : List String) (on : List TransitionType) :
    Except ConfigurationFailure NotificationPlan :=
  if hnodup : channels.Nodup then
    if hne : ∀ c ∈ channels, strip c ≠ "" then .ok ⟨channels, on, hnodup, hne⟩
    else .error (.valueError "notification channels must not be blank")
  else .error (.valueError "notification channels must be unique")

/-- `except ValueError as error: raise ConfigurationError(f"{context}: {error}") from error`. -/
def ConfigurationFailure.handled (context : String) : ConfigurationFailure → ConfigurationFailure
  | valueError message => configurationError (context ++ ": " ++ message)
  | e => e

/-- The keys of a notification plan. -/
def notifyFields : List String := ["channels", "on"]

/-- `_parse_notifications`. -/
def parseNotifications (value : Option YamlValue) (jobLabel : String) :
    Except ConfigurationFailure NotificationPlan :=
  let label := jobLabel ++ ".notify"
  match value with
  | none | some .null => .ok .none
  | some (.mapping items) => do
    refuseUnexpected label notifyFields items
    refuseMissing label notifyFields items
    let values ← nonEmptyList (label ++ ".channels") (getField items "channels")
    let channels ← channelTexts label values
    let values ← nonEmptyList (label ++ ".on") (getField items "on")
    let transitions ← values.foldlM (addTransition label) []
    (NotificationPlan.create channels transitions).mapError
      (ConfigurationFailure.handled ("invalid " ++ label))
  | some _ => .error (.configurationError (label ++ " must be a mapping"))

/-- The keys of a job. -/
def jobFields : List String := ["id", "driver", "config", "enabled", "notify", "schedule"]

/-- The keys that a job must have. -/
def requiredJobFields : List String := ["id", "driver", "config"]

/-- `_parse_job`.  The arguments of the constructor are parsed before it checks any of them. -/
def parseJob (value : YamlValue) (index : ℕ) : Except ConfigurationFailure ConfiguredJob :=
  let label := "jobs[" ++ toString index ++ "]"
  match value with
  | .mapping items => do
    refuseUnexpected label jobFields items
    refuseMissing label requiredJobFields items
    let notifications ← parseNotifications (getField items "notify") label
    let schedule ← parseSchedule ((getField items "schedule").getD .null) label
    ConfiguredJob.create ((getField items "id").getD .null) ((getField items "driver").getD .null)
      ((getField items "config").getD .null) ((getField items "enabled").getD (.bool true))
      notifications schedule
  | _ => .error (.configurationError (label ++ " must be a mapping"))

/-! ## `load_config` -/

/-- The keys of a document. -/
def rootFields : List String := ["jobs"]

/-- The part of `load_config` after the document has been loaded. -/
def loadDocument (document : YamlValue) : Except ConfigurationFailure ApplicationConfig :=
  match document with
  | .mapping items => do
    refuseUnexpected "root" rootFields items
    let values ← nonEmptyList "jobs" (getField items "jobs")
    let jobs ← values.zipIdx.mapM fun entry => parseJob entry.1 entry.2
    ApplicationConfig.create jobs
  | _ => .error (.configurationError "configuration root must be a mapping")

/-- What `read_text` of the file gives: an `OSError`, a `ValueError` such as that of bytes that are
not UTF-8, or the text. -/
inductive FileText where
  | unreadable (error : String)
  | undecodable (error : String)
  | text (s : String)

/-- What `yaml.load` raises: a `YAMLError`, or any other exception, with its name, such as the
`ValueError` of a date that does not exist or the `KeyError` of a tagged scalar. -/
inductive LoaderFailure where
  | yamlError (message : String)
  | other (name message : String)

/-- `load_config`, with what the file contains and with the YAML loader. -/
def loadConfig (path : String) (file : FileText) (load : String → Except LoaderFailure YamlValue) :
    Except ConfigurationFailure ApplicationConfig :=
  match file with
  | .unreadable error =>
    .error (.configurationError ("could not read " ++ path ++ ": " ++ error))
  | .undecodable error => .error (.valueError error)
  | .text s =>
    match load s with
    | .error (.yamlError message) =>
      .error (.configurationError ("invalid YAML in " ++ path ++ ": " ++ message))
    | .error (.other name message) => .error (.other name message)
    | .ok document => loadDocument document

/-! ## What a document says -/

/-- The value is a finite number. -/
inductive IsNumber : YamlValue → ℚ → Prop
  | int (n : ℤ) (h : n.natAbs < floatRange) : IsNumber (.int n) n
  | float (x : ℚ) : IsNumber (.float x) x

/-- The mapping has no other keys. -/
def OnlyKeys (allowed : List String) (items : YamlItems) : Prop :=
  ∀ key ∈ items.map Prod.fst, key ∈ allowed.map YamlKey.str

/-- What a part that may be left out says: a default, or what its mapping describes. -/
inductive Optionally {α : Type} (default : α) (Describes : YamlItems → α → Prop) :
    Option YamlValue → α → Prop
  | absent : Optionally default Describes none default
  | null : Optionally default Describes (some .null) default
  | given {items a} (h : Describes items a) : Optionally default Describes (some (.mapping items)) a

/-- The mapping of a retry policy.  What it leaves out has its default. -/
structure DescribesRetry (items : YamlItems) (retry : RetryPolicy) : Prop where
  keys : OnlyKeys retryFields items
  maxAttempts : (getField items "max_attempts").getD (.int 3) = .int retry.maxAttempts
  initialDelay :
    IsNumber ((getField items "initial_delay_seconds").getD (.float 5)) retry.initialDelaySeconds
  maxDelay :
    IsNumber ((getField items "max_delay_seconds").getD (.float 60)) retry.maxDelaySeconds
  jitter :
    IsNumber ((getField items "jitter_fraction").getD (.float (1 / 5))) retry.jitterFraction

lemma defaultAttempts_ok : 1 ≤ 3 ∧ 3 ≤ 10 := by decide

lemma defaultDelays_ok : (0 : ℚ) ≤ 5 ∧ (0 : ℚ) ≤ 60 ∧ (5 : ℚ) ≤ 60 ∧ (1 < 3 → (5 : ℚ) ≠ 0) := by
  norm_num

lemma defaultJitter_ok : (0 : ℚ) ≤ 1 / 5 ∧ (1 / 5 : ℚ) ≤ 1 := by norm_num

/-- `RetryPolicy()`. -/
def RetryPolicy.default : RetryPolicy where
  maxAttempts_pos := defaultAttempts_ok.1
  maxAttempts_le := defaultAttempts_ok.2
  initialDelay_nonneg := defaultDelays_ok.1
  maxDelay_nonneg := defaultDelays_ok.2.1
  jitter_nonneg := defaultJitter_ok.1
  jitter_le := defaultJitter_ok.2
  initialDelay_le := defaultDelays_ok.2.2.1
  initialDelay_ne := defaultDelays_ok.2.2.2

/-- The mapping of a schedule. -/
structure DescribesSchedule (items : YamlItems) (schedule : ScheduleDefinition) : Prop where
  keys : OnlyKeys scheduleFields items
  interval : ∃ value, getField items "interval_seconds" = some value ∧
    IsNumber value schedule.intervalSeconds
  retry : Optionally RetryPolicy.default DescribesRetry (getField items "retry") schedule.retry

/-- The mapping where a schedule is given. -/
def DescribesSome (items : YamlItems) (given : Option ScheduleDefinition) : Prop :=
  ∃ schedule, given = some schedule ∧ DescribesSchedule items schedule

/-- The mapping of a notification plan. -/
structure DescribesPlan (items : YamlItems) (plan : NotificationPlan) : Prop where
  keys : OnlyKeys notifyFields items
  channels : getField items "channels" = some (.list (plan.channels.map .str))
  channels_ne : plan.channels ≠ []
  on : ∃ types : List TransitionType,
    getField items "on" = some (.list (types.map fun type => .str type.value)) ∧ types ≠ [] ∧
      plan.on = TransitionType.all.filter fun type => type ∈ types

/-- The mapping of a job. -/
structure DescribesJob (items : YamlItems) (job : ConfiguredJob) : Prop where
  keys : OnlyKeys jobFields items
  id : getField items "id" = some (.str job.id)
  driver : ∃ name, getField items "driver" = some (.str name) ∧ strip name = job.driver
  config : ∃ config, getField items "config" = some (.mapping config) ∧
    freezeItems config = job.config
  enabled : (getField items "enabled").getD (.bool true) = .bool job.enabled
  notifications : Optionally .none DescribesPlan (getField items "notify") job.notifications
  schedule : Optionally none DescribesSome (getField items "schedule") job.schedule

/-- An entry of the list of jobs. -/
def DescribesEntry (value : YamlValue) (job : ConfiguredJob) : Prop :=
  ∃ items, value = .mapping items ∧ DescribesJob items job

/-- The document says nothing but the configuration. -/
inductive Describes : YamlValue → ApplicationConfig → Prop
  | root {items values config} (keys : OnlyKeys rootFields items)
      (hjobs : getField items "jobs" = some (.list values)) (ne : config.jobs ≠ [])
      (each : List.Forall₂ DescribesEntry values config.jobs) : Describes (.mapping items) config

/-! ## One check -/

lemma isfinite_eq_ok {value : YamlValue} {x : ℚ} :
    value.isfinite = .ok (some x) ↔ IsNumber value x := by
  constructor
  · intro h
    cases value with
    | int n =>
        by_cases hn : n.natAbs < floatRange
        · rw [isfinite_int hn, Except.ok.injEq, Option.some.injEq] at h
          exact h ▸ .int n hn
        · rw [YamlValue.isfinite, if_neg hn] at h
          cases h
    | float y =>
        rw [YamlValue.isfinite, Except.ok.injEq, Option.some.injEq] at h
        exact h ▸ .float y
    | _ => cases h
  · rintro (⟨n, hn⟩ | x)
    · exact isfinite_int hn
    · rfl

lemma validateFiniteNumber_eq_ok {value : YamlValue} {label : String} {bounds : Bounds}
    {x : {x : ℚ // bounds.Admits x}} :
    validateFiniteNumber value label bounds = .ok x ↔ IsNumber value x.1 := by
  rw [← isfinite_eq_ok]
  constructor
  · intro h
    cases hfinite : value.isfinite with
    | error e => simp [validateFiniteNumber, hfinite] at h
    | ok y =>
        cases y with
        | none => simp [validateFiniteNumber, hfinite] at h
        | some y =>
            rcases validateFiniteNumber_cases hfinite label bounds with
              ⟨hy, hok⟩ | ⟨_, message, herror⟩
            · rw [hok, Except.ok.injEq] at h
              rw [← h]
            · rw [herror] at h
              cases h
  · intro h
    rcases validateFiniteNumber_cases h label bounds with ⟨hx, hok⟩ | ⟨hx, _⟩
    · exact hok
    · exact absurd x.2 hx

lemma validateMaxAttempts_eq_ok {value : YamlValue} {n : {n : ℕ // 1 ≤ n ∧ n ≤ 10}} :
    validateMaxAttempts value = .ok n ↔ value = .int n.1 := by
  constructor
  · intro h
    cases value with
    | int m =>
        rw [validateMaxAttempts] at h
        split at h
        · next hm =>
            rw [Except.ok.injEq] at h
            rw [← h, Int.toNat_of_nonneg (by omega)]
        · cases h
    | _ => cases h
  · rintro rfl
    have hn : 1 ≤ (n.1 : ℤ) ∧ (n.1 : ℤ) ≤ 10 := by exact_mod_cast n.2
    rw [validateMaxAttempts, dif_pos hn]
    rfl

lemma refuseUnexpected_eq_ok {label : String} {allowed : List String} {items : YamlItems} :
    refuseUnexpected label allowed items = .ok () ↔ OnlyKeys allowed items := by
  have hnil : unexpectedKeys allowed items = [] ↔ OnlyKeys allowed items := by
    rw [unexpectedKeys, List.filter_eq_nil_iff]
    simp [OnlyKeys]
  rw [← hnil, refuseUnexpected]
  split
  · next h => simp only [h]
  · next hne =>
    simp only [bind_eq_ok, reduceCtorEq, and_false, exists_false, false_iff]
    exact fun h => hne h

lemma refuseMissing_eq_ok {label : String} {required : List String} {items : YamlItems} :
    refuseMissing label required items = .ok () ↔
      ∀ name ∈ required, ∃ value, getField items name = some value := by
  have hnil : required.filter (fun name => (getField items name).isNone) = [] ↔
      ∀ name ∈ required, ∃ value, getField items name = some value := by
    rw [List.filter_eq_nil_iff]
    simp [Option.eq_none_iff_forall_not_mem]
  rw [← hnil, refuseMissing]
  split
  · next h => simp only [h]
  · next hne =>
    simp only [reduceCtorEq, false_iff]
    exact fun h => hne h

lemma nonEmptyList_eq_ok {label : String} {value : Option YamlValue} {values : List YamlValue} :
    nonEmptyList label value = .ok values ↔ value = some (.list values) ∧ values ≠ [] := by
  unfold nonEmptyList
  split
  · simp only [Except.ok.injEq, Option.some.injEq, YamlValue.list.injEq]
    constructor
    · rintro rfl
      exact ⟨rfl, List.cons_ne_nil _ _⟩
    · exact fun h => h.1
  · next hother =>
    simp only [reduceCtorEq, false_iff]
    rintro ⟨rfl, hne⟩
    obtain ⟨x, xs, rfl⟩ := List.exists_cons_of_ne_nil hne
    exact hother x xs rfl

lemma channelTexts_eq_ok {label : String} {values : List YamlValue} {channels : List String} :
    channelTexts label values = .ok channels ↔ values = channels.map .str := by
  have htexts : values.mapM YamlValue.text = some channels ↔ values = channels.map .str := by
    induction values generalizing channels with
    | nil => simp [eq_comm]
    | cons value values ih =>
        rw [List.mapM_cons]
        cases value with
        | str s =>
            cases channels with
            | nil => simp [YamlValue.text, Option.bind_eq_some_iff]
            | cons c cs =>
                simp only [YamlValue.text, Option.bind_eq_bind, Option.bind_some,
                  Option.bind_eq_some_iff, Option.pure_def, Option.some.injEq, List.cons.injEq, ih,
                  List.map_cons, YamlValue.str.injEq]
                constructor
                · rintro ⟨_, hvalues, rfl, rfl⟩
                  exact ⟨rfl, hvalues⟩
                · rintro ⟨rfl, hvalues⟩
                  exact ⟨cs, hvalues, rfl, rfl⟩
        | _ => cases channels <;> simp [YamlValue.text]
  rw [← htexts, channelTexts]
  split
  · next h => rw [h, Except.ok.injEq, Option.some.injEq]
  · next h => simp [h]

lemma ofValue_eq_some {value : String} {type : TransitionType} :
    TransitionType.ofValue value = some type ↔ type.value = value := by
  constructor
  · intro h
    simpa using List.find?_some h
  · rintro rfl
    cases type <;> decide

lemma addTransition_eq_ok {label : String} {transitions result : List TransitionType}
    {value : YamlValue} :
    addTransition label transitions value = .ok result ↔
      ∃ type : TransitionType, value = .str type.value ∧
        result = TransitionType.all.filter fun other => other ∈ transitions ∨ other = type := by
  cases value with
  | str text =>
      rw [addTransition]
      constructor
      · intro h
        split at h
        · next type htype =>
            rw [Except.ok.injEq] at h
            exact ⟨type, by rw [ofValue_eq_some.mp htype], h.symm⟩
        · cases h
      · rintro ⟨type, htext, rfl⟩
        rw [YamlValue.str.injEq] at htext
        rw [ofValue_eq_some.mpr htext.symm]
  | _ => simp [addTransition]

lemma mem_all (type : TransitionType) : type ∈ TransitionType.all := by
  cases type <;> decide

/-- The loop over `on` adds the transition types that are named. -/
lemma foldlM_addTransition_eq_ok {label : String} {values : List YamlValue}
    {transitions result : List TransitionType}
    (h : TransitionType.all.filter (fun type => type ∈ transitions) = transitions) :
    values.foldlM (addTransition label) transitions = .ok result ↔
      ∃ types : List TransitionType, values = types.map (fun type => .str type.value) ∧
        result = TransitionType.all.filter fun type => type ∈ transitions ∨ type ∈ types := by
  induction values generalizing transitions with
  | nil =>
      rw [List.foldlM_nil, pure_eq_ok, Except.ok.injEq]
      constructor
      · rintro rfl
        exact ⟨[], rfl, by simpa using h.symm⟩
      · rintro ⟨types, htypes, rfl⟩
        obtain rfl : types = [] := by simpa using htypes.symm
        simpa using h.symm
  | cons value values ih =>
      have hadded : ∀ type, (TransitionType.all.filter fun t => t ∈ TransitionType.all.filter
          fun other => other ∈ transitions ∨ other = type) =
            TransitionType.all.filter fun other => other ∈ transitions ∨ other = type := by
        intro type
        refine List.filter_congr fun t ht => ?_
        simp [mem_all]
      simp only [List.foldlM_cons, bind_eq_ok, addTransition_eq_ok]
      constructor
      · rintro ⟨_, ⟨type, rfl, rfl⟩, hrest⟩
        obtain ⟨types, rfl, rfl⟩ := (ih (hadded type)).mp hrest
        refine ⟨type :: types, rfl, List.filter_congr fun t _ => ?_⟩
        simp [mem_all, or_assoc]
      · rintro ⟨types, hvalues, rfl⟩
        obtain ⟨type, types, rfl⟩ : ∃ type rest, types = type :: rest := by
          cases types with
          | nil => cases hvalues
          | cons type rest => exact ⟨type, rest, rfl⟩
        obtain ⟨rfl, rfl⟩ := List.cons.inj hvalues
        refine ⟨_, ⟨type, rfl, rfl⟩, (ih (hadded type)).mpr ⟨types, rfl, ?_⟩⟩
        refine List.filter_congr fun t _ => ?_
        simp [mem_all, or_assoc]

/-! ## The parts -/

lemma mapError_eq_ok {ε δ α : Type} {x : Except ε α} {f : ε → δ} {a : α} :
    x.mapError f = .ok a ↔ x = .ok a := by
  cases x <;> simp [Except.mapError]

lemma createPolicy_eq_ok {maxAttempts initialDelay maxDelay jitter : YamlValue}
    {retry : RetryPolicy} :
    RetryPolicy.create maxAttempts initialDelay maxDelay jitter = .ok retry ↔
      maxAttempts = .int retry.maxAttempts ∧ IsNumber initialDelay retry.initialDelaySeconds ∧
        IsNumber maxDelay retry.maxDelaySeconds ∧ IsNumber jitter retry.jitterFraction := by
  constructor
  · intro h
    simp only [RetryPolicy.create, bind_eq_ok] at h
    obtain ⟨n, hn, initial, hinitial, maximum, hmaximum, fraction, hfraction, h⟩ := h
    split_ifs at h
    cases h
    exact ⟨validateMaxAttempts_eq_ok.mp hn, validateFiniteNumber_eq_ok.mp hinitial,
      validateFiniteNumber_eq_ok.mp hmaximum, validateFiniteNumber_eq_ok.mp hfraction⟩
  · rintro ⟨hattempts, hinitial, hmaximum, hjitter⟩
    have hdelay : ∀ {x : ℚ}, 0 ≤ x → delayBounds.Admits x := fun hx =>
      ⟨by simpa [delayBounds, Bounds.minimumValid] using hx, by simp [delayBounds]⟩
    have hfraction : fractionBounds.Admits retry.jitterFraction :=
      ⟨by simpa [fractionBounds, Bounds.minimumValid] using retry.jitter_nonneg,
        by simpa [fractionBounds] using retry.jitter_le⟩
    have hn : validateMaxAttempts maxAttempts
        = .ok ⟨retry.maxAttempts, retry.maxAttempts_pos, retry.maxAttempts_le⟩ :=
      validateMaxAttempts_eq_ok.mpr hattempts
    have hi : validateFiniteNumber initialDelay "retry initial_delay_seconds" delayBounds
        = .ok ⟨retry.initialDelaySeconds, hdelay retry.initialDelay_nonneg⟩ :=
      validateFiniteNumber_eq_ok.mpr hinitial
    have hm : validateFiniteNumber maxDelay "retry max_delay_seconds" delayBounds
        = .ok ⟨retry.maxDelaySeconds, hdelay retry.maxDelay_nonneg⟩ :=
      validateFiniteNumber_eq_ok.mpr hmaximum
    have hj : validateFiniteNumber jitter "retry jitter_fraction" fractionBounds
        = .ok ⟨retry.jitterFraction, hfraction⟩ := validateFiniteNumber_eq_ok.mpr hjitter
    rw [RetryPolicy.create, hn, ok_bind, hi, ok_bind, hm, ok_bind, hj, ok_bind,
      dif_neg (not_lt.mpr retry.initialDelay_le),
      dif_neg fun hne => retry.initialDelay_ne hne.1 hne.2]

lemma ofKeywords_eq_ok {items : YamlItems} {retry : RetryPolicy} (h : OnlyKeys retryFields items) :
    RetryPolicy.ofKeywords items = .ok retry ↔ DescribesRetry items retry := by
  rw [RetryPolicy.ofKeywords, createPolicy_eq_ok]
  constructor
  · rintro ⟨hattempts, hinitial, hmaximum, hjitter⟩
    exact ⟨h, hattempts, hinitial, hmaximum, hjitter⟩
  · exact fun hd => ⟨hd.maxAttempts, hd.initialDelay, hd.maxDelay, hd.jitter⟩

lemma parseRetry_eq_ok {value : Option YamlValue} {label : String} {retry : RetryPolicy} :
    parseRetry value label = .ok retry ↔
      Optionally RetryPolicy.default DescribesRetry value retry := by
  have hdefault : RetryPolicy.ofKeywords [] = .ok retry ↔ retry = RetryPolicy.default := by
    have hok : RetryPolicy.ofKeywords [] = .ok RetryPolicy.default := by
      refine (ofKeywords_eq_ok (by simp [OnlyKeys])).mpr ⟨by simp [OnlyKeys], rfl, ?_, ?_, ?_⟩
      · exact .float 5
      · exact .float 60
      · exact .float (1 / 5)
    rw [hok, Except.ok.injEq, eq_comm]
  constructor
  · intro h
    unfold parseRetry at h
    split at h
    · exact hdefault.mp h ▸ .absent
    · exact hdefault.mp h ▸ .null
    · obtain ⟨_, hkeys, h⟩ := bind_eq_ok.mp h
      exact .given ((ofKeywords_eq_ok (refuseUnexpected_eq_ok.mp hkeys)).mp h)
    · cases h
  · rintro (_ | _ | hd)
    · exact hdefault.mpr rfl
    · exact hdefault.mpr rfl
    · rw [parseRetry, refuseUnexpected_eq_ok.mpr hd.keys, ok_bind]
      exact (ofKeywords_eq_ok hd.keys).mpr hd

lemma createSchedule_eq_ok {interval : YamlValue} {retry : RetryPolicy}
    {schedule : ScheduleDefinition} :
    ScheduleDefinition.create interval retry = .ok schedule ↔
      IsNumber interval schedule.intervalSeconds ∧ retry = schedule.retry := by
  rw [ScheduleDefinition.create, map_eq_ok]
  constructor
  · rintro ⟨x, hx, rfl⟩
    exact ⟨validateFiniteNumber_eq_ok.mp hx, rfl⟩
  · rintro ⟨hnumber, rfl⟩
    have hinterval : intervalBounds.Admits schedule.intervalSeconds :=
      ⟨by simpa [intervalBounds, Bounds.minimumValid] using schedule.interval_pos,
        by simp [intervalBounds]⟩
    exact ⟨⟨_, hinterval⟩, validateFiniteNumber_eq_ok.mpr hnumber, rfl⟩

lemma parseSchedule_eq_ok {value : Option YamlValue} {label : String}
    {given : Option ScheduleDefinition} :
    parseSchedule (value.getD .null) label = .ok given ↔
      Optionally none DescribesSome value given := by
  constructor
  · intro h
    unfold parseSchedule at h
    split at h
    · next hnull =>
        cases h
        cases value with
        | none => exact .absent
        | some v =>
            obtain rfl : v = .null := hnull
            exact .null
    · next items hitems =>
        obtain rfl : value = some (.mapping items) := by
          cases value with
          | none => cases hitems
          | some v => exact congrArg some hitems
        obtain ⟨_, hkeys, h⟩ := bind_eq_ok.mp h
        split at h
        · cases h
        · next interval hinterval =>
            simp only [bind_eq_ok, mapError_eq_ok, createSchedule_eq_ok, Except.ok.injEq] at h
            obtain ⟨retry, hretry, schedule, ⟨hnumber, rfl⟩, rfl⟩ := h
            exact .given ⟨schedule, rfl, refuseUnexpected_eq_ok.mp hkeys,
              ⟨interval, hinterval, hnumber⟩, parseRetry_eq_ok.mp hretry⟩
    · cases h
  · rintro (_ | _ | ⟨schedule, rfl, hd⟩)
    · rfl
    · rfl
    · obtain ⟨interval, hinterval, hnumber⟩ := hd.interval
      have hcreate : ScheduleDefinition.create interval schedule.retry = .ok schedule :=
        createSchedule_eq_ok.mpr ⟨hnumber, rfl⟩
      rw [Option.getD_some, parseSchedule, refuseUnexpected_eq_ok.mpr hd.keys, ok_bind, hinterval]
      dsimp only
      rw [parseRetry_eq_ok.mpr hd.retry, ok_bind, mapError_eq_ok.mpr hcreate, ok_bind]

lemma createPlan_eq_ok {channels : List String} {on : List TransitionType}
    {plan : NotificationPlan} :
    NotificationPlan.create channels on = .ok plan ↔ plan.channels = channels ∧ plan.on = on := by
  constructor
  · intro h
    rw [NotificationPlan.create] at h
    split_ifs at h
    cases h
    exact ⟨rfl, rfl⟩
  · rintro ⟨rfl, rfl⟩
    rw [NotificationPlan.create, dif_pos plan.channels_nodup, dif_pos plan.channels_ne]

lemma parseNotifications_eq_ok {value : Option YamlValue} {label : String}
    {plan : NotificationPlan} :
    parseNotifications value label = .ok plan ↔ Optionally .none DescribesPlan value plan := by
  constructor
  · intro h
    unfold parseNotifications at h
    split at h
    · cases h
      exact .absent
    · cases h
      exact .null
    · next items =>
        simp only [bind_eq_ok, nonEmptyList_eq_ok, channelTexts_eq_ok, mapError_eq_ok,
          createPlan_eq_ok] at h
        obtain ⟨_, hkeys, _, _, values, ⟨hchannels, hne⟩, channels, rfl, ons, ⟨hon, hons⟩,
          transitions, hloop, rfl, rfl⟩ := h
        obtain ⟨types, rfl, htypes⟩ := (foldlM_addTransition_eq_ok rfl).mp hloop
        refine .given ⟨refuseUnexpected_eq_ok.mp hkeys, hchannels, ?_, types, hon, ?_, ?_⟩
        · simpa using hne
        · simpa using hons
        · simpa using htypes
    · cases h
  · rintro (_ | _ | hd)
    · rfl
    · rfl
    · next items =>
      obtain ⟨types, hon, hne, htypes⟩ := hd.on
      have hpresent : ∀ name ∈ notifyFields, ∃ value, getField items name = some value := by
        simp [notifyFields, hd.channels, hon]
      have hvalues : nonEmptyList (label ++ ".notify" ++ ".channels") (getField items "channels")
          = .ok (plan.channels.map .str) :=
        nonEmptyList_eq_ok.mpr ⟨hd.channels, by simpa using hd.channels_ne⟩
      have hons : nonEmptyList (label ++ ".notify" ++ ".on") (getField items "on")
          = .ok (types.map fun type => .str type.value) :=
        nonEmptyList_eq_ok.mpr ⟨hon, by simpa using hne⟩
      have hloop : (types.map fun type => YamlValue.str type.value).foldlM
          (addTransition (label ++ ".notify")) [] = .ok plan.on :=
        (foldlM_addTransition_eq_ok rfl).mpr ⟨types, rfl, by simpa using htypes⟩
      have hcreate : NotificationPlan.create plan.channels plan.on = .ok plan :=
        createPlan_eq_ok.mpr ⟨rfl, rfl⟩
      rw [parseNotifications, refuseUnexpected_eq_ok.mpr hd.keys, ok_bind,
        refuseMissing_eq_ok.mpr hpresent, ok_bind, hvalues, ok_bind, channelTexts_eq_ok.mpr rfl,
        ok_bind, hons, ok_bind, hloop, ok_bind]
      exact mapError_eq_ok.mpr hcreate

lemma validateId_eq_ok {value : YamlValue} {id : {s : String // isJobId s = true}} :
    validateId value = .ok id ↔ value = .str id.1 := by
  constructor
  · intro h
    cases value with
    | str s =>
        rw [validateId] at h
        split_ifs at h
        cases h
        rfl
    | _ => cases h
  · rintro rfl
    rw [validateId, dif_pos id.2]

lemma validateDriver_eq_ok {id : String} {value : YamlValue}
    {name : {s : String // strip s = s ∧ s ≠ ""}} :
    validateDriver id value = .ok name ↔ ∃ s, value = .str s ∧ strip s = name.1 := by
  constructor
  · intro h
    cases value with
    | str s =>
        rw [validateDriver] at h
        split_ifs at h
        cases h
        exact ⟨s, rfl, rfl⟩
    | _ => cases h
  · rintro ⟨s, rfl, hs⟩
    have hne : strip s ≠ "" := hs ▸ name.2.2
    rw [validateDriver, dif_neg hne]
    exact congrArg Except.ok (Subtype.ext hs)

lemma createJob_eq_ok {id driver config enabled : YamlValue} {plan : NotificationPlan}
    {schedule : Option ScheduleDefinition} {job : ConfiguredJob} :
    ConfiguredJob.create id driver config enabled plan schedule = .ok job ↔
      id = .str job.id ∧ (∃ name, driver = .str name ∧ strip name = job.driver) ∧
        (∃ items, config = .mapping items ∧ freezeItems items = job.config) ∧
        enabled = .bool job.enabled ∧ plan = job.notifications ∧ schedule = job.schedule := by
  constructor
  · intro h
    simp only [ConfiguredJob.create, bind_eq_ok] at h
    obtain ⟨jobId, hid, name, hdriver, flag, henabled, items, hconfig, h⟩ := h
    cases h
    refine ⟨validateId_eq_ok.mp hid, validateDriver_eq_ok.mp hdriver, ?_, ?_, rfl, rfl⟩
    · cases config with
      | mapping given =>
          cases hconfig
          exact ⟨given, rfl, rfl⟩
      | _ => cases hconfig
    · cases enabled with
      | bool b =>
          cases henabled
          rfl
      | _ => cases henabled
  · rintro ⟨rfl, hdriver, ⟨items, rfl, hitems⟩, rfl, rfl, rfl⟩
    have hid : validateId (.str job.id) = .ok ⟨job.id, job.id_ok⟩ := validateId_eq_ok.mpr rfl
    have hname : validateDriver job.id driver
        = .ok ⟨job.driver, job.driver_strip, job.driver_ne⟩ := validateDriver_eq_ok.mpr hdriver
    rw [ConfiguredJob.create, hid, ok_bind, hname, ok_bind, validateEnabled, ok_bind,
      validateConfig, ok_bind, hitems]

/-- **A job is parsed** exactly if it is described. -/
lemma parseJob_eq_ok {value : YamlValue} {index : ℕ} {job : ConfiguredJob} :
    parseJob value index = .ok job ↔ DescribesEntry value job := by
  constructor
  · intro h
    unfold parseJob at h
    split at h
    · next items =>
        simp only [bind_eq_ok, parseNotifications_eq_ok, parseSchedule_eq_ok,
          createJob_eq_ok] at h
        obtain ⟨_, hkeys, _, hmissing, plan, hplan, schedule, hschedule, hid,
          ⟨name, hname, hstrip⟩, ⟨config, hconfig, hfreeze⟩, henabled, rfl, rfl⟩ := h
        have hpresent : ∀ key ∈ requiredJobFields, ∀ value,
            (getField items key).getD .null = value → getField items key = some value := by
          rintro key hkey value rfl
          obtain ⟨value, hvalue⟩ := refuseMissing_eq_ok.mp hmissing key hkey
          rw [hvalue, Option.getD_some]
        refine ⟨items, rfl, refuseUnexpected_eq_ok.mp hkeys, hpresent _ (by decide) _ hid,
          ⟨name, hpresent _ (by decide) _ hname, hstrip⟩,
          ⟨config, hpresent _ (by decide) _ hconfig, hfreeze⟩, henabled, hplan, hschedule⟩
    · cases h
  · rintro ⟨items, rfl, hd⟩
    obtain ⟨name, hname, hstrip⟩ := hd.driver
    obtain ⟨config, hconfig, hfreeze⟩ := hd.config
    have hpresent : ∀ name ∈ requiredJobFields, ∃ value, getField items name = some value := by
      simp [requiredJobFields, hd.id, hname, hconfig]
    rw [parseJob, refuseUnexpected_eq_ok.mpr hd.keys, ok_bind, refuseMissing_eq_ok.mpr hpresent,
      ok_bind, parseNotifications_eq_ok.mpr hd.notifications, ok_bind,
      parseSchedule_eq_ok.mpr hd.schedule, ok_bind, hd.id, hname, hconfig]
    exact createJob_eq_ok.mpr
      ⟨rfl, ⟨name, rfl, hstrip⟩, ⟨config, rfl, hfreeze⟩, hd.enabled, rfl, rfl⟩

/-! ## The document -/

lemma parseJobs_eq_ok {values : List YamlValue} {jobs : List ConfiguredJob} :
    (values.zipIdx.mapM fun entry => parseJob entry.1 entry.2) = .ok jobs ↔
      List.Forall₂ DescribesEntry values jobs := by
  rw [mapM_eq_ok_iff]
  simp only [parseJob_eq_ok]
  rw [← List.forall₂_map_left_iff (R := DescribesEntry) (f := Prod.fst), List.zipIdx_map_fst]

lemma createConfig_eq_ok {jobs : List ConfiguredJob} {config : ApplicationConfig} :
    ApplicationConfig.create jobs = .ok config ↔ config.jobs = jobs := by
  constructor
  · intro h
    rw [ApplicationConfig.create] at h
    split_ifs at h
    cases h
    rfl
  · rintro rfl
    rw [ApplicationConfig.create, dif_pos (duplicates_eq_nil.mpr config.ids_nodup)]

lemma loadDocument_eq_ok {document : YamlValue} {config : ApplicationConfig} :
    loadDocument document = .ok config ↔ Describes document config := by
  constructor
  · intro h
    unfold loadDocument at h
    split at h
    · next items =>
        simp only [bind_eq_ok, nonEmptyList_eq_ok, parseJobs_eq_ok, createConfig_eq_ok] at h
        obtain ⟨_, hkeys, values, ⟨hjobs, hne⟩, jobs, heach, rfl⟩ := h
        refine .root (refuseUnexpected_eq_ok.mp hkeys) hjobs ?_ heach
        intro hempty
        rw [hempty, List.forall₂_nil_right_iff] at heach
        exact hne heach
    · cases h
  · intro hd
    obtain ⟨hkeys, hjobs, hne, heach⟩ := hd
    next items values =>
    have hlist : nonEmptyList "jobs" (getField items "jobs") = .ok values := by
      refine nonEmptyList_eq_ok.mpr ⟨hjobs, fun hempty => hne ?_⟩
      rwa [hempty, List.forall₂_nil_left_iff] at heach
    rw [loadDocument, refuseUnexpected_eq_ok.mpr hkeys, ok_bind, hlist, ok_bind,
      parseJobs_eq_ok.mpr heach, ok_bind]
    exact createConfig_eq_ok.mpr rfl

/-- **A configuration is loaded** exactly if the file is a text that the loader reads as a document
describing it. -/
theorem loadConfig_describes (path : String) (file : FileText)
    (load : String → Except LoaderFailure YamlValue) (config : ApplicationConfig) :
    loadConfig path file load = .ok config ↔
      ∃ text document, file = .text text ∧ load text = .ok document ∧
        Describes document config := by
  constructor
  · intro h
    unfold loadConfig at h
    split at h
    · cases h
    · cases h
    · next text =>
        split at h
        · cases h
        · cases h
        · next document hload =>
            exact ⟨text, document, rfl, hload, loadDocument_eq_ok.mp h⟩
  · rintro ⟨text, document, rfl, hload, hd⟩
    rw [loadConfig, hload]
    exact loadDocument_eq_ok.mpr hd

/-! ## What is not handled -/

/-- An unexpected key that the report cannot name. -/
def UnprintableKey (allowed : List String) (items : YamlItems) : Prop :=
  ∃ key ∈ items.map Prod.fst, key ∉ allowed.map YamlKey.str ∧ key.printable = false

/-- The keys of a job are those that it may have and must have. -/
def JobKeys (items : YamlItems) : Prop :=
  OnlyKeys jobFields items ∧ ∀ name ∈ requiredJobFields, ∃ value, getField items name = some value

/-- The first thing that is wrong with a job is a report that cannot be written, or a number that no
float can hold. -/
inductive JobEscapes (items : YamlItems) : Prop
  | keys (h : UnprintableKey jobFields items)
  | notify {plan} (keys : JobKeys items) (hnotify : getField items "notify" = some (.mapping plan))
      (h : UnprintableKey notifyFields plan)
  | schedule {plan} (keys : JobKeys items)
      (hplan : Optionally .none DescribesPlan (getField items "notify") plan)
      (h : Verdict.first (scheduleDemands ((getField items "schedule").getD .null)) = .escapes)

/-- The same of a document. -/
inductive DocumentEscapes : YamlValue → Prop
  | keys {items} (h : UnprintableKey rootFields items) : DocumentEscapes (.mapping items)
  | job {items before job after} (keys : OnlyKeys rootFields items)
      (hjobs : getField items "jobs" = some (.list (before ++ .mapping job :: after)))
      (hbefore : ∀ value ∈ before, ∃ job, DescribesEntry value job) (h : JobEscapes job) :
      DocumentEscapes (.mapping items)

/-- What a caller of `load_config` handles. -/
abbrev RaisesConfigurationError {α : Type} (x : Except ConfigurationFailure α) : Prop :=
  Raises (fun e => e.isConfigurationError = true) x

lemma refuseUnexpected_escapes {label : String} {allowed : List String} {items : YamlItems} :
    configurationVerdict (refuseUnexpected label allowed items) = .escapes ↔
      UnprintableKey allowed items := by
  have hsome : UnprintableKey allowed items ↔
      ∃ key ∈ unexpectedKeys allowed items, key.printable = false := by
    simp only [UnprintableKey, unexpectedKeys, List.mem_filter, decide_eq_true_eq, and_assoc]
  rw [verdict_refuseUnexpected, keysVerdict, hsome]
  split
  · next h => simp [h]
  · rw [ite_eq_right_iff]
    simp

lemma raises_refuseMissing (label : String) (required : List String) (items : YamlItems) :
    RaisesConfigurationError (refuseMissing label required items) := by
  unfold refuseMissing
  split <;> simp [ConfigurationFailure.isConfigurationError]

lemma raises_nonEmptyList (label : String) (value : Option YamlValue) :
    RaisesConfigurationError (nonEmptyList label value) := by
  unfold nonEmptyList
  split <;> simp [ConfigurationFailure.isConfigurationError]

lemma raises_channelTexts (label : String) (values : List YamlValue) :
    RaisesConfigurationError (channelTexts label values) := by
  unfold channelTexts
  split <;> simp [ConfigurationFailure.isConfigurationError]

lemma raises_addTransition (label : String) (transitions : List TransitionType)
    (value : YamlValue) : RaisesConfigurationError (addTransition label transitions value) := by
  unfold addTransition
  split
  · split <;> simp [ConfigurationFailure.isConfigurationError]
  · simp [ConfigurationFailure.isConfigurationError]

lemma raises_createPlan (channels : List String) (on : List TransitionType) (context : String) :
    RaisesConfigurationError
      ((NotificationPlan.create channels on).mapError (ConfigurationFailure.handled context)) := by
  rw [NotificationPlan.create]
  split_ifs <;> simp [Except.mapError, ConfigurationFailure.handled,
    ConfigurationFailure.isConfigurationError]

lemma raises_createJob (id driver config enabled : YamlValue) (plan : NotificationPlan)
    (schedule : Option ScheduleDefinition) :
    RaisesConfigurationError (ConfiguredJob.create id driver config enabled plan schedule) := by
  have hid : ∀ value, RaisesConfigurationError (validateId value) := by
    intro value
    unfold validateId
    split
    · split_ifs <;> simp [ConfigurationFailure.isConfigurationError]
    · simp [ConfigurationFailure.isConfigurationError]
  have hdriver : ∀ jobId value, RaisesConfigurationError (validateDriver jobId value) := by
    intro jobId value
    unfold validateDriver
    split
    · split_ifs <;> simp [ConfigurationFailure.isConfigurationError]
    · simp [ConfigurationFailure.isConfigurationError]
  have henabled : ∀ jobId value, RaisesConfigurationError (validateEnabled jobId value) := by
    intro jobId value
    unfold validateEnabled
    split <;> simp [ConfigurationFailure.isConfigurationError]
  have hconfig : ∀ jobId value, RaisesConfigurationError (validateConfig jobId value) := by
    intro jobId value
    unfold validateConfig
    split <;> simp [ConfigurationFailure.isConfigurationError]
  simp [ConfiguredJob.create, hid, hdriver, henabled, hconfig]

/-- **A notification plan escapes** only in the report of unexpected fields. -/
lemma parseNotifications_escapes {value : Option YamlValue} {label : String} :
    configurationVerdict (parseNotifications value label) = .escapes ↔
      ∃ items, value = some (.mapping items) ∧ UnprintableKey notifyFields items := by
  unfold parseNotifications
  split
  · simp
  · simp
  · next items =>
    rw [Verdict.ofExcept_bind_eq_escapes, refuseUnexpected_escapes]
    · simp
    · refine fun _ => Verdict.ofExcept_ne_escapes_of_raises ?_
      simp only [raises_bind]
      exact ⟨raises_refuseMissing _ _ _, fun _ _ => ⟨raises_nonEmptyList _ _, fun _ _ =>
        ⟨raises_channelTexts _ _, fun _ _ => ⟨raises_nonEmptyList _ _, fun _ _ =>
          ⟨Raises.foldlM (fun _ _ => raises_addTransition _ _ _) _, fun _ _ =>
            raises_createPlan _ _ _⟩⟩⟩⟩⟩
  · next hmapping =>
    simp only [Verdict.ofExcept_error, ConfigurationFailure.isConfigurationError, ite_true,
      reduceCtorEq, false_iff]
    rintro ⟨items, hvalue, _⟩
    exact hmapping items (Option.some.inj hvalue)

lemma parseJob_escapes {value : YamlValue} {index : ℕ} :
    configurationVerdict (parseJob value index) = .escapes ↔
      ∃ items, value = .mapping items ∧ JobEscapes items := by
  unfold parseJob
  split
  · next items =>
    have hmissing : ∀ label, configurationVerdict (refuseMissing label requiredJobFields items)
        ≠ .escapes := fun label =>
      Verdict.ofExcept_ne_escapes_of_raises (raises_refuseMissing _ _ _)
    have hcreate : ∀ id driver config enabled plan schedule, configurationVerdict
        (ConfiguredJob.create id driver config enabled plan schedule) ≠ .escapes :=
      fun _ _ _ _ _ _ => Verdict.ofExcept_ne_escapes_of_raises (raises_createJob _ _ _ _ _ _)
    simp only [Verdict.ofExcept_bind_escapes, hmissing, hcreate, refuseUnexpected_escapes,
      parseNotifications_escapes, verdict_parseSchedule, parseNotifications_eq_ok, false_or,
      and_false, exists_false, or_false]
    constructor
    · rintro (h | ⟨_, hkeys, _, hrequired, h⟩)
      · exact ⟨items, rfl, .keys h⟩
      · have hkeys : JobKeys items :=
          ⟨refuseUnexpected_eq_ok.mp hkeys, refuseMissing_eq_ok.mp hrequired⟩
        rcases h with ⟨notify, hnotify, h⟩ | ⟨plan, hplan, h⟩
        · exact ⟨items, rfl, .notify hkeys hnotify h⟩
        · exact ⟨items, rfl, .schedule hkeys hplan h⟩
    · rintro ⟨_, hitems, h⟩
      cases hitems
      cases h with
      | keys h => exact Or.inl h
      | notify keys hnotify h =>
          exact Or.inr ⟨(), refuseUnexpected_eq_ok.mpr keys.1, (), refuseMissing_eq_ok.mpr keys.2,
            Or.inl ⟨_, hnotify, h⟩⟩
      | schedule keys hplan h =>
          exact Or.inr ⟨(), refuseUnexpected_eq_ok.mpr keys.1, (), refuseMissing_eq_ok.mpr keys.2,
            Or.inr ⟨_, hplan, h⟩⟩
  · next hmapping =>
    simp only [Verdict.ofExcept_error, ConfigurationFailure.isConfigurationError, ite_true,
      reduceCtorEq, false_iff]
    rintro ⟨items, hvalue, _⟩
    exact hmapping items hvalue

/-- The jobs before the one that escapes have been parsed. -/
lemma parseJobs_escapes {values : List YamlValue} :
    configurationVerdict (values.zipIdx.mapM fun entry => parseJob entry.1 entry.2) = .escapes ↔
      ∃ before job after, values = before ++ .mapping job :: after ∧
        (∀ value ∈ before, ∃ job, DescribesEntry value job) ∧ JobEscapes job := by
  simp only [Verdict.ofExcept_mapM_escapes, parseJob_escapes, parseJob_eq_ok]
  constructor
  · rintro ⟨before, entry, after, hvalues, hbefore, job, hjob, h⟩
    refine ⟨before.map Prod.fst, job, after.map Prod.fst, ?_, ?_, h⟩
    · rw [← List.zipIdx_map_fst 0 values, hvalues, List.map_append, List.map_cons, hjob]
    · exact List.forall_mem_map.mpr hbefore
  · rintro ⟨before, job, after, rfl, hbefore, h⟩
    refine ⟨before.zipIdx, (.mapping job, before.length), after.zipIdx (before.length + 1), ?_, ?_,
      job, rfl, h⟩
    · rw [List.zipIdx_append, List.zipIdx_cons, Nat.zero_add]
    · intro entry hentry
      exact hbefore entry.1 (List.fst_mem_of_mem_zipIdx hentry)

lemma loadDocument_escapes {document : YamlValue} :
    configurationVerdict (loadDocument document) = .escapes ↔ DocumentEscapes document := by
  unfold loadDocument
  split
  · next items =>
    have hlist : configurationVerdict (nonEmptyList "jobs" (getField items "jobs")) ≠ .escapes :=
      Verdict.ofExcept_ne_escapes_of_raises (raises_nonEmptyList _ _)
    have hcreate : ∀ jobs, configurationVerdict (ApplicationConfig.create jobs) ≠ .escapes := by
      intro jobs
      rw [ApplicationConfig.create]
      split_ifs <;> simp [ConfigurationFailure.isConfigurationError]
    simp only [Verdict.ofExcept_bind_escapes, hlist, hcreate, refuseUnexpected_escapes,
      parseJobs_escapes, nonEmptyList_eq_ok, false_or, and_false, exists_false, or_false]
    constructor
    · rintro (h | ⟨_, hkeys, values, ⟨hjobs, _⟩, before, job, after, rfl, hbefore, h⟩)
      · exact .keys h
      · exact .job (refuseUnexpected_eq_ok.mp hkeys) hjobs hbefore h
    · rintro (h | ⟨hkeys, hjobs, hbefore, h⟩)
      · exact Or.inl h
      · exact Or.inr ⟨(), refuseUnexpected_eq_ok.mpr hkeys, _, ⟨hjobs, by simp⟩, _, _, _, rfl,
          hbefore, h⟩
  · next hmapping =>
    simp only [Verdict.ofExcept_error, ConfigurationFailure.isConfigurationError, ite_true,
      reduceCtorEq, false_iff]
    rintro (h | h)
    · exact hmapping _ rfl
    · exact hmapping _ rfl

/-- **Loading escapes its callers** exactly if the file is not UTF-8, the loader raises something
else than a `YAMLError`, or the first thing that is wrong with the document has no report. -/
theorem loadConfig_escapes (path : String) (file : FileText)
    (load : String → Except LoaderFailure YamlValue) :
    configurationVerdict (loadConfig path file load) = .escapes ↔
      (∃ error, file = .undecodable error) ∨
        ∃ text, file = .text text ∧ ((∃ name message, load text = .error (.other name message)) ∨
          ∃ document, load text = .ok document ∧ DocumentEscapes document) := by
  cases file with
  | unreadable error => simp [loadConfig, ConfigurationFailure.isConfigurationError]
  | undecodable error => simp [loadConfig, ConfigurationFailure.isConfigurationError]
  | text text =>
      cases hload : load text with
      | ok document => simp [loadConfig, hload, loadDocument_escapes]
      | error e =>
          cases e <;> simp [loadConfig, hload, ConfigurationFailure.isConfigurationError]

end WebChecker
