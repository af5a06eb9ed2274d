import WebChecker.Cli
import WebChecker.ConfigParsing
import WebChecker.Core.Announcements

/-!
# Starting a worker

`web-checker worker` loads the configuration, asks every driver about the configuration of its jobs,
looks every channel up, wants a schedule for every enabled job, reads the settings of operational
alerts, and then runs a scheduler.  All this is checked once, before the first check; what it is for
is that nothing of it has to be checked afterwards.

* `Deliverable` — every row of both outboxes is for a channel that the worker has an adapter for.
* `worker_sendable` — so it is, throughout every life of a worker that has been started: no
  notification and no alert is ever refused for its channel.
-/

namespace WebChecker

open Relational Results Runs Dispatch

/-! ## Drivers -/

/-- What a command fails with: an error that `main` prints, or another exception. -/
inductive CommandFailure where
  | configurationError (message : String)
  | driverError (message : String)
  | notifierRegistryError (message : String)
  | storageError (message : String)
  | uncaught (error : RaisedException)
deriving DecidableEq, Repr

/-- What `load_config` raises. -/
def CommandFailure.ofConfiguration : ConfigurationFailure → CommandFailure
  | .configurationError message => .configurationError message
  | .overflowError message => .uncaught ⟨"OverflowError", message⟩
  | .valueError message => .uncaught ⟨"ValueError", message⟩
  | .other name message => .uncaught ⟨name, message⟩

/-- What the settings of the worker are refused with. -/
def CommandFailure.ofWorker : WorkerError → CommandFailure
  | .configurationError message => .configurationError message
  | .unknownNotifierError message => .notifierRegistryError message

/-- A driver, as far as the configuration of its jobs is concerned. -/
structure Driver where
  name : String
  validateConfig : FrozenItems → Except CommandFailure Unit

/-- Stores drivers by their names: names are stripped, not blank and distinct. -/
structure DriverRegistry where
  drivers : List (String × Driver)
  names_nodup : (drivers.map Prod.fst).Nodup
  names_strip : ∀ d ∈ drivers, strip d.1 = d.1 ∧ d.1 ≠ ""

namespace DriverRegistry

/-- `names`. -/
def names (registry : DriverRegistry) : List String :=
  (registry.drivers.map Prod.fst).insertionSort (· ≤ ·)

/-- `get`. -/
def get (registry : DriverRegistry) (name : String) : Except CommandFailure Driver :=
  match registry.drivers.lookup name with
  | some driver => .ok driver
  | none =>
    let available := if registry.names = [] then "none" else ", ".intercalate registry.names
    .error (.driverError
      ("Unknown driver " ++ pyRepr name ++ "; registered drivers: " ++ available))

end DriverRegistry

/-! ## The checks before the first check -/

/-- `_validate_integrations`. -/
def validateIntegrations (drivers : DriverRegistry) (notifiers : NotifierRegistry) :
    List ConfiguredJob → Except CommandFailure Unit
  | [] => .ok ()
  | job :: jobs => do
    let driver ← drivers.get job.driver
    driver.validateConfig job.config
    let channels := if job.enabled then job.notifications.channels else []
    (lookUpAll notifiers channels).mapError CommandFailure.ofWorker
    validateIntegrations drivers notifiers jobs

/-- `_validate_worker_schedules`. -/
def validateWorkerSchedules (config : ApplicationConfig) : Except CommandFailure Unit :=
  let enabledJobs := config.jobs.filter fun job => job.enabled
  if enabledJobs = [] then
    .error (.configurationError "worker requires at least one enabled job")
  else
    let missing := (enabledJobs.filter fun job => job.schedule.isNone).map fun job => job.id
    if missing = [] then .ok ()
    else
      .error (.configurationError
        ("enabled worker jobs require a schedule: " ++ ", ".intercalate missing))

/-- The command `validate-config`, with what it prints. -/
def validateConfigCommand (drivers : DriverRegistry) (notifiers : NotifierRegistry)
    (loaded : Except ConfigurationFailure ApplicationConfig) : Except CommandFailure String := do
  let config ← loaded.mapError CommandFailure.ofConfiguration
  validateIntegrations drivers notifiers config.jobs
  .ok ("Configuration valid: " ++ toString config.jobs.length ++ " job(s)")

/-- The command `worker`, up to the scheduler that it runs over its store. -/
def startWorker (drivers : DriverRegistry) (notifiers : NotifierRegistry)
    (environment : WorkerEnvironment) (loaded : Except ConfigurationFailure ApplicationConfig) :
    Except CommandFailure Scheduler := do
  let config ← loaded.mapError CommandFailure.ofConfiguration
  validateIntegrations drivers notifiers config.jobs
  validateWorkerSchedules config
  let settings ← (workerSettings notifiers environment).mapError CommandFailure.ofWorker
  .ok (Scheduler.create (config.jobs.map ConfiguredJob.toJobDefinition) notifiers (some notifiers)
    settings.failureAlertAfter settings.operationalChannels)

section Checks

variable {drivers : DriverRegistry} {notifiers : NotifierRegistry}
  {environment : WorkerEnvironment} {loaded : Except ConfigurationFailure ApplicationConfig}
  {scheduler : Scheduler}

/-- **A worker that starts** has a configuration that `validate-config` accepts. -/
lemma exists_validateConfigCommand
    (h : startWorker drivers notifiers environment loaded = .ok scheduler) :
    ∃ line, validateConfigCommand drivers notifiers loaded = .ok line := by
  simp only [startWorker, bind_eq_ok] at h
  obtain ⟨config, hconfig, _, hintegrations, -⟩ := h
  simp only [validateConfigCommand, hconfig, hintegrations, ok_bind]
  exact ⟨_, rfl⟩

/-- The channels of enabled jobs are registered. -/
lemma registered_of_validateIntegrations {jobs : List ConfiguredJob}
    (h : validateIntegrations drivers notifiers jobs = .ok ()) :
    ∀ job ∈ jobs, job.enabled = true →
      ∀ channel ∈ job.notifications.channels, channel ∈ notifiers.channels := by
  induction jobs with
  | nil => simp
  | cons job jobs ih =>
      simp only [validateIntegrations, bind_eq_ok] at h
      obtain ⟨driver, hdriver, _, hvalid, _, hlookup, hrest⟩ := h
      rw [List.forall_mem_cons]
      refine ⟨fun henabled => ?_, ih hrest⟩
      rw [mapError_eq_ok, if_pos henabled] at hlookup
      exact lookUpAll_eq_ok.mp hlookup

/-- An enabled job has a schedule. -/
lemma scheduled_of_validateWorkerSchedules {config : ApplicationConfig}
    (h : validateWorkerSchedules config = .ok ()) :
    (∃ job ∈ config.jobs, job.enabled = true) ∧
      ∀ job ∈ config.jobs, job.enabled = true → job.schedule.isSome = true := by
  simp only [validateWorkerSchedules] at h
  split_ifs at h with hempty hmissing
  constructor
  · obtain ⟨job, hjob⟩ := List.exists_mem_of_ne_nil _ hempty
    exact ⟨job, by simpa using List.mem_filter.mp hjob⟩
  · intro job hjob henabled
    rw [List.map_eq_nil_iff, List.filter_eq_nil_iff] at hmissing
    have hnot := hmissing job (List.mem_filter.mpr ⟨hjob, henabled⟩)
    rwa [Option.isNone_iff_eq_none, ← ne_eq, Option.ne_none_iff_isSome] at hnot

/-- What has been checked when the scheduler runs. -/
structure Started (notifiers : NotifierRegistry) (config : ApplicationConfig)
    (scheduler : Scheduler) : Prop where
  jobs : scheduler.jobs.map ScheduledJob.toJobDefinition
    = (config.jobs.filter fun job => job.enabled).map ConfiguredJob.toJobDefinition
  jobs_ne : scheduler.jobs ≠ []
  ids_nodup : (scheduler.jobs.map fun job => job.id).Nodup
  notifiers_eq : scheduler.notifiers = notifiers
  alerts_eq : scheduler.operationalAlerts = some notifiers
  plans : ∀ job ∈ scheduler.jobs, ∀ c ∈ job.notifications.channels, c ∈ notifiers.channels
  channels : ∀ c ∈ scheduler.operationalChannels, c ∈ notifiers.channels
  channels_ne : scheduler.operationalChannels ≠ []
  alertAfter_pos : 1 ≤ scheduler.failureAlertAfter

/-- The scheduler keeps an enabled job that has a schedule, and no other. -/
lemma scheduled_eq {job : JobDefinition} (h : job.enabled = true → job.schedule.isSome = true) :
    job.scheduled.map ScheduledJob.toJobDefinition = if job.enabled then some job else none := by
  rw [JobDefinition.scheduled]
  by_cases henabled : job.enabled = true
  · rw [dif_pos henabled, if_pos henabled]
    split
    · rfl
    · next hnone => simp [hnone, henabled] at h
  · rw [dif_neg henabled, if_neg henabled, Option.map_none]

lemma create_jobs {jobs : List ConfiguredJob}
    (h : ∀ job ∈ jobs, job.enabled = true → job.schedule.isSome = true) :
    ((jobs.map ConfiguredJob.toJobDefinition).filterMap JobDefinition.scheduled).map
        ScheduledJob.toJobDefinition =
      (jobs.filter fun job => job.enabled).map ConfiguredJob.toJobDefinition := by
  induction jobs with
  | nil => rfl
  | cons job jobs ih =>
      obtain ⟨hjob, hjobs⟩ := List.forall_mem_cons.mp h
      have hscheduled := scheduled_eq hjob
      rw [List.map_cons, List.filterMap_cons, List.filter_cons]
      cases hcase : job.toJobDefinition.scheduled with
      | none =>
          rw [hcase, Option.map_none] at hscheduled
          split_ifs at hscheduled with henabled
          rw [if_neg henabled]
          exact ih hjobs
      | some scheduled =>
          rw [hcase, Option.map_some] at hscheduled
          split_ifs at hscheduled with henabled
          rw [if_pos henabled, List.map_cons, List.map_cons, ih hjobs, Option.some.inj hscheduled]

/-- **A worker that has been started** schedules the enabled jobs of the configuration. -/
lemma started_of_startWorker
    (h : startWorker drivers notifiers environment loaded = .ok scheduler) :
    ∃ config, loaded = .ok config ∧ Started notifiers config scheduler := by
  simp only [startWorker, bind_eq_ok, mapError_eq_ok, Except.ok.injEq] at h
  obtain ⟨config, hloaded, _, hintegrations, _, hschedules, settings, hsettings, rfl⟩ := h
  obtain ⟨⟨enabled, henabled, hflag⟩, hscheduled⟩ := scheduled_of_validateWorkerSchedules hschedules
  obtain ⟨_, hne, hpositive, hchannels⟩ := workerSettings_eq_ok hsettings
  have hjobs := create_jobs hscheduled
  refine ⟨config, hloaded, hjobs, ?_, ?_, rfl, rfl, ?_, hchannels, hne, hpositive⟩
  · rintro hnil
    rw [show (config.jobs.map ConfiguredJob.toJobDefinition).filterMap JobDefinition.scheduled = []
      from hnil, List.map_nil, eq_comm, List.map_eq_nil_iff, List.filter_eq_nil_iff] at hjobs
    exact hjobs enabled henabled hflag
  · have hids := congrArg (List.map JobDefinition.id) hjobs
    rw [List.map_map, List.map_map] at hids
    refine (congrArg List.Nodup hids).mpr ?_
    exact config.ids_nodup.sublist (List.filter_sublist.map _)
  · intro job hjob
    have hmem := List.mem_map_of_mem (f := ScheduledJob.toJobDefinition) hjob
    rw [show (Scheduler.create _ _ _ _ _).jobs.map ScheduledJob.toJobDefinition = _ from hjobs]
      at hmem
    obtain ⟨configured, hconfigured, heq⟩ := List.mem_map.mp hmem
    obtain ⟨hconfigured, hon⟩ := List.mem_filter.mp hconfigured
    rw [← heq]
    exact registered_of_validateIntegrations hintegrations configured hconfigured hon

end Checks

/-! ## Channels in the database -/

/-- The channels that an operation can leave in a row. -/
def StoreOp.channels : StoreOp → List String
  | .recordSuccess _ _ plan => plan.channels
  | .recordCheckFailure _ _ _ _ _ channels => channels
  | .raiseDeliveryBacklogAlerts _ channels _ => channels
  | _ => []

/-- Every row of both outboxes is for one of the channels. -/
structure Deliverable (channels : List String) (db : Database) : Prop where
  outbox : ∀ n ∈ db.outbox.rows, n.channel ∈ channels
  alerts : ∀ a ∈ db.alerts.rows, a.channel ∈ channels

section Deliverable

variable {channels : List String}

lemma deliverable_empty : Deliverable channels .empty :=
  ⟨by simp [Database.empty], by simp [Database.empty]⟩

/-- New alerts are on the channels they are enqueued for. -/
lemma channel_insertAll {alerts : RowTable AlertRow} (h : ∀ a ∈ alerts.rows, a.channel ∈ channels)
    {alertKey jobId title detail : String} {createdAt : Datetime} {new : List String}
    (hnew : new ⊆ channels) :
    ∀ a ∈ (alerts.insertAll new (alertRow alertKey jobId title detail createdAt)
      (rowId_newAlert alertKey jobId title detail createdAt)).rows, a.channel ∈ channels := by
  intro a ha
  rw [RowTable.rows_insertAll] at ha
  rcases List.mem_append.mp ha with ha | ha
  · exact h a ha
  · obtain ⟨p, hp, rfl⟩ := List.mem_map.mp ha
    exact hnew (List.fst_mem_of_mem_zipIdx hp)

lemma channel_allEvaluated {alertAfter : ℤ} {new : List String} {now : String → Datetime}
    {rows : List BacklogRow} (hnew : new ⊆ channels) {alerts : RowTable AlertRow}
    (h : ∀ a ∈ alerts.rows, a.channel ∈ channels) :
    ∀ a ∈ (allEvaluatedAlerts alertAfter new now rows alerts).rows, a.channel ∈ channels := by
  induction rows generalizing alerts with
  | nil => exact h
  | cons row rows ih =>
      refine ih ?_
      show ∀ a ∈ (evaluatedAlerts alertAfter new now row alerts).rows, a.channel ∈ channels
      rw [evaluatedAlerts]
      split_ifs
      · exact channel_insertAll h hnew
      · exact fun a ha => h a (RowTable.mem_deleteWhere.mp ha).1
      · exact h

lemma channel_updateAlerts {alerts : RowTable AlertRow}
    (h : ∀ a ∈ alerts.rows, a.channel ∈ channels) (p : AlertRow → Bool) (time : Datetime)
    (error : Option String) :
    ∀ a ∈ (alerts.updateWhere p (attemptedAlert time error) (rowId_attemptedAlert time error)).rows,
      a.channel ∈ channels := by
  refine RowTable.forall_mem_updateWhere fun a ha => ?_
  split_ifs
  · cases error <;> exact h a ha
  · exact h a ha

/-- A row that announces an edge is on the channel of the edge. -/
lemma channel_of_announcesEdge {r : OutboxRow} {edge : SelectedEdge} (h : r.AnnouncesEdge edge) :
    r.channel = edge.channel := congrArg PendingNotification.channel h

/-- Every row of the outbox is on a channel that was there or on one of the operation's. -/
lemma OpEffect.outbox_channel {db db' : Database} {op : StoreOp} {result : StoreResult}
    (heffect : OpEffect db op result db') {r : OutboxRow} (hr : r ∈ db'.outbox.rows) :
    (∃ r' ∈ db.outbox.rows, r.channel = r'.channel) ∨ r.channel ∈ op.channels := by
  by_cases hold : r.id ∈ db.outbox.ids
  · obtain ⟨r', hr', hann⟩ := heffect.row_before hr hold
    exact Or.inl ⟨r', hr', by simpa [OutboxRow.announcement] using congrArg OutboxRow.channel hann⟩
  · obtain ⟨⟨jobId, snapshot, plan, rfl⟩, _⟩ := heffect.new_row hr hold
    cases heffect with
    | failed => exact absurd (RowTable.rowId_mem_ids hr) hold
    | recorded =>
        rcases row_of_recorded hr with hr | ⟨_, edge, hedge, hannounces⟩
        · exact absurd (RowTable.rowId_mem_ids hr) hold
        · right
          rw [channel_of_announcesEdge hannounces]
          exact (mem_edgesOf.mp hedge).2.2.2

/-- **Every operation** leaves rows on the channels that were there and on its own. -/
lemma Deliverable.step {db db' : Database} {op : StoreOp} {result : StoreResult}
    (h : Deliverable channels db) (hop : op.channels ⊆ channels)
    (heffect : OpEffect db op result db') : Deliverable channels db' := by
  refine ⟨fun r hr => ?_, ?_⟩
  · rcases heffect.outbox_channel hr with ⟨r', hr', hchannel⟩ | hchannel
    · exact hchannel ▸ h.outbox r' hr'
    · exact hop hchannel
  · cases heffect with
    | failed => exact h.alerts
    | recorded => exact fun a ha => h.alerts a (RowTable.mem_deleteWhere.mp ha).1
    | alerted => exact channel_insertAll h.alerts hop
    | counted => exact h.alerts
    | evaluated => exact channel_allEvaluated hop h.alerts
    | delivered => exact h.alerts
    | attempted => exact h.alerts
    | alertDelivered => exact channel_updateAlerts h.alerts _ _ none
    | @alertAttempted id time error => exact channel_updateAlerts h.alerts _ _ (some error)
    | pruned =>
        rw [prune_snd]
        exact h.alerts

end Deliverable

/-! ## Every life of a worker -/

/-- The channels of what a task has listed and is not done with. -/
def JobTask.heldChannels : JobTask → List String
  | .dispatching _ _ pass => pass.held.map PendingNotification.channel
  | .alerting pass => pass.held.map OperationalAlert.channel
  | _ => []

section Held

variable (scheduler : Scheduler) (w : Worker) (job : ScheduledJob) (x : CheckAttempt)
  (readings : Readings)

lemma heldChannels_afterFailure (error : RaisedException) :
    ∃ task, (scheduler.afterFailure w job x readings error).tasks
      = Function.update w.tasks x.party task ∧ task.heldChannels = [] := by
  have heffect := scheduler.afterFailure_effect w job x readings error
  generalize scheduler.afterFailure w job x readings error = w' at heffect ⊢
  cases heffect <;> exact ⟨_, rfl, rfl⟩

lemma heldChannels_afterDriver (outcome : Except RaisedException CheckResult) :
    ∃ task, (scheduler.afterDriver w job x readings outcome).tasks
      = Function.update w.tasks x.party task ∧ task.heldChannels = [] := by
  cases outcome with
  | error e => exact heldChannels_afterFailure scheduler w job x readings e
  | ok result =>
      rw [Scheduler.afterDriver]
      split
      · exact heldChannels_afterFailure scheduler w job x readings _
      · exact ⟨_, rfl, rfl⟩

/-- A step of a dispatch leaves its task with what the pass holds, or with nothing. -/
lemma heldChannels_afterDispatch (pass : Pass PendingNotification Datetime StorageError) :
    ∃ task, (scheduler.afterDispatch w job x readings pass).tasks
      = Function.update w.tasks x.party task ∧
        task.heldChannels ⊆ pass.held.map PendingNotification.channel := by
  cases pass with
  | idle => exact ⟨_, rfl, List.Subset.refl _⟩
  | sending => exact ⟨_, rfl, List.Subset.refl _⟩
  | raised e =>
      obtain ⟨task, htasks, hheld⟩ := heldChannels_afterFailure scheduler w job x readings
        e.raised
      exact ⟨task, htasks, by simp [hheld]⟩
  | running todo =>
      cases todo with
      | cons => exact ⟨_, rfl, List.Subset.refl _⟩
      | nil =>
          have heffect := scheduler.afterSuccess_effect w x readings
          rw [Scheduler.afterDispatch]
          generalize scheduler.afterSuccess w x readings = w' at heffect ⊢
          cases heffect <;> exact ⟨_, rfl, List.nil_subset _⟩

lemma heldChannels_afterAlert (jobId : String)
    (pass : Pass OperationalAlert Datetime StorageError) :
    ∃ task, (Scheduler.afterAlert w jobId pass).tasks = Function.update w.tasks jobId task ∧
      task.heldChannels ⊆ pass.held.map OperationalAlert.channel := by
  cases pass with
  | idle => exact ⟨_, rfl, List.Subset.refl _⟩
  | sending => exact ⟨_, rfl, List.Subset.refl _⟩
  | raised e => exact ⟨_, rfl, List.nil_subset _⟩
  | running todo => cases todo <;> exact ⟨_, rfl, List.Subset.refl _⟩

end Held

/-- Everything in the outboxes and everything that tasks are about to send is on one of the
channels. -/
structure Lifecycle.Sendable (channels : List String) (s : Lifecycle) : Prop where
  rows : Deliverable channels s.worker.db
  held : ∀ j, (s.worker.tasks j).heldChannels ⊆ channels

section Started

variable {notifiers : NotifierRegistry} {config : ApplicationConfig} {scheduler : Scheduler}
  {s s' : Lifecycle}

/-- What is held after a change of one task. -/
lemma held_update {tasks : String → JobTask} {channels : List String} {jobId : String}
    {task : JobTask} (h : ∀ j, (tasks j).heldChannels ⊆ channels)
    (hnew : task.heldChannels ⊆ channels) (j : String) :
    (Function.update tasks jobId task j).heldChannels ⊆ channels := by
  by_cases hj : j = jobId
  · rwa [hj, Function.update_self]
  · rw [Function.update_of_ne hj]
    exact h j

/-- The plan of a job whose snapshot is committed. -/
lemma channels_of_commit (hstarted : Started notifiers config scheduler) {w : Worker}
    (hown : scheduler.Owned w) {act : WorkerAction} {job : ScheduledJob} {result : CheckResult}
    (h : w.commit act = some (job, result)) :
    job.notifications.channels ⊆ notifiers.channels := by
  cases act with
  | driver jobId outcome readings =>
      cases outcome with
      | error => cases h
      | ok found =>
          rw [Worker.commit] at h
          split at h
          · next configured x htask =>
            split at h
            · rw [Option.some.injEq, Prod.mk.injEq] at h
              obtain ⟨rfl, _⟩ := h
              obtain ⟨hjob, _⟩ := hown jobId configured x (.started x.number) (by rw [htask]; rfl)
              exact hstarted.plans configured (List.mem_of_find?_eq_some hjob)
            · cases h
          · cases h
  | _ => cases h

lemma deliverable_of_transacted (hstarted : Started notifiers config scheduler) {db db' : Database}
    (hc : Consistent db) (h : Deliverable notifiers.channels db)
    (htransacted : scheduler.Transacted db db') : Deliverable notifiers.channels db' := by
  refine (htransacted.keeps (I := fun db => Consistent db ∧ Deliverable notifiers.channels db)
    ⟨hc, h⟩ fun db op hdb hop => ?_).2
  refine ⟨consistent_apply hdb.1 op, hdb.2.step ?_ (applyOp_effect hdb.1 op)⟩
  cases op with
  | recordSuccess => exact (hop.elim id id).elim
  | recordCheckFailure =>
      rcases hop with hop | hop
      · exact hop.elim
      · exact hop.2 ▸ hstarted.channels
  | raiseDeliveryBacklogAlerts =>
      rcases hop with hop | hop
      · exact hop.elim
      · exact hop.2 ▸ hstarted.channels
  | _ => exact List.nil_subset _

namespace Lifecycle

/-- A step of a dispatch holds what it held and what is listed. -/
lemma Sendable.pass (h : s.Sendable notifiers.channels) (hc : Consistent s.worker.db)
    {registry : NotifierRegistry} {jobId : String} {job : ScheduledJob} {x : CheckAttempt}
    {db : Database} {a : PassStep Datetime String}
    {pass pass' : Pass PendingNotification Datetime StorageError}
    (htask : s.worker.tasks jobId = .dispatching job x pass)
    (heffect : (notificationOutbox registry dispatchLimit).Effect s.worker.db pass a db pass') :
    pass'.held.map PendingNotification.channel ⊆ notifiers.channels := by
  intro c hchannel
  obtain ⟨n, hn, rfl⟩ := List.mem_map.mp hchannel
  rcases heffect.held hn with hn | ⟨items, hlist, hn⟩
  · have hheld := h.held jobId
    rw [htask] at hheld
    exact hheld (List.mem_map_of_mem hn)
  · obtain ⟨r, hr, hann⟩ := announces_of_listed hc hlist hn
    have hchannel : r.channel = n.channel := congrArg PendingNotification.channel hann
    exact hchannel ▸ h.rows.outbox r hr

lemma Sendable.alertPass (h : s.Sendable notifiers.channels) {registry : NotifierRegistry}
    {jobId : String} {db : Database} {a : PassStep Datetime String}
    {pass pass' : Pass OperationalAlert Datetime StorageError}
    (htask : s.worker.tasks jobId = .alerting pass)
    (heffect : (alertOutbox registry dispatchLimit).Effect s.worker.db pass a db pass') :
    pass'.held.map OperationalAlert.channel ⊆ notifiers.channels := by
  intro c hchannel
  obtain ⟨alert, halert, rfl⟩ := List.mem_map.mp hchannel
  rcases heffect.held halert with halert | ⟨items, hlist, halert⟩
  · have hheld := h.held jobId
    rw [htask] at hheld
    exact hheld (List.mem_map_of_mem halert)
  · obtain ⟨r, hr, _, _, hcontent⟩ := hasAlert_of_listed hlist alert halert
    have hchannel : r.channel = alert.channel := congrArg AlertContent.channel hcontent
    exact hchannel ▸ h.rows.alerts r hr

/-- What tasks hold after a step of the worker. -/
lemma Sendable.tasks (h : s.Sendable notifiers.channels) (hc : Consistent s.worker.db)
    {a : WorkerAction} {w : Worker} (heffect : scheduler.Effect s.worker a w) (j : String) :
    (w.tasks j).heldChannels ⊆ notifiers.channels := by
  have hnothing : ∀ {task : JobTask}, task.heldChannels = [] →
      task.heldChannels ⊆ notifiers.channels := fun hnil => hnil ▸ List.nil_subset _
  cases heffect with
  | started => exact held_update h.held (List.nil_subset _) j
  | woke => exact held_update h.held (List.nil_subset _) j
  | @returned jobId outcome readings job x htask =>
      obtain ⟨task, htasks, hheld⟩ := heldChannels_afterDriver scheduler s.worker job x
        readings outcome
      rw [htasks]
      exact held_update h.held (hnothing hheld) j
  | @dispatched jobId a readings job x pass db pass' htask heffect =>
      obtain ⟨task, htasks, hheld⟩ := heldChannels_afterDispatch scheduler
        { s.worker with db := db } job x readings pass'
      rw [htasks]
      exact held_update h.held (List.Subset.trans hheld (h.pass hc htask heffect)) j
  | @alerted jobId a registry pass db pass' hregistry htask heffect =>
      obtain ⟨task, htasks, hheld⟩ := heldChannels_afterAlert { s.worker with db := db } jobId
        pass'
      rw [htasks]
      exact held_update h.held (List.Subset.trans hheld (h.alertPass htask heffect)) j

/-- **One step of a life.** -/
lemma Sendable.step (hstarted : Started notifiers config scheduler)
    (h : s.Sendable notifiers.channels) (hc : Consistent s.worker.db)
    (hown : scheduler.Owned s.worker) {act : LifecycleAction}
    (heffect : scheduler.LifecycleEffect s act s') : s'.Sendable notifiers.channels := by
  cases heffect with
  | @stepped a w hstage heffect =>
      refine ⟨?_, h.tasks hc heffect⟩
      cases Scheduler.commits_of_effect heffect with
      | other hcommit hother => exact deliverable_of_transacted hstarted hc h.rows hother
      | @committed job result outcome hcommit hrecord =>
          have hstep := applyOp_effect hc (.recordSuccess job.id result job.notifications)
          rw [applyOp, hrecord, settle] at hstep
          have hplan : (StoreOp.recordSuccess job.id result job.notifications).channels
              ⊆ notifiers.channels := channels_of_commit hstarted hown hcommit
          exact h.rows.step hplan hstep
  | diedAfter hstage htask heffect =>
      exact ⟨deliverable_of_transacted hstarted hc h.rows (Scheduler.transacted_pass heffect),
        fun _ => List.nil_subset _⟩
  | died => exact ⟨h.rows, fun _ => List.nil_subset _⟩
  | timedOut => exact ⟨h.rows, fun _ => List.nil_subset _⟩
  | @pruned observationsBefore notificationsBefore =>
      have hstep := applyOp_effect hc (.prune observationsBefore notificationsBefore)
      exact ⟨h.rows.step (List.nil_subset _) hstep, h.held⟩
  | _ => exact ⟨h.rows, h.held⟩

end Lifecycle

end Started

/-- **A worker that has been started never refuses anything.**  In every life of it, over any number
of processes, there is an adapter for every notification and for every alert in the outboxes, and
for everything that a task has listed and is about to send. -/
theorem worker_sendable {drivers : DriverRegistry} {notifiers : NotifierRegistry}
    {environment : WorkerEnvironment} {loaded : Except ConfigurationFailure ApplicationConfig}
    {scheduler : Scheduler}
    (hstart : startWorker drivers notifiers environment loaded = .ok scheduler)
    {acts : List LifecycleAction} {s : Lifecycle}
    (hrun : scheduler.lifecycle.run (.start .empty) acts = some s) :
    scheduler.notifiers = notifiers ∧ scheduler.operationalAlerts = some notifiers ∧
      (∀ n ∈ s.worker.db.outbox.rows, notifiers.get n.channel = none) ∧
      (∀ a ∈ s.worker.db.alerts.rows, notifiers.get a.channel = none) ∧
      ∀ j, ∀ c ∈ (s.worker.tasks j).heldChannels, notifiers.get c = none := by
  obtain ⟨config, _, hstarted⟩ := started_of_startWorker hstart
  have hsendable : s.Sendable notifiers.channels := by
    refine (Process.run_induction
      (P := fun acts s => scheduler.lifecycle.run (.start .empty) acts = some s ∧
        Lifecycle.Inv scheduler s ∧ s.Sendable notifiers.channels)
      ⟨rfl, Lifecycle.inv_start scheduler .empty, deliverable_empty,
        fun _ => List.nil_subset _⟩ ?_ hrun).2.2
    rintro acts s act s' ⟨hrun, inv, h⟩ hstep
    exact ⟨Process.run_append hrun (by simp [Process.run, hstep]), inv.step hstep,
      h.step hstarted (Lifecycle.consistent_run hrun) inv.owned
        (Scheduler.lifecycleEffect_of_step hstep)⟩
  refine ⟨hstarted.notifiers_eq, hstarted.alerts_eq, fun n hn => ?_, fun a ha => ?_, ?_⟩
  · exact NotifierRegistry.get_eq_none.mpr (hsendable.rows.outbox n hn)
  · exact NotifierRegistry.get_eq_none.mpr (hsendable.rows.alerts a ha)
  · exact fun j c hc => NotifierRegistry.get_eq_none.mpr (hsendable.held j hc)

/-- A document with one job, which is checked once a minute. -/
def poolDocument : YamlValue :=
  .mapping [(.str "jobs", .list [.mapping [
    (.str "id", .str "swim"), (.str "driver", .str " pool "), (.str "config", .mapping []),
    (.str "notify", .mapping [(.str "channels", .list [.str "email"]),
      (.str "on", .list [.str "initially_available", .str "became_available"])]),
    (.str "schedule", .mapping [(.str "interval_seconds", .int 60),
      (.str "retry", .mapping [(.str "max_attempts", .int 1)])])]])]

lemma pool_strip : strip "pool" = "pool" ∧ "pool" ≠ "" := by decide

/-- A driver that accepts every configuration. -/
def poolDrivers : DriverRegistry where
  drivers := [("pool", ⟨"pool", fun _ => .ok ()⟩)]
  names_nodup := List.nodup_singleton _
  names_strip := List.forall_mem_singleton.mpr pool_strip

/-- From the document to the row that the death of the process left. -/
theorem worker_sendable_pool :
    ∃ scheduler s, startWorker poolDrivers .email ⟨some "email", some 3⟩
        (loadDocument poolDocument) = .ok scheduler ∧
      scheduler.lifecycle.run (.start .empty) interruptedLife = some s ∧
      s.worker.db.outbox.rows ≠ [] ∧
      ∀ n ∈ s.worker.db.outbox.rows, NotifierRegistry.email.get n.channel = none := by
  have hlife : (startWorker poolDrivers .email ⟨some "email", some 3⟩
      (loadDocument poolDocument)).toOption.bind (fun scheduler =>
        (scheduler.lifecycle.run (.start .empty) interruptedLife).map fun s =>
          s.worker.db.outbox.rows.length) = some 1 := by decide +kernel
  obtain ⟨scheduler, hstart, hlife⟩ := Option.bind_eq_some_iff.mp hlife
  obtain ⟨s, hs, hlength⟩ := Option.map_eq_some_iff.mp hlife
  have hstart : startWorker poolDrivers .email ⟨some "email", some 3⟩
      (loadDocument poolDocument) = .ok scheduler := by
    cases h : startWorker poolDrivers .email ⟨some "email", some 3⟩ (loadDocument poolDocument) with
    | error e => simp [h, Except.toOption] at hstart
    | ok found => simpa [h, Except.toOption] using hstart
  refine ⟨scheduler, s, hstart, hs, List.ne_nil_of_length_pos (by omega), ?_⟩
  exact (worker_sendable hstart hs).2.2.1

end WebChecker
