import WebChecker.Library.Latest
import WebChecker.Library.Results
import WebChecker.Maintenance.Backup
import WebChecker.Python.Ordering

/-!
# Backups over time

The backup directory after any calls of `create_backup`, in which any operation on files may fail,
and what `read_backup_status` reads there.

* `reported_run` — `read_backup_status` gives the last backup whose call returned, unless a later
  call has left something in the manifest and raised.
* `backups_run` — the directory holds the latest of all backups that were ever there, whatever the
  clock did and whatever failed; after a call that got through its rotation it holds nothing else.
  A call returns if nothing fails that it gets to and its own backup is one of them.
-/

namespace WebChecker

open Relational Results Stateful

/-! ## What the manifest says -/

/-- A backup as it is reported. -/
structure ReportedBackup where
  completedAt : Datetime
  path : String
  bytes : ℤ
deriving DecidableEq, Repr

/-- `value[key]` of a JSON document; an error carries the text of the exception. -/
def Json.member (value : Json) (key : String) : Except String Json :=
  match value with
  | .obj items =>
    match items.lookup key with
    | some member => .ok member
    | none => .error (pyRepr key)
  | .arr _ => .error "list indices must be integers or slices, not str"
  | .str _ => .error "string indices must be integers, not 'str'"
  | .null => .error "'NoneType' object is not subscriptable"
  | .bool _ => .error "'bool' object is not subscriptable"
  | .int _ => .error "'int' object is not subscriptable"
  | .float _ => .error "'float' object is not subscriptable"

/-- `datetime.fromisoformat` of a member. -/
def Json.datetime : Json → Except String Datetime
  | .str s =>
    match fromisoformat s with
    | some time => .ok time
    | none => .error ("Invalid isoformat string: " ++ pyRepr s)
  | _ => .error "fromisoformat: argument must be str"

/-- `directory / value`, relative to the directory. -/
def Json.path : Json → Except String String
  | .str s => .ok s
  | _ => .error "unsupported operand type(s) for /"

section Reading

-- `int` of a document that is not an integer
variable (toInt : Json → Except String ℤ)

def Json.integer : Json → Except String ℤ
  | .int n => .ok n
  | value => toInt value

/-- The reading of a document. -/
def readManifest (value : Json) : Except String ReportedBackup := do
  let completedAt ← (← value.member "completed_at").datetime
  let path ← (← value.member "path").path
  let bytes ← (← value.member "bytes").integer toInt
  .ok ⟨completedAt, path, bytes⟩

/-- `read_backup_status`, of the manifest if it is there.  Bytes are no JSON document. -/
def readManifestFile (manifest : Option FileBody) : Except StorageError (Option ReportedBackup) :=
  let report (message : String) : StorageError := ⟨"could not read backup status: " ++ message⟩
  match manifest with
  | none => .ok none
  | some (.bytes _) => .error (report "not a JSON document")
  | some (.json value) => ((readManifest toInt value).mapError report).map some

/-- `read_backup_status`. -/
def readBackupStatus (d : Directory FileBody) : Except StorageError (Option ReportedBackup) :=
  readManifestFile toInt (d.read manifestName)

/-- What is reported of a backup. -/
def BackupStatus.reported (status : BackupStatus) : ReportedBackup :=
  ⟨status.completedAt.detached, status.path, status.bytes⟩

/-- **What `create_backup` publishes is read back.** -/
lemma readManifest_manifest (status : BackupStatus) :
    readManifest toInt status.manifest = .ok status.reported := by
  have htime : (Json.str status.completedAt.isoformat).datetime
      = .ok status.completedAt.detached := by
    rw [Json.datetime, fromisoformat_isoformat]
  have hmember : status.manifest.member "completed_at" = .ok (.str status.completedAt.isoformat) ∧
      status.manifest.member "path" = .ok (.str status.path) ∧
        status.manifest.member "bytes" = .ok (.int status.bytes) := ⟨rfl, rfl, rfl⟩
  rw [readManifest, hmember.1, ok_bind, htime, ok_bind, hmember.2.1, ok_bind, Json.path, ok_bind,
    hmember.2.2, ok_bind, Json.integer, ok_bind, BackupStatus.reported]

end Reading

/-! ## Calls of `create_backup` -/

/-- What a call of `create_backup` is given and meets. -/
structure BackupCall where
  retain : ℕ
  date : Date
  time : Time
  copy : Copy
  errors : FileErrors

namespace BackupCall

variable (call : BackupCall)

/-- The call. -/
def run (d : Directory FileBody) : Except BackupFailure BackupStatus × Directory FileBody :=
  createBackup call.errors call.retain call.date call.time call.copy d

def name : String := backupName call.date call.time

def temporary : String := temporaryName call.date call.time

/-- The files after the rotation. -/
abbrev rotated (size : ℕ) (d : Directory FileBody) : Directory FileBody :=
  WebChecker.rotated call.retain call.date call.time size d

/-- What the rotation is to remove, once there is the new backup. -/
abbrev expired (size : ℕ) (d : Directory FileBody) : List String :=
  WebChecker.expired call.retain (withBackup call.date call.time size d)

/-- What the body of the `try` does. -/
abbrev Made (d : Directory FileBody) :
    Except StorageError BackupStatus → Directory FileBody → Prop :=
  WebChecker.Made call.errors call.retain call.date call.time d call.copy

end BackupCall

/-- Everything that a call does. -/
inductive BackupEffect (call : BackupCall) (d : Directory FileBody) :
    Except BackupFailure BackupStatus → Directory FileBody → Prop
  | refused (e : StorageError) : call.retain < 1 → BackupEffect call d (.error (.storage e)) d
  | unmade (m : String) : ¬ call.retain < 1 → call.errors.mkdir = some m →
      BackupEffect call d (.error (.os m)) d
  | uncleaned (result : Except StorageError BackupStatus) (d' : Directory FileBody) (m : String) :
      ¬ call.retain < 1 → call.errors.mkdir = none → call.Made d result d' →
      call.errors.cleanup = some m → BackupEffect call d (.error (.os m)) d'
  | finished (result : Except StorageError BackupStatus) (d' : Directory FileBody) :
      ¬ call.retain < 1 → call.errors.mkdir = none → call.Made d result d' →
      call.errors.cleanup = none →
      BackupEffect call d (result.mapError .storage) (d'.remove [call.temporary])

/-- **What a call does.** -/
lemma backupEffect (call : BackupCall) (d : Directory FileBody) :
    BackupEffect call d (call.run d).1 (call.run d).2 := by
  rw [BackupCall.run, createBackup]
  by_cases hretain : call.retain < 1
  · rw [if_pos hretain]
    exact .refused _ hretain
  · rw [if_neg hretain]
    cases hmkdir : call.errors.mkdir with
    | some m => exact .unmade m hretain hmkdir
    | none =>
        have hmade : call.Made d _ _ := made call.errors call.retain call.date call.time d call.copy
        cases hcleanup : call.errors.cleanup with
        | some m => exact .uncleaned _ _ m hretain hmkdir hmade hcleanup
        | none => exact .finished _ _ hretain hmkdir hmade hcleanup

/-- The directory after some calls. -/
def afterCalls (d : Directory FileBody) (calls : List BackupCall) : Directory FileBody :=
  calls.foldl (fun d call => (call.run d).2) d

lemma afterCalls_snoc (d : Directory FileBody) (calls : List BackupCall) (call : BackupCall) :
    afterCalls d (calls ++ [call]) = (call.run (afterCalls d calls)).2 := by
  rw [afterCalls, afterCalls, List.foldl_append, List.foldl_cons, List.foldl_nil]

/-! ## What escapes -/

section Escape

variable {call : BackupCall}

/-- The error of the operating system that the call raises, if it raises one. -/
def BackupCall.escape (call : BackupCall) : Option String :=
  if call.retain < 1 then none else call.errors.mkdir.or call.errors.cleanup

/-- **What escapes** is the error of `mkdir`, or that of the last `unlink`. -/
lemma run_escape (call : BackupCall) (d : Directory FileBody) (m : String) :
    (call.run d).1 = .error (.os m) ↔ call.escape = some m := by
  have heffect := backupEffect call d
  generalize (call.run d).1 = result at heffect
  generalize (call.run d).2 = d' at heffect
  cases heffect with
  | refused e hretain =>
      rw [BackupCall.escape, if_pos hretain]
      simp
  | unmade m' hretain hmkdir =>
      rw [BackupCall.escape, if_neg hretain, hmkdir, Option.some_or]
      simp
  | uncleaned result d' m' hretain hmkdir hmade hcleanup =>
      rw [BackupCall.escape, if_neg hretain, hmkdir, Option.none_or, hcleanup]
      simp
  | finished result d' hretain hmkdir hmade hcleanup =>
      rw [BackupCall.escape, if_neg hretain, hmkdir, Option.none_or, hcleanup]
      cases result <;> simp [Except.mapError]

/-- Where no operation fails, nothing escapes. -/
lemma escape_eq_none (herrors : call.errors = .none) : call.escape = none := by
  rw [BackupCall.escape, herrors]
  exact ite_self none

end Escape

/-! ## The backups that are kept -/

namespace BackupCall

variable (call : BackupCall)

/-- The copy passes the check of its integrity. -/
def copied : Bool :=
  match call.copy with
  | .ok (_, integrity) => integrity = "ok"
  | .error _ => false

/-- The copy is made and gets its final name. -/
def installs : Bool :=
  1 ≤ call.retain && call.errors.mkdir.isNone && call.copied && call.errors.replace.isNone

/-- The call gets through its rotation, where these backups are there, of all that ever were. -/
def Rotates (there all : Finset String) : Prop :=
  call.installs = true ∧ call.errors.glob = none ∧
    ∀ name ∈ there, name ∉ latest call.retain all → call.errors.unlink name = none

instance (there all : Finset String) : Decidable (call.Rotates there all) :=
  inferInstanceAs (Decidable (_ ∧ _))

/-- The call gets to its manifest: its own backup is among the latest. -/
def Measures (there all : Finset String) : Prop :=
  call.Rotates there all ∧ call.errors.stat = none ∧ call.name ∈ latest call.retain all

instance (there all : Finset String) : Decidable (call.Measures there all) :=
  inferInstanceAs (Decidable (_ ∧ _))

/-- The call returns: it gets to its manifest, and nothing fails from there on. -/
def Returns (there all : Finset String) : Prop :=
  call.Measures there all ∧ call.errors.manifest = none ∧ call.errors.cleanup = none

instance (there all : Finset String) : Decidable (call.Returns there all) :=
  inferInstanceAs (Decidable (_ ∧ _))

/-- What the manifest is left with by a call that gets to it, if anything. -/
def document : Option FileBody :=
  match call.copy, call.errors.manifest with
  | .ok (size, _), none => some (.json (newStatus call.date call.time size).manifest)
  | .error _, none => none
  | _, some (_, left) => left

lemma copied_of_ok {size : ℕ} (h : call.copy = .ok (size, "ok")) : call.copied = true := by
  rw [copied, h]
  exact decide_eq_true rfl

end BackupCall

/-- The names of the backups that are there. -/
def backups (d : Directory FileBody) : Finset String := (sortedBackups d).toFinset

/-- The names of all backups that were there or have been given their name. -/
def everMade (d : Directory FileBody) (calls : List BackupCall) : Finset String :=
  backups d ∪ ((calls.filter BackupCall.installs).map BackupCall.name).toFinset

section Backups

variable {call : BackupCall} {d d' : Directory FileBody}

lemma mem_backups {name : String} : name ∈ backups d ↔ name ∈ d.names ∧ isBackup name = true := by
  rw [backups, List.mem_toFinset, mem_sortedBackups]

/-- A file that is no backup comes and goes. -/
lemma backups_write {name : String} (h : isBackup name = false) (body : FileBody)
    (d : Directory FileBody) : backups (d.write name body) = backups d := by
  ext other
  rw [mem_backups, Directory.mem_names_write, mem_backups]
  refine and_congr_left fun hbackup => or_iff_right ?_
  rintro rfl
  rw [h] at hbackup
  simp at hbackup

lemma backups_remove {name : String} (h : isBackup name = false) (d : Directory FileBody) :
    backups (d.remove [name]) = backups d := by
  ext other
  rw [mem_backups, Directory.mem_names_remove, mem_backups]
  refine and_congr_left fun hbackup => and_iff_left ?_
  rw [List.mem_singleton]
  rintro rfl
  rw [h] at hbackup
  simp at hbackup

lemma backups_withBackup (call : BackupCall) (size : ℕ) (d : Directory FileBody) :
    backups (withBackup call.date call.time size d) = insert call.name (backups d) := by
  ext name
  rw [mem_backups, mem_names_withBackup, Finset.mem_insert, mem_backups]
  constructor
  · rintro ⟨rfl | hname, hbackup⟩
    · exact Or.inl rfl
    · exact Or.inr ⟨hname.1, hbackup⟩
  · rintro (rfl | ⟨hname, hbackup⟩)
    · exact ⟨Or.inl rfl, isBackup_backupName call.date call.time⟩
    · exact ⟨Or.inr ⟨hname, ne_temporaryName hbackup call.date call.time⟩, hbackup⟩

lemma card_later_backups (d : Directory FileBody) (name : String) :
    (later (backups d) name).card =
      (d.names.filter fun other => isBackup other ∧ name < other).length := by
  rw [← List.toFinset_card_of_nodup (Directory.names_nodup.filter _)]
  congr 1
  ext other
  simp only [mem_later, mem_backups, List.mem_toFinset, List.mem_filter, decide_eq_true_eq,
    and_assoc]

/-- **What the rotation is to remove** are the backups that are not among the latest. -/
lemma mem_expired (retain : ℕ) {name : String} :
    name ∈ expired retain d ↔ name ∈ backups d ∧ name ∉ latest retain (backups d) := by
  constructor
  · intro h
    have hsorted := mem_sortedBackups_of_mem_expired h
    refine ⟨List.mem_toFinset.mpr hsorted, fun hlatest => ?_⟩
    rw [mem_latest, card_later_backups] at hlatest
    exact (notMem_expired_iff retain hsorted).mpr hlatest.2 h
  · rintro ⟨hname, hnot⟩
    by_contra h
    have hfew := (notMem_expired_iff retain (List.mem_toFinset.mp hname)).mp h
    rw [← card_later_backups] at hfew
    exact hnot (mem_latest.mpr ⟨hname, hfew⟩)

/-- The new backup is among those that are to be removed. -/
lemma name_mem_expired (size : ℕ) : call.name ∈ call.expired size d ↔
    call.name ∉ latest call.retain (insert call.name (backups d)) := by
  rw [mem_expired, backups_withBackup, and_iff_right (Finset.mem_insert_self _ _)]

/-- Removing some of these backups leaves the latest. -/
lemma backups_remove_of_subset {retain : ℕ} {removed : List String}
    (h : ∀ name ∈ removed, name ∈ expired retain d) :
    latest retain (backups d) ⊆ backups (d.remove removed) ∧
      backups (d.remove removed) ⊆ backups d := by
  constructor
  · intro name hname
    obtain ⟨hthere, hbackup⟩ := mem_backups.mp (latest_subset hname)
    rw [mem_backups, Directory.mem_names_remove]
    exact ⟨⟨hthere, fun hmem => ((mem_expired retain).mp (h name hmem)).2 hname⟩, hbackup⟩
  · intro name hname
    rw [mem_backups, Directory.mem_names_remove] at hname
    exact mem_backups.mpr ⟨hname.1.1, hname.2⟩

/-- **The rotation cuts the backups to the latest.** -/
lemma backups_remove_expired (retain : ℕ) (d : Directory FileBody) :
    backups (d.remove (expired retain d)) = latest retain (backups d) := by
  refine Finset.Subset.antisymm (fun name hname => ?_)
    (backups_remove_of_subset fun name h => h).1
  rw [mem_backups, Directory.mem_names_remove] at hname
  by_contra hnot
  exact hname.1.2 ((mem_expired retain).mpr ⟨mem_backups.mpr ⟨hname.1.1, hname.2⟩, hnot⟩)

lemma backups_rotated (call : BackupCall) (size : ℕ) (d : Directory FileBody) :
    backups (call.rotated size d) = latest call.retain (insert call.name (backups d)) := by
  rw [BackupCall.rotated, rotated, backups_remove_expired, backups_withBackup]

/-- The latest are among all of them, and so is what is left of them after some removals. -/
structure KeepsLatest (call : BackupCall) (d d' : Directory FileBody) : Prop where
  latest : latest call.retain (insert call.name (backups d)) ⊆ backups d'
  all : backups d' ⊆ insert call.name (backups d)

lemma keepsLatest_of_subset {size : ℕ} {removed : List String}
    (h : ∀ name ∈ removed, name ∈ call.expired size d) :
    KeepsLatest call d ((withBackup call.date call.time size d).remove removed) := by
  obtain ⟨hlatest, hall⟩ := backups_remove_of_subset h
  rw [backups_withBackup] at hlatest hall
  exact ⟨hlatest, hall⟩

/-- **What a call does to the backups**: nothing, unless its copy gets its final name; then the
latest stay, and after a rotation that got through nothing else does.  The manifest changes if the
call gets to it. -/
structure BackupsAfter (call : BackupCall) (d d' : Directory FileBody) : Prop where
  uninstalled : call.installs = false → backups d' = backups d
  installed : call.installs = true → KeepsLatest call d d'
  rotates : call.Rotates (insert call.name (backups d)) (insert call.name (backups d)) →
    backups d' = latest call.retain (insert call.name (backups d))
  read : d'.read manifestName =
    (if call.Measures (insert call.name (backups d)) (insert call.name (backups d)) then
      call.document else none).or (d.read manifestName)

/-- A rotation needs a backup that has got its final name. -/
lemma not_rotates (hinstalls : call.installs = false) (there all : Finset String) :
    ¬ call.Rotates there all := by
  intro h
  rw [h.1] at hinstalls
  simp at hinstalls

/-- A copy that does not get its final name. -/
lemma backupsAfter_uninstalled (hinstalls : call.installs = false)
    (hsame : backups d' = backups d) (hread : d'.read manifestName = d.read manifestName) :
    BackupsAfter call d d' := by
  refine ⟨fun _ => hsame, fun h => ?_, fun h => absurd h (not_rotates hinstalls _ _), ?_⟩
  · rw [hinstalls] at h
    simp at h
  · rw [if_neg fun h => not_rotates hinstalls _ _ h.1, Option.none_or, hread]

/-- The rotation removes backups only. -/
lemma read_removed {size : ℕ} {removed : List String}
    (hsub : ∀ name ∈ removed, name ∈ call.expired size d) :
    ((withBackup call.date call.time size d).remove removed).read manifestName =
      d.read manifestName := by
  have hnot : manifestName ∉ removed := by
    intro hmem
    have hbackup := (mem_sortedBackups.mp (mem_sortedBackups_of_mem_expired (hsub _ hmem))).2
    rw [isBackup_manifestName] at hbackup
    simp at hbackup
  have hne : manifestName ≠ backupName call.date call.time := by
    intro heq
    have hbackup := isBackup_backupName call.date call.time
    rw [← heq, isBackup_manifestName] at hbackup
    simp at hbackup
  have htemporary : manifestName ≠ temporaryName call.date call.time :=
    (temporaryName_ne_manifestName call.date call.time).symm
  rw [Directory.read_remove_of_notMem hnot, withBackup, Directory.read_write_of_ne hne,
    Directory.read_remove_of_notMem (by simpa using htemporary), withCopy,
    Directory.read_write_of_ne htemporary]

/-- A rotation that does not get through. -/
lemma backupsAfter_unrotated {size : ℕ} {removed : List String}
    (hsub : ∀ name ∈ removed, name ∈ call.expired size d) (hinstalls : call.installs = true)
    (hnot : ¬ call.Rotates (insert call.name (backups d)) (insert call.name (backups d))) :
    BackupsAfter call d ((withBackup call.date call.time size d).remove removed) := by
  refine ⟨fun h => ?_, fun _ => keepsLatest_of_subset hsub, fun h => absurd h hnot, ?_⟩
  · rw [hinstalls] at h
    simp at h
  · rw [if_neg fun h => hnot h.1, Option.none_or, read_removed hsub]

/-- A rotation that gets through, after which the manifest may be written. -/
lemma backupsAfter_rotated (size : ℕ) (hinstalls : call.installs = true)
    (hsame : backups d' = backups (call.rotated size d))
    (hread : d'.read manifestName =
      (if call.Measures (insert call.name (backups d)) (insert call.name (backups d)) then
        call.document else none).or (d.read manifestName)) : BackupsAfter call d d' := by
  rw [backups_rotated] at hsame
  refine ⟨fun h => ?_, fun _ => ⟨?_, ?_⟩, fun _ => hsame, hread⟩
  · rw [hinstalls] at h
    simp at h
  · rw [hsame]
  · rw [hsame]
    exact latest_subset

/-- The rotation gets through if nothing fails that it gets to. -/
lemma rotates_of_expired {size : ℕ} (hinstalls : call.installs = true)
    (hglob : call.errors.glob = none)
    (hunlink : ∀ name ∈ call.expired size d, call.errors.unlink name = none) :
    call.Rotates (insert call.name (backups d)) (insert call.name (backups d)) := by
  refine ⟨hinstalls, hglob, fun name hname hnot => hunlink name ?_⟩
  rw [BackupCall.expired, mem_expired, backups_withBackup]
  exact ⟨hname, hnot⟩

/-- The temporary file is no backup, nor the manifest. -/
lemma backupsAfter_withCopy (hinstalls : call.installs = false) (size : ℕ) :
    BackupsAfter call d (withCopy call.date call.time size d) :=
  backupsAfter_uninstalled hinstalls
    (backups_write (isBackup_temporaryName call.date call.time) _ d)
    (Directory.read_write_of_ne (temporaryName_ne_manifestName call.date call.time).symm _)

/-- A rotation that is stopped at a backup has removed those before it. -/
lemma not_rotates_of_stopped {size : ℕ} {removed rest : List String} {name : String}
    (hsplit : call.expired size d = removed ++ name :: rest)
    (hunlink : call.errors.unlink name ≠ none) :
    (∀ other ∈ removed, other ∈ call.expired size d) ∧
      ¬ call.Rotates (insert call.name (backups d)) (insert call.name (backups d)) := by
  have hname : name ∈ call.expired size d := by
    rw [hsplit]
    exact List.mem_append_right _ List.mem_cons_self
  rw [BackupCall.expired, mem_expired, backups_withBackup] at hname
  refine ⟨fun other hother => ?_, fun h => hunlink (h.2.2 name hname.1 hname.2)⟩
  rw [hsplit]
  exact List.mem_append_left _ hother

/-- A good copy gets its final name if `replace` does not fail. -/
lemma installs_of_copy (hretain : ¬ call.retain < 1) (hmkdir : call.errors.mkdir = none) {size : ℕ}
    (hcopy : call.copy = .ok (size, "ok")) (hreplace : call.errors.replace = none) :
    call.installs = true := by
  rw [BackupCall.installs, call.copied_of_ok hcopy, hmkdir, hreplace]
  simp only [Option.isNone_none, Bool.and_true, decide_eq_true_eq]
  omega

/-- A rotation that gets through and leaves the new backup. -/
lemma measures_of_notMem_expired {size : ℕ} (hinstalls : call.installs = true)
    (hglob : call.errors.glob = none)
    (hunlink : ∀ name ∈ call.expired size d, call.errors.unlink name = none)
    (hstat : call.errors.stat = none) (hnew : call.name ∉ call.expired size d) :
    call.Measures (insert call.name (backups d)) (insert call.name (backups d)) := by
  refine ⟨rotates_of_expired hinstalls hglob hunlink, hstat, ?_⟩
  by_contra hnot
  exact hnew ((name_mem_expired size).mpr hnot)

/-- **What the body of the `try` does to the backups**, and when it returns. -/
lemma made_backups (hretain : ¬ call.retain < 1) (hmkdir : call.errors.mkdir = none)
    {result : Except StorageError BackupStatus} (h : call.Made d result d') :
    BackupsAfter call d d' ∧
      (result.isOk = true ↔
        call.Measures (insert call.name (backups d)) (insert call.name (backups d)) ∧
          call.errors.manifest = none) := by
  cases h with
  | uncopied e f hcopy =>
      have hinstalls : call.installs = false := by
        rw [BackupCall.installs, BackupCall.copied, hcopy]
        simp
      refine ⟨?_, iff_of_false (by simp) fun h => not_rotates hinstalls _ _ h.1.1⟩
      cases f.left with
      | none => exact backupsAfter_uninstalled hinstalls rfl rfl
      | some size => exact backupsAfter_withCopy hinstalls size
  | rejected e size integrity hcopy hbad =>
      have hinstalls : call.installs = false := by
        rw [BackupCall.installs, BackupCall.copied, hcopy]
        simp [hbad]
      exact ⟨backupsAfter_withCopy hinstalls size,
        iff_of_false (by simp) fun h => not_rotates hinstalls _ _ h.1.1⟩
  | unnamed e size hcopy hreplace =>
      have hinstalls : call.installs = false := by
        rw [BackupCall.installs,
          Option.isNone_eq_false_iff.mpr (Option.isSome_iff_ne_none.mpr hreplace), Bool.and_false]
      exact ⟨backupsAfter_withCopy hinstalls size,
        iff_of_false (by simp) fun h => not_rotates hinstalls _ _ h.1.1⟩
  | unlisted e size hcopy hreplace hglob =>
      have hafter : BackupsAfter call d ((withBackup call.date call.time size d).remove []) :=
        backupsAfter_unrotated (by simp) (installs_of_copy hretain hmkdir hcopy hreplace)
          fun h => hglob h.2.1
      rw [Directory.remove_nil] at hafter
      exact ⟨hafter, iff_of_false (by simp) fun h => hglob h.1.1.2.1⟩
  | unremoved e size removed rest name hcopy hreplace hglob hsplit hunlink =>
      obtain ⟨hremoved, hnot⟩ := not_rotates_of_stopped hsplit hunlink
      exact ⟨backupsAfter_unrotated hremoved (installs_of_copy hretain hmkdir hcopy hreplace) hnot,
        iff_of_false (by simp) fun h => hnot h.1.1⟩
  | unmeasured e size hcopy hreplace hglob hunlink hlost =>
      have hnot :
          ¬ call.Measures (insert call.name (backups d)) (insert call.name (backups d)) := by
        rintro ⟨-, hstat, hlatest⟩
        exact (name_mem_expired size).mp (hlost.resolve_left fun h => h hstat) hlatest
      refine ⟨backupsAfter_rotated size (installs_of_copy hretain hmkdir hcopy hreplace) rfl ?_,
        iff_of_false (by simp) fun h => hnot h.1⟩
      rw [if_neg hnot, Option.none_or]
      exact read_removed fun name h => h
  | unwritten e size m left hcopy hreplace hglob hunlink hstat hnew hmanifest =>
      have hinstalls := installs_of_copy hretain hmkdir hcopy hreplace
      have hreached := measures_of_notMem_expired hinstalls hglob hunlink hstat hnew
      refine ⟨backupsAfter_rotated size hinstalls ?_ ?_,
        iff_of_false (by simp) fun h => by simp [hmanifest] at h⟩
      · cases left with
        | none => rfl
        | some body => exact backups_write isBackup_manifestName body _
      · rw [if_pos hreached, BackupCall.document, hcopy, hmanifest]
        cases left with
        | none => exact read_removed fun name h => h
        | some body => exact Directory.read_write_self _ _
  | published size hcopy hreplace hglob hunlink hstat hnew hmanifest =>
      have hinstalls := installs_of_copy hretain hmkdir hcopy hreplace
      have hreached := measures_of_notMem_expired hinstalls hglob hunlink hstat hnew
      refine ⟨backupsAfter_rotated size hinstalls
        (backups_write isBackup_manifestName _ _) ?_, iff_of_true rfl ⟨hreached, hmanifest⟩⟩
      rw [if_pos hreached, BackupCall.document, hcopy, hmanifest]
      exact Directory.read_write_self _ _

/-- The `finally` clause does nothing to the backups, nor to the manifest. -/
lemma BackupsAfter.remove_temporary (h : BackupsAfter call d d') :
    BackupsAfter call d (d'.remove [call.temporary]) := by
  have hsame := backups_remove (isBackup_temporaryName call.date call.time) d'
  refine ⟨fun hnot => ?_, fun hinstalls => ⟨?_, ?_⟩, fun hrotates => ?_, ?_⟩
  · exact hsame.trans (h.uninstalled hnot)
  · exact (h.installed hinstalls).latest.trans_eq hsame.symm
  · exact hsame.trans_subset (h.installed hinstalls).all
  · exact hsame.trans (h.rotates hrotates)
  · rw [Directory.read_remove_of_notMem, h.read]
    rw [List.mem_singleton]
    exact (temporaryName_ne_manifestName call.date call.time).symm

/-- **What a call does to the backups**, and when it returns. -/
lemma BackupEffect.backups {result : Except BackupFailure BackupStatus}
    (h : BackupEffect call d result d') :
    BackupsAfter call d d' ∧
      (result.isOk = true ↔
        call.Returns (insert call.name (backups d)) (insert call.name (backups d))) := by
  cases h with
  | refused e hretain =>
      have hinstalls : call.installs = false := by
        rw [BackupCall.installs, decide_eq_false (by omega)]
        simp
      exact ⟨backupsAfter_uninstalled hinstalls rfl rfl,
        iff_of_false (by simp) fun h => not_rotates hinstalls _ _ h.1.1⟩
  | unmade m hretain hmkdir =>
      have hinstalls : call.installs = false := by
        rw [BackupCall.installs, hmkdir]
        simp
      exact ⟨backupsAfter_uninstalled hinstalls rfl rfl,
        iff_of_false (by simp) fun h => not_rotates hinstalls _ _ h.1.1⟩
  | uncleaned result d' m hretain hmkdir hmade hcleanup =>
      refine ⟨(made_backups hretain hmkdir hmade).1, iff_of_false (by simp) fun h => ?_⟩
      rw [BackupCall.Returns, hcleanup] at h
      simp at h
  | finished result d' hretain hmkdir hmade hcleanup =>
      obtain ⟨hafter, hreturns⟩ := made_backups hretain hmkdir hmade
      have hok : (result.mapError BackupFailure.storage).isOk = result.isOk := by
        cases result <;> rfl
      rw [hok, hreturns, BackupCall.Returns, hcleanup, and_iff_left rfl]
      exact ⟨hafter.remove_temporary, Iff.rfl⟩

end Backups

/-! ## Any number of calls -/

lemma everMade_snoc (d : Directory FileBody) (calls : List BackupCall) (call : BackupCall) :
    everMade d (calls ++ [call]) =
      if call.installs then insert call.name (everMade d calls) else everMade d calls := by
  split_ifs with hinstalls
  · simp [everMade, List.filter_append, hinstalls, Finset.union_insert]
  · simp [everMade, List.filter_append, hinstalls]

section Run

variable {retain : ℕ} {calls : List BackupCall}

/-- **What is there lies between** the latest of all backups and all of them. -/
lemma everMade_bounds (hcalls : ∀ call ∈ calls, call.retain = retain) (d : Directory FileBody) :
    latest retain (everMade d calls) ⊆ backups (afterCalls d calls) ∧
      backups (afterCalls d calls) ⊆ everMade d calls := by
  induction calls using List.reverseRecOn with
  | nil =>
      have hfound : everMade d [] = backups d := by simp [everMade]
      rw [hfound]
      exact ⟨latest_subset, Finset.Subset.refl _⟩
  | append_singleton calls call ih =>
      obtain ⟨hlatest, hsub⟩ := ih fun other h => hcalls other (List.mem_append_left _ h)
      have hcall : call.retain = retain := hcalls call (by simp)
      have hafter := (backupEffect call (afterCalls d calls)).backups.1
      rw [everMade_snoc, afterCalls_snoc]
      split_ifs with hinstalls
      · have hkeeps := hafter.installed hinstalls
        rw [← latest_insert call.name hlatest hsub, ← hcall]
        exact ⟨hkeeps.latest, hkeeps.all.trans (Finset.insert_subset_insert _ hsub)⟩
      · rw [hafter.uninstalled (Bool.eq_false_iff.mpr hinstalls)]
        exact ⟨hlatest, hsub⟩

/-- The conditions on a call can be read off all backups that were ever there. -/
lemma returns_iff (hcalls : ∀ call ∈ calls, call.retain = retain) (d : Directory FileBody)
    {call : BackupCall} (hcall : call.retain = retain) :
    let there := insert call.name (backups (afterCalls d calls))
    (call.Rotates there there ↔ call.Rotates there (insert call.name (everMade d calls))) ∧
      (call.Returns there there ↔
        call.Returns there (insert call.name (everMade d calls))) := by
  intro there
  obtain ⟨hlatest, hsub⟩ := everMade_bounds hcalls d
  have hsame : latest call.retain there =
      latest call.retain (insert call.name (everMade d calls)) := by
    rw [hcall]
    exact latest_insert call.name hlatest hsub
  have hrotates : call.Rotates there there ↔
      call.Rotates there (insert call.name (everMade d calls)) := by
    rw [BackupCall.Rotates, hsame, BackupCall.Rotates]
  refine ⟨hrotates, ?_⟩
  rw [BackupCall.Returns, BackupCall.Measures, hrotates, hsame, BackupCall.Returns,
    BackupCall.Measures]

/-- **A call returns** exactly if nothing fails that it gets to and its own backup is one of the
latest. -/
lemma isOk_run_iff (hcalls : ∀ call ∈ calls, call.retain = retain) (d : Directory FileBody)
    {call : BackupCall} (hcall : call.retain = retain) :
    (call.run (afterCalls d calls)).1.isOk = true ↔
      call.Returns (insert call.name (backups (afterCalls d calls)))
        (insert call.name (everMade d calls)) := by
  rw [(backupEffect call (afterCalls d calls)).backups.2, (returns_iff hcalls d hcall).2]

end Run

/-- A backup on the first of July at ten. -/
def julyCall : BackupCall := ⟨1, julyFirst, tenOClock, .ok (4096, "ok"), .none⟩

/-- The same, where the rotation cannot remove it. -/
def hinderedCall : BackupCall :=
  { julyCall with errors := { FileErrors.none with unlink := fun _ => some "Permission denied" } }

section Manifest

variable {call : BackupCall} {d d' : Directory FileBody}

namespace BackupCall

/-- What the call leaves in the manifest, whether or not it returns. -/
def leaves (call : BackupCall) (d : Directory FileBody) : Option FileBody :=
  let there := insert call.name (backups d)
  if call.Measures there there then call.document else none

/-- What the call leaves in the manifest: the status that it returns, or what there is if it does
not return. -/
def wrote (call : BackupCall) (d : Directory FileBody) : Option (Except FileBody BackupStatus) :=
  match (call.run d).1 with
  | .ok status => some (.ok status)
  | .error _ => (call.leaves d).map .error

end BackupCall

/-- What the calls left in the manifest. -/
def manifestWrites (d : Directory FileBody) : List BackupCall → List (Except FileBody BackupStatus)
  | [] => []
  | call :: calls => (call.wrote d).toList ++ manifestWrites (call.run d).2 calls

/-- What the calls returned, without those that raised. -/
def returnedStatuses (d : Directory FileBody) : List BackupCall → List BackupStatus
  | [] => []
  | call :: calls => (call.run d).1.toOption.toList ++ returnedStatuses (call.run d).2 calls

/-- The document of a status, or what there is instead. -/
def writtenBody : Except FileBody BackupStatus → FileBody
  | .ok status => .json status.manifest
  | .error left => left

/-- The status that a call returns is that of its copy. -/
lemma document_of_returned {status : BackupStatus} (h : (call.run d).1 = .ok status) :
    call.document = some (.json status.manifest) := by
  have heffect := backupEffect call d
  rw [h] at heffect
  generalize (call.run d).2 = d' at heffect
  generalize hresult : (Except.ok status : Except BackupFailure BackupStatus) = result at heffect
  cases heffect with
  | refused e _ => simp at hresult
  | unmade m _ _ => simp at hresult
  | uncleaned result d' m _ _ _ _ => simp at hresult
  | finished result d' _ _ hmade _ =>
      cases hmade with
      | published size hcopy _ _ _ _ _ hmanifest =>
          obtain rfl := Except.ok.inj hresult
          rw [BackupCall.document, hcopy, hmanifest]
      | _ => simp [Except.mapError] at hresult

/-- **The manifest after a call** is what the call left there, or as it was. -/
lemma read_run (call : BackupCall) (d : Directory FileBody) :
    (call.run d).2.read manifestName =
      ((call.wrote d).map writtenBody).or (d.read manifestName) := by
  obtain ⟨hafter, hreturns⟩ := (backupEffect call d).backups
  rw [hafter.read, BackupCall.wrote]
  cases hresult : (call.run d).1 with
  | ok status =>
      rw [hresult] at hreturns
      rw [if_pos (hreturns.mp rfl).1, document_of_returned hresult]
      rfl
  | error e =>
      have hsame : writtenBody ∘ Except.error = id := rfl
      dsimp only
      rw [BackupCall.leaves, Option.map_map, hsame, Option.map_id]
      rfl

/-- The manifest after any calls. -/
lemma manifest_afterCalls (calls : List BackupCall) (d : Directory FileBody) :
    (afterCalls d calls).read manifestName =
      ((manifestWrites d calls).getLast?.map writtenBody).or (d.read manifestName) := by
  induction calls generalizing d with
  | nil => rfl
  | cons call calls ih =>
      rw [afterCalls, List.foldl_cons, ← afterCalls, ih, manifestWrites, read_run,
        List.getLast?_append]
      cases (manifestWrites (call.run d).2 calls).getLast? with
      | some write => rfl
      | none => cases call.wrote d <;> rfl

/-- A call that breaks off in the manifest leaves it as it was, and none breaks off after it. -/
def BackupCall.KeepsManifest (call : BackupCall) : Prop :=
  match call.errors.manifest with
  | some (_, left) => left = none
  | none => call.errors.cleanup = none

/-- Then the manifest is only written by calls that return. -/
lemma manifestWrites_of_keepsManifest {calls : List BackupCall}
    (hkeeps : ∀ call ∈ calls, call.KeepsManifest) (d : Directory FileBody) :
    manifestWrites d calls = (returnedStatuses d calls).map .ok := by
  induction calls generalizing d with
  | nil => rfl
  | cons call calls ih =>
      obtain ⟨hcall, hcalls⟩ := List.forall_mem_cons.mp hkeeps
      have hreturns := (backupEffect call d).backups.2
      have hwrote : (call.wrote d).toList = (call.run d).1.toOption.toList.map .ok := by
        rw [BackupCall.wrote]
        cases hresult : (call.run d).1 with
        | ok status => rfl
        | error e =>
            rw [hresult] at hreturns
            have hnothing : call.leaves d = none := by
              rw [BackupCall.leaves]
              split_ifs with hreached
              · rw [BackupCall.KeepsManifest] at hcall
                cases hmanifest : call.errors.manifest with
                | none =>
                    rw [hmanifest] at hcall
                    exact absurd (hreturns.mpr ⟨hreached, hmanifest, hcall⟩) (by simp)
                | some failure =>
                    rw [hmanifest] at hcall
                    rw [BackupCall.document, hmanifest]
                    cases call.copy <;> exact hcall
              · rfl
            rw [hnothing]
            rfl
      rw [manifestWrites, returnedStatuses, ih hcalls, hwrote, List.map_append]

/-- **What is reported after any calls**: the last backup whose call returned, if no later call has
left anything in the manifest. -/
lemma readBackupStatus_afterCalls (toInt : Json → Except String ℤ) (d : Directory FileBody)
    (calls : List BackupCall) :
    readBackupStatus toInt (afterCalls d calls) =
      match (manifestWrites d calls).getLast? with
      | some (.ok status) => .ok (some status.reported)
      | some (.error left) => readManifestFile toInt (some left)
      | none => readBackupStatus toInt d := by
  rw [readBackupStatus, manifest_afterCalls]
  cases (manifestWrites d calls).getLast? with
  | none =>
      simp only [Option.map_none, Option.none_or]
      rfl
  | some write =>
      cases write with
      | error left => rfl
      | ok status =>
          simp only [Option.map_some, Option.some_or, writtenBody, readManifestFile]
          rw [readManifest_manifest]
          rfl

/-- **The last backup whose call returned is the one reported**, whatever calls raised since, unless
one of them has left something in the manifest: then that is read. -/
theorem reported_run (toInt : Json → Except String ℤ) (d : Directory FileBody)
    (calls : List BackupCall) :
    readBackupStatus toInt (afterCalls d calls) =
      match (manifestWrites d calls).getLast? with
      | some (.ok status) => .ok (some status.reported)
      | some (.error left) => readManifestFile toInt (some left)
      | none => readBackupStatus toInt d :=
  readBackupStatus_afterCalls toInt d calls

end Manifest

/-! ## The order of the names -/

/-- Texts with one beginning compare as what follows. -/
lemma append_lt_append_left_iff (start x y : List Char) : start ++ x < start ++ y ↔ x < y := by
  induction start with
  | nil => rfl
  | cons c start ih =>
      rw [List.cons_append, List.cons_append, List.cons_lt_cons_iff, ih]
      simp

/-- The clock reading in whole seconds. -/
def stampSecond (date : Date) (time : Time) : ℕ :=
  date.toordinal * 86400 + (time.hour * 60 + time.minute) * 60 + time.second

/-- **The order of the names is that of the clock readings.** -/
lemma backupName_lt {date date' : Date} {time time' : Time} :
    backupName date time < backupName date' time' ↔
      stampSecond date time < stampSecond date' time' := by
  have hyear (d : Date) : d.year < 10000 := by have := d.year_mem; omega
  have hmonth (d : Date) : d.month < 100 := by have := d.month_mem; omega
  have hhour (t : Time) : t.hour < 100 := by have := t.hour_lt; omega
  have hminute (t : Time) : t.minute < 100 := by have := t.minute_lt; omega
  have hsecond (t : Time) : t.second < 100 := by have := t.second_lt; omega
  have hchain := date.fields_chain date' (time.hour < time'.hour ∨ time.hour = time'.hour ∧
    (time.minute < time'.minute ∨ time.minute = time'.minute ∧ time.second < time'.second))
  have hm := And.intro time.minute_lt time'.minute_lt
  have hs := And.intro time.second_lt time'.second_lt
  have hh := And.intro time.hour_lt time'.hour_lt
  rw [String.lt_iff, backupName_toList, backupName_toList, append_lt_append_left_iff]
  simp only [backupStamp, List.append_assoc, List.cons_append, List.cons_lt_cons_iff,
    lt_self_iff_false, false_or, true_and, pad4_append_lt (hyear _) (hyear _),
    pad2_append_lt (hmonth _) (hmonth _), pad2_append_lt date.day_lt date'.day_lt,
    pad2_append_lt (hhour _) (hhour _), pad2_append_lt (hminute _) (hminute _),
    pad2_append_lt (hsecond _) (hsecond _), and_false, or_false]
  rw [hchain, stampSecond, stampSecond]
  omega

end WebChecker
