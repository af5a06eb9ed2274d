import Mathlib.Data.List.Perm.Subperm
import Mathlib.Data.String.Basic
import WebChecker.Library.Directory
import WebChecker.Library.Stateful
import WebChecker.Python.Json
import WebChecker.Python.Datetime
import WebChecker.Storage.Operations

/-!
# Backups and their rotation

`create_backup` copies the database to a file that is named after the time, deletes all but the
first `retain` backups in descending order of their names, and publishes the new one in
`last-backup.json`.

The copy belongs to the database engine, so what it returns is a parameter; it is taken to touch no
other file of the directory than the temporary one.  Every operation on files may fail
(`FileErrors`), and `Made` lists how far a call can get.  With no such error what is left is the
rotation: it goes by names alone, and the new name need not be among the first.
`createBackup_iff` says when the new backup survives.
-/

namespace WebChecker

open Stateful

/-! ## Names -/

/-- `%Y%m%dT%H%M%SZ`. -/
def backupStamp (date : Date) (time : Time) : List Char :=
  pad4 date.year ++ pad2 date.month ++ pad2 date.day ++ 'T' :: pad2 time.hour ++
    pad2 time.minute ++ pad2 time.second ++ ['Z']

/-- The name of a backup. -/
def backupName (date : Date) (time : Time) : String :=
  "web-checker-" ++ String.ofList (backupStamp date time) ++ ".db"

/-- The name it has while it is made. -/
def temporaryName (date : Date) (time : Time) : String :=
  "web-checker-" ++ String.ofList (backupStamp date time) ++ ".db.tmp"

def manifestName : String := "last-backup.json"

/-- The name matches `web-checker-*.db`. -/
def isBackup (name : String) : Bool :=
  let start := "web-checker-".toList
  let ending := ".db".toList
  start.isPrefixOf name.toList && ending.isSuffixOf (name.toList.drop start.length)

/-! ## Files -/

/-- What a file holds: a number of bytes that are no JSON document, or one. -/
inductive FileBody where
  | bytes (size : ℕ)
  | json (value : Json)

/-- `st_size` of a database; the length of a document plays no part. -/
def FileBody.size : FileBody → ℕ
  | bytes n => n
  | json _ => 0

structure BackupStatus where
  completedAt : Datetime
  path : String
  bytes : ℕ
deriving DecidableEq, Repr

/-- What `create_backup` raises: its own error, or one of the operating system that it does not
catch. -/
inductive BackupFailure where
  | storage (e : StorageError)
  | os (message : String)
deriving DecidableEq, Repr

/-- The errors of the operating system that the operations of one call meet. -/
structure FileErrors where
  mkdir : Option String
  replace : Option String
  glob : Option String
  unlink : String → Option String
  stat : Option String
  /-- With what the manifest is left with, if it had been opened. -/
  manifest : Option (String × Option FileBody)
  /-- Of the `finally` clause, for which a missing file is no error. -/
  cleanup : Option String

/-- No operation fails. -/
def FileErrors.none : FileErrors where
  mkdir := Option.none
  replace := Option.none
  glob := Option.none
  unlink _ := Option.none
  stat := Option.none
  manifest := Option.none
  cleanup := Option.none

/-- A copy that failed, with the size of what it has left in the temporary file. -/
structure CopyFailure where
  message : String
  left : Option ℕ

/-- What the database engine makes of the copy: its size and what `PRAGMA integrity_check` says, or
an error. -/
abbrev Copy := Except CopyFailure (ℕ × String)

/-- A program on the backup directory. -/
abbrev DirectoryProgram := EStateM StorageError (Directory FileBody)

/-! ## Making a backup -/

/-- An error of an operation that is reported as a failed backup. -/
def backupError {α : Type} (message : String) : DirectoryProgram α :=
  throw ⟨"could not create database backup: " ++ message⟩

/-- An operation that may fail. -/
def fallible (error : Option String) : DirectoryProgram Unit :=
  match error with
  | some m => backupError m
  | none => pure ()

/-- The copy to the temporary file. -/
def copyTo (temporary : String) (copy : Copy) : DirectoryProgram Unit := do
  match copy with
  | .error ⟨m, left⟩ =>
    modify fun d => left.elim d fun size => d.write temporary (.bytes size)
    backupError m
  | .ok (size, integrity) =>
    modify fun d => d.write temporary (.bytes size)
    if integrity = "ok" then pure ()
    else throw ⟨"backup integrity check failed: " ++ integrity⟩

/-- The backups in descending order of their names. -/
def sortedBackups (d : Directory FileBody) : List String :=
  (d.names.filter isBackup).insertionSort (· ≥ ·)

section Making

variable (errors : FileErrors)

/-- `temporary.replace(destination)`. -/
def replaceFile (temporary destination : String) : DirectoryProgram Unit := do
  fallible errors.replace
  let d ← get
  match d.read temporary with
  | some body => set ((d.remove [temporary]).write destination body)
  | none => backupError ("No such file or directory: " ++ pyRepr temporary)

/-- `expired.unlink()`. -/
def unlinkFile (name : String) : DirectoryProgram Unit := do
  fallible (errors.unlink name)
  modify fun d => d.remove [name]

/-- The rotation: `unlink` of all but the first. -/
def removeExpired (retain : ℕ) : DirectoryProgram Unit := do
  fallible errors.glob
  let d ← get
  ((sortedBackups d).drop retain).forM (unlinkFile errors)

/-- `destination.stat().st_size`. -/
def fileSize (name : String) : DirectoryProgram ℕ := do
  fallible errors.stat
  let d ← get
  match d.read name with
  | some body => pure body.size
  | none => backupError ("No such file or directory: " ++ pyRepr name)

/-- The document of `last-backup.json`. -/
def BackupStatus.manifest (status : BackupStatus) : Json :=
  .obj [("bytes", .int status.bytes), ("completed_at", .str status.completedAt.isoformat),
    ("path", .str status.path)]

/-- `write_text` of the manifest. -/
def writeManifest (status : BackupStatus) : DirectoryProgram Unit := do
  match errors.manifest with
  | none => modify fun d => d.write manifestName (.json status.manifest)
  | some (m, left) =>
    modify fun d => left.elim d (d.write manifestName)
    backupError m

/-- The status of the new backup, and its manifest. -/
def publish (date : Date) (time : Time) : DirectoryProgram BackupStatus := do
  let destination := backupName date time
  let size ← fileSize errors destination
  let status : BackupStatus := ⟨⟨date, time, some (.fixed .utc)⟩, destination, size⟩
  writeManifest errors status
  pure status

/-- The body of the `try`. -/
def makeBackup (retain : ℕ) (date : Date) (time : Time) (copy : Copy) :
    DirectoryProgram BackupStatus := do
  copyTo (temporaryName date time) copy
  replaceFile errors (temporaryName date time) (backupName date time)
  removeExpired errors retain
  publish errors date time

/-- `create_backup` on the files of the backup directory; `date` and `time` are what the clock reads
in UTC. -/
def createBackup (retain : ℕ) (date : Date) (time : Time) (copy : Copy) (d : Directory FileBody) :
    Except BackupFailure BackupStatus × Directory FileBody :=
  if retain < 1 then (.error (.storage ⟨"backup retention count must be at least 1"⟩), d)
  else
    match errors.mkdir with
    | some m => (.error (.os m), d)
    | none =>
      let program := makeBackup errors retain date time copy
      let result := (outcome program d).mapError BackupFailure.storage
      let d := after program d
      -- the `finally` clause, whose own error replaces the result
      match errors.cleanup with
      | some m => (.error (.os m), d)
      | none => (result, d.remove [temporaryName date time])

end Making

/-! ## Names that match -/

lemma backupName_toList (date : Date) (time : Time) : (backupName date time).toList =
    "web-checker-".toList ++ (backupStamp date time ++ ".db".toList) := by
  simp [backupName, String.toList_append]

lemma temporaryName_toList (date : Date) (time : Time) : (temporaryName date time).toList =
    "web-checker-".toList ++ (backupStamp date time ++ ".db.tmp".toList) := by
  simp [temporaryName, String.toList_append]

lemma isBackup_of_toList {name : String} {middle : List Char}
    (h : name.toList = "web-checker-".toList ++ middle) :
    isBackup name = true ↔ ".db".toList <:+ middle := by
  rw [isBackup, h, List.drop_left' rfl, Bool.and_eq_true, List.isPrefixOf_iff_prefix,
    List.isSuffixOf_iff_suffix, and_iff_right (List.prefix_append _ _)]

/-- **A backup matches**, once it has its final name. -/
lemma isBackup_backupName (date : Date) (time : Time) : isBackup (backupName date time) = true :=
  (isBackup_of_toList (backupName_toList date time)).mpr (List.suffix_append _ _)

lemma isBackup_temporaryName (date : Date) (time : Time) :
    isBackup (temporaryName date time) = false := by
  rw [← Bool.not_eq_true, isBackup_of_toList (temporaryName_toList date time)]
  intro h
  have hreverse := List.reverse_prefix.mpr h
  rw [List.reverse_append] at hreverse
  have hends := List.prefix_of_prefix_length_le hreverse (List.prefix_append _ _) (by decide)
  exact absurd hends (by decide)

lemma isBackup_manifestName : isBackup manifestName = false := by decide

lemma temporaryName_ne_manifestName (date : Date) (time : Time) :
    temporaryName date time ≠ manifestName := by
  have hmanifest : manifestName = "last-backup.json" ++ "" := by decide
  rw [temporaryName, hmanifest, String.append_assoc]
  exact append_ne_append 0 (by decide) (by decide) (by decide) _ _

lemma ne_temporaryName {name : String} (h : isBackup name = true) (date : Date) (time : Time) :
    name ≠ temporaryName date time := by
  rintro rfl
  rw [isBackup_temporaryName] at h
  simp at h

/-! ## The rotation -/

variable {d : Directory FileBody}

lemma perm_sortedBackups (d : Directory FileBody) :
    (sortedBackups d).Perm (d.names.filter isBackup) :=
  List.perm_insertionSort _ _

lemma mem_sortedBackups {name : String} :
    name ∈ sortedBackups d ↔ name ∈ d.names ∧ isBackup name = true := by
  rw [(perm_sortedBackups d).mem_iff, List.mem_filter]

lemma sortedBackups_nodup (d : Directory FileBody) : (sortedBackups d).Nodup :=
  (perm_sortedBackups d).nodup_iff.mpr (Directory.names_nodup.filter _)

lemma sortedBackups_descending (d : Directory FileBody) : (sortedBackups d).Pairwise (· > ·) := by
  have hle : (sortedBackups d).Pairwise (· ≥ ·) := List.pairwise_insertionSort _ _
  have hne : (sortedBackups d).Pairwise (· ≠ ·) := sortedBackups_nodup d
  exact (hle.and hne).imp fun h => lt_of_le_of_ne h.1 h.2.symm

/-- What the rotation removes. -/
def expired (retain : ℕ) (d : Directory FileBody) : List String := (sortedBackups d).drop retain

lemma mem_sortedBackups_of_mem_expired {retain : ℕ} {name : String} (h : name ∈ expired retain d) :
    name ∈ sortedBackups d := List.mem_of_mem_drop h

/-- **A backup survives the rotation** exactly if fewer than `retain` names come before it. -/
lemma notMem_expired_iff (retain : ℕ) {name : String} (h : name ∈ sortedBackups d) :
    name ∉ expired retain d ↔
      (d.names.filter fun other => isBackup other ∧ name < other).length < retain := by
  have hsplit := List.take_append_drop retain (sortedBackups d)
  have hnodup := sortedBackups_nodup d
  rw [← hsplit, List.nodup_append] at hnodup
  have htake : name ∉ expired retain d ↔ name ∈ (sortedBackups d).take retain := by
    constructor
    · intro hnot
      rw [← hsplit, List.mem_append] at h
      exact h.resolve_right hnot
    · exact fun htake hdrop => hnodup.2.2 name htake name hdrop rfl
  have hcount : (sortedBackups d).countP (fun other => name < other) =
      (d.names.filter fun other => isBackup other ∧ name < other).length := by
    rw [(perm_sortedBackups d).countP_eq, List.countP_eq_length_filter, List.filter_filter]
    congr 1
    exact List.filter_congr fun other _ => by
      simp only [Bool.decide_and, Bool.decide_eq_true, Bool.and_comm]
  rw [htake, mem_take_iff (sortedBackups_descending d) h, hcount]

/-- **At most `retain` backups are left.** -/
lemma length_backups_le {retain : ℕ} {d' : Directory FileBody}
    (h : ∀ name ∈ d'.names, isBackup name = true →
      name ∈ sortedBackups d ∧ name ∉ expired retain d) :
    (d'.names.filter isBackup).length ≤ retain := by
  have hsubset : d'.names.filter isBackup ⊆ (sortedBackups d).take retain := by
    intro name hname
    rw [List.mem_filter] at hname
    obtain ⟨hsorted, hnot⟩ := h name hname.1 hname.2
    rw [← List.take_append_drop retain (sortedBackups d), List.mem_append] at hsorted
    exact hsorted.resolve_right hnot
  have hnodup : (d'.names.filter isBackup).Nodup := Directory.names_nodup.filter _
  exact (List.subperm_of_subset hnodup hsubset).length_le.trans (List.length_take_le _ _)

/-! ## How far a call gets -/

section Making

variable (errors : FileErrors) (retain : ℕ) (date : Date) (time : Time) (size : ℕ)
  (d : Directory FileBody)

/-- The directory with the copy. -/
def withCopy : Directory FileBody := d.write (temporaryName date time) (.bytes size)

/-- The directory once the copy has its final name. -/
def withBackup : Directory FileBody :=
  ((withCopy date time size d).remove [temporaryName date time]).write (backupName date time)
    (.bytes size)

/-- The status that is published. -/
def newStatus : BackupStatus :=
  ⟨⟨date, time, some (.fixed .utc)⟩, backupName date time, size⟩

lemma mem_names_withBackup {name : String} : name ∈ (withBackup date time size d).names ↔
    name = backupName date time ∨ name ∈ d.names ∧ name ≠ temporaryName date time := by
  rw [withBackup, withCopy, Directory.mem_names_write, Directory.mem_names_remove,
    Directory.mem_names_write, List.mem_singleton]
  tauto

/-- The directory after the rotation. -/
def rotated : Directory FileBody :=
  (withBackup date time size d).remove (expired retain (withBackup date time size d))

/-- Everything that the body of the `try` does. -/
inductive Made (copy : Copy) : Except StorageError BackupStatus → Directory FileBody → Prop
  | uncopied (e : StorageError) (f : CopyFailure) : copy = .error f →
      Made copy (.error e) (f.left.elim d fun size => withCopy date time size d)
  | rejected (e : StorageError) (size : ℕ) (integrity : String) :
      copy = .ok (size, integrity) → integrity ≠ "ok" →
      Made copy (.error e) (withCopy date time size d)
  | unnamed (e : StorageError) (size : ℕ) : copy = .ok (size, "ok") → errors.replace ≠ none →
      Made copy (.error e) (withCopy date time size d)
  | unlisted (e : StorageError) (size : ℕ) : copy = .ok (size, "ok") → errors.replace = none →
      errors.glob ≠ none → Made copy (.error e) (withBackup date time size d)
  | unremoved (e : StorageError) (size : ℕ) (removed rest : List String) (name : String) :
      copy = .ok (size, "ok") → errors.replace = none → errors.glob = none →
      expired retain (withBackup date time size d) = removed ++ name :: rest →
      errors.unlink name ≠ none →
      Made copy (.error e) ((withBackup date time size d).remove removed)
  | unmeasured (e : StorageError) (size : ℕ) :
      copy = .ok (size, "ok") → errors.replace = none → errors.glob = none →
      (∀ name ∈ expired retain (withBackup date time size d), errors.unlink name = none) →
      errors.stat ≠ none ∨ backupName date time ∈ expired retain (withBackup date time size d) →
      Made copy (.error e) (rotated retain date time size d)
  | unwritten (e : StorageError) (size : ℕ) (m : String) (left : Option FileBody) :
      copy = .ok (size, "ok") → errors.replace = none → errors.glob = none →
      (∀ name ∈ expired retain (withBackup date time size d), errors.unlink name = none) →
      errors.stat = none →
      backupName date time ∉ expired retain (withBackup date time size d) →
      errors.manifest = some (m, left) →
      Made copy (.error e) (left.elim (rotated retain date time size d)
        ((rotated retain date time size d).write manifestName))
  | published (size : ℕ) :
      copy = .ok (size, "ok") → errors.replace = none → errors.glob = none →
      (∀ name ∈ expired retain (withBackup date time size d), errors.unlink name = none) →
      errors.stat = none →
      backupName date time ∉ expired retain (withBackup date time size d) →
      errors.manifest = none →
      Made copy (.ok (newStatus date time size))
        ((rotated retain date time size d).write manifestName
          (.json (newStatus date time size).manifest))

/-! ### The operations -/

variable {errors retain date time size d}

lemma fallible_none : outcome (fallible none) d = .ok () ∧ after (fallible none) d = d := ⟨rfl, rfl⟩

lemma fallible_some {error : Option String} (h : error ≠ none) :
    (∃ e, outcome (fallible error) d = .error e) ∧ after (fallible error) d = d := by
  obtain ⟨m, rfl⟩ := Option.ne_none_iff_exists'.mp h
  exact ⟨⟨_, rfl⟩, rfl⟩

/-- What comes after an operation that fails. -/
lemma fallible_bind_some {α : Type} {error : Option String} {f : Unit → DirectoryProgram α}
    (h : error ≠ none) :
    (∃ e, outcome (fallible error >>= f) d = .error e) ∧ after (fallible error >>= f) d = d := by
  obtain ⟨⟨e, he⟩, hafter⟩ : (∃ e, outcome (fallible error) d = .error e) ∧
      after (fallible error) d = d := fallible_some h
  exact ⟨⟨e, (bind_of_error he).1⟩, (bind_of_error he).2.trans hafter⟩

lemma fallible_bind_none {α : Type} {f : Unit → DirectoryProgram α} :
    outcome (fallible none >>= f) d = outcome (f ()) d ∧
      after (fallible none >>= f) d = after (f ()) d :=
  bind_of_ok fallible_none.1

variable (date time size d) in
/-- The copy gets its final name. -/
lemma replaceFile_none (h : errors.replace = none) :
    outcome (replaceFile errors (temporaryName date time) (backupName date time))
        (withCopy date time size d) = .ok () ∧
      after (replaceFile errors (temporaryName date time) (backupName date time))
        (withCopy date time size d) = withBackup date time size d := by
  have hread : (withCopy date time size d).read (temporaryName date time) = some (.bytes size) :=
    Directory.read_write_self _ _
  have hrun : (replaceFile errors (temporaryName date time) (backupName date time)).run
      (withCopy date time size d) = .ok () (withBackup date time size d) := by
    simp only [replaceFile, h, fallible, EStateM.run_bind, EStateM.run_pure, EStateM.run_get, hread,
      EStateM.run_set, withBackup]
  rw [outcome, after, hrun]
  exact ⟨rfl, rfl⟩

variable (errors) in
/-- **The files are removed one by one**, up to the first that cannot be. -/
lemma forM_unlinkFile (names : List String) (d : Directory FileBody) :
    ((∀ name ∈ names, errors.unlink name = none) ∧
        outcome (names.forM (unlinkFile errors)) d = .ok () ∧
          after (names.forM (unlinkFile errors)) d = d.remove names) ∨
      ∃ removed name rest, names = removed ++ name :: rest ∧ errors.unlink name ≠ none ∧
        (∃ e, outcome (names.forM (unlinkFile errors)) d = .error e) ∧
          after (names.forM (unlinkFile errors)) d = d.remove removed := by
  induction names generalizing d with
  | nil =>
      exact Or.inl ⟨by simp, rfl, Directory.remove_nil.symm⟩
  | cons name names ih =>
      have hcons : (name :: names).forM (unlinkFile errors) =
          unlinkFile errors name >>= fun _ => names.forM (unlinkFile errors) := rfl
      rw [hcons]
      by_cases hname : errors.unlink name = none
      · have hremoved : outcome (unlinkFile errors name) d = .ok () ∧
            after (unlinkFile errors name) d = d.remove [name] := by
          rw [unlinkFile, hname, fallible_bind_none.1, fallible_bind_none.2]
          exact ⟨rfl, rfl⟩
        rw [(bind_of_ok hremoved.1).1, (bind_of_ok hremoved.1).2, hremoved.2]
        rcases ih (d.remove [name]) with ⟨hall, hok, hafter⟩ | ⟨removed, other, rest, hsplit, hnot,
          hfails, hafter⟩
        · refine Or.inl ⟨List.forall_mem_cons.mpr ⟨hname, hall⟩, hok, ?_⟩
          rw [hafter, Directory.remove_remove]
          rfl
        · refine Or.inr ⟨name :: removed, other, rest, congrArg (name :: ·) hsplit, hnot, hfails,
            ?_⟩
          rw [hafter, Directory.remove_remove]
          rfl
      · have hfails : (∃ e, outcome (unlinkFile errors name) d = .error e) ∧
            after (unlinkFile errors name) d = d := fallible_bind_some hname
        obtain ⟨⟨e, he⟩, hafter⟩ := hfails
        refine Or.inr ⟨[], name, names, rfl, hname, ⟨e, (bind_of_error he).1⟩, ?_⟩
        rw [(bind_of_error he).2, Directory.remove_nil]
        exact hafter

/-- The size of a file that is there. -/
lemma fileSize_some {name : String} {body : FileBody} (hstat : errors.stat = none)
    (hread : d.read name = some body) :
    outcome (fileSize errors name) d = .ok body.size ∧ after (fileSize errors name) d = d := by
  have hrun : (fileSize errors name).run d = .ok body.size d := by
    simp only [fileSize, hstat, fallible, EStateM.run_bind, EStateM.run_pure, EStateM.run_get,
      hread]
  rw [outcome, after, hrun]
  exact ⟨rfl, rfl⟩

/-- The size of a file that cannot be asked for, or is not there. -/
lemma fileSize_fails {name : String} (h : errors.stat ≠ none ∨ d.read name = none) :
    (∃ e, outcome (fileSize errors name) d = .error e) ∧ after (fileSize errors name) d = d := by
  by_cases hstat : errors.stat = none
  · have hrun : ∃ e, (fileSize errors name).run d = .error e d := by
      simp only [fileSize, hstat, fallible, EStateM.run_bind, EStateM.run_pure, EStateM.run_get,
        h.resolve_left (not_not.mpr hstat)]
      exact ⟨_, rfl⟩
    obtain ⟨e, hrun⟩ := hrun
    rw [outcome, after, hrun]
    exact ⟨⟨e, rfl⟩, rfl⟩
  · exact fallible_bind_some hstat

/-- The new backup after the rotation. -/
lemma read_rotated_backup (retain : ℕ) (date : Date) (time : Time) (size : ℕ)
    (d : Directory FileBody) :
    (rotated retain date time size d).read (backupName date time) =
      if backupName date time ∈ expired retain (withBackup date time size d) then none
      else some (.bytes size) := by
  split_ifs with hnew
  · rw [← Option.not_isSome_iff_eq_none, Directory.read_isSome, rotated,
      Directory.mem_names_remove]
    exact fun hmem => hmem.2 hnew
  · rw [rotated, Directory.read_remove_of_notMem hnew, withBackup, Directory.read_write_self]

/-- The end of the body, in the directory after the rotation. -/
lemma made_publish {copy : Copy} (hcopy : copy = .ok (size, "ok"))
    (hreplace : errors.replace = none) (hglob : errors.glob = none)
    (hunlink : ∀ name ∈ expired retain (withBackup date time size d), errors.unlink name = none) :
    Made errors retain date time d copy
      (outcome (publish errors date time) (rotated retain date time size d))
      (after (publish errors date time) (rotated retain date time size d)) := by
  have hread := read_rotated_backup retain date time size d
  by_cases hlost : errors.stat ≠ none ∨
      backupName date time ∈ expired retain (withBackup date time size d)
  · have hfails : (∃ e, outcome (fileSize errors (backupName date time))
        (rotated retain date time size d) = .error e) ∧
          after (fileSize errors (backupName date time)) (rotated retain date time size d)
            = rotated retain date time size d :=
      fileSize_fails (hlost.imp_right fun h => by rw [hread, if_pos h])
    obtain ⟨⟨e, he⟩, hafter⟩ := hfails
    rw [publish, (bind_of_error he).1, (bind_of_error he).2, hafter]
    exact .unmeasured e size hcopy hreplace hglob hunlink hlost
  · obtain ⟨hstat, hnew⟩ := not_or.mp hlost
    rw [not_not] at hstat
    rw [if_neg hnew] at hread
    obtain ⟨hsize, hafter⟩ := fileSize_some hstat hread
    rw [publish, (bind_of_ok hsize).1, (bind_of_ok hsize).2, hafter]
    dsimp only
    cases hmanifest : errors.manifest with
    | none =>
        rw [writeManifest, hmanifest]
        exact .published size hcopy hreplace hglob hunlink hstat hnew hmanifest
    | some failure =>
        obtain ⟨m, left⟩ := failure
        rw [writeManifest, hmanifest]
        exact .unwritten _ size m left hcopy hreplace hglob hunlink hstat hnew hmanifest

/-- The rotation and what follows it. -/
lemma made_removeExpired {copy : Copy} (hcopy : copy = .ok (size, "ok"))
    (hreplace : errors.replace = none) :
    let rest : DirectoryProgram BackupStatus := do
      removeExpired errors retain
      publish errors date time
    Made errors retain date time d copy (outcome rest (withBackup date time size d))
      (after rest (withBackup date time size d)) := by
  intro rest
  by_cases hglob : errors.glob = none
  · have hlisted : outcome (removeExpired errors retain) (withBackup date time size d) =
          outcome ((expired retain (withBackup date time size d)).forM (unlinkFile errors))
            (withBackup date time size d) ∧
        after (removeExpired errors retain) (withBackup date time size d) =
          after ((expired retain (withBackup date time size d)).forM (unlinkFile errors))
            (withBackup date time size d) := by
      rw [removeExpired, hglob, fallible_bind_none.1, fallible_bind_none.2]
      exact bind_of_ok rfl
    rcases forM_unlinkFile errors (expired retain (withBackup date time size d))
        (withBackup date time size d) with
      ⟨hunlink, hok, hafter⟩ | ⟨removed, name, others, hsplit, hnot, ⟨e, he⟩, hafter⟩
    · rw [← hlisted.1] at hok
      rw [← hlisted.2] at hafter
      rw [(bind_of_ok hok).1, (bind_of_ok hok).2, hafter]
      exact made_publish hcopy hreplace hglob hunlink
    · rw [← hlisted.1] at he
      rw [← hlisted.2] at hafter
      rw [(bind_of_error he).1, (bind_of_error he).2, hafter]
      exact .unremoved e size removed others name hcopy hreplace hglob hsplit hnot
  · have hfails : (∃ e, outcome (removeExpired errors retain) (withBackup date time size d)
        = .error e) ∧ after (removeExpired errors retain) (withBackup date time size d)
          = withBackup date time size d := fallible_bind_some hglob
    obtain ⟨⟨e, he⟩, hafter⟩ := hfails
    rw [(bind_of_error he).1, (bind_of_error he).2, hafter]
    exact .unlisted e size hcopy hreplace hglob

variable (errors retain date time d) in
/-- **What the body of the `try` does.** -/
lemma made (copy : Copy) :
    Made errors retain date time d copy (outcome (makeBackup errors retain date time copy) d)
      (after (makeBackup errors retain date time copy) d) := by
  rw [makeBackup]
  cases copy with
  | error f =>
      have hcopy : outcome (copyTo (temporaryName date time) (.error f)) d
          = .error ⟨"could not create database backup: " ++ f.message⟩ := rfl
      rw [(bind_of_error hcopy).1, (bind_of_error hcopy).2]
      exact .uncopied _ f rfl
  | ok copied =>
      obtain ⟨size, integrity⟩ := copied
      by_cases hok : integrity = "ok"
      · subst hok
        have hcopy : outcome (copyTo (temporaryName date time) (.ok (size, "ok"))) d = .ok () := rfl
        have hafter : after (copyTo (temporaryName date time) (.ok (size, "ok"))) d
            = withCopy date time size d := rfl
        rw [(bind_of_ok hcopy).1, (bind_of_ok hcopy).2, hafter]
        by_cases hreplace : errors.replace = none
        · obtain ⟨hreplaced, hnamed⟩ := replaceFile_none date time size d hreplace
          rw [(bind_of_ok hreplaced).1, (bind_of_ok hreplaced).2, hnamed]
          exact made_removeExpired rfl hreplace
        · have hfails : (∃ e, outcome (replaceFile errors (temporaryName date time)
              (backupName date time)) (withCopy date time size d) = .error e) ∧
                after (replaceFile errors (temporaryName date time) (backupName date time))
                  (withCopy date time size d) = withCopy date time size d :=
            fallible_bind_some hreplace
          obtain ⟨⟨e, he⟩, hsame⟩ := hfails
          rw [(bind_of_error he).1, (bind_of_error he).2, hsame]
          exact .unnamed e size rfl hreplace
      · have hrun : (copyTo (temporaryName date time) (.ok (size, integrity))).run d =
            .error ⟨"backup integrity check failed: " ++ integrity⟩
              (withCopy date time size d) := by
          rw [copyTo]
          simp only [if_neg hok]
          rfl
        have hcopy : outcome (copyTo (temporaryName date time) (.ok (size, integrity))) d
            = .error ⟨"backup integrity check failed: " ++ integrity⟩ := by
          rw [outcome, hrun]
        have hafter : after (copyTo (temporaryName date time) (.ok (size, integrity))) d
            = withCopy date time size d := by
          rw [after, hrun]
        rw [(bind_of_error hcopy).1, (bind_of_error hcopy).2, hafter]
        exact .rejected _ size integrity rfl hok

end Making

/-! ## When the new backup survives -/

/-- What a backup should do when the copy and all operations on files succeed: it returns, the new
file is there, at most `retain` backups are left, no other file is gone, and the manifest names the
new file. -/
def Publishes (retain : ℕ) (date : Date) (time : Time) (size : ℕ) (d : Directory FileBody) : Prop :=
  ∃ status d', createBackup .none retain date time (.ok (size, "ok")) d = (.ok status, d') ∧
    status.path = backupName date time ∧
    backupName date time ∈ d'.names ∧
    (d'.names.filter isBackup).length ≤ retain ∧
    (∀ name ∈ d.names, isBackup name = false → name ∈ d'.names) ∧
    d'.read manifestName = some (.json status.manifest)

lemma backupName_mem_sortedBackups (date : Date) (time : Time) (size : ℕ)
    (d : Directory FileBody) : backupName date time ∈ sortedBackups (withBackup date time size d) :=
  mem_sortedBackups.mpr
    ⟨(mem_names_withBackup date time size d).mpr (Or.inl rfl), isBackup_backupName date time⟩

/-- The copy does not change which names come before the new one. -/
lemma length_earlier_withBackup (date : Date) (time : Time) (size : ℕ) (d : Directory FileBody) :
    ((withBackup date time size d).names.filter fun name =>
        isBackup name ∧ backupName date time < name).length =
      (d.names.filter fun name => isBackup name ∧ backupName date time < name).length := by
  refine List.Perm.length_eq ((List.perm_ext_iff_of_nodup (Directory.names_nodup.filter _)
    (Directory.names_nodup.filter _)).mpr fun name => ?_)
  simp only [List.mem_filter, mem_names_withBackup, decide_eq_true_eq]
  refine and_congr_left fun ⟨hbackup, hlater⟩ => ?_
  have hne : name ≠ backupName date time := hlater.ne'
  rw [or_iff_right hne, and_iff_left (ne_temporaryName hbackup date time)]

/-- The files after a backup that was kept. -/
lemma mem_names_kept (retain : ℕ) (date : Date) (time : Time) (size : ℕ) (d : Directory FileBody)
    (body : FileBody) {name : String} :
    name ∈ (((rotated retain date time size d).write manifestName body).remove
        [temporaryName date time]).names ↔
      (name = manifestName ∨ name ∈ (withBackup date time size d).names ∧
        name ∉ expired retain (withBackup date time size d)) ∧ name ≠ temporaryName date time := by
  rw [Directory.mem_names_remove, Directory.mem_names_write, rotated, Directory.mem_names_remove,
    List.mem_singleton]

/-- With no error of the operating system, what is left to fail is the rotation. -/
lemma makeBackup_none (retain : ℕ) (date : Date) (time : Time) (size : ℕ)
    (d : Directory FileBody) :
    (backupName date time ∉ expired retain (withBackup date time size d) →
        outcome (makeBackup .none retain date time (.ok (size, "ok"))) d
            = .ok (newStatus date time size) ∧
          after (makeBackup .none retain date time (.ok (size, "ok"))) d =
            (rotated retain date time size d).write manifestName
              (.json (newStatus date time size).manifest)) ∧
      (backupName date time ∈ expired retain (withBackup date time size d) →
        ∃ e, outcome (makeBackup .none retain date time (.ok (size, "ok"))) d = .error e) := by
  have hmade := made .none retain date time d (.ok (size, "ok"))
  revert hmade
  generalize outcome (makeBackup .none retain date time (.ok (size, "ok"))) d = result
  generalize after (makeBackup .none retain date time (.ok (size, "ok"))) d = d'
  intro hmade
  cases hmade with
  | uncopied e f hcopy => simp at hcopy
  | rejected e size' integrity hcopy hbad =>
      obtain ⟨rfl, rfl⟩ := Prod.mk.inj (Except.ok.inj hcopy)
      exact absurd rfl hbad
  | unnamed e size' _ hreplace => exact absurd rfl hreplace
  | unlisted e size' _ _ hglob => exact absurd rfl hglob
  | unremoved e size' removed rest name _ _ _ _ hunlink => exact absurd rfl hunlink
  | unmeasured e size' hcopy _ _ _ hlost =>
      obtain ⟨rfl, -⟩ := Prod.mk.inj (Except.ok.inj hcopy)
      exact ⟨fun hnew => absurd (hlost.resolve_left fun h => h rfl) hnew, fun _ => ⟨e, rfl⟩⟩
  | unwritten e size' m left _ _ _ _ _ _ hmanifest => simp [FileErrors.none] at hmanifest
  | published size' hcopy _ _ _ _ hnew _ =>
      obtain ⟨rfl, -⟩ := Prod.mk.inj (Except.ok.inj hcopy)
      exact ⟨fun _ => ⟨rfl, rfl⟩, fun h => absurd h hnew⟩

lemma createBackup_none {retain : ℕ} (hretain : ¬ retain < 1) (date : Date) (time : Time)
    (copy : Copy) (d : Directory FileBody) :
    createBackup .none retain date time copy d =
      ((outcome (makeBackup .none retain date time copy) d).mapError .storage,
        (after (makeBackup .none retain date time copy) d).remove [temporaryName date time]) := by
  have hmkdir : FileErrors.none.mkdir = none := rfl
  have hcleanup : FileErrors.none.cleanup = none := rfl
  rw [createBackup, if_neg hretain, hmkdir, hcleanup]

/-- A published backup is not among the expired ones, and its copy had a name of its own. -/
lemma Publishes.kept {retain : ℕ} {date : Date} {time : Time} {size : ℕ} {d : Directory FileBody}
    (h : Publishes retain date time size d) :
    backupName date time ∉ expired retain (withBackup date time size d) ∧
      temporaryName date time ∉ d.names := by
  obtain ⟨status, d', hcreate, -, -, -, hothers, -⟩ := h
  by_cases hretain : retain < 1
  · rw [createBackup, if_pos hretain] at hcreate
    simp at hcreate
  · rw [createBackup_none hretain] at hcreate
    obtain ⟨houtcome, rfl⟩ := Prod.mk.inj hcreate
    constructor
    · intro hexpired
      obtain ⟨e, he⟩ := (makeBackup_none retain date time size d).2 hexpired
      rw [he] at houtcome
      simp [Except.mapError] at houtcome
    · intro hleft
      have hthere := hothers _ hleft (isBackup_temporaryName date time)
      rw [Directory.mem_names_remove] at hthere
      exact hthere.2 (List.mem_singleton_self _)

/-- What is left after a backup that was kept. -/
lemma createBackup_kept {retain : ℕ} {date : Date} {time : Time} {size : ℕ}
    {d : Directory FileBody} (hretain : ¬ retain < 1)
    (hnew : backupName date time ∉ expired retain (withBackup date time size d)) :
    createBackup .none retain date time (.ok (size, "ok")) d =
      (.ok (newStatus date time size), ((rotated retain date time size d).write manifestName
        (.json (newStatus date time size).manifest)).remove [temporaryName date time]) := by
  obtain ⟨houtcome, hafter⟩ := (makeBackup_none retain date time size d).1 hnew
  rw [createBackup_none hretain, houtcome, hafter]
  rfl

/-- A backup that is not among the expired ones is published. -/
lemma publishes_of_kept {retain : ℕ} {date : Date} {time : Time} {size : ℕ}
    {d : Directory FileBody} (hretain : ¬ retain < 1)
    (hnew : backupName date time ∉ expired retain (withBackup date time size d))
    (hfree : temporaryName date time ∉ d.names) : Publishes retain date time size d := by
  have hsorted := backupName_mem_sortedBackups date time size d
  refine ⟨_, _, createBackup_kept hretain hnew, rfl, ?_, ?_, fun name hname hother => ?_, ?_⟩
  · rw [mem_names_kept]
    exact ⟨Or.inr ⟨(mem_sortedBackups.mp hsorted).1, hnew⟩,
      ne_temporaryName (isBackup_backupName date time) date time⟩
  · refine length_backups_le (d := withBackup date time size d) fun name hname hbackup => ?_
    rw [mem_names_kept] at hname
    rcases hname.1 with rfl | ⟨hthere, hnot⟩
    · rw [isBackup_manifestName] at hbackup
      simp at hbackup
    · exact ⟨mem_sortedBackups.mpr ⟨hthere, hbackup⟩, hnot⟩
  · have hfinal : name ≠ temporaryName date time := fun h => hfree (h ▸ hname)
    rw [mem_names_kept]
    refine ⟨Or.inr ⟨(mem_names_withBackup date time size d).mpr (Or.inr ⟨hname, hfinal⟩),
      fun hexpired => ?_⟩, hfinal⟩
    have hbackup := (mem_sortedBackups.mp (mem_sortedBackups_of_mem_expired hexpired)).2
    rw [hother] at hbackup
    simp at hbackup
  · rw [Directory.read_remove_of_notMem, Directory.read_write_self]
    rw [List.mem_singleton]
    exact (temporaryName_ne_manifestName date time).symm

/-- **A backup survives its own rotation** exactly if fewer than `retain` of the backups that are
there have a name after its own, and nothing is left of a copy made in the same second. -/
theorem createBackup_iff (retain : ℕ) (date : Date) (time : Time) (size : ℕ)
    (d : Directory FileBody) :
    Publishes retain date time size d ↔
      (d.names.filter fun name => isBackup name ∧ backupName date time < name).length < retain ∧
        temporaryName date time ∉ d.names := by
  have hkept := notMem_expired_iff retain (backupName_mem_sortedBackups date time size d)
  rw [length_earlier_withBackup] at hkept
  rw [← hkept]
  constructor
  · exact Publishes.kept
  · rintro ⟨hnew, hfree⟩
    have hretain : ¬ retain < 1 := by
      intro hzero
      have hlater := hkept.mp hnew
      omega
    exact publishes_of_kept hretain hnew hfree

/-- A backup directory with one file, whose name is from a clock that ran ahead. -/
def aheadDirectory : Directory FileBody where
  rows := [⟨"web-checker-20270101T000000Z.db", .bytes 4096⟩]
  nodup := List.nodup_singleton _

lemma julyFirst_year : 1 ≤ 2026 ∧ 2026 ≤ 9999 := by decide

def julyFirst : Date := ⟨2026, 7, 1, julyFirst_year, by decide, by decide⟩

def tenOClock : Time := { Time.min with hour := 10, hour_lt := by decide }

/-- **With one backup to keep and one of a later name**, the new backup is deleted. -/
theorem createBackup_removes_new : ¬ Publishes 1 julyFirst tenOClock 4096 aheadDirectory := by
  intro h
  have hexpired : backupName julyFirst tenOClock ∈
      expired 1 (withBackup julyFirst tenOClock 4096 aheadDirectory) := by decide +kernel
  exact h.kept.1 hexpired

end WebChecker
