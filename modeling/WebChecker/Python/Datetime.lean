import Mathlib.Data.Nat.Digits.Defs
import Mathlib.Tactic.IntervalCases
import Mathlib.Tactic.Common

/-!
# Dates and times as text

The checker stores every time as `datetime.isoformat()` text and reads it back with
`datetime.fromisoformat`.  This file has the values (a wall clock reading, and a UTC offset that
comes either from a fixed `timezone` or from a named zone), the two conversions, and what one does
to the other:

* `fromisoformat_isoformat` — reading back what was written gives the same wall clock at the same
  offset, but with a fixed `timezone` in place of a named zone (`Datetime.detached`).

`fromisoformat` and `dateFromisoformat` are those of the Python implementation of the standard
library.  Times have the grammar that is documented since Python 3.11, basic and week dates
included; a date of the right length may be followed by something that is not looked at.  The C
implementation takes, besides, one more character before the offset of a time: such a text is no
time here.  Only strings written by `isoformat` are read back from the store; what providers send
can be any string.
-/

namespace WebChecker

/-! ## Calendar dates -/

def isLeap (year : ℕ) : Bool := year % 4 == 0 && (year % 100 != 0 || year % 400 == 0)

def daysInMonth (year month : ℕ) : ℕ :=
  if month = 2 then if isLeap year then 29 else 28
  else if month = 4 ∨ month = 6 ∨ month = 9 ∨ month = 11 then 30 else 31

/-- `datetime.date`: a day of the proleptic Gregorian calendar in years 1 to 9999. -/
structure Date where
  year : ℕ
  month : ℕ
  day : ℕ
  year_mem : 1 ≤ year ∧ year ≤ 9999
  month_mem : 1 ≤ month ∧ month ≤ 12
  day_mem : 1 ≤ day ∧ day ≤ daysInMonth year month
deriving DecidableEq, Repr

/-- The `date` constructor; `none` is its `ValueError`. -/
def Date.ofYmd (year month day : ℕ) : Option Date :=
  if h : (1 ≤ year ∧ year ≤ 9999) ∧ (1 ≤ month ∧ month ≤ 12) ∧
      (1 ≤ day ∧ day ≤ daysInMonth year month) then
    some ⟨year, month, day, h.1, h.2.1, h.2.2⟩
  else none

@[simp] lemma Date.ofYmd_self (d : Date) : Date.ofYmd d.year d.month d.day = some d :=
  dif_pos ⟨d.year_mem, d.month_mem, d.day_mem⟩

lemma Date.day_lt (d : Date) : d.day < 100 := by
  have h := d.day_mem.2
  unfold daysInMonth at h
  split_ifs at h <;> omega

def daysBeforeYear (year : ℕ) : ℕ :=
  (year - 1) * 365 + (year - 1) / 4 - (year - 1) / 100 + (year - 1) / 400

def daysBeforeMonth (year month : ℕ) : ℕ :=
  ((List.range' 1 (month - 1)).map (daysInMonth year)).sum

/-- `date.toordinal`: day 1 is January 1 of year 1. -/
def ymdToOrdinal (year month day : ℕ) : ℕ := daysBeforeYear year + daysBeforeMonth year month + day

/-- `date.fromordinal`; the year it computes may lie outside 1 to 9999. -/
def ordinalToYmd (ordinal : ℕ) : ℕ × ℕ × ℕ :=
  let n := ordinal - 1
  let n400 := n / 146097
  let n := n % 146097
  let n100 := n / 36524
  let n := n % 36524
  let n4 := n / 1461
  let n := n % 1461
  let n1 := n / 365
  let n := n % 365
  let year := n400 * 400 + 1 + n100 * 100 + n4 * 4 + n1
  if n1 = 4 ∨ n100 = 4 then (year - 1, 12, 31)
  else
    let month := (n + 50) / 32
    let month := if n < daysBeforeMonth year month then month - 1 else month
    (year, month, n - daysBeforeMonth year month + 1)

/-- The Monday of ISO week 1, as an ordinal; it may lie before year 1. -/
def isoWeek1Monday (year : ℕ) : ℤ :=
  let firstDay : ℤ := ymdToOrdinal year 1 1
  let firstWeekday := (firstDay + 6) % 7
  let monday := firstDay - firstWeekday
  if 3 < firstWeekday then monday + 7 else monday

/-- The date of an ISO year, week and weekday. -/
def ofIsoWeek (year week day : ℕ) : Option Date :=
  let first := ymdToOrdinal year 1 1 % 7
  let longYear := first = 4 ∨ (first = 3 ∧ isLeap year = true)
  if 1 ≤ year ∧ year ≤ 9999 ∧ (1 ≤ week ∧ week ≤ 52 ∨ week = 53 ∧ longYear) ∧
      1 ≤ day ∧ day ≤ 7 then
    let ordinal := isoWeek1Monday year + (week - 1 : ℤ) * 7 + (day - 1 : ℤ)
    if 1 ≤ ordinal then
      let (y, m, d) := ordinalToYmd ordinal.toNat
      Date.ofYmd y m d
    else none
  else none

/-! ## Clock times and time zones -/

/-- `datetime.time` without a zone. -/
structure Time where
  hour : ℕ
  minute : ℕ
  second : ℕ
  microsecond : ℕ
  hour_lt : hour < 24
  minute_lt : minute < 60
  second_lt : second < 60
  microsecond_lt : microsecond < 1000000
deriving DecidableEq, Repr

/-- The `time` constructor; `none` is its `ValueError`. -/
def Time.ofParts (hour minute second microsecond : ℕ) : Option Time :=
  if h : hour < 24 ∧ minute < 60 ∧ second < 60 ∧ microsecond < 1000000 then
    some ⟨hour, minute, second, microsecond, h.1, h.2.1, h.2.2.1, h.2.2.2⟩
  else none

@[simp] lemma Time.ofParts_self (t : Time) :
    Time.ofParts t.hour t.minute t.second t.microsecond = some t :=
  dif_pos ⟨t.hour_lt, t.minute_lt, t.second_lt, t.microsecond_lt⟩

/-- A UTC offset in microseconds, strictly between minus and plus one day. -/
structure UtcOffset where
  microseconds : ℤ
  bound : microseconds.natAbs < 86400000000
deriving DecidableEq, Repr

/-- The `timezone` constructor; `none` is its `ValueError`. -/
def UtcOffset.ofMicroseconds (n : ℤ) : Option UtcOffset :=
  if h : n.natAbs < 86400000000 then some ⟨n, h⟩ else none

@[simp] lemma UtcOffset.ofMicroseconds_self (o : UtcOffset) :
    UtcOffset.ofMicroseconds o.microseconds = some o := dif_pos o.bound

/-- The offset of `timezone.utc`. -/
def UtcOffset.utc : UtcOffset := ⟨0, by decide⟩

/-- Where an offset comes from: a `timezone`, or a `ZoneInfo` whose offset at this wall clock time
is `offset`, and would be `otherFold` for the other value of `fold`. -/
inductive TzInfo where
  | fixed (offset : UtcOffset)
  | zone (key : String) (offset otherFold : UtcOffset)
deriving DecidableEq, Repr

def TzInfo.offset : TzInfo → UtcOffset
  | fixed o => o
  | zone _ o _ => o

/-- `datetime.datetime`. -/
structure Datetime where
  date : Date
  time : Time
  tzinfo : Option TzInfo
deriving DecidableEq, Repr

namespace Datetime

/-- `datetime.utcoffset`. -/
def utcoffset (d : Datetime) : Option UtcOffset := d.tzinfo.map TzInfo.offset

/-- The same wall clock time at the same offset, with a fixed zone. -/
def detached (d : Datetime) : Datetime := { d with tzinfo := d.utcoffset.map TzInfo.fixed }

@[simp] lemma utcoffset_detached (d : Datetime) : d.detached.utcoffset = d.utcoffset := by
  cases h : d.tzinfo <;> simp [utcoffset, detached, h, TzInfo.offset]

/-- `datetime(1970, 1, 1, tzinfo=UTC)`. -/
def epoch : Datetime where
  date := ⟨1970, 1, 1, by decide, by decide, by decide⟩
  time := ⟨0, 0, 0, 0, by decide, by decide, by decide, by decide⟩
  tzinfo := some (.fixed .utc)

lemma tzinfo_isSome_detached (d : Datetime) : d.detached.tzinfo.isSome = d.tzinfo.isSome := by
  simp [detached, utcoffset]

end Datetime

/-- `time.min`. -/
def Time.min : Time := ⟨0, 0, 0, 0, by decide, by decide, by decide, by decide⟩

/-- Midnight of a day of January 1970, in UTC. -/
def january (day : ℕ) (h : 1 ≤ day ∧ day ≤ 31) : Datetime :=
  { Datetime.epoch with date := ⟨1970, 1, day, by decide, by decide, h⟩ }

/-! ## Writing -/

def pad2 (n : ℕ) : List Char := [Nat.digitChar (n / 10), Nat.digitChar (n % 10)]

def pad4 (n : ℕ) : List Char := pad2 (n / 100) ++ pad2 (n % 100)

def pad6 (n : ℕ) : List Char := pad2 (n / 10000) ++ pad4 (n % 10000)

def isoDate (d : Date) : List Char := pad4 d.year ++ '-' :: pad2 d.month ++ '-' :: pad2 d.day

/-- The fraction of a second, left out when it is zero. -/
def isoFraction (microsecond : ℕ) : List Char :=
  if microsecond = 0 then [] else '.' :: pad6 microsecond

def isoTime (t : Time) : List Char :=
  pad2 t.hour ++ ':' :: pad2 t.minute ++ ':' :: pad2 t.second ++ isoFraction t.microsecond

/-- `HH:MM`, followed by seconds and their fraction only where they are not zero. -/
def isoOffsetClock (micros : ℕ) : List Char :=
  let seconds := micros / 1000000 % 60
  let fraction := micros % 1000000
  pad2 (micros / 3600000000) ++ ':' :: pad2 (micros / 60000000 % 60) ++
    if seconds = 0 ∧ fraction = 0 then [] else ':' :: pad2 seconds ++ isoFraction fraction

def isoOffset (o : UtcOffset) : List Char :=
  (if o.microseconds < 0 then '-' else '+') :: isoOffsetClock o.microseconds.natAbs

def isoZone : Option UtcOffset → List Char
  | none => []
  | some o => isoOffset o

/-- `datetime.isoformat()`. -/
def Datetime.isoformat (d : Datetime) : String :=
  String.ofList (isoDate d.date ++ 'T' :: (isoTime d.time ++ isoZone d.utcoffset))

/-! ## Reading -/

/-- The value of an ASCII digit. -/
def digitOf (c : Char) : Option ℕ :=
  if 48 ≤ c.toNat ∧ c.toNat ≤ 57 then some (c.toNat - 48) else none

/-- Read `n` digits, continuing the number `acc`. -/
def takeDigits : ℕ → ℕ → List Char → Option (ℕ × List Char)
  | 0, acc, cs => some (acc, cs)
  | _ + 1, _, [] => none
  | n + 1, acc, c :: cs => (digitOf c).bind fun d => takeDigits n (10 * acc + d) cs

/-- The week form of a date, after `YYYY-W` or `YYYYW`.  A dash after the week number starts the
weekday only if the text does not go on with a digit two characters later: otherwise it is the
separator before the time. -/
def readWeekDate (dashed : Bool) (year : ℕ) (cs : List Char) : Option (Date × List Char) := do
  let (week, cs) ← takeDigits 2 0 cs
  let single ← pure do return ((← ofIsoWeek year week 1), cs)
  if dashed then
    match cs with
    | '-' :: c :: rest =>
      if (rest.head?.bind digitOf).isSome then single
      else do
        let (day, rest) ← takeDigits 1 0 (c :: rest)
        return ((← ofIsoWeek year week day), rest)
    | ['-'] => none
    | _ => single
  else
    -- `YYYYWwwd` and `YYYYWww` followed by a digit separator are told apart by the digits' number
    let digits := (cs.takeWhile fun c => (digitOf c).isSome).length
    if digits = 1 ∨ (2 ≤ digits ∧ digits % 2 = 0) then do
      let (day, rest) ← takeDigits 1 0 cs
      return ((← ofIsoWeek year week day), rest)
    else single

/-- Read the date part and return what follows it. -/
def readDate (cs : List Char) : Option (Date × List Char) := do
  let (year, cs) ← takeDigits 4 0 cs
  match cs with
  | '-' :: 'W' :: cs => readWeekDate true year cs
  | 'W' :: cs => readWeekDate false year cs
  | '-' :: cs => do
    let (month, cs) ← takeDigits 2 0 cs
    match cs with
    | '-' :: cs => do
      let (day, cs) ← takeDigits 2 0 cs
      return ((← Date.ofYmd year month day), cs)
    | _ => none
  | cs => do
    let (month, cs) ← takeDigits 2 0 cs
    let (day, cs) ← takeDigits 2 0 cs
    return ((← Date.ofYmd year month day), cs)

/-- Read a fraction of a second to the microsecond; further digits are dropped. -/
def readFraction (cs : List Char) : Option ℕ :=
  match cs with
  | [] => some 0
  | c :: ds =>
    if (c = '.' ∨ c = ',') ∧ ds ≠ [] ∧ ds.all (fun d => (digitOf d).isSome) then
      (takeDigits 6 0 (ds ++ List.replicate 5 '0')).map Prod.fst
    else none

/-- Read `HH[:MM[:SS[.f]]]`, or the same without colons. -/
def readClock (cs : List Char) : Option (ℕ × ℕ × ℕ × ℕ) := do
  let (hour, cs) ← takeDigits 2 0 cs
  match cs with
  | [] => return (hour, 0, 0, 0)
  | ':' :: cs => do
    let (minute, cs) ← takeDigits 2 0 cs
    match cs with
    | [] => return (hour, minute, 0, 0)
    | ':' :: cs => do
      let (second, cs) ← takeDigits 2 0 cs
      return (hour, minute, second, ← readFraction cs)
    | _ => none
  | cs => do
    let (minute, cs) ← takeDigits 2 0 cs
    match cs with
    | [] => return (hour, minute, 0, 0)
    | cs => do
      let (second, cs) ← takeDigits 2 0 cs
      return (hour, minute, second, ← readFraction cs)

def isZoneMark (c : Char) : Bool := c = '+' || c = '-' || c = 'Z'

/-- The offset a signed clock reading denotes. -/
def offsetOfClock (sign : Char) : ℕ × ℕ × ℕ × ℕ → Option UtcOffset
  | (hour, minute, second, micro) =>
    let n : ℕ := (hour * 3600 + minute * 60 + second) * 1000000 + micro
    UtcOffset.ofMicroseconds (if sign = '-' then -n else n)

/-- Read the zone part, which starts at its mark. -/
def readZone : List Char → Option (Option TzInfo)
  | [] => some none
  | sign :: cs =>
    if sign = 'Z' then if cs = [] then some (some (.fixed .utc)) else none
    else ((readClock cs).bind (offsetOfClock sign)).map fun o => some (.fixed o)

def readTime (cs : List Char) : Option (Time × Option TzInfo) := do
  let (hour, minute, second, micro) ← readClock (cs.takeWhile fun c => !isZoneMark c)
  let time ← Time.ofParts hour minute second micro
  let zone ← readZone (cs.dropWhile fun c => !isZoneMark c)
  return (time, zone)

/-- `datetime.fromisoformat`; `none` is its `ValueError`. -/
def fromisoformat (s : String) : Option Datetime := do
  let (date, rest) ← readDate s.toList
  match rest with
  | [] => do
    let midnight ← Time.ofParts 0 0 0 0
    return ⟨date, midnight, none⟩
  | _ :: clock => do
    let (time, zone) ← readTime clock
    return ⟨date, time, zone⟩

/-- The dash of a date that is written with dashes. -/
def readDash (dashed : Bool) (cs : List Char) : Option (List Char) :=
  if dashed then
    match cs with
    | '-' :: cs => some cs
    | _ => none
  else some cs

/-- `date.fromisoformat`; `none` is its `ValueError`.  The number of bytes is checked first, and
what follows the date in a text of the right length is not looked at. -/
def dateFromisoformat (s : String) : Option Date :=
  if s.utf8ByteSize = 7 ∨ s.utf8ByteSize = 8 ∨ s.utf8ByteSize = 10 then do
    let (year, cs) ← takeDigits 4 0 s.toList
    let dashed := cs.head? = some '-'
    let cs ← readDash dashed cs
    match cs with
    | 'W' :: cs => do
      let (week, cs) ← takeDigits 2 0 cs
      if cs = [] then ofIsoWeek year week 1
      else
        let cs ← readDash dashed cs
        let (day, _) ← takeDigits 1 0 cs
        ofIsoWeek year week day
    | cs => do
      let (month, cs) ← takeDigits 2 0 cs
      let cs ← readDash dashed cs
      let (day, _) ← takeDigits 2 0 cs
      Date.ofYmd year month day
  else none

/-! ## Reading back what was written -/

lemma digitOf_digitChar {n : ℕ} (h : n < 10) : digitOf (Nat.digitChar n) = some n := by
  interval_cases n <;> decide

lemma isZoneMark_digitChar {n : ℕ} (h : n < 10) : isZoneMark (Nat.digitChar n) = false := by
  interval_cases n <;> decide

lemma takeDigits_pad2 {n : ℕ} (h : n < 100) (acc k : ℕ) (cs : List Char) :
    takeDigits (k + 2) acc (pad2 n ++ cs) = takeDigits k (100 * acc + n) cs := by
  have h₁ : n / 10 < 10 := by omega
  have h₂ : n % 10 < 10 := by omega
  have hn : 10 * (10 * acc + n / 10) + n % 10 = 100 * acc + n := by omega
  simp [pad2, takeDigits, digitOf_digitChar h₁, digitOf_digitChar h₂, hn]

lemma takeDigits_pad4 {n : ℕ} (h : n < 10000) (acc k : ℕ) (cs : List Char) :
    takeDigits (k + 4) acc (pad4 n ++ cs) = takeDigits k (10000 * acc + n) cs := by
  have hn : 100 * (100 * acc + n / 100) + n % 100 = 10000 * acc + n := by omega
  rw [pad4, List.append_assoc, takeDigits_pad2 (by omega), takeDigits_pad2 (by omega), hn]

lemma takeDigits_pad6 {n : ℕ} (h : n < 1000000) (k : ℕ) (cs : List Char) :
    takeDigits (k + 6) 0 (pad6 n ++ cs) = takeDigits k n cs := by
  have hn : 10000 * (100 * 0 + n / 10000) + n % 10000 = n := by omega
  rw [pad6, List.append_assoc, takeDigits_pad2 (by omega), takeDigits_pad4 (by omega), hn]

lemma all_digits_pad2 {n : ℕ} (h : n < 100) : (pad2 n).all (fun d => (digitOf d).isSome) := by
  have h₁ : n / 10 < 10 := by omega
  have h₂ : n % 10 < 10 := by omega
  simp [pad2, digitOf_digitChar h₁, digitOf_digitChar h₂]

lemma readFraction_isoFraction {n : ℕ} (h : n < 1000000) :
    readFraction (isoFraction n) = some n := by
  unfold isoFraction
  split
  · next h0 => rw [readFraction, h0]
  · have hall : (pad6 n).all (fun d => (digitOf d).isSome) := by
      rw [pad6, pad4, List.all_append, List.all_append, all_digits_pad2 (by omega),
        all_digits_pad2 (by omega), all_digits_pad2 (by omega)]
      rfl
    have hne : pad6 n ≠ [] := by simp [pad6, pad2]
    rw [readFraction, if_pos ⟨Or.inl rfl, hne, hall⟩, takeDigits_pad6 h]
    rfl

/-- A clock reading as `HH:MM:SS` with a fraction reads back. -/
lemma readClock_full {h m s f : ℕ} (hh : h < 100) (hm : m < 100) (hs : s < 100)
    (hf : f < 1000000) :
    readClock (pad2 h ++ ':' :: pad2 m ++ ':' :: pad2 s ++ isoFraction f) = some (h, m, s, f) := by
  simp only [readClock, List.append_assoc, List.cons_append, takeDigits_pad2 hh, takeDigits_pad2 hm,
    takeDigits_pad2 hs, takeDigits, Option.bind_eq_bind, Option.bind_some,
    readFraction_isoFraction hf]
  simp

/-- A clock reading as `HH:MM` reads back. -/
lemma readClock_short {h m : ℕ} (hh : h < 100) (hm : m < 100) :
    readClock (pad2 h ++ ':' :: pad2 m) = some (h, m, 0, 0) := by
  have hm' := takeDigits_pad2 hm 0 0 []
  rw [List.append_nil] at hm'
  simp only [readClock, takeDigits_pad2 hh, hm', takeDigits, Option.bind_eq_bind, Option.bind_some]
  simp

lemma readClock_isoOffsetClock {n : ℕ} (hn : n < 86400000000) :
    readClock (isoOffsetClock n)
      = some (n / 3600000000, n / 60000000 % 60, n / 1000000 % 60, n % 1000000) := by
  unfold isoOffsetClock
  dsimp only
  split
  · next h0 => rw [List.append_nil, readClock_short (by omega) (by omega), h0.1, h0.2]
  · have h := readClock_full (h := n / 3600000000) (m := n / 60000000 % 60)
      (s := n / 1000000 % 60) (f := n % 1000000) (by omega) (by omega) (by omega) (by omega)
    simpa only [List.append_assoc, List.cons_append] using h

lemma readZone_isoZone (o : Option UtcOffset) :
    readZone (isoZone o) = some (o.map TzInfo.fixed) := by
  cases o with
  | none => rfl
  | some o =>
      have hclock := readClock_isoOffsetClock o.bound
      have hoff : offsetOfClock (if o.microseconds < 0 then '-' else '+')
          (o.microseconds.natAbs / 3600000000, o.microseconds.natAbs / 60000000 % 60,
            o.microseconds.natAbs / 1000000 % 60, o.microseconds.natAbs % 1000000) = some o := by
        rw [← UtcOffset.ofMicroseconds_self o, offsetOfClock]
        refine congrArg _ ?_
        split_ifs <;> first | omega | simp_all
      have hmark : (if o.microseconds < 0 then '-' else '+') ≠ 'Z' := by split <;> decide
      rw [isoZone, isoOffset, readZone, if_neg hmark, hclock, Option.bind_some, hoff]
      rfl

lemma noMark_pad2 {n : ℕ} (h : n < 100) : ∀ c ∈ pad2 n, isZoneMark c = false := by
  intro c hc
  simp only [pad2, List.mem_cons, List.not_mem_nil, or_false] at hc
  rcases hc with rfl | rfl
  · exact isZoneMark_digitChar (by omega)
  · exact isZoneMark_digitChar (by omega)

lemma noMark_isoFraction {n : ℕ} (h : n < 1000000) :
    ∀ c ∈ isoFraction n, isZoneMark c = false := by
  intro c hc
  unfold isoFraction at hc
  split at hc
  · simp at hc
  · simp only [pad6, pad4, List.mem_cons, List.mem_append] at hc
    rcases hc with rfl | hc | hc | hc
    · decide
    all_goals exact noMark_pad2 (by omega) c hc

/-- A written clock time contains no character that could start a zone. -/
lemma noMark_isoTime (t : Time) : ∀ c ∈ isoTime t, isZoneMark c = false := by
  intro c hc
  have hh := t.hour_lt
  have hm := t.minute_lt
  have hs := t.second_lt
  simp only [isoTime, List.mem_append, List.mem_cons] at hc
  rcases hc with ((hc | rfl | hc) | rfl | hc) | hc
  · exact noMark_pad2 (by omega) c hc
  · decide
  · exact noMark_pad2 (by omega) c hc
  · decide
  · exact noMark_pad2 (by omega) c hc
  · exact noMark_isoFraction t.microsecond_lt c hc

/-- A written zone is empty or starts at its mark. -/
lemma takeWhile_isoZone (o : Option UtcOffset) :
    (isoZone o).takeWhile (fun c => !isZoneMark c) = [] := by
  cases o with
  | none => rfl
  | some o =>
      rw [isoZone, isoOffset, List.takeWhile_cons]
      split_ifs <;> simp_all [isZoneMark]

lemma readTime_written (t : Time) (o : Option UtcOffset) :
    readTime (isoTime t ++ isoZone o) = some (t, o.map TzInfo.fixed) := by
  have hno : ∀ c ∈ isoTime t, (!isZoneMark c) = true := by
    intro c hc
    rw [noMark_isoTime t c hc]
    rfl
  have hdrop : (isoZone o).dropWhile (fun c => !isZoneMark c) = isoZone o := by
    have h := List.takeWhile_append_dropWhile (p := fun c => !isZoneMark c) (l := isoZone o)
    rwa [takeWhile_isoZone, List.nil_append] at h
  have hh := t.hour_lt
  have hm := t.minute_lt
  have hs := t.second_lt
  have hclock : readClock (isoTime t) = some (t.hour, t.minute, t.second, t.microsecond) :=
    readClock_full (by omega) (by omega) (by omega) t.microsecond_lt
  rw [readTime, List.takeWhile_append_of_pos hno, takeWhile_isoZone, List.append_nil, hclock,
    List.dropWhile_append_of_pos hno, hdrop, readZone_isoZone]
  simp

lemma readDate_written (d : Date) (rest : List Char) :
    readDate (isoDate d ++ rest) = some (d, rest) := by
  have hy : d.year < 10000 := by have := d.year_mem; omega
  have hm : d.month < 100 := by have := d.month_mem; omega
  have hW : Nat.digitChar (d.month / 10) ≠ 'W' := by
    have : d.month / 10 < 10 := by omega
    interval_cases d.month / 10 <;> decide
  have hmonth := takeDigits_pad2 hm 0 0 ('-' :: (pad2 d.day ++ rest))
  have hday := takeDigits_pad2 d.day_lt 0 0 rest
  simp only [isoDate, List.append_assoc, List.cons_append, readDate, takeDigits_pad4 hy,
    takeDigits, Option.bind_eq_bind, Option.bind_some]
  split
  · next h =>
      simp only [pad2, List.cons_append, List.cons.injEq, true_and] at h
      exact absurd h.1 hW
  · next h => simp at h
  · next cs _ h =>
      obtain rfl := (List.cons.inj h).2
      rw [hmonth]
      simp [takeDigits, hday]
  · next h => exact absurd rfl (h _)

/-- **Reading back what was written.** -/
theorem fromisoformat_isoformat (d : Datetime) : fromisoformat d.isoformat = some d.detached := by
  have htime := readTime_written d.time d.utcoffset
  rw [fromisoformat, Datetime.isoformat, String.toList_ofList, readDate_written]
  simp [htime, Datetime.detached]

end WebChecker
