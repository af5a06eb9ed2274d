import WebChecker.Python.Datetime

/-!
# Days and clock readings as numbers

Date arithmetic goes through the ordinal of a day: a date plus some days is the date with the sum
as its ordinal.  Two facts carry everything that is computed this way.  The ordinal determines the
day and orders dates as the calendar does (`toordinal_lt_iff`), and the conversion back from an
ordinal is a right inverse (`toordinal_addDays`).

Two times of one zone compare by their wall clocks, whatever the offsets: `Datetime.wall` is the
reading as a number of microseconds.
-/

namespace WebChecker

/-! ## Months and years -/

lemma daysBeforeMonth_succ (year : ℕ) {month : ℕ} (h : 1 ≤ month) :
    daysBeforeMonth year (month + 1) = daysBeforeMonth year month + daysInMonth year month := by
  obtain ⟨m, rfl⟩ := Nat.exists_eq_add_of_le h
  simp [daysBeforeMonth, List.range'_concat, Nat.add_comm 1 m]

/-- The months before a later one. -/
lemma daysBeforeMonth_add_le (year : ℕ) {month month' : ℕ} (h : 1 ≤ month) (hlt : month < month') :
    daysBeforeMonth year month + daysInMonth year month ≤ daysBeforeMonth year month' := by
  induction month', hlt using Nat.le_induction with
  | base => exact (daysBeforeMonth_succ year h).ge
  | succ m hm ih =>
      rw [daysBeforeMonth_succ year (by omega)]
      omega

/-- The days of a year, as months and as the distance to the next. -/
lemma daysBeforeMonth_thirteen (year : ℕ) :
    daysBeforeMonth year 13 = 365 + if isLeap year then 1 else 0 := by
  cases h : isLeap year <;> simp [daysBeforeMonth, List.range', daysInMonth, h]

lemma daysBeforeYear_succ {year : ℕ} (h : 1 ≤ year) :
    daysBeforeYear (year + 1) = daysBeforeYear year + 365 + if isLeap year then 1 else 0 := by
  obtain ⟨m, rfl⟩ := Nat.exists_eq_add_of_le' h
  have hcenturies : m / 100 ≤ m / 4 := Nat.div_le_div_left (by omega) (by omega)
  have hleap : isLeap (m + 1) = true ↔ 4 ∣ m + 1 ∧ (¬ 100 ∣ m + 1 ∨ 400 ∣ m + 1) := by
    simp [isLeap, Nat.dvd_iff_mod_eq_zero]
  have hcentury : 100 ∣ m + 1 → 4 ∣ m + 1 := (show 4 ∣ 100 by decide).trans
  have hfour : 400 ∣ m + 1 → 100 ∣ m + 1 := (show 100 ∣ 400 by decide).trans
  simp only [daysBeforeYear, Nat.add_sub_cancel, Nat.succ_div, hleap]
  by_cases h4 : 4 ∣ m + 1
  · by_cases h100 : 100 ∣ m + 1
    · by_cases h400 : 400 ∣ m + 1
      · simp only [h4, h100, h400, if_true, not_true, or_true, and_self]
        omega
      · simp only [h4, h100, h400, if_true, not_true, or_self, and_false, if_false]
        omega
    · have h400 : ¬ 400 ∣ m + 1 := fun h => h100 (hfour h)
      simp only [h4, h100, h400, if_true, not_false_eq_true, or_false, and_self, if_false]
      omega
  · have h100 : ¬ 100 ∣ m + 1 := fun h => h4 (hcentury h)
    have h400 : ¬ 400 ∣ m + 1 := fun h => h100 (hfour h)
    simp only [h4, h100, h400, false_and, if_false]
    omega

lemma daysBeforeYear_mono : Monotone daysBeforeYear := by
  refine monotone_nat_of_le_succ fun year => ?_
  cases year with
  | zero => decide
  | succ year =>
      rw [daysBeforeYear_succ (Nat.le_add_left 1 year)]
      omega

/-! ## The order of days -/

/-- `date.toordinal`. -/
def Date.toordinal (d : Date) : ℕ := ymdToOrdinal d.year d.month d.day

/-- A day ends before the next year begins. -/
lemma Date.toordinal_le (d : Date) : d.toordinal ≤ daysBeforeYear (d.year + 1) := by
  have hmonths := daysBeforeMonth_add_le d.year d.month_mem.1
    (show d.month < 13 by have := d.month_mem.2; omega)
  rw [daysBeforeMonth_thirteen] at hmonths
  have hday := d.day_mem.2
  rw [toordinal, ymdToOrdinal, daysBeforeYear_succ d.year_mem.1]
  omega

/-- December 31 of year 9999 is day 3652059. -/
lemma Date.toordinal_le_last (d : Date) : d.toordinal ≤ 3652059 := by
  have hyears : daysBeforeYear (d.year + 1) ≤ daysBeforeYear 10000 :=
    daysBeforeYear_mono (Nat.succ_le_succ d.year_mem.2)
  exact d.toordinal_le.trans (hyears.trans (by decide))

lemma Date.toordinal_pos (d : Date) : 0 < d.toordinal := by
  have hday := d.day_mem.1
  rw [toordinal, ymdToOrdinal]
  omega

/-- The calendar order: by year, then by month, then by day. -/
def Date.before (d e : Date) : Prop :=
  d.year < e.year ∨ d.year = e.year ∧
    (d.month < e.month ∨ d.month = e.month ∧ d.day < e.day)

lemma Date.toordinal_lt_of_before {d e : Date} (h : d.before e) : d.toordinal < e.toordinal := by
  have hd := e.day_mem.1
  rcases h with hyear | ⟨hyear, hmonth | ⟨hmonth, hday⟩⟩
  · have hle := d.toordinal_le.trans (daysBeforeYear_mono hyear)
    rw [toordinal, ymdToOrdinal] at hle ⊢
    rw [toordinal, ymdToOrdinal]
    omega
  · have hle := daysBeforeMonth_add_le d.year d.month_mem.1 hmonth
    have hlast := d.day_mem.2
    rw [toordinal, toordinal, ymdToOrdinal, ymdToOrdinal, ← hyear]
    omega
  · rw [toordinal, toordinal, ymdToOrdinal, ymdToOrdinal, ← hyear, ← hmonth]
    omega

/-- **Days are ordered as their ordinals are.** -/
theorem Date.toordinal_lt_iff {d e : Date} : d.toordinal < e.toordinal ↔ d.before e := by
  refine ⟨fun h => ?_, toordinal_lt_of_before⟩
  by_contra hnot
  have hrest : e.before d ∨ d = e := by
    by_contra hne
    rw [not_or] at hne
    obtain ⟨hback, hne⟩ := hne
    refine hne ?_
    cases d
    cases e
    simp only [Date.before, Date.mk.injEq] at *
    omega
  rcases hrest with hback | rfl
  · exact absurd (toordinal_lt_of_before hback) h.not_gt
  · exact absurd h (lt_irrefl _)

/-- **The ordinal determines the day.** -/
theorem Date.toordinal_injective : Function.Injective Date.toordinal := by
  intro d e h
  have hd : ¬ d.before e := fun hb => absurd (toordinal_lt_of_before hb) h.not_lt
  have he : ¬ e.before d := fun hb => absurd (toordinal_lt_of_before hb) h.not_gt
  cases d
  cases e
  simp only [Date.before, Date.mk.injEq] at *
  omega

/-- Dates compare as days do. -/
instance : LinearOrder Date := LinearOrder.lift' Date.toordinal Date.toordinal_injective

lemma Date.le_iff {d e : Date} : d ≤ e ↔ d.toordinal ≤ e.toordinal := Iff.rfl

lemma Date.lt_iff {d e : Date} : d < e ↔ d.toordinal < e.toordinal := Iff.rfl

/-! ## Adding days -/

/-- `date.isoweekday`: Monday is 1 and Sunday is 7. -/
def Date.isoweekday (d : Date) : ℕ := if d.toordinal % 7 = 0 then 7 else d.toordinal % 7

/-- `date.fromordinal`; `none` is its `ValueError`. -/
def Date.fromordinal (ordinal : ℤ) : Option Date :=
  if 0 < ordinal then
    let (year, month, day) := ordinalToYmd ordinal.toNat
    Date.ofYmd year month day
  else none

/-- `date + timedelta(days=days)`; `none` is its `OverflowError`. -/
def Date.addDays (d : Date) (days : ℤ) : Option Date :=
  let ordinal := d.toordinal + days
  if 0 < ordinal ∧ ordinal ≤ 3652059 then Date.fromordinal ordinal else none

/-- Months depend on a year only through its being a leap year. -/
lemma daysBeforeMonth_congr {year year' : ℕ} (h : isLeap year = isLeap year') (month : ℕ) :
    daysBeforeMonth year month = daysBeforeMonth year' month := by
  have hmonth : daysInMonth year = daysInMonth year' := by
    funext m
    simp [daysInMonth, h]
  rw [daysBeforeMonth, daysBeforeMonth, hmonth]

/-- The month that the conversion back estimates, and corrects by one. -/
def monthOfDay (year n : ℕ) : ℕ :=
  if n < daysBeforeMonth year ((n + 50) / 32) then (n + 50) / 32 - 1 else (n + 50) / 32

lemma daysInMonth_congr {year year' : ℕ} (h : isLeap year = isLeap year') (month : ℕ) :
    daysInMonth year month = daysInMonth year' month := by
  simp [daysInMonth, h]

/-- **The corrected estimate is the month of the day.** -/
lemma monthOfDay_spec (year : ℕ) {n : ℕ} (h : n < 365) :
    (1 ≤ monthOfDay year n ∧ monthOfDay year n ≤ 12) ∧
      daysBeforeMonth year (monthOfDay year n) ≤ n ∧
      n < daysBeforeMonth year (monthOfDay year n) + daysInMonth year (monthOfDay year n) := by
  -- one year of each kind, day by day
  have hcommon : ∀ n < 365, (1 ≤ monthOfDay 1 n ∧ monthOfDay 1 n ≤ 12) ∧
      daysBeforeMonth 1 (monthOfDay 1 n) ≤ n ∧
      n < daysBeforeMonth 1 (monthOfDay 1 n) + daysInMonth 1 (monthOfDay 1 n) := by
    decide +kernel
  have hleap : ∀ n < 365, (1 ≤ monthOfDay 4 n ∧ monthOfDay 4 n ≤ 12) ∧
      daysBeforeMonth 4 (monthOfDay 4 n) ≤ n ∧
      n < daysBeforeMonth 4 (monthOfDay 4 n) + daysInMonth 4 (monthOfDay 4 n) := by
    decide +kernel
  have hcongr : ∀ year', isLeap year = isLeap year' → monthOfDay year n = monthOfDay year' n := by
    intro year' hyear
    rw [monthOfDay, monthOfDay, daysBeforeMonth_congr hyear]
  cases hyear : isLeap year with
  | false =>
      have hkind : isLeap year = isLeap 1 := hyear
      rw [hcongr 1 hyear, daysBeforeMonth_congr hkind, daysInMonth_congr hkind]
      exact hcommon n h
  | true =>
      have hkind : isLeap year = isLeap 4 := hyear
      rw [hcongr 4 hyear, daysBeforeMonth_congr hkind, daysInMonth_congr hkind]
      exact hleap n h

/-- The days before a year, by the cycles of 400, 100 and 4 years it lies in. -/
lemma daysBeforeYear_cycles {a b c e : ℕ} (he : e < 4) (hc : c * 4 + e < 100)
    (hb : b * 100 + c * 4 + e < 400) :
    daysBeforeYear (a * 400 + 1 + b * 100 + c * 4 + e)
      = 146097 * a + 36524 * b + 1461 * c + 365 * e := by
  have hyears : a * 400 + 1 + b * 100 + c * 4 + e - 1 = a * 400 + b * 100 + c * 4 + e := by omega
  have h4 : (a * 400 + b * 100 + c * 4 + e) / 4 = a * 100 + b * 25 + c := by omega
  have h100 : (a * 400 + b * 100 + c * 4 + e) / 100 = a * 4 + b := by omega
  have h400 : (a * 400 + b * 100 + c * 4 + e) / 400 = a := by omega
  rw [daysBeforeYear, hyears, h4, h100, h400]
  omega

/-- December 31 is the day before the next year. -/
lemma ymdToOrdinal_lastDay {year : ℕ} (h : 1 ≤ year) :
    ymdToOrdinal year 12 31 = daysBeforeYear (year + 1) := by
  have hmonths := daysBeforeMonth_succ year (show 1 ≤ 12 by decide)
  have hdays : daysInMonth year 12 = 31 := by simp [daysInMonth]
  rw [daysBeforeMonth_thirteen, hdays] at hmonths
  rw [ymdToOrdinal, daysBeforeYear_succ h]
  omega

/-- **Converting an ordinal to a day and back.** -/
theorem ymdToOrdinal_ordinalToYmd {n : ℕ} (h : 0 < n) :
    ymdToOrdinal (ordinalToYmd n).1 (ordinalToYmd n).2.1 (ordinalToYmd n).2.2 = n := by
  have h400 := Nat.div_add_mod (n - 1) 146097
  have h100 := Nat.div_add_mod ((n - 1) % 146097) 36524
  have h4 := Nat.div_add_mod ((n - 1) % 146097 % 36524) 1461
  have h1 := Nat.div_add_mod ((n - 1) % 146097 % 36524 % 1461) 365
  have hr400 := Nat.mod_lt (n - 1) (show 0 < 146097 by decide)
  have hr100 := Nat.mod_lt ((n - 1) % 146097) (show 0 < 36524 by decide)
  have hr4 := Nat.mod_lt ((n - 1) % 146097 % 36524) (show 0 < 1461 by decide)
  have hr1 := Nat.mod_lt ((n - 1) % 146097 % 36524 % 1461) (show 0 < 365 by decide)
  rw [ordinalToYmd]
  dsimp only
  generalize (n - 1) / 146097 = a at *
  generalize (n - 1) % 146097 = r400 at *
  generalize r400 / 36524 = b at *
  generalize r400 % 36524 = r100 at *
  generalize r100 / 1461 = c at *
  generalize r100 % 1461 = r4 at *
  generalize r4 / 365 = e at *
  generalize r4 % 365 = r1 at *
  by_cases hlast : e = 4 ∨ b = 4
  · rw [if_pos hlast]
    dsimp only
    have hyear : ∃ a' b' c', a * 400 + 1 + b * 100 + c * 4 + e = a' * 400 + 1 + b' * 100 + c' * 4 ∧
        c' * 4 < 100 ∧ b' * 100 + c' * 4 < 400 ∧
        146097 * a' + 36524 * b' + 1461 * c' = n := by
      rcases hlast with rfl | rfl
      · have hcentury : b ≤ 3 := by omega
        exact ⟨a, b, c + 1, by omega, by omega, by omega, by omega⟩
      · exact ⟨a + 1, 0, 0, by omega, by omega, by omega, by omega⟩
    obtain ⟨a', b', c', hyear, hc, hb, hn⟩ := hyear
    have hcycles := daysBeforeYear_cycles (a := a') (b := b') (c := c') (e := 0) (by omega)
      (by omega) (by omega)
    simp only [Nat.add_zero, Nat.mul_zero] at hcycles
    rw [hyear, ymdToOrdinal_lastDay (by omega), Nat.sub_add_cancel (by omega), hcycles, hn]
  · rw [if_neg hlast]
    have hmonth := (monthOfDay_spec (a * 400 + 1 + b * 100 + c * 4 + e) hr1).2.1
    rw [monthOfDay] at hmonth
    have hcycles := daysBeforeYear_cycles (a := a) (b := b) (c := c) (e := e) (by omega)
      (by omega) (by omega)
    dsimp only
    rw [ymdToOrdinal, hcycles]
    omega

/-- **The conversion back gives a day of the calendar.** -/
lemma ordinalToYmd_mem (n : ℕ) :
    1 ≤ (ordinalToYmd n).1 ∧ (1 ≤ (ordinalToYmd n).2.1 ∧ (ordinalToYmd n).2.1 ≤ 12) ∧
      1 ≤ (ordinalToYmd n).2.2 ∧
      (ordinalToYmd n).2.2 ≤ daysInMonth (ordinalToYmd n).1 (ordinalToYmd n).2.1 := by
  have hr1 := Nat.mod_lt ((n - 1) % 146097 % 36524 % 1461) (show 0 < 365 by decide)
  rw [ordinalToYmd]
  dsimp only
  split
  · next hlast =>
      have hdays : ∀ year, daysInMonth year 12 = 31 := fun year => by simp [daysInMonth]
      simp only [hdays]
      omega
  · obtain ⟨hmonth, hfirst, hlast⟩ := monthOfDay_spec ((n - 1) / 146097 * 400 + 1 +
      (n - 1) % 146097 / 36524 * 100 + (n - 1) % 146097 % 36524 / 1461 * 4 +
      (n - 1) % 146097 % 36524 % 1461 / 365) hr1
    rw [monthOfDay] at hmonth hfirst hlast
    refine ⟨?_, hmonth, Nat.le_add_left 1 _, ?_⟩
    · dsimp only
      omega
    · exact Nat.succ_le_of_lt (Nat.sub_lt_left_of_lt_add hfirst hlast)

/-- Up to the last day of the calendar, the year is in it too. -/
lemma year_ordinalToYmd_le {n : ℕ} (h : 0 < n) (hlast : n ≤ 3652059) :
    (ordinalToYmd n).1 ≤ 9999 := by
  by_contra hnot
  have hyears : daysBeforeYear 10000 ≤ daysBeforeYear (ordinalToYmd n).1 :=
    daysBeforeYear_mono (by omega)
  have hback := ymdToOrdinal_ordinalToYmd h
  have hday := (ordinalToYmd_mem n).2.2.1
  have hcalendar : daysBeforeYear 10000 = 3652059 := by decide
  rw [ymdToOrdinal] at hback
  omega

/-- **Adding days fails only outside of the calendar.** -/
theorem Date.addDays_eq_none {d : Date} {days : ℤ} :
    d.addDays days = none ↔ ¬ (0 < d.toordinal + days ∧ d.toordinal + days ≤ 3652059) := by
  rw [addDays]
  split_ifs with hrange
  · obtain ⟨hyear, hmonth, hday⟩ := ordinalToYmd_mem (d.toordinal + days).toNat
    have hlast : (ordinalToYmd (d.toordinal + days).toNat).1 ≤ 9999 :=
      year_ordinalToYmd_le (by omega) (by omega)
    rw [fromordinal, if_pos hrange.1]
    dsimp only
    rw [ofYmd, dif_pos ⟨⟨hyear, hlast⟩, hmonth, hday⟩]
    simp [hrange]
  · simp [hrange]

/-- **Adding days adds them to the ordinal.** -/
theorem Date.toordinal_addDays {d e : Date} {days : ℤ} (h : d.addDays days = some e) :
    (e.toordinal : ℤ) = d.toordinal + days := by
  rw [addDays] at h
  split_ifs at h with hrange
  rw [fromordinal, if_pos hrange.1] at h
  dsimp only at h
  rw [ofYmd] at h
  split_ifs at h with hvalid
  rw [← Option.some.inj h, toordinal]
  dsimp only
  rw [ymdToOrdinal_ordinalToYmd (by omega)]
  omega

/-! ## Dates as text -/

/-- `date.isoformat()`. -/
def Date.isoformat (d : Date) : String := String.ofList (isoDate d)

/-- **A date is determined by its text.** -/
lemma Date.isoformat_injective : Function.Injective Date.isoformat := by
  intro d d' h
  have hchars : isoDate d = isoDate d' := by simpa [isoformat] using congrArg String.toList h
  have hread := readDate_written d []
  rw [hchars, readDate_written d'] at hread
  simpa using hread.symm

/-! ## Clock readings -/

/-- Microseconds since midnight. -/
def Time.ofDay (t : Time) : ℕ :=
  ((t.hour * 60 + t.minute) * 60 + t.second) * 1000000 + t.microsecond

lemma Time.ofDay_lt (t : Time) : t.ofDay < 86400000000 := by
  have hh := t.hour_lt
  have hm := t.minute_lt
  have hs := t.second_lt
  have hf := t.microsecond_lt
  rw [ofDay]
  omega

/-- The wall clock reading in microseconds: two times of one zone compare by it. -/
def Datetime.wall (d : Datetime) : ℕ := d.date.toordinal * 86400000000 + d.time.ofDay

/-- A later day is a later reading. -/
lemma Datetime.wall_lt_of_date {a b : Datetime} (h : a.date < b.date) : a.wall < b.wall := by
  have ha := a.time.ofDay_lt
  rw [Date.lt_iff] at h
  rw [wall, wall]
  omega

/-- A reading that is not later is on a day that is not later. -/
lemma Datetime.date_le_of_wall {a b : Datetime} (h : a.wall ≤ b.wall) : a.date ≤ b.date := by
  by_contra hnot
  exact absurd (wall_lt_of_date (not_le.mp hnot)) h.not_gt

end WebChecker
