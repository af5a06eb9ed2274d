import Mathlib.Data.Char
import Mathlib.Tactic.Ring
import WebChecker.Python.Calendar

/-!
# The order of times, and the order of their texts

The store compares times as text.  `Datetime.earlier` is the comparison of `datetime` itself: by
wall clock where both offsets agree, and by instant otherwise.

The order of texts is that of the wall clocks, and of the written offsets where the wall clocks
agree (`isoformat_lt_isoformat`): every field has a fixed width and precedes the smaller ones, and
what follows a fraction that is left out, the sign of the offset, is a smaller character than the
point of one that is written.  For two times in UTC this is the order of times
(`isoformat_lt_isoformat_utc`).
-/

namespace WebChecker

/-! ## Comparing times -/

/-- The wall clock reading, from the year down. -/
def Datetime.fields (d : Datetime) : List ℕ :=
  [d.date.year, d.date.month, d.date.day, d.time.hour, d.time.minute, d.time.second,
    d.time.microsecond]

/-- Microseconds since the start of year 1 in UTC, for a reading at a given offset. -/
def Datetime.instant (d : Datetime) (offset : UtcOffset) : ℤ :=
  (((ymdToOrdinal d.date.year d.date.month d.date.day * 24 + d.time.hour) * 60 + d.time.minute) * 60
      + d.time.second) * 1000000 + d.time.microsecond - offset.microseconds

/-- The instant of a reading is the reading without its offset. -/
lemma Datetime.instant_eq (d : Datetime) (offset : UtcOffset) :
    d.instant offset = d.wall - offset.microseconds := by
  simp only [instant, wall, Date.toordinal, Time.ofDay]
  push_cast
  ring

/-- `<` between two times; it is false where `datetime` raises because exactly one is naive. -/
def Datetime.earlier (a b : Datetime) : Prop :=
  match a.utcoffset, b.utcoffset with
  | none, none => a.fields < b.fields
  | some o, some o' =>
    if o = o' then a.fields < b.fields else a.instant o < b.instant o'
  | _, _ => False

instance (a b : Datetime) : Decidable (a.earlier b) := by
  unfold Datetime.earlier
  split <;> infer_instance

/-- A time that has been written and read back compares like the original. -/
lemma Datetime.earlier_detached (a b : Datetime) : a.detached.earlier b ↔ a.earlier b := by
  unfold earlier
  rw [utcoffset_detached]
  rfl

/-- The instant of a time, in microseconds. -/
def Datetime.utcInstant (d : Datetime) : ℤ := d.instant (d.utcoffset.getD .utc)

lemma Datetime.utcInstant_detached (d : Datetime) : d.detached.utcInstant = d.utcInstant := by
  rw [utcInstant, utcInstant, utcoffset_detached]
  rfl

/-- In UTC the instant is the wall clock reading. -/
lemma Datetime.utcInstant_eq_wall {d : Datetime} (h : d.utcoffset = some .utc) :
    d.utcInstant = d.wall := by
  rw [utcInstant, h, instant_eq]
  exact sub_zero _

/-- The offset depends on `fold` at this reading. -/
def TzInfo.foldDependent : TzInfo → Bool
  | fixed _ => false
  | zone _ offset otherFold => offset != otherFold

def Datetime.foldDependent (d : Datetime) : Bool := d.tzinfo.any TzInfo.foldDependent

/-- Both readings have one named zone. -/
def TzInfo.sharesZone : TzInfo → TzInfo → Bool
  | zone key _ _, zone key' _ _ => key == key'
  | _, _ => false

/-- `==` between two times.  Times of different zones are equal if they are one instant, except
where an offset depends on `fold`: such a time equals no time of another zone. -/
def Datetime.same (a b : Datetime) : Bool :=
  match a.tzinfo, b.tzinfo with
  | none, none => a.fields == b.fields
  | some z, some z' =>
    if z.sharesZone z' then a.fields == b.fields
    else a.instant z.offset == b.instant z'.offset && !z.foldDependent && !z'.foldDependent
  | _, _ => false

/-- **A time that was written and read back** equals the original unless its offset depends on
`fold`. -/
lemma Datetime.same_detached (d : Datetime) : d.same d.detached = !d.foldDependent := by
  cases h : d.tzinfo with
  | none => simp [same, detached, utcoffset, foldDependent, fields, h]
  | some z =>
      cases z <;>
        simp [same, detached, utcoffset, foldDependent, instant, h, TzInfo.sharesZone,
          TzInfo.foldDependent, TzInfo.offset]

/-! ## Comparing texts -/

lemma digitChar_lt_digitChar {m n : ℕ} (hm : m < 10) (hn : n < 10) :
    Nat.digitChar m < Nat.digitChar n ↔ m < n := by
  interval_cases m <;> interval_cases n <;> decide

lemma digitChar_inj {m n : ℕ} (hm : m < 10) (hn : n < 10) :
    Nat.digitChar m = Nat.digitChar n ↔ m = n := by
  constructor
  · intro h
    have hdigit := congrArg digitOf h
    rwa [digitOf_digitChar hm, digitOf_digitChar hn, Option.some.injEq] at hdigit
  · rintro rfl
    rfl

/-- Numbers compare by their leading digits first. -/
lemma div_mod_lt_iff {k m n : ℕ} {P : Prop} :
    (m / k < n / k ∨ m / k = n / k ∧ (m % k < n % k ∨ m % k = n % k ∧ P)) ↔
      m < n ∨ m = n ∧ P := by
  have hm := Nat.div_add_mod m k
  have hn := Nat.div_add_mod n k
  rcases lt_trichotomy (m / k) (n / k) with h | h | h
  · have hlt : m < n := Nat.lt_of_div_lt_div h
    simp [h, hlt]
  · rw [h] at hm
    have hlt : m % k < n % k ↔ m < n := by omega
    have heq : m % k = n % k ↔ m = n := by omega
    simp [h, hlt, heq]
  · have hgt : n < m := Nat.lt_of_div_lt_div h
    simp [h.not_gt, h.ne', hgt.not_gt, hgt.ne']

/-- **Two texts that start with numbers of two digits.** -/
lemma pad2_append_lt {m n : ℕ} (hm : m < 100) (hn : n < 100) (x y : List Char) :
    pad2 m ++ x < pad2 n ++ y ↔ m < n ∨ m = n ∧ x < y := by
  simp only [pad2, List.cons_append, List.nil_append, List.cons_lt_cons_iff,
    digitChar_lt_digitChar (show m / 10 < 10 by omega) (show n / 10 < 10 by omega),
    digitChar_lt_digitChar (show m % 10 < 10 by omega) (show n % 10 < 10 by omega),
    digitChar_inj (show m / 10 < 10 by omega) (show n / 10 < 10 by omega),
    digitChar_inj (show m % 10 < 10 by omega) (show n % 10 < 10 by omega), div_mod_lt_iff]

lemma pad4_append_lt {m n : ℕ} (hm : m < 10000) (hn : n < 10000) (x y : List Char) :
    pad4 m ++ x < pad4 n ++ y ↔ m < n ∨ m = n ∧ x < y := by
  rw [pad4, pad4, List.append_assoc, List.append_assoc, pad2_append_lt (by omega) (by omega),
    pad2_append_lt (by omega) (by omega), div_mod_lt_iff]

lemma pad6_append_lt {m n : ℕ} (hm : m < 1000000) (hn : n < 1000000) (x y : List Char) :
    pad6 m ++ x < pad6 n ++ y ↔ m < n ∨ m = n ∧ x < y := by
  rw [pad6, pad6, List.append_assoc, List.append_assoc, pad2_append_lt (by omega) (by omega),
    pad4_append_lt (by omega) (by omega), div_mod_lt_iff]

/-- A fraction that is left out is followed by the sign of the offset, which precedes the point. -/
lemma isoFraction_append_lt {m n : ℕ} (hm : m < 1000000) (hn : n < 1000000) {c d : Char}
    (hc : c < '.') (hd : d < '.') (x y : List Char) :
    isoFraction m ++ c :: x < isoFraction n ++ d :: y ↔ m < n ∨ m = n ∧ c :: x < d :: y := by
  have hnot {e : Char} (he : e < '.') : ¬ '.' < e ∧ '.' ≠ e :=
    ⟨fun h => Char.lt_irrefl e (Char.lt_trans he h), fun h => Char.lt_irrefl e (h ▸ he)⟩
  by_cases h0 : m = 0
  · by_cases h0' : n = 0
    · simp [isoFraction, h0, h0']
    · simp [isoFraction, h0, h0', List.cons_lt_cons_iff, hc, Nat.pos_of_ne_zero h0']
  · by_cases h0' : n = 0
    · simp [isoFraction, h0, h0', List.cons_lt_cons_iff, hnot hd]
    · rw [isoFraction, isoFraction, if_neg h0, if_neg h0', List.cons_append, List.cons_append,
        List.cons_lt_cons_iff, pad6_append_lt hm hn]
      simp

/-- A fraction that ends a text. -/
lemma isoFraction_lt {m n : ℕ} (hm : m < 1000000) (hn : n < 1000000) :
    isoFraction m < isoFraction n ↔ m < n := by
  by_cases h0 : m = 0
  · by_cases h0' : n = 0
    · simp [isoFraction, h0, h0']
    · simp [isoFraction, h0, h0', Nat.pos_of_ne_zero h0']
  · by_cases h0' : n = 0
    · simp [isoFraction, h0, h0']
    · have hdigits := pad6_append_lt hm hn [] []
      rw [List.append_nil, List.append_nil] at hdigits
      rw [isoFraction, isoFraction, if_neg h0, if_neg h0', List.cons_lt_cons_iff, hdigits]
      simp

/-! ## Comparing offsets -/

/-- The seconds of an offset, which are written only if they are not zero. -/
lemma seconds_lt {s s' f f' : ℕ} (hs : s < 60) (hs' : s' < 60) (hf : f < 1000000)
    (hf' : f' < 1000000) :
    ((if s = 0 ∧ f = 0 then [] else ':' :: (pad2 s ++ isoFraction f)) : List Char) <
        (if s' = 0 ∧ f' = 0 then [] else ':' :: (pad2 s' ++ isoFraction f')) ↔
      s < s' ∨ s = s' ∧ f < f' := by
  by_cases h0 : s = 0 ∧ f = 0
  · by_cases h0' : s' = 0 ∧ f' = 0
    · simp [h0, h0']
    · rw [if_pos h0, if_neg h0']
      simp only [List.nil_lt_cons, true_iff]
      omega
  · by_cases h0' : s' = 0 ∧ f' = 0
    · rw [if_neg h0, if_pos h0']
      simp only [List.not_lt_nil, false_iff]
      omega
    · rw [if_neg h0, if_neg h0', List.cons_lt_cons_iff, pad2_append_lt (by omega) (by omega),
        isoFraction_lt hf hf']
      simp

/-- **The magnitude of an offset** compares as its text does. -/
lemma isoOffsetClock_lt {m n : ℕ} (hm : m < 86400000000) (hn : n < 86400000000) :
    isoOffsetClock m < isoOffsetClock n ↔ m < n := by
  simp only [isoOffsetClock, List.append_assoc, List.cons_append]
  rw [pad2_append_lt (by omega) (by omega), List.cons_lt_cons_iff,
    pad2_append_lt (by omega) (by omega),
    seconds_lt (by omega) (by omega) (by omega) (by omega)]
  simp only [lt_self_iff_false, false_or, true_and]
  omega

/-- The place of an offset among written offsets: those east of UTC come first, and each side is
ordered by magnitude. -/
def UtcOffset.rank (o : UtcOffset) : ℕ :=
  if o.microseconds < 0 then 86400000000 + o.microseconds.natAbs else o.microseconds.natAbs

lemma UtcOffset.rank_injective : Function.Injective UtcOffset.rank := by
  intro o o' h
  have hbound := o.bound
  have hbound' := o'.bound
  cases o
  cases o'
  simp only [rank, UtcOffset.mk.injEq] at *
  split_ifs at h <;> omega

/-- **Written offsets** compare as their places do. -/
lemma isoOffset_lt (o o' : UtcOffset) : isoOffset o < isoOffset o' ↔ o.rank < o'.rank := by
  have hbound := o.bound
  have hbound' := o'.bound
  have hsigns : '+' < '-' := by decide
  have hsigns' : ¬ '-' < '+' ∧ '-' ≠ '+' := by decide
  rw [isoOffset, isoOffset, List.cons_lt_cons_iff, isoOffsetClock_lt hbound hbound',
    UtcOffset.rank, UtcOffset.rank]
  by_cases hneg : o.microseconds < 0
  · by_cases hneg' : o'.microseconds < 0
    · simp [hneg, hneg']
    · simp only [hneg, hneg', if_true, if_false, hsigns', false_and, or_false, false_iff]
      omega
  · by_cases hneg' : o'.microseconds < 0
    · simp only [hneg, hneg', if_true, if_false, hsigns, true_or, true_iff]
      omega
    · simp [hneg, hneg']

/-! ## Comparing times by their texts -/

/-- The fields of two dates compare as their ordinals do. -/
lemma Date.fields_chain (d e : Date) (P : Prop) :
    (d.year < e.year ∨ d.year = e.year ∧
      (d.month < e.month ∨ d.month = e.month ∧ (d.day < e.day ∨ d.day = e.day ∧ P))) ↔
      d.toordinal < e.toordinal ∨ d.toordinal = e.toordinal ∧ P := by
  have heq : d.toordinal = e.toordinal ↔ d.year = e.year ∧ d.month = e.month ∧ d.day = e.day := by
    rw [Date.toordinal_injective.eq_iff]
    cases d
    cases e
    simp
  rw [Date.toordinal_lt_iff, heq, Date.before]
  simp only [or_assoc, and_assoc, ← and_or_left]

/-- The fields of two clock readings compare as the readings do. -/
lemma Time.fields_chain (s t : Time) (P : Prop) :
    (s.hour < t.hour ∨ s.hour = t.hour ∧ (s.minute < t.minute ∨ s.minute = t.minute ∧
      (s.second < t.second ∨ s.second = t.second ∧
      (s.microsecond < t.microsecond ∨ s.microsecond = t.microsecond ∧ P)))) ↔
      s.ofDay < t.ofDay ∨ s.ofDay = t.ofDay ∧ P := by
  have hm := And.intro s.minute_lt t.minute_lt
  have hs := And.intro s.second_lt t.second_lt
  have hf := And.intro s.microsecond_lt t.microsecond_lt
  rw [ofDay, ofDay]
  by_cases hP : P
  · simp only [hP, and_true]
    omega
  · simp only [hP, and_false, or_false]
    omega

/-- **The fields of two readings, one after the other**, compare as the readings do. -/
lemma Datetime.fields_chain (a b : Datetime) (P : Prop) :
    (a.date.year < b.date.year ∨ a.date.year = b.date.year ∧
      (a.date.month < b.date.month ∨ a.date.month = b.date.month ∧
      (a.date.day < b.date.day ∨ a.date.day = b.date.day ∧
      (a.time.hour < b.time.hour ∨ a.time.hour = b.time.hour ∧
      (a.time.minute < b.time.minute ∨ a.time.minute = b.time.minute ∧
      (a.time.second < b.time.second ∨ a.time.second = b.time.second ∧
      (a.time.microsecond < b.time.microsecond ∨ a.time.microsecond = b.time.microsecond ∧ P)))))))
      ↔ a.wall < b.wall ∨ a.wall = b.wall ∧ P := by
  have ha := a.time.ofDay_lt
  have hb := b.time.ofDay_lt
  rw [Time.fields_chain, Date.fields_chain, wall, wall]
  by_cases hP : P
  · simp only [hP, and_true]
    omega
  · simp only [hP, and_false, or_false]
    omega

/-- The wall clock readings compare as their fields do. -/
lemma Datetime.fields_lt (a b : Datetime) : a.fields < b.fields ↔ a.wall < b.wall := by
  simpa [fields, List.cons_lt_cons_iff] using a.fields_chain b False

/-- **The order of texts** is the order of the wall clocks, and then that of the offsets. -/
theorem isoformat_lt_isoformat {a b : Datetime} {o o' : UtcOffset} (ha : a.utcoffset = some o)
    (hb : b.utcoffset = some o') :
    a.isoformat < b.isoformat ↔ a.wall < b.wall ∨ a.wall = b.wall ∧ o.rank < o'.rank := by
  have hya : a.date.year < 10000 := by have := a.date.year_mem; omega
  have hyb : b.date.year < 10000 := by have := b.date.year_mem; omega
  have hma : a.date.month < 100 := by have := a.date.month_mem; omega
  have hmb : b.date.month < 100 := by have := b.date.month_mem; omega
  have hta := And.intro a.time.hour_lt (And.intro a.time.minute_lt a.time.second_lt)
  have htb := And.intro b.time.hour_lt (And.intro b.time.minute_lt b.time.second_lt)
  have hsign (o : UtcOffset) : (if o.microseconds < 0 then '-' else '+') < '.' := by
    split_ifs <;> decide
  rw [← a.fields_chain b, ← isoOffset_lt, String.lt_iff, Datetime.isoformat, Datetime.isoformat,
    String.toList_ofList, String.toList_ofList, ha, hb]
  simp only [isoDate, isoTime, isoZone, isoOffset, List.append_assoc, List.cons_append,
    List.cons_lt_cons_iff, lt_self_iff_false, false_or, true_and, pad4_append_lt hya hyb,
    pad2_append_lt hma hmb, pad2_append_lt a.date.day_lt b.date.day_lt,
    pad2_append_lt (show a.time.hour < 100 by omega) (show b.time.hour < 100 by omega),
    pad2_append_lt (show a.time.minute < 100 by omega) (show b.time.minute < 100 by omega),
    pad2_append_lt (show a.time.second < 100 by omega) (show b.time.second < 100 by omega),
    isoFraction_append_lt a.time.microsecond_lt b.time.microsecond_lt (hsign o) (hsign o')]

/-- **Aware times** compare as their instants. -/
lemma Datetime.earlier_iff_utcInstant {a b : Datetime} (ha : a.utcoffset.isSome = true)
    (hb : b.utcoffset.isSome = true) : a.earlier b ↔ a.utcInstant < b.utcInstant := by
  obtain ⟨o, ho⟩ := Option.isSome_iff_exists.mp ha
  obtain ⟨o', ho'⟩ := Option.isSome_iff_exists.mp hb
  rw [earlier, utcInstant, utcInstant, ho, ho', Option.getD_some, Option.getD_some]
  dsimp only
  split_ifs with hsame
  · rw [a.fields_lt b, instant_eq, instant_eq, hsame]
    omega
  · rfl

/-- **The text of a time is smaller than that of one in UTC** if its wall clock reading is. -/
lemma isoformat_lt_iff_wall {a b : Datetime} (ha : a.utcoffset.isSome = true)
    (hb : b.utcoffset = some .utc) : a.isoformat < b.isoformat ↔ (a.wall : ℤ) < b.utcInstant := by
  obtain ⟨o, ho⟩ := Option.isSome_iff_exists.mp ha
  have hrank : ¬ o.rank < UtcOffset.utc.rank := by
    rw [show UtcOffset.utc.rank = 0 from rfl]
    exact Nat.not_lt_zero _
  rw [isoformat_lt_isoformat ho hb, Datetime.utcInstant_eq_wall hb]
  simp [hrank]

/-- **In UTC the order of texts is the order of times.** -/
theorem isoformat_lt_isoformat_utc {a b : Datetime} (ha : a.utcoffset = some .utc)
    (hb : b.utcoffset = some .utc) : a.isoformat < b.isoformat ↔ a.earlier b := by
  have hearlier : a.earlier b ↔ a.fields < b.fields := by simp [Datetime.earlier, ha, hb]
  rw [isoformat_lt_isoformat ha hb, hearlier, a.fields_lt b]
  simp

end WebChecker
