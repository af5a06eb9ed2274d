import WebChecker.Drivers.BcParks.Complete

/-!
# What escapes from a check

The parsers raise nothing but parse errors, whatever the JSON.  What comes after them has partial
operations of its own, and this file tells which of them can fail: `check_settles_iff` says for
which responses a check returns or raises a `DriverError`.

Table lookups and the constructor of an opportunity never fail on parsed values.  Date arithmetic
does at the ends of the calendar, and the constructor of the snapshot does when two keys of the
reservation response denote one date, which the readers of dates allow (`sameDate_escapes`).
-/

namespace WebChecker

open Results

/-! ## One turn of the loop -/

section Building

variable (zone : ProviderZone) {config : BCParksDayUseConfig} (parkName : String)
  {providerConfig : ProviderConfig} {facility : Facility} {reservations : List ReservationSlot}

/-- The slot of the date is over at that time of the provider. -/
def SlotOver (zone : ProviderZone) (config : BCParksDayUseConfig) (now : Datetime) (d : Date) :
    Prop :=
  (slotWindow zone config.parkId d config.slot).2.wall ≤ now.wall

instance (now : Datetime) (d : Date) : Decidable (SlotOver zone config now d) :=
  inferInstanceAs (Decidable (_ ≤ _))

variable (config) in
/-- The constructor accepts what the loop gives it: none of its texts is blank. -/
lemma exists_parksOpportunity (d : Date) (availability : Availability)
    (startsAt : Option Datetime) (attributes : Attributes) :
    ∃ o, Opportunity.create (opportunityId config config.facility d config.slot)
      (opportunityTitle parkName config.facility d config.slot) availability startsAt
      (some (config.baseUrl ++ "/dayuse/")) attributes = .ok o := by
  have hid : strip (opportunityId config config.facility d config.slot) ≠ "" :=
    strip_ne_empty ⟨':', by simp [opportunityId], by decide⟩
  have htitle : strip (opportunityTitle parkName config.facility d config.slot) ≠ "" :=
    strip_ne_empty ⟨'—', by simp [opportunityTitle], by decide⟩
  have hurl : strip (config.baseUrl ++ "/dayuse/") ≠ "" :=
    strip_ne_empty ⟨'/', by simp, by decide⟩
  rw [Opportunity.create, dif_neg hid, dif_neg htitle, dif_pos (by simpa using hurl)]
  exact ⟨_, rfl⟩

/-- **One turn of the loop in the window**: nothing if the slot is over, and otherwise an
opportunity or the exception of the date arithmetic. -/
lemma buildOpportunity_window {now : Datetime} {latest : Date} {item : ReservationSlot}
    (hwindow : now.date ≤ item.date ∧ item.date ≤ latest) (hslot : item.slot = config.slot)
    (hname : facility.name = config.facility)
    (hoffered : (facility.bookingTimes.lookup config.slot).isSome = true) :
    let r := buildOpportunity zone config parkName facility now latest item
    (SlotOver zone config now item.date → r = .ok none) ∧
      (¬ SlotOver zone config now item.date →
        (facility.bookingDaysAhead < item.date.toordinal →
          ∃ o, r = .ok (some o) ∧ o.id = parksId config item.date) ∧
        (item.date.toordinal ≤ facility.bookingDaysAhead → r = .error .overflowError)) := by
  obtain ⟨capacity, hcapacity⟩ := Option.isSome_iff_exists.mp hoffered
  dsimp only
  rw [buildOpportunity, if_pos hwindow]
  dsimp only
  rw [hslot]
  refine ⟨fun hover => if_pos hover, fun hover => ?_⟩
  rw [if_neg (by exact hover)]
  constructor
  · intro hearly
    cases hopening : item.date.addDays (-facility.bookingDaysAhead) with
    | none =>
        rw [Date.addDays_eq_none] at hopening
        have hlast := item.date.toordinal_le_last
        omega
    | some openingDate =>
        simp only [hcapacity, hname]
        split
        · next o hcreate => exact ⟨o, rfl, (Opportunity.create_fields hcreate).1⟩
        · next e hcreate =>
            obtain ⟨o, ho⟩ := exists_parksOpportunity config parkName item.date _ _ _
            rw [ho] at hcreate
            simp at hcreate
  · intro hlate
    have hopening : item.date.addDays (-facility.bookingDaysAhead) = none := by
      rw [Date.addDays_eq_none]
      omega
    rw [hopening]

/-! ## The loop and the constructor of the snapshot -/

/-- The reservations of the slot of the configuration that is not over. -/
def upcoming (zone : ProviderZone) (config : BCParksDayUseConfig) (now : Datetime)
    (reservations : List ReservationSlot) : List ReservationSlot :=
  reservations.filter fun item => item.slot = config.slot ∧ ¬ SlotOver zone config now item.date

/-- The reservations pass the checks that come before the loop: their dates are those of the
booking window, each has the slot of the configuration, and no maximum exceeds the pass limit. -/
structure PassesChecks (config : BCParksDayUseConfig) (providerConfig : ProviderConfig)
    (facility : Facility) (today : Date) (reservations : List ReservationSlot) : Prop where
  dates : ∀ d, d ∈ reservations.map ReservationSlot.date ↔
    today ≤ d ∧ d.toordinal ≤ today.toordinal + facility.bookingDaysAhead
  slots : ∀ d ∈ reservations.map ReservationSlot.date,
    d ∈ (reservations.filter fun item => item.slot = config.slot).map ReservationSlot.date
  limit : ∀ item ∈ reservations.filter fun item => item.slot = config.slot,
    item.maxReservable ≤ providerConfig.passLimit facility.type

/-- **The loop succeeds** if every upcoming date has an opening day in the calendar. -/
lemma loop_ok {now : Datetime} {latest : Date} {matching : List ReservationSlot}
    (hmatching : ∀ item ∈ matching, item.slot = config.slot)
    (hwindow : ∀ item ∈ matching, now.date ≤ item.date ∧ item.date ≤ latest)
    (hname : facility.name = config.facility)
    (hoffered : (facility.bookingTimes.lookup config.slot).isSome = true)
    (hearly : ∀ item ∈ matching, ¬ SlotOver zone config now item.date →
      facility.bookingDaysAhead < item.date.toordinal) :
    ∃ rs, matching.mapM (buildOpportunity zone config parkName facility now latest) = .ok rs ∧
      rs.reduceOption.map Opportunity.id =
        ((matching.filter fun item => ¬ SlotOver zone config now item.date).map
          ReservationSlot.date).map (parksId config) := by
  have hturn := fun item hitem => buildOpportunity_window zone parkName
    (hwindow item hitem) (hmatching item hitem) hname hoffered
  obtain ⟨rs, hrs⟩ := exists_mapM_eq_ok fun item (hitem : item ∈ matching) => by
    by_cases hover : SlotOver zone config now item.date
    · exact ⟨none, (hturn item hitem).1 hover⟩
    · obtain ⟨o, ho, _⟩ := ((hturn item hitem).2 hover).1 (hearly item hitem hover)
      exact ⟨some o, ho⟩
  refine ⟨rs, hrs, ?_⟩
  have hlists : List.Forall₂ (fun item o => o.id = parksId config item.date)
      (matching.filter fun item => ¬ SlotOver zone config now item.date) rs.reduceOption := by
    refine forall₂_reduceOption (mapM_eq_ok_iff.mp hrs) (fun item hitem hbuild => ?_)
      fun item hitem o hbuild => ?_
    · by_contra hshown
      have hover : ¬ SlotOver zone config now item.date := by simpa using hshown
      obtain ⟨o, ho, _⟩ := ((hturn item hitem).2 hover).1 (hearly item hitem hover)
      rw [ho] at hbuild
      simp at hbuild
    · have hover : ¬ SlotOver zone config now item.date := by
        intro hover
        rw [(hturn item hitem).1 hover] at hbuild
        simp at hbuild
      obtain ⟨o', ho', hid⟩ := ((hturn item hitem).2 hover).1 (hearly item hitem hover)
      rw [ho', Except.ok.injEq, Option.some.injEq] at hbuild
      exact ⟨by simpa using hover, hbuild ▸ hid⟩
  rw [List.map_map]
  exact map_eq_of_forall₂ hlists fun item o hid => hid

/-- **The loop overflows** if the opening day of an upcoming date is before the calendar. -/
lemma loop_overflows {now : Datetime} {latest : Date} {matching : List ReservationSlot}
    (hmatching : ∀ item ∈ matching, item.slot = config.slot)
    (hwindow : ∀ item ∈ matching, now.date ≤ item.date ∧ item.date ≤ latest)
    (hname : facility.name = config.facility)
    (hoffered : (facility.bookingTimes.lookup config.slot).isSome = true)
    {item : ReservationSlot} (hitem : item ∈ matching)
    (hover : ¬ SlotOver zone config now item.date)
    (hlate : item.date.toordinal ≤ facility.bookingDaysAhead) :
    matching.mapM (buildOpportunity zone config parkName facility now latest)
      = .error .overflowError := by
  have hturn := fun item hitem => buildOpportunity_window zone parkName
    (hwindow item hitem) (hmatching item hitem) hname hoffered
  obtain ⟨e, he, rfl⟩ := exists_mapM_eq_error (P := (· = BCParksFailure.overflowError)) hitem
    (((hturn item hitem).2 hover).2 hlate) fun other hother => by
      by_cases hover' : SlotOver zone config now other.date
      · simp [(hturn other hother).1 hover']
      · rcases lt_or_ge facility.bookingDaysAhead other.date.toordinal with hearly | hlate'
        · obtain ⟨o, ho, _⟩ := ((hturn other hother).2 hover').1 hearly
          simp [ho]
        · simp [((hturn other hother).2 hover').2 hlate']
  exact he

/-- The constructor of the snapshot refuses repeated identifiers, with an exception that is not
the driver's. -/
lemma raises_checkResult {checkedAt : Datetime} (haware : checkedAt.tzinfo.isSome = true)
    (opportunities : List Opportunity) :
    BCParks.RaisesDriverError (checkResult checkedAt opportunities) ↔
      (opportunities.map Opportunity.id).Nodup := by
  rw [checkResult]
  split_ifs with hempty
  · simp [hempty, BCParksFailure.isDriverError]
  · rw [CheckResult.create, dif_pos haware]
    by_cases hids : (opportunities.map Opportunity.id).Nodup
    · rw [dif_pos hids]
      exact iff_of_true (raises_ok _) hids
    · rw [dif_neg hids]
      simp [hids, BCParksFailure.isDriverError]

/-! ## Everything after the parsers -/

/-- **The inputs that the driver handles**: the provider's time and the last day of the window are
in the calendar, and if the reservations pass the checks before the loop, the opening days of the
upcoming dates are too and no upcoming date is there twice. -/
def Settles (zone : ProviderZone) (config : BCParksDayUseConfig) (providerConfig : ProviderConfig)
    (facility : Facility) (reservations : List ReservationSlot) : Prop :=
  ∃ now, zone.astimezone facility.currentTime = some now ∧
    now.date.toordinal + facility.bookingDaysAhead ≤ 3652059 ∧
    (PassesChecks config providerConfig facility now.date reservations →
      (∀ item ∈ upcoming zone config now reservations,
        facility.bookingDaysAhead < item.date.toordinal) ∧
      ((upcoming zone config now reservations).map ReservationSlot.date).Nodup)

lemma shiftDate_eq_error {d : Date} {days : ℤ} (h : 3652059 < d.toordinal + days) :
    shiftDate d days = .error .overflowError := by
  have hnone : d.addDays days = none := Date.addDays_eq_none.mpr (by omega)
  rw [shiftDate, hnone]

lemma exists_shiftDate {d : Date} {days : ℕ} (h : d.toordinal + days ≤ 3652059) :
    ∃ e, shiftDate d days = .ok e := by
  have hpos := d.toordinal_pos
  cases hadd : d.addDays days with
  | none => exact absurd (Date.addDays_eq_none.mp hadd) (by omega)
  | some e => exact ⟨e, by rw [shiftDate, hadd]⟩

variable (config providerConfig reservations) in
/-- The checks before the loop pass exactly on consistent reservations. -/
lemma passesChecks_iff {today : Date} {expected : List Date}
    (hexpected : ∀ d, d ∈ expected ↔
      today ≤ d ∧ d.toordinal ≤ today.toordinal + facility.bookingDaysAhead) :
    PassesChecks config providerConfig facility today reservations ↔
      checkDates expected (reservations.map ReservationSlot.date) = .ok () ∧
      checkSlot config.slot (reservations.map ReservationSlot.date)
        ((reservations.filter fun item => item.slot = config.slot).map ReservationSlot.date)
          = .ok () ∧
      checkPassLimit facility.type (providerConfig.passLimit facility.type)
        (reservations.filter fun item => item.slot = config.slot) = .ok () := by
  constructor
  · intro h
    have hdates : ∀ d, d ∈ reservations.map ReservationSlot.date ↔ d ∈ expected :=
      fun d => (h.dates d).trans (hexpected d).symm
    exact ⟨if_pos ⟨fun d => (hdates d).mp, fun d => (hdates d).mpr⟩, if_pos h.slots,
      if_pos h.limit⟩
  · rintro ⟨hdates, hslots, hlimit⟩
    obtain ⟨hresponse, hwindow⟩ := ParksCheck.checkDates_ok hdates
    exact ⟨fun d => Iff.trans ⟨hresponse d, hwindow d⟩ (hexpected d),
      ParksCheck.checkSlot_ok hslots, ParksCheck.checkPassLimit_ok hlimit⟩

/-- The loop and the constructor, on consistent reservations. -/
lemma raises_loop_iff {now : Datetime} {latest : Date} {checkedAt : Datetime}
    (haware : checkedAt.tzinfo.isSome = true)
    (hlatest : latest.toordinal = now.date.toordinal + facility.bookingDaysAhead)
    (hname : facility.name = config.facility)
    (hoffered : (facility.bookingTimes.lookup config.slot).isSome = true)
    (hpasses : PassesChecks config providerConfig facility now.date reservations) :
    BCParks.RaisesDriverError (do
        let opportunities ← (reservations.filter fun item => item.slot = config.slot).mapM
          (buildOpportunity zone config parkName facility now latest)
        checkResult checkedAt opportunities.reduceOption) ↔
      (∀ item ∈ upcoming zone config now reservations,
        facility.bookingDaysAhead < item.date.toordinal) ∧
      ((upcoming zone config now reservations).map ReservationSlot.date).Nodup := by
  set matching := reservations.filter fun item => item.slot = config.slot with hmatching
  have hslot : ∀ item ∈ matching, item.slot = config.slot := by
    intro item hitem
    simpa using (List.mem_filter.mp hitem).2
  have hwindow : ∀ item ∈ matching, now.date ≤ item.date ∧ item.date ≤ latest := by
    intro item hitem
    have hdate := (hpasses.dates item.date).mp
      (List.mem_map_of_mem (List.mem_of_mem_filter hitem))
    exact ⟨hdate.1, Date.le_iff.mpr (hdate.2.trans hlatest.ge)⟩
  have hupcoming : upcoming zone config now reservations =
      matching.filter fun item => ¬ SlotOver zone config now item.date := by
    rw [upcoming, hmatching, List.filter_filter]
    exact List.filter_congr fun item _ => by simp only [Bool.decide_and, Bool.and_comm]
  have hmem : ∀ item, item ∈ upcoming zone config now reservations ↔
      item ∈ matching ∧ ¬ SlotOver zone config now item.date := by
    intro item
    rw [hupcoming, List.mem_filter, decide_eq_true_eq]
  by_cases hearly : ∀ item ∈ upcoming zone config now reservations,
      facility.bookingDaysAhead < item.date.toordinal
  · obtain ⟨rs, hrs, hids⟩ := loop_ok zone parkName hslot hwindow hname
      hoffered fun item hitem hover => hearly item ((hmem item).mpr ⟨hitem, hover⟩)
    rw [hrs, ok_bind, raises_checkResult haware, hids, ← hupcoming,
      List.nodup_map_iff (parksId_injective config)]
    exact (and_iff_right hearly).symm
  · have hsome := hearly
    push Not at hsome
    obtain ⟨item, hitem, hlate⟩ := hsome
    obtain ⟨hitem, hover⟩ := (hmem item).mp hitem
    rw [loop_overflows zone parkName hslot hwindow hname hoffered hitem hover hlate]
    exact iff_of_false (by simp [BCParksFailure.isDriverError]) fun h => hearly h.1

variable (providerConfig reservations) in
/-- **What escapes after the parsers.** -/
lemma raises_buildOpportunities_iff {checkedAt : Datetime}
    (haware : checkedAt.tzinfo.isSome = true) (hname : facility.name = config.facility)
    (hoffered : (facility.bookingTimes.lookup config.slot).isSome = true) :
    BCParks.RaisesDriverError (do
        let opportunities ←
          buildOpportunities zone config parkName providerConfig facility reservations
        checkResult checkedAt opportunities) ↔
      Settles zone config providerConfig facility reservations := by
  cases hnow : zone.astimezone facility.currentTime with
  | none => simp [buildOpportunities, providerTime, Settles, hnow, BCParksFailure.isDriverError]
  | some now =>
      simp only [Settles, hnow, Option.some.injEq, exists_eq_left']
      rcases lt_or_ge 3652059 (now.date.toordinal + facility.bookingDaysAhead) with hfar | hnear
      · have hlatest : shiftDate now.date facility.bookingDaysAhead = .error .overflowError :=
          shiftDate_eq_error (by omega)
        simp [buildOpportunities, providerTime, hnow, hlatest, hfar.not_ge,
          BCParksFailure.isDriverError]
      · obtain ⟨latest, hlatest⟩ := exists_shiftDate hnear
        have hoffsets : ∀ offset ∈ List.range (facility.bookingDaysAhead + 1),
            ∃ e, shiftDate now.date (offset : ℕ) = .ok e := by
          intro offset hoffset
          rw [List.mem_range] at hoffset
          exact exists_shiftDate (by omega)
        obtain ⟨expected, hexpected⟩ := exists_mapM_eq_ok hoffsets
        have hchecks := passesChecks_iff config providerConfig reservations
          (ParksCheck.mem_expectedDates hexpected)
        have hordinal : latest.toordinal = now.date.toordinal + facility.bookingDaysAhead := by
          have := ParksCheck.shiftDate_ok hlatest
          omega
        rw [and_iff_right hnear]
        have hdates := fun response =>
          (raises_checkDates expected response).imp fun _ => AboutResponse.isDriverError
        have hslots := fun response dates =>
          (raises_checkSlot config.slot response dates).imp fun _ => AboutResponse.isDriverError
        have hlimit := fun limit items =>
          (raises_checkPassLimit facility.type limit items).imp fun _ => AboutResponse.isDriverError
        simp only [buildOpportunities, providerTime, hnow, hlatest, hexpected, ok_bind, bind_assoc,
          raises_bind, hdates, hslots, hlimit, true_and, pure_eq_ok]
        have hloop := fun h : PassesChecks config providerConfig facility now.date reservations =>
          raises_loop_iff zone parkName haware hordinal hname hoffered h
        simp only [raises_bind] at hloop
        constructor
        · intro hraises hpasses
          obtain ⟨hdates, hslots, hlimit⟩ := hchecks.mp hpasses
          exact (hloop hpasses).mp (hraises () hdates () hslots () hlimit)
        · intro hsettles _ hdates _ hslots _ hlimit
          have hpasses := hchecks.mpr ⟨hdates, hslots, hlimit⟩
          exact (hloop hpasses).mpr (hsettles hpasses)

end Building

/-! ## Which responses the driver handles -/

lemma raises_findPark (config : BCParksDayUseConfig) (parks : List Park) :
    BCParks.RaisesDriverError (findPark config parks) := by
  unfold findPark
  split
  · simp [BCParksFailure.isDriverError]
  · split <;> simp [BCParksFailure.isDriverError]

lemma raises_findFacility (config : BCParksDayUseConfig) (facilities : List Facility) :
    BCParks.RaisesDriverError (findFacility config facilities) := by
  unfold findFacility
  split
  · simp [BCParksFailure.isDriverError]
  · split
    · simp [BCParksFailure.isDriverError]
    · split <;> simp [BCParksFailure.isDriverError]

lemma raises_checkAgreement (providerConfig : ProviderConfig) (facility : Facility) :
    BCParks.RaisesDriverError (checkAgreement providerConfig facility) := by
  unfold checkAgreement
  split
  · simp [BCParksFailure.isDriverError]
  · split <;> simp [BCParksFailure.isDriverError]

/-- The facility that is found has the name and the slot of the configuration. -/
lemma findFacility_ok {config : BCParksDayUseConfig} {facilities : List Facility}
    {facility : Facility} (h : findFacility config facilities = .ok facility) :
    facility.name = config.facility ∧ (facility.bookingTimes.lookup config.slot).isSome = true := by
  rw [findFacility] at h
  split at h
  · simp at h
  · next found hfind =>
      have hname : found.name = config.facility := by simpa using List.find?_some hfind
      split_ifs at h with hopen hslot
      obtain rfl := Except.ok.inj h
      exact ⟨hname, by simpa [Option.isSome_iff_ne_none] using hslot⟩

/-- The park and the facility are found, and the provider agrees with the facility. -/
structure Selects (config : BCParksDayUseConfig) (parsed : ParksResponses) (facility : Facility) :
    Prop where
  park : ∃ park, findPark config parsed.parks = .ok park
  found : findFacility config parsed.facilities = .ok facility
  agreement : checkAgreement parsed.providerConfig facility = .ok ()

/-- **A check returns or raises a `DriverError`** exactly if the inputs that get past the parsers
and the agreement checks are ones that the driver handles. -/
theorem check_settles_iff (zone : ProviderZone) (config : BCParksDayUseConfig)
    (responses : BCParks.Responses) {checkedAt : Datetime}
    (haware : checkedAt.tzinfo.isSome = true) :
    ((∃ result, BCParks.check zone config responses checkedAt = .ok result) ∨
      ∃ e, BCParks.check zone config responses checkedAt = .error e ∧ e.isDriverError = true) ↔
      ∀ parsed facility, BCParks.Parsed config responses parsed → Selects config parsed facility →
        Settles zone config parsed.providerConfig facility parsed.reservations := by
  have htail := fun parkName providerConfig (facility : Facility) reservations
      (h : facility.name = config.facility ∧
        (facility.bookingTimes.lookup config.slot).isSome = true) =>
    raises_buildOpportunities_iff zone parkName providerConfig reservations haware h.1 h.2
  have hraises : BCParks.RaisesDriverError (BCParks.check zone config responses checkedAt) ↔
      ∀ parsed facility, BCParks.Parsed config responses parsed → Selects config parsed facility →
        Settles zone config parsed.providerConfig facility parsed.reservations := by
    constructor
    · intro hcheck parsed facility hparsed hselects
      obtain ⟨park, hpark⟩ := hselects.park
      rw [BCParks.check_eq hparsed] at hcheck
      simp only [checkParks, hpark, hselects.found, hselects.agreement, ok_bind] at hcheck
      exact (htail _ _ _ _ (findFacility_ok hselects.found)).mp hcheck
    · intro hsettles
      simp only [BCParks.check, raises_bind, BCParks.raises_parseProviderConfig,
        BCParks.raises_parseParks, BCParks.raises_parseFacilities, BCParks.raises_parseReservations,
        raises_findPark, raises_findFacility, raises_checkAgreement, true_and]
      intro providerConfig hconfig parks hparks park hpark facilities hfacilities facility hfound
        _ hagreement reservations hreservations
      have h := (htail park.name _ _ _ (findFacility_ok hfound)).mpr
        (hsettles ⟨providerConfig, parks, facilities, reservations⟩ facility
          ⟨hconfig, hparks, hfacilities, hreservations⟩ ⟨⟨park, hpark⟩, hfound, hagreement⟩)
      simpa only [raises_bind] using h
  rw [← hraises]
  constructor
  · rintro (⟨result, h⟩ | ⟨e, h, he⟩)
    · simp [h]
    · simp [h, he]
  · exact fun h => h.returns_or

/-- Two keys that denote one date. -/
def sameDateResponses : BCParks.Responses :=
  southBeachResponses [morning "2026-08-01", morning "20260801", morning "2026-08-02"]

/-- **Two keys that denote one date** make the constructor of the snapshot raise a `ValueError`. -/
theorem sameDate_escapes :
    ¬ ((∃ result, BCParks.check summerZone southBeach sameDateResponses .epoch = .ok result) ∨
      ∃ e, BCParks.check summerZone southBeach sameDateResponses .epoch = .error e ∧
        e.isDriverError = true) := by
  have hcheck : (BCParks.check summerZone southBeach sameDateResponses .epoch).map (fun _ => ())
      = .error (.constructorError
          (.valueError "Check result contains duplicate opportunity IDs")) := by decide +kernel
  rintro (⟨result, h⟩ | ⟨e, h, he⟩)
  · simp [h] at hcheck
  · rw [h, map_error, Except.error.injEq] at hcheck
    simp [hcheck, BCParksFailure.isDriverError] at he

/-- The driver handles responses with different dates. -/
theorem check_settles_iff_twoDays :
    Datetime.epoch.tzinfo.isSome = true ∧
      ∀ parsed facility,
        BCParks.Parsed southBeach (southBeachResponses [morning "2026-08-01", morning "2026-08-02"])
          parsed → Selects southBeach parsed facility →
        Settles summerZone southBeach parsed.providerConfig facility parsed.reservations := by
  have haware : Datetime.epoch.tzinfo.isSome = true := rfl
  refine ⟨haware, (check_settles_iff summerZone southBeach _ haware).mp (Or.inl ?_)⟩
  exact exists_ok (x := BCParks.check summerZone southBeach
    (southBeachResponses [morning "2026-08-01", morning "2026-08-02"]) .epoch) (by decide +kernel)

end WebChecker
