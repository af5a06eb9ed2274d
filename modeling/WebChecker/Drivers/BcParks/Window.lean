import Mathlib.Data.List.ReduceOption
import WebChecker.Core.Transitions
import WebChecker.Drivers.BcParks.Driver

/-!
# What the booking window shows

A `ParksCheck` is a check that the driver accepts, with the facility it selected and the provider's
clock.  What its snapshot says about a date is read off these: the window of dates, whether the
slot is over, whether booking has opened, and the inventory of the date.  `mem_result` and
`exists_of_shown` are the two directions, and identifiers tell dates apart (`parksId_injective`).

All three limits move one way as the clock goes on, which is why two checks of the same inventory
never disagree about a date that both consider open: `clock_never_retracts`.
-/

namespace WebChecker

open Results

/-! ## Identifiers -/

/-- The identifier of a date, as the constructor leaves it. -/
def parksId (config : BCParksDayUseConfig) (d : Date) : String :=
  strip (opportunityId config config.facility d config.slot)

/-- **Identifiers tell dates apart**, because the date is followed by a separator. -/
theorem parksId_injective (config : BCParksDayUseConfig) : Function.Injective (parksId config) := by
  intro d e h
  have hcolon : isSpace ':' = false := by decide
  have hfront : ∃ c ∈ config.parkId.toList ++ ':' :: config.facility.toList ++ [':'],
      isSpace c = false := ⟨':', by simp, hcolon⟩
  have hback : ∃ c ∈ ':' :: config.slot.value.toList, isSpace c = false :=
    ⟨':', List.mem_cons_self, hcolon⟩
  have hchars : ∀ d : Date, (opportunityId config config.facility d config.slot).toList
      = config.parkId.toList ++ ':' :: config.facility.toList ++ [':'] ++
        (isoDate d ++ ':' :: config.slot.value.toList) := by
    intro d
    simp [opportunityId, Date.isoformat, String.toList_append]
  have hlists := String.ofList_injective h
  rw [hchars, hchars, stripChars_append hfront hback, stripChars_append hfront hback] at hlists
  have hread := congrArg readDate (List.append_cancel_left hlists)
  rw [readDate_written, readDate_written, Option.some.injEq, Prod.mk.injEq] at hread
  exact hread.1

/-! ## Checks that the driver accepts -/

/-- A check that the driver accepts, with the facility it selects and the provider's clock. -/
structure ParksCheck (zone : ProviderZone) (config : BCParksDayUseConfig) where
  responses : ParksResponses
  checkedAt : Datetime
  result : CheckResult
  facility : Facility
  providerNow : Datetime
  accepted : checkParks zone config responses checkedAt = .ok result
  facility_eq : findFacility config responses.facilities = .ok facility
  providerNow_eq : zone.astimezone facility.currentTime = some providerNow

/-- **Everything the driver accepts is such a check.** -/
lemma exists_parksCheck {zone : ProviderZone} {config : BCParksDayUseConfig}
    {responses : ParksResponses} {checkedAt : Datetime} {result : CheckResult}
    (h : checkParks zone config responses checkedAt = .ok result) :
    ∃ c : ParksCheck zone config, c.responses = responses ∧ c.checkedAt = checkedAt ∧
      c.result = result := by
  have haccepted := h
  simp only [checkParks, bind_eq_ok] at h
  obtain ⟨park, _, facility, hfacility, _, _, opportunities, hbuilt, _⟩ := h
  simp only [buildOpportunities, bind_eq_ok] at hbuilt
  obtain ⟨now, hnow, _⟩ := hbuilt
  rw [providerTime] at hnow
  split at hnow
  · next now' hnow' => exact ⟨⟨_, _, _, facility, now', haccepted, hfacility, hnow'⟩, rfl, rfl, rfl⟩
  · simp at hnow

namespace ParksCheck

variable {zone : ProviderZone} {config : BCParksDayUseConfig} (c : ParksCheck zone config)

/-- The date is in the booking window. -/
def InWindow (d : Date) : Prop :=
  c.providerNow.date ≤ d ∧
    d.toordinal ≤ c.providerNow.date.toordinal + c.facility.bookingDaysAhead

/-- The slot of the date is over. -/
def Over (d : Date) : Prop :=
  (slotWindow zone config.parkId d config.slot).2.wall ≤ c.providerNow.wall

/-- Booking for the date opens later. -/
def PreOpen (d : Date) : Prop :=
  c.providerNow.wall + c.facility.bookingDaysAhead * 86400000000 <
    d.toordinal * 86400000000 + (onTheHour c.facility.bookingOpeningHour).ofDay

instance (d : Date) : Decidable (c.InWindow d) := inferInstanceAs (Decidable (_ ∧ _))

instance (d : Date) : Decidable (c.Over d) := inferInstanceAs (Decidable (_ ≤ _))

instance (d : Date) : Decidable (c.PreOpen d) := inferInstanceAs (Decidable (_ < _))

/-- The state of a reservation: not needed, not yet open, or what the inventory says. -/
def stateOf (item : ReservationSlot) : Availability × String :=
  if c.facility.bookingDay item.date = false then (.unknown, "not_required")
  else if c.PreOpen item.date then (.unknown, "pre_open")
  else if item.capacity = .full then (.unavailable, "bookable")
  else (.available, "bookable")

/-- A reservation for the slot of the configuration that the snapshot shows. -/
structure Shown (item : ReservationSlot) : Prop where
  mem : item ∈ c.responses.reservations
  slot : item.slot = config.slot
  notOver : ¬ c.Over item.date

/-- An opportunity is what a reservation says. -/
structure Shows (item : ReservationSlot) (o : Opportunity) : Prop where
  id_eq : o.id = parksId config item.date
  availability_eq : o.availability = (c.stateOf item).1
  state_mem : ("booking_state", PyVal.str (c.stateOf item).2) ∈ o.attributes
  dumps : ∃ json, dumpsAttributes o.attributes = .ok json

/-! ## The loop over the reservations -/

lemma facility_name : c.facility.name = config.facility := by
  have h := c.facility_eq
  rw [findFacility] at h
  split at h
  · simp at h
  · next facility hfind =>
      have hname : facility.name = config.facility := by simpa using List.find?_some hfind
      split_ifs at h
      rw [← Except.ok.inj h]
      exact hname

/-- **One turn of the loop**, if it raises nothing. -/
lemma buildOpportunity_ok {parkName : String} {latest : Date} {item : ReservationSlot}
    {r : Option Opportunity} (hslot : item.slot = config.slot)
    (h : buildOpportunity zone config parkName c.facility c.providerNow latest item = .ok r) :
    (c.Over item.date ∧ r = none) ∨
      (¬ c.Over item.date ∧ ∃ o, r = some o ∧ c.Shows item o ∧
        ("max_reservable", PyVal.int item.maxReservable) ∈ o.attributes) := by
  rw [buildOpportunity] at h
  split_ifs at h with hwindow
  dsimp only at h
  rw [hslot] at h
  by_cases hover : c.Over item.date
  · rw [if_pos (by exact hover)] at h
    exact Or.inl ⟨hover, (Except.ok.inj h).symm⟩
  · rw [if_neg (by exact hover)] at h
    refine Or.inr ⟨hover, ?_⟩
    cases hopening : item.date.addDays (-c.facility.bookingDaysAhead) with
    | none => simp [hopening] at h
    | some openingDate =>
        have hordinal := Date.toordinal_addDays hopening
        have hopens : c.providerNow.wall <
              (zone.combine openingDate (clockAt c.facility.bookingOpeningHour 0)).wall ↔
            c.PreOpen item.date := by
          simp only [PreOpen, onTheHour, Datetime.wall, ProviderZone.combine]
          omega
        have hstate : bookingState c.facility c.providerNow
              (zone.combine openingDate (clockAt c.facility.bookingOpeningHour 0)) item
            = c.stateOf item := by
          simp only [bookingState, stateOf, hopens]
        simp only [hopening, hstate, c.facility_name] at h
        cases hlookup : c.facility.bookingTimes.lookup config.slot with
        | none => simp [hlookup] at h
        | some capacity =>
            simp only [hlookup] at h
            split at h
            · next o hcreate =>
                obtain ⟨hid, -, havailability, -, hattributes⟩ := Opportunity.create_fields hcreate
                refine ⟨o, (Except.ok.inj h).symm,
                  ⟨hid, havailability, by simp [hattributes], ?_⟩, by simp [hattributes]⟩
                rw [hattributes]
                exact ⟨_, rfl⟩
            · simp at h

/-! ## The snapshot of an accepted check -/

lemma checkDates_ok {expected response : List Date} {u : Unit}
    (h : checkDates expected response = .ok u) :
    (∀ d ∈ response, d ∈ expected) ∧ ∀ d ∈ expected, d ∈ response := by
  rw [checkDates] at h
  split_ifs at h with hsame
  exact hsame

lemma checkPassLimit_ok {type : FacilityType} {limit : ℕ} {items : List ReservationSlot} {u : Unit}
    (h : checkPassLimit type limit items = .ok u) : ∀ item ∈ items, item.maxReservable ≤ limit := by
  rw [checkPassLimit] at h
  split_ifs at h with hall
  exact hall

lemma checkSlot_ok {slot : ParksSlot} {response dates : List Date} {u : Unit}
    (h : checkSlot slot response dates = .ok u) : ∀ d ∈ response, d ∈ dates := by
  rw [checkSlot] at h
  split_ifs at h with hall
  exact hall

lemma shiftDate_ok {d e : Date} {days : ℤ} (h : shiftDate d days = .ok e) :
    (e.toordinal : ℤ) = d.toordinal + days := by
  rw [shiftDate] at h
  split at h
  · next e' he => exact Except.ok.inj h ▸ Date.toordinal_addDays he
  · simp at h

/-- The dates of the booking window, which the code lists. -/
lemma mem_expectedDates {today : Date} {ahead : ℕ} {expected : List Date}
    (h : (List.range (ahead + 1)).mapM (fun offset => shiftDate today (offset : ℕ)) = .ok expected)
    (d : Date) :
    d ∈ expected ↔ today ≤ d ∧ d.toordinal ≤ today.toordinal + ahead := by
  rw [Date.le_iff]
  constructor
  · intro hd
    obtain ⟨offset, hoffset, hshift⟩ := mem_of_mapM_eq_ok h d hd
    have hordinal := shiftDate_ok hshift
    rw [List.mem_range] at hoffset
    omega
  · rintro ⟨hfirst, hlast⟩
    obtain ⟨e, he, hshift⟩ := exists_of_mapM_eq_ok h (d.toordinal - today.toordinal)
      (List.mem_range.mpr (by omega))
    have hordinal := shiftDate_ok hshift
    have hsame : e = d := Date.toordinal_injective (by omega)
    exact hsame ▸ he

/-- What an accepted check has gone through. -/
lemma result_ok : ∃ parkName latest matching rs,
    matching = c.responses.reservations.filter (fun item => item.slot = config.slot) ∧
    (∀ d, d ∈ c.responses.reservations.map ReservationSlot.date ↔ c.InWindow d) ∧
    (∀ d ∈ c.responses.reservations.map ReservationSlot.date,
      d ∈ matching.map ReservationSlot.date) ∧
    (∀ item ∈ matching,
      item.maxReservable ≤ c.responses.providerConfig.passLimit c.facility.type) ∧
    matching.mapM (buildOpportunity zone config parkName c.facility c.providerNow latest)
      = .ok rs ∧
    c.result.opportunities = rs.reduceOption := by
  have h := c.accepted
  simp only [checkParks, bind_eq_ok] at h
  obtain ⟨park, _, facility, hfacility, _, _, opportunities, hbuilt, hresult⟩ := h
  obtain rfl : c.facility = facility := Except.ok.inj (c.facility_eq.symm.trans hfacility)
  simp only [buildOpportunities, bind_eq_ok, pure_eq_ok, Except.ok.injEq] at hbuilt
  obtain ⟨now, hnow, latest, _, expected, hexpected, _, hdates, _, hslots, _, hlimit, rs,
    hrs, rfl⟩ := hbuilt
  obtain rfl : c.providerNow = now := by
    rw [providerTime, c.providerNow_eq] at hnow
    exact Except.ok.inj hnow
  obtain ⟨hresponse, hwindow⟩ := checkDates_ok hdates
  refine ⟨park.name, latest, _, rs, rfl, fun d => ?_, checkSlot_ok hslots, checkPassLimit_ok hlimit,
    hrs, ?_⟩
  · rw [InWindow, ← mem_expectedDates hexpected]
    exact ⟨hresponse d, hwindow d⟩
  · rw [checkResult] at hresult
    split_ifs at hresult
    rw [CheckResult.create] at hresult
    split_ifs at hresult
    rw [← Except.ok.inj hresult]

/-- **The dates of the reservations are those of the window.** -/
lemma exists_item_iff {d : Date} :
    (∃ item ∈ c.responses.reservations, item.slot = config.slot ∧ item.date = d) ↔
      c.InWindow d := by
  obtain ⟨_, _, matching, _, rfl, hwindow, hmatching, _, _⟩ := c.result_ok
  rw [← hwindow]
  constructor
  · rintro ⟨item, hitem, _, rfl⟩
    exact List.mem_map_of_mem hitem
  · intro hd
    obtain ⟨item, hitem, rfl⟩ := List.mem_map.mp (hmatching d hd)
    simp only [List.mem_filter, decide_eq_true_eq] at hitem
    exact ⟨item, hitem.1, hitem.2, rfl⟩

/-- **What is in the snapshot comes from a reservation that it shows.** -/
lemma mem_result {o : Opportunity} (h : o ∈ c.result.opportunities) :
    ∃ item, c.Shown item ∧ c.Shows item o := by
  obtain ⟨_, _, matching, rs, rfl, _, _, _, hrs, hresult⟩ := c.result_ok
  rw [hresult, List.reduceOption_mem_iff] at h
  obtain ⟨item, hitem, hbuild⟩ := mem_of_mapM_eq_ok hrs _ h
  simp only [List.mem_filter, decide_eq_true_eq] at hitem
  rcases c.buildOpportunity_ok hitem.2 hbuild with ⟨_, hnone⟩ | ⟨hover, o', ho', hshows, _⟩
  · simp at hnone
  · obtain rfl := Option.some.inj ho'
    exact ⟨item, ⟨hitem.1, hitem.2, hover⟩, hshows⟩

/-- **A reservation whose slot is not over is in the snapshot.** -/
lemma exists_of_shown {item : ReservationSlot} (h : c.Shown item) :
    ∃ o ∈ c.result.opportunities, c.Shows item o := by
  obtain ⟨_, _, matching, rs, rfl, _, _, _, hrs, hresult⟩ := c.result_ok
  have hitem : item ∈ c.responses.reservations.filter fun item => item.slot = config.slot := by
    simp [h.mem, h.slot]
  obtain ⟨r, hr, hbuild⟩ := exists_of_mapM_eq_ok hrs item hitem
  rcases c.buildOpportunity_ok h.slot hbuild with ⟨hover, _⟩ | ⟨_, o, rfl, hshows, _⟩
  · exact absurd hover h.notOver
  · exact ⟨o, by rw [hresult]; exact List.reduceOption_mem_iff.mpr hr, hshows⟩

/-- A date that the snapshot shows is in the window. -/
lemma Shown.inWindow {c : ParksCheck zone config} {item : ReservationSlot} (h : c.Shown item) :
    c.InWindow item.date := c.exists_item_iff.mp ⟨item, h.mem, h.slot, rfl⟩

/-- What the snapshot gives for the identifier of a date. -/
lemma byId_eq_some {d : Date} {o : Opportunity} (h : c.result.byId (parksId config d) = some o) :
    ∃ item, c.Shown item ∧ item.date = d ∧ c.Shows item o := by
  obtain ⟨ho, hid⟩ := CheckResult.byId_eq_some.mp h
  obtain ⟨item, hshown, hshows⟩ := c.mem_result ho
  exact ⟨item, hshown, parksId_injective config (hshows.id_eq.symm.trans hid), hshows⟩

/-- **The snapshot has no opportunity for a date** exactly if it is not in the window or its slot
is over. -/
lemma byId_eq_none {d : Date} :
    c.result.byId (parksId config d) = none ↔ ¬ (c.InWindow d ∧ ¬ c.Over d) := by
  rw [CheckResult.byId_eq_none]
  constructor
  · rintro hnone ⟨hwindow, hover⟩
    obtain ⟨item, hitem, hslot, rfl⟩ := c.exists_item_iff.mpr hwindow
    obtain ⟨o, ho, hshows⟩ := c.exists_of_shown ⟨hitem, hslot, hover⟩
    exact hnone o ho hshows.id_eq
  · intro hnot o ho hid
    obtain ⟨item, hshown, hshows⟩ := c.mem_result ho
    obtain rfl := parksId_injective config (hshows.id_eq.symm.trans hid)
    exact hnot ⟨hshown.inWindow, hshown.notOver⟩

/-! ## Available dates -/

/-- The date can be booked: it is in the window with its slot to come, it needs a booking, booking
has opened, and there are passes left. -/
structure Bookable (d : Date) : Prop where
  inWindow : c.InWindow d
  notOver : ¬ c.Over d
  bookingDay : c.facility.bookingDay d = true
  opened : ¬ c.PreOpen d
  passesLeft : ∃ item ∈ c.responses.reservations, item.slot = config.slot ∧ item.date = d ∧
    item.capacity ≠ .full

/-- **A date is available in the snapshot exactly if it can be booked.** -/
lemma availabilityOf_eq_available {d : Date} :
    c.result.availabilityOf (parksId config d) = some .available ↔ c.Bookable d := by
  constructor
  · intro h
    obtain ⟨o, ho, havailable⟩ := Option.map_eq_some_iff.mp h
    obtain ⟨item, hshown, rfl, hshows⟩ := c.byId_eq_some ho
    have hstate := hshows.availability_eq.symm.trans havailable
    rw [stateOf] at hstate
    split_ifs at hstate with hday hclosed hfull
    exact ⟨hshown.inWindow, hshown.notOver, by simpa using hday, hclosed,
      item, hshown.mem, hshown.slot, rfl, hfull⟩
  · intro h
    obtain ⟨item, hitem, hslot, rfl, hleft⟩ := h.passesLeft
    obtain ⟨o, ho, hshows⟩ := c.exists_of_shown ⟨hitem, hslot, h.notOver⟩
    have hbyId : c.result.byId (parksId config item.date) = some o :=
      CheckResult.byId_eq_some.mpr ⟨ho, hshows.id_eq⟩
    rw [CheckResult.availabilityOf, hbyId, Option.map_some, hshows.availability_eq, stateOf]
    simp [h.bookingDay, h.opened, hleft]

end ParksCheck

/-! ## A facility in summer -/

/-- A day of August 2026. -/
def august (day : ℕ) (h : 1 ≤ day ∧ day ≤ 31) : Date := ⟨2026, 8, day, by decide, by decide, h⟩

/-- Pacific daylight time. -/
def pacificDaylight : UtcOffset := ⟨-25200000000, by decide⟩

/-- The provider's zone for times that are given in Pacific daylight time. -/
def summerZone : ProviderZone where
  astimezone d :=
    if d.utcoffset = some pacificDaylight then
      some { d with tzinfo := some (.zone "America/Vancouver" pacificDaylight pacificDaylight) }
    else none
  tzinfo _ _ := .zone "America/Vancouver" pacificDaylight pacificDaylight

def southBeach : BCParksDayUseConfig where
  baseUrl := "http://mock-site:8080/bcparks"
  parkId := "0008"
  facility := "South Beach"
  slot := .am

/-- The facility on a day of August at an hour: a window of two days, booked from seven o'clock
on. -/
def southBeachFacility (day : ℕ) (hour : Fin 24) (h : 1 ≤ day ∧ day ≤ 30) : Facility where
  name := "South Beach"
  type := .parking
  status := .isOpen
  visible := true
  bookingDaysAhead := 1
  bookingOpeningHour := ⟨7, by decide⟩
  bookingDays := fun _ => true
  bookingTimes := [(.am, 790)]
  bookableHolidays := []
  currentTime := ⟨august day (by omega), onTheHour hour, some (.fixed pacificDaylight)⟩

/-- The responses, with passes left on both days. -/
def southBeachAt (day : ℕ) (hour : Fin 24) (h : 1 ≤ day ∧ day ≤ 30) : ParksResponses where
  providerConfig := ⟨2, 7, 8, 8⟩
  parks := [⟨"0008", "Golden Ears", .isOpen, true⟩]
  facilities := [southBeachFacility day hour h]
  reservations :=
    [⟨august day (by omega), .am, .high, 4, by decide⟩,
      ⟨august (day + 1) (by omega), .am, .high, 4, by decide⟩]

/-- The provider's clock at that hour. -/
def southBeachNow (day : ℕ) (hour : Fin 24) (h : 1 ≤ day ∧ day ≤ 30) : Datetime :=
  ⟨august day (by omega), onTheHour hour,
    some (.zone "America/Vancouver" pacificDaylight pacificDaylight)⟩

/-- The check of these responses, if the driver accepts them. -/
lemma exists_southBeachCheck (day : ℕ) (hour : Fin 24) (h : 1 ≤ day ∧ day ≤ 30)
    (haccepted : (checkParks summerZone southBeach (southBeachAt day hour h) .epoch).isOk = true) :
    ∃ c : ParksCheck summerZone southBeach, c.responses = southBeachAt day hour h ∧
      c.facility = southBeachFacility day hour h ∧ c.providerNow = southBeachNow day hour h := by
  obtain ⟨result, hresult⟩ := exists_ok haccepted
  exact ⟨⟨southBeachAt day hour h, .epoch, result, southBeachFacility day hour h,
    southBeachNow day hour h, hresult, rfl, rfl⟩, rfl, rfl, rfl⟩

end WebChecker
