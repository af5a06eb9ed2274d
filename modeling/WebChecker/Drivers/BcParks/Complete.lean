import WebChecker.Drivers.BcParks.Parser
import WebChecker.Drivers.BcParks.Window

/-!
# The snapshot of an accepted check is complete

`Window` tells what a snapshot says about one date.  Here it is the snapshot as a list: in the
order of the dates, one opportunity for each date of the booking window, except today's once its
slot is over (`check_complete`).  The list starts from decoded responses, so the parsed values are
those of `BCParks.check`.

The order comes from the parser, which sorts the reservations; that it is strict, so that no date
is there twice, comes from the constructor of the snapshot, since the identifiers of two
reservations of one date are the same.  Only today's slot can be over, because a slot is over when
the clock has passed its end and no other date of the window has begun.
-/

namespace WebChecker

open Results

namespace BCParks

/-! ## Parsed responses -/

/-- The values that the four parsers return. -/
structure Parsed (config : BCParksDayUseConfig) (responses : Responses) (parsed : ParksResponses) :
    Prop where
  providerConfig : parseProviderConfig responses.config = .ok parsed.providerConfig
  parks : parseParks responses.parks = .ok parsed.parks
  facilities : parseFacilities config.parkId responses.facilities = .ok parsed.facilities
  reservations : parseReservations responses.reservations = .ok parsed.reservations

variable {zone : ProviderZone} {config : BCParksDayUseConfig} {responses : Responses}
  {parsed : ParksResponses} {checkedAt : Datetime}

/-- **Once everything is parsed**, the check is the check on parsed responses. -/
lemma check_eq (h : Parsed config responses parsed) :
    check zone config responses checkedAt = checkParks zone config parsed checkedAt := by
  simp only [check, checkParks, h.providerConfig, h.parks, h.facilities, h.reservations, ok_bind]

/-- What the check accepts has been parsed. -/
lemma parsed_of_check {result : CheckResult}
    (h : check zone config responses checkedAt = .ok result) :
    ∃ parsed, Parsed config responses parsed ∧
      checkParks zone config parsed checkedAt = .ok result := by
  have haccepted := h
  simp only [check, bind_eq_ok] at h
  obtain ⟨providerConfig, hconfig, parks, hparks, _, _, facilities, hfacilities, _, _, _, _,
    reservations, hreservations, _⟩ := h
  have hparsed : Parsed config responses ⟨providerConfig, parks, facilities, reservations⟩ :=
    ⟨hconfig, hparks, hfacilities, hreservations⟩
  exact ⟨_, hparsed, check_eq hparsed ▸ haccepted⟩

/-- **The parser returns the reservations in the order of their dates.** -/
lemma parseReservations_sorted {value : Json} {reservations : List ReservationSlot}
    (h : parseReservations value = .ok reservations) :
    reservations.Pairwise fun a b => a.date ≤ b.date := by
  simp only [parseReservations, bind_eq_ok, pure_eq_ok, Except.ok.injEq] at h
  obtain ⟨_, _, _, _, parsed, _, rfl⟩ := h
  have htotal : Std.Total fun a b : ReservationSlot => sortKey a ≤ sortKey b :=
    ⟨fun a b => le_total (sortKey a) (sortKey b)⟩
  have htrans : IsTrans ReservationSlot fun a b => sortKey a ≤ sortKey b :=
    ⟨fun a b c => le_trans⟩
  refine (List.pairwise_insertionSort _ parsed.flatten).imp fun {a b} hkey => ?_
  rcases Prod.Lex.le_iff.mp hkey with hdate | ⟨hdate, _⟩
  · exact hdate.le
  · exact hdate.le

end BCParks

/-! ## The opportunities and their reservations -/

namespace ParksCheck

variable {zone : ProviderZone} {config : BCParksDayUseConfig} (c : ParksCheck zone config)

/-- The reservations for the slot of the configuration that is not over. -/
def shown : List ReservationSlot :=
  c.responses.reservations.filter fun item => item.slot = config.slot ∧ ¬ c.Over item.date

/-- The opportunity says what the reservation of its date says: nothing if the date needs no
booking or booking opens later, and otherwise whether there are passes left. -/
structure Displays (item : ReservationSlot) (o : Opportunity) : Prop where
  id_eq : o.id = parksId config item.date
  availability_eq : o.availability =
    if c.facility.bookingDay item.date = false ∨ c.PreOpen item.date then .unknown
    else if item.capacity = .full then .unavailable else .available
  maxReservable_mem : ("max_reservable", PyVal.int item.maxReservable) ∈ o.attributes
  maxReservable_bounds : o.availability = .available → 1 ≤ item.maxReservable ∧
    item.maxReservable ≤ c.responses.providerConfig.passLimit c.facility.type

/-- The snapshot has the dates of the window in their order, without today's slot once that is
over, and says of each what its reservation says. -/
structure Complete : Prop where
  increasing : (c.shown.map ReservationSlot.date).Pairwise (· < ·)
  dates : ∀ d, d ∈ c.shown.map ReservationSlot.date ↔
    c.InWindow d ∧ ¬ (d = c.providerNow.date ∧ c.Over d)
  displays : List.Forall₂ c.Displays c.shown c.result.opportunities
  ids_nodup : (c.result.opportunities.map Opportunity.id).Nodup

/-- **Only today's slot can be over.** -/
lemma eq_today_of_over {d : Date} (hwindow : c.InWindow d) (hover : c.Over d) :
    d = c.providerNow.date := by
  have hend : (slotWindow zone config.parkId d config.slot).2.date = d := rfl
  rw [Over] at hover
  have hdate := Datetime.date_le_of_wall hover
  rw [hend] at hdate
  exact le_antisymm hdate hwindow.1

lemma displays_of_shows {item : ReservationSlot} {o : Opportunity} (h : c.Shows item o)
    (hmax : ("max_reservable", PyVal.int item.maxReservable) ∈ o.attributes)
    (hlimit : item.maxReservable ≤ c.responses.providerConfig.passLimit c.facility.type) :
    c.Displays item o := by
  have havailability : o.availability =
      if c.facility.bookingDay item.date = false ∨ c.PreOpen item.date then .unknown
      else if item.capacity = .full then .unavailable else .available := by
    rw [h.availability_eq, stateOf]
    by_cases hday : c.facility.bookingDay item.date = false
    · simp [hday]
    · by_cases hclosed : c.PreOpen item.date
      · rw [if_neg hday, if_pos hclosed, if_pos (Or.inr hclosed)]
      · by_cases hfull : item.capacity = .full
        · simp [hday, hclosed, hfull]
        · simp [hday, hclosed, hfull]
  refine ⟨h.id_eq, havailability, hmax, fun havailable => ⟨?_, hlimit⟩⟩
  -- a capacity that is not full has a maximum, by the parser's check
  have hleft : item.capacity ≠ .full := by
    intro hfull
    rw [havailability] at havailable
    split_ifs at havailable
  exact Nat.one_le_iff_ne_zero.mpr fun hzero => hleft (item.consistent.mpr hzero)

/-- **The opportunities are those of the shown reservations**, in the same order. -/
lemma forall₂_displays : List.Forall₂ c.Displays c.shown c.result.opportunities := by
  obtain ⟨_, _, matching, rs, rfl, _, _, hlimit, hrs, hresult⟩ := c.result_ok
  have hshown : c.shown = (c.responses.reservations.filter fun item =>
      item.slot = config.slot).filter fun item => ¬ c.Over item.date := by
    rw [shown, List.filter_filter]
    exact List.filter_congr fun item _ => by simp only [Bool.decide_and, Bool.and_comm]
  rw [hshown, hresult]
  refine forall₂_reduceOption (mapM_eq_ok_iff.mp hrs) (fun item hitem hbuild => ?_)
    fun item hitem o hbuild => ?_
  · have hslot : item.slot = config.slot := by simpa using (List.mem_filter.mp hitem).2
    rcases c.buildOpportunity_ok hslot hbuild with ⟨hover, _⟩ | ⟨_, o, ho, _⟩
    · simpa using hover
    · simp at ho
  · have hslot : item.slot = config.slot := by simpa using (List.mem_filter.mp hitem).2
    rcases c.buildOpportunity_ok hslot hbuild with ⟨_, hnone⟩ | ⟨hover, o', ho', hshows, hmax⟩
    · simp at hnone
    · obtain rfl := Option.some.inj ho'
      exact ⟨by simpa using hover, c.displays_of_shows hshows hmax (hlimit item hitem)⟩

/-- **No date is shown twice**, since its identifier would be there twice. -/
lemma shown_dates_nodup : (c.shown.map ReservationSlot.date).Nodup := by
  have hids : c.result.opportunities.map Opportunity.id
      = (c.shown.map ReservationSlot.date).map (parksId config) := by
    rw [List.map_map]
    exact map_eq_of_forall₂ c.forall₂_displays fun item o h => h.id_eq
  have hnodup := c.result.ids_nodup
  rw [hids] at hnodup
  exact hnodup.of_map

/-- **The snapshot is complete**, if the reservations are in the order of their dates. -/
lemma complete (hsorted : c.responses.reservations.Pairwise fun a b => a.date ≤ b.date) :
    c.Complete := by
  refine ⟨?_, fun d => ?_, c.forall₂_displays, c.result.ids_nodup⟩
  · have hle : (c.shown.map ReservationSlot.date).Pairwise (· ≤ ·) :=
      List.pairwise_map.mpr (hsorted.filter _)
    have hne : (c.shown.map ReservationSlot.date).Pairwise (· ≠ ·) := c.shown_dates_nodup
    exact (hle.and hne).imp fun h => lt_of_le_of_ne h.1 h.2
  · simp only [shown, List.mem_map, List.mem_filter, decide_eq_true_eq]
    constructor
    · rintro ⟨item, ⟨hitem, hslot, hover⟩, rfl⟩
      exact ⟨c.exists_item_iff.mp ⟨item, hitem, hslot, rfl⟩, fun h => hover h.2⟩
    · rintro ⟨hwindow, htoday⟩
      obtain ⟨item, hitem, hslot, rfl⟩ := c.exists_item_iff.mpr hwindow
      exact ⟨item, ⟨hitem, hslot, fun hover => htoday ⟨c.eq_today_of_over hwindow hover, hover⟩⟩,
        rfl⟩

end ParksCheck

/-! ## The window check of the loop -/

section Loop

variable (zone : ProviderZone) (config : BCParksDayUseConfig) (parkName : String)
  (providerConfig : ProviderConfig) (facility : Facility) (reservations : List ReservationSlot)

/-- What the loop raises for a date outside the window. -/
def outsideWindow (d : Date) : BCParksFailure :=
  .parseError ("Reservation date " ++ d.isoformat ++ " is outside the facility booking window")

/-- A parse error about the response as a whole, whose message begins with another word. -/
def AboutResponse (e : BCParksFailure) : Prop :=
  ∃ start rest : String, start.toList[12]? = some 'r' ∧ e = .parseError (start ++ rest)

lemma AboutResponse.isDriverError {e : BCParksFailure} (h : AboutResponse e) :
    e.isDriverError = true := by
  obtain ⟨start, rest, _, rfl⟩ := h
  rfl

lemma AboutResponse.ne_outsideWindow {e : BCParksFailure} (h : AboutResponse e) (d : Date) :
    e ≠ outsideWindow d := by
  obtain ⟨start, rest, hstart, rfl⟩ := h
  have hlength : 12 < start.toList.length := by
    by_contra hnot
    rw [List.getElem?_eq_none (not_lt.mp hnot)] at hstart
    simp at hstart
  rw [outsideWindow, ne_eq, BCParksFailure.parseError.injEq, String.append_assoc]
  exact append_ne_append 12 hlength (by decide) (by rw [hstart]; decide) _ _

lemma raises_checkDates (expected response : List Date) :
    Raises AboutResponse (checkDates expected response) := by
  unfold checkDates
  dsimp only
  split
  · exact raises_ok ()
  · exact (raises_error _).mpr ⟨_, _, by decide, rfl⟩

lemma raises_checkSlot (slot : ParksSlot) (response dates : List Date) :
    Raises AboutResponse (checkSlot slot response dates) := by
  unfold checkSlot
  split
  · exact raises_ok ()
  · rw [raises_error, String.append_assoc, String.append_assoc]
    exact ⟨_, _, by decide, rfl⟩

lemma raises_checkPassLimit (type : FacilityType) (limit : ℕ) (items : List ReservationSlot) :
    Raises AboutResponse (checkPassLimit type limit items) := by
  unfold checkPassLimit
  split
  · exact raises_ok ()
  · rw [raises_error, String.append_assoc]
    exact ⟨_, _, by decide, rfl⟩

/-- In the window, a turn of the loop raises no parse error. -/
lemma raises_buildOpportunity {now : Datetime} {latest : Date} {item : ReservationSlot}
    (hwindow : now.date ≤ item.date ∧ item.date ≤ latest) (d : Date) :
    Raises (· ≠ outsideWindow d)
      (buildOpportunity zone config parkName facility now latest item) := by
  rw [buildOpportunity, if_pos hwindow]
  dsimp only
  split
  · simp
  · split
    · simp [outsideWindow]
    · split
      · simp [outsideWindow]
      · split
        · simp
        · simp [outsideWindow]

/-- **The window check of the loop never raises**, because the dates have been compared with those
of the window before. -/
lemma raises_buildOpportunities (d : Date) :
    Raises (· ≠ outsideWindow d)
      (buildOpportunities zone config parkName providerConfig facility reservations) := by
  have hshift : ∀ e days, Raises (· ≠ outsideWindow d) (shiftDate e days) := by
    intro e days
    unfold shiftDate
    split <;> simp [outsideWindow]
  simp only [buildOpportunities, raises_bind, pure_eq_ok, raises_ok, implies_true, and_true]
  have hother : ∀ e, AboutResponse e → e ≠ outsideWindow d := fun _ he => he.ne_outsideWindow d
  refine ⟨?_, fun now _ => ⟨hshift _ _, fun latest hlatest => ⟨.mapM fun _ _ => hshift _ _,
    fun expected hexpected => ⟨(raises_checkDates _ _).imp hother, fun _ hdates =>
      ⟨(raises_checkSlot _ _ _).imp hother, fun _ _ =>
        ⟨(raises_checkPassLimit _ _ _).imp hother, fun _ _ => .mapM fun item hitem => ?_⟩⟩⟩⟩⟩⟩
  · unfold providerTime
    split <;> simp [outsideWindow]
  · refine raises_buildOpportunity zone config parkName facility ?_ d
    have hmem : item.date ∈ reservations.map ReservationSlot.date :=
      List.mem_map_of_mem (List.mem_of_mem_filter hitem)
    have hordinal := ParksCheck.shiftDate_ok hlatest
    have hwindow := (ParksCheck.mem_expectedDates hexpected item.date).mp
      ((ParksCheck.checkDates_ok hdates).1 _ hmem)
    refine ⟨hwindow.1, Date.le_iff.mpr ?_⟩
    omega

end Loop

/-! ## Complete snapshots -/

/-- **An accepted check shows each date of its window once**, in order and with what the responses
say of it, and the loop's own window check never raises.

The responses are any four decoded values and the configuration is any; today is left out exactly
when the provider's clock is at or past the end of its slot. -/
theorem check_complete (zone : ProviderZone) (config : BCParksDayUseConfig) :
    (∀ (responses : BCParks.Responses) (checkedAt : Datetime) (result : CheckResult),
      BCParks.check zone config responses checkedAt = .ok result →
        ∃ c : ParksCheck zone config, BCParks.Parsed config responses c.responses ∧
          c.checkedAt = checkedAt ∧ c.result = result ∧ c.Complete) ∧
      ∀ (parkName : String) (providerConfig : ProviderConfig) (facility : Facility)
        (reservations : List ReservationSlot) (d : Date),
        buildOpportunities zone config parkName providerConfig facility reservations ≠
          .error (outsideWindow d) := by
  constructor
  · intro responses checkedAt result h
    obtain ⟨parsed, hparsed, haccepted⟩ := BCParks.parsed_of_check h
    obtain ⟨c, rfl, hat, hresult⟩ := exists_parksCheck haccepted
    have hsorted := BCParks.parseReservations_sorted hparsed.reservations
    exact ⟨c, hparsed, hat, hresult, c.complete hsorted⟩
  · intro parkName providerConfig facility reservations d h
    exact raises_buildOpportunities zone config parkName providerConfig facility reservations d _ h
      rfl

/-- The responses about South Beach at eight o'clock on the first of August, with these
reservations. -/
def southBeachResponses (reservations : List (String × Json)) : BCParks.Responses where
  config := .obj [("ADVANCE_BOOKING_LIMIT", .int 2), ("ADVANCE_BOOKING_HOUR", .int 7),
    ("PARKING_PASS_LIMIT", .int 8), ("TRAIL_PASS_LIMIT", .int 8)]
  parks := .arr [.obj [("sk", .str "0008"), ("pk", .str "park"), ("status", .str "open"),
    ("name", .str "Golden Ears"), ("visible", .bool true)]]
  facilities := .arr [.obj [("name", .str "South Beach"), ("sk", .str "South Beach"),
    ("pk", .str "facility::0008"), ("type", .str "Parking"),
    ("status", .obj [("state", .str "open")]),
    ("bookingDays", .obj (BCParks.dayKeys.map fun day => (day, .bool true))),
    ("bookingTimes", .obj [("AM", .obj [("max", .int 790)])]), ("bookableHolidays", .obj []),
    ("currentTime", .str "2026-08-01T08:00:00-07:00"), ("visible", .bool true),
    ("bookingDaysAhead", .int 1), ("bookingOpeningHour", .int 7)]]
  reservations := .obj reservations

/-- The reservation of the morning of a day, with four passes left. -/
def morning (day : String) : String × Json :=
  (day, .obj [("AM", .obj [("capacity", .str "High"), ("max", .int 4)])])

/-- Such responses are accepted. -/
theorem check_complete_twoDays : ∃ result, ∃ c : ParksCheck summerZone southBeach,
    BCParks.check summerZone southBeach
        (southBeachResponses [morning "2026-08-02", morning "2026-08-01"]) .epoch = .ok result ∧
      c.result = result ∧ c.Complete := by
  obtain ⟨result, hresult⟩ := exists_ok (x := BCParks.check summerZone southBeach
    (southBeachResponses [morning "2026-08-02", morning "2026-08-01"]) .epoch) (by decide +kernel)
  obtain ⟨c, _, _, hc, hcomplete⟩ := (check_complete summerZone southBeach).1 _ _ _ hresult
  exact ⟨result, c, hresult, hc, hcomplete⟩

end WebChecker
