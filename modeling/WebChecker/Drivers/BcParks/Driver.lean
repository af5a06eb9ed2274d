import WebChecker.Core.Models
import WebChecker.Library.Results
import WebChecker.Python.Calendar

/-!
# The BC Parks day-use driver

From the parsed responses of the four endpoints to a snapshot: the consistency checks of
`BCParksDayUseDriver.check`, `_build_opportunities` and `_slot_window`.  The parsed values carry
what their parsers check, so a capacity and a maximum that disagree cannot be built.

The zone database is not part of the code: `ProviderZone` is what the driver asks of
`ZoneInfo("America/Vancouver")`, the conversion of a time and the offset at a wall clock reading.
Every comparison the driver makes is between two times of this zone, that is, between their wall
clocks (`Datetime.wall`).
-/

namespace WebChecker

open Results

/-! ## Configuration and parsed responses -/

/-- The slots of a day. -/
inductive ParksSlot where
  | am
  | pm
  | day
deriving DecidableEq, Repr

def ParksSlot.value : ParksSlot → String
  | am => "AM"
  | pm => "PM"
  | day => "DAY"

/-- The fields of `BCParksDayUseConfig` that do not only concern requests. -/
structure BCParksDayUseConfig where
  baseUrl : String
  parkId : String
  facility : String
  slot : ParksSlot
deriving DecidableEq, Repr

/-- The response of the config endpoint. -/
structure ProviderConfig where
  advanceBookingLimit : ℕ
  advanceBookingHour : ℕ
  parkingPassLimit : ℕ
  trailPassLimit : ℕ
deriving DecidableEq, Repr

/-- The states of a park and of a facility. -/
inductive ProviderState where
  | isOpen
  | isClosed
deriving DecidableEq, Repr

structure Park where
  id : String
  name : String
  status : ProviderState
  visible : Bool
deriving DecidableEq, Repr

inductive FacilityType where
  | parking
  | trail
deriving DecidableEq, Repr

def FacilityType.value : FacilityType → String
  | parking => "Parking"
  | trail => "Trail"

/-- `Facility`.  `bookingDays` is by ISO weekday, `bookingTimes` the items of a dictionary. -/
structure Facility where
  name : String
  type : FacilityType
  status : ProviderState
  visible : Bool
  bookingDaysAhead : ℕ
  bookingOpeningHour : Fin 24
  bookingDays : ℕ → Bool
  bookingTimes : List (ParksSlot × ℕ)
  bookableHolidays : List Date
  currentTime : Datetime

/-- The known capacity states. -/
inductive Capacity where
  | full
  | low
  | medium
  | moderate
  | high
deriving DecidableEq, Repr

def Capacity.value : Capacity → String
  | full => "Full"
  | low => "Low"
  | medium => "Medium"
  | moderate => "Moderate"
  | high => "High"

/-- One slot of one date, with the check of its parser. -/
structure ReservationSlot where
  date : Date
  slot : ParksSlot
  capacity : Capacity
  maxReservable : ℕ
  consistent : capacity = .full ↔ maxReservable = 0
deriving DecidableEq, Repr

/-- The parsed responses of one check. -/
structure ParksResponses where
  providerConfig : ProviderConfig
  parks : List Park
  facilities : List Facility
  reservations : List ReservationSlot

/-- What the driver asks of `PROVIDER_TIMEZONE`.  `astimezone` is `none` where it raises
`OverflowError`. -/
structure ProviderZone where
  astimezone : Datetime → Option Datetime
  tzinfo : Date → Time → TzInfo

/-- The exceptions of the driver. -/
inductive BCParksFailure where
  | parseError (message : String)
  | providerClosedError (message : String)
  | overflowError
  | keyError (key : String)
  | constructorError (e : PyError)
deriving DecidableEq, Repr

/-! ## Slots -/

/-- `time(hour)` with a minute. -/
def clockAt (hour : Fin 24) (minute : Fin 60) : Time :=
  ⟨hour, minute, 0, 0, hour.isLt, minute.isLt, Time.min.second_lt, Time.min.microsecond_lt⟩

/-- `time(hour)`. -/
def onTheHour (hour : Fin 24) : Time := clockAt hour 0

/-- The start and the end of a slot on the clock. -/
def slotTimes (parkId : String) (slot : ParksSlot) : Time × Time :=
  if parkId = "0015" then
    match slot with
    | .am => (clockAt 7 0, clockAt 12 0)
    | .pm => (clockAt 12 0, clockAt 16 0)
    | .day => (clockAt 7 0, clockAt 16 0)
  else
    match slot with
    | .am => (clockAt 7 0, clockAt 13 0)
    | .pm => (clockAt 13 0, clockAt 15 30)
    | .day => (clockAt 7 0, clockAt 15 30)

/-- `datetime.combine(date, time, tzinfo=PROVIDER_TIMEZONE)`. -/
def ProviderZone.combine (zone : ProviderZone) (date : Date) (time : Time) : Datetime :=
  ⟨date, time, some (zone.tzinfo date time)⟩

/-- `_slot_window`. -/
def slotWindow (zone : ProviderZone) (parkId : String) (reservationDate : Date)
    (slot : ParksSlot) : Datetime × Datetime :=
  let (start, finish) := slotTimes parkId slot
  (zone.combine reservationDate start, zone.combine reservationDate finish)

/-! ## Opportunities -/

/-- Dates as the messages list them. -/
def isoDates (dates : List Date) : String := ", ".intercalate (dates.map Date.isoformat)

/-- `sorted` of a set of dates. -/
def sortedDates (dates : List Date) : List Date := dates.dedup.mergeSort (· ≤ ·)

/-- The dates of the response against those of the booking window. -/
def checkDates (expected response : List Date) : Except BCParksFailure Unit :=
  let missing := sortedDates (expected.filter (· ∉ response))
  let unexpected := sortedDates (response.filter (· ∉ expected))
  if (∀ d ∈ response, d ∈ expected) ∧ ∀ d ∈ expected, d ∈ response then .ok ()
  else
    let details := (if missing = [] then [] else ["missing " ++ isoDates missing]) ++
      if unexpected = [] then [] else ["unexpected " ++ isoDates unexpected]
    .error (.parseError ("Reservation response dates do not match the booking window: " ++
      "; ".intercalate details))

/-- Every date of the response offers the slot. -/
def checkSlot (slot : ParksSlot) (response dates : List Date) : Except BCParksFailure Unit :=
  if ∀ d ∈ response, d ∈ dates then .ok ()
  else
    .error (.parseError ("Reservation response is missing slot " ++ pyRepr slot.value ++
      " for dates: " ++ isoDates (sortedDates (response.filter (· ∉ dates)))))

/-- The pass limit of a facility type. -/
def ProviderConfig.passLimit (c : ProviderConfig) : FacilityType → ℕ
  | .parking => c.parkingPassLimit
  | .trail => c.trailPassLimit

/-- `str.lower` of the known facility types. -/
def FacilityType.lower : FacilityType → String
  | parking => "parking"
  | trail => "trail"

def checkPassLimit (type : FacilityType) (limit : ℕ) (items : List ReservationSlot) :
    Except BCParksFailure Unit :=
  if ∀ item ∈ items, item.maxReservable ≤ limit then .ok ()
  else
    .error (.parseError ("Reservation response exceeds the configured pass limit for " ++
      type.lower ++ " facilities"))

/-- Whether a date needs a booking. -/
def Facility.bookingDay (facility : Facility) (date : Date) : Bool :=
  facility.bookingDays date.isoweekday || date ∈ facility.bookableHolidays

/-- The availability of a slot and the state of its booking. -/
def bookingState (facility : Facility) (providerNow bookingOpens : Datetime)
    (item : ReservationSlot) : Availability × String :=
  if facility.bookingDay item.date = false then (.unknown, "not_required")
  else if providerNow.wall < bookingOpens.wall then (.unknown, "pre_open")
  else if item.capacity = .full then (.unavailable, "bookable")
  else (.available, "bookable")

/-- The identifier of a slot before the constructor strips it. -/
def opportunityId (config : BCParksDayUseConfig) (facilityName : String)
    (date : Date) (slot : ParksSlot) : String :=
  config.parkId ++ ":" ++ facilityName ++ ":" ++ date.isoformat ++ ":" ++ slot.value

def opportunityTitle (parkName facilityName : String) (date : Date) (slot : ParksSlot) : String :=
  parkName ++ " — " ++ facilityName ++ " — " ++ slot.value ++ " on " ++ date.isoformat

/-- The body of the loop over the matching reservations; `none` for a slot that is over. -/
def buildOpportunity (zone : ProviderZone) (config : BCParksDayUseConfig) (parkName : String)
    (facility : Facility) (providerNow : Datetime) (latestDate : Date) (item : ReservationSlot) :
    Except BCParksFailure (Option Opportunity) :=
  if providerNow.date ≤ item.date ∧ item.date ≤ latestDate then
    let (startsAt, endsAt) := slotWindow zone config.parkId item.date item.slot
    if endsAt.wall ≤ providerNow.wall then .ok none
    else
      match item.date.addDays (-facility.bookingDaysAhead) with
      | none => .error .overflowError
      | some openingDate =>
        let bookingOpens := zone.combine openingDate (clockAt facility.bookingOpeningHour 0)
        let (availability, state) := bookingState facility providerNow bookingOpens item
        match facility.bookingTimes.lookup item.slot with
        | none => .error (.keyError item.slot.value)
        | some configuredCapacity =>
          match Opportunity.create (opportunityId config facility.name item.date item.slot)
              (opportunityTitle parkName facility.name item.date item.slot) availability
              (some startsAt) (some (config.baseUrl ++ "/dayuse/"))
              [("park_id", .str config.parkId), ("park", .str parkName),
                ("facility", .str facility.name), ("facility_type", .str facility.type.value),
                ("slot", .str item.slot.value), ("capacity", .str item.capacity.value),
                ("max_reservable", .int item.maxReservable),
                ("configured_capacity", .int configuredCapacity),
                ("booking_state", .str state),
                ("provider_time", .str facility.currentTime.isoformat)] with
          | .ok o => .ok (some o)
          | .error e => .error (.constructorError e)
  else
    .error (.parseError ("Reservation date " ++ item.date.isoformat ++
      " is outside the facility booking window"))

/-- A date plus some days, or the exception. -/
def shiftDate (d : Date) (days : ℤ) : Except BCParksFailure Date :=
  match d.addDays days with
  | some e => .ok e
  | none => .error .overflowError

/-- The current time as the provider's clock shows it, or the exception. -/
def providerTime (zone : ProviderZone) (time : Datetime) : Except BCParksFailure Datetime :=
  match zone.astimezone time with
  | some now => .ok now
  | none => .error .overflowError

/-- `_build_opportunities`. -/
def buildOpportunities (zone : ProviderZone) (config : BCParksDayUseConfig) (parkName : String)
    (providerConfig : ProviderConfig) (facility : Facility)
    (reservations : List ReservationSlot) : Except BCParksFailure (List Opportunity) := do
  let providerNow ← providerTime zone facility.currentTime
  let localToday := providerNow.date
  let latestDate ← shiftDate localToday facility.bookingDaysAhead
  let expectedDates ← (List.range (facility.bookingDaysAhead + 1)).mapM fun (offset : ℕ) =>
    shiftDate localToday offset
  let responseDates := reservations.map ReservationSlot.date
  checkDates expectedDates responseDates
  let matching := reservations.filter fun item => item.slot = config.slot
  checkSlot config.slot responseDates (matching.map ReservationSlot.date)
  checkPassLimit facility.type (providerConfig.passLimit facility.type) matching
  let opportunities ← matching.mapM
    (buildOpportunity zone config parkName facility providerNow latestDate)
  return opportunities.reduceOption

/-! ## The check -/

/-- The park of the configuration. -/
def findPark (config : BCParksDayUseConfig) (parks : List Park) : Except BCParksFailure Park :=
  match parks.find? fun park => park.id = config.parkId with
  | none => .error (.parseError
      ("Park id " ++ pyRepr config.parkId ++ " is absent from the park response"))
  | some park =>
    if park.visible = true ∧ park.status = .isOpen then .ok park
    else .error (.providerClosedError ("Park " ++ pyRepr park.name ++ " is not open and visible"))

/-- The facility of the configuration. -/
def findFacility (config : BCParksDayUseConfig) (facilities : List Facility) :
    Except BCParksFailure Facility :=
  match facilities.find? fun facility => facility.name = config.facility with
  | none => .error (.parseError
      ("Facility " ++ pyRepr config.facility ++ " is absent from the facility response"))
  | some facility =>
    if ¬ (facility.visible = true ∧ facility.status = .isOpen) then
      .error (.providerClosedError
        ("Facility " ++ pyRepr facility.name ++ " is not open and visible"))
    else if (facility.bookingTimes.lookup config.slot).isNone then
      .error (.parseError ("Facility " ++ pyRepr facility.name ++ " does not offer slot " ++
        pyRepr config.slot.value))
    else .ok facility

/-- What the provider and the facility say about booking. -/
def checkAgreement (providerConfig : ProviderConfig) (facility : Facility) :
    Except BCParksFailure Unit :=
  if providerConfig.advanceBookingHour ≠ facility.bookingOpeningHour then
    .error (.parseError "Provider and facility booking opening hours disagree")
  else if providerConfig.advanceBookingLimit ≠ facility.bookingDaysAhead + 1 then
    .error (.parseError "Provider and facility booking windows disagree")
  else .ok ()

/-- The end of `check`: an empty list is refused, and so is what `CheckResult` refuses. -/
def checkResult (checkedAt : Datetime) (opportunities : List Opportunity) :
    Except BCParksFailure CheckResult :=
  if opportunities = [] then
    .error (.parseError "Reservation response contained no usable opportunities")
  else
    match CheckResult.create checkedAt opportunities with
    | .ok result => .ok result
    | .error e => .error (.constructorError e)

/-- `check` on parsed responses; `checkedAt` is the reading of the driver's own clock. -/
def checkParks (zone : ProviderZone) (config : BCParksDayUseConfig) (responses : ParksResponses)
    (checkedAt : Datetime) : Except BCParksFailure CheckResult := do
  let park ← findPark config responses.parks
  let facility ← findFacility config responses.facilities
  checkAgreement responses.providerConfig facility
  let opportunities ← buildOpportunities zone config park.name responses.providerConfig facility
    responses.reservations
  checkResult checkedAt opportunities

end WebChecker
