import Mathlib.Data.Prod.Lex
import Mathlib.Data.String.Basic
import WebChecker.Drivers.BcParks.Driver

/-!
# The BC Parks parsers

From the decoded JSON of the four endpoints to the values the driver works with, and `check` as a
whole on such JSON.  A `Json` object stands for a decoded dictionary, so its keys are distinct;
`member` is its `get`.

Times and dates are what the readers of `Python/Datetime` take for one.

Whatever the JSON, a parser fails with a parse error and nothing else (`raises_parseReservations`
and its companions): this is the part of the driver that looks at every value before it is used.
-/

namespace WebChecker

open Results

namespace BCParks

/-! ## Values -/

/-- `raise BCParksParseError(…)`. -/
def parseFailure {α : Type} (message : String) : Except BCParksFailure α :=
  .error (.parseError message)

/-- `item.get(key)`. -/
def member (item : List (String × Json)) (key : String) : Json := (item.lookup key).getD .null

/-- `value == text`. -/
def isText (s : String) : Json → Bool
  | .str t => t = s
  | _ => false

/-- `_object`. -/
def object (value : Json) (label : String) : Except BCParksFailure (List (String × Json)) :=
  match value with
  | .obj items => .ok items
  | _ => parseFailure (label ++ " must be a JSON object")

/-- `_non_empty_list`. -/
def nonEmptyList (value : Json) (label : String) : Except BCParksFailure (List Json) :=
  match value with
  | .arr (x :: xs) => .ok (x :: xs)
  | _ => parseFailure (label ++ " must be a non-empty JSON array")

/-- `_text`. -/
def text (value : Json) (label : String) : Except BCParksFailure String :=
  match value with
  | .str s =>
    if strip s = "" then parseFailure (label ++ " must be a non-blank string") else .ok (strip s)
  | _ => parseFailure (label ++ " must be a non-blank string")

/-- `_boolean`. -/
def boolean (value : Json) (label : String) : Except BCParksFailure Bool :=
  match value with
  | .bool b => .ok b
  | _ => parseFailure (label ++ " must be a boolean")

/-- `_integer`. -/
def integer (value : Json) (label : String) (minimum maximum : ℕ) :
    Except BCParksFailure {n : ℕ // minimum ≤ n ∧ n ≤ maximum} :=
  let message := label ++ " must be an integer between " ++ toString minimum ++ " and " ++
    toString maximum
  match value with
  | .int (.ofNat n) => if h : minimum ≤ n ∧ n ≤ maximum then .ok ⟨n, h⟩ else parseFailure message
  | _ => parseFailure message

/-- `_timestamp`. -/
def timestamp (value : Json) (label : String) : Except BCParksFailure Datetime :=
  match value with
  | .str s =>
    match fromisoformat (replaceChar 'Z' "+00:00" s) with
    | some parsed =>
      if parsed.tzinfo.isNone then parseFailure (label ++ " must include a timezone")
      else .ok parsed
    | none => parseFailure (label ++ " must be an ISO-8601 timestamp")
  | _ => parseFailure (label ++ " must be an ISO-8601 timestamp")

/-! ## Known texts -/

def stateNamed : String → Option ProviderState
  | "open" => some .isOpen
  | "closed" => some .isClosed
  | _ => none

def typeNamed : String → Option FacilityType
  | "Parking" => some .parking
  | "Trail" => some .trail
  | _ => none

def slotNamed : String → Option ParksSlot
  | "AM" => some .am
  | "PM" => some .pm
  | "DAY" => some .day
  | _ => none

def capacityNamed : String → Option Capacity
  | "Full" => some .full
  | "Low" => some .low
  | "Medium" => some .medium
  | "Moderate" => some .moderate
  | "High" => some .high
  | _ => none

/-- A value of a known text. -/
def known {α : Type} (named : Option α) (message : String) : Except BCParksFailure α :=
  match named with
  | some a => .ok a
  | none => parseFailure message

/-- A check that raises. -/
def require (condition : Prop) [Decidable condition] (message : String) :
    Except BCParksFailure Unit :=
  if condition then .ok () else parseFailure message

/-! ## The config endpoint -/

/-- `parse_provider_config`. -/
def parseProviderConfig (value : Json) : Except BCParksFailure ProviderConfig := do
  let item ← object value "config response"
  let advanceBookingLimit ← integer (member item "ADVANCE_BOOKING_LIMIT")
    "config ADVANCE_BOOKING_LIMIT" 1 31
  let advanceBookingHour ← integer (member item "ADVANCE_BOOKING_HOUR")
    "config ADVANCE_BOOKING_HOUR" 0 23
  let parkingPassLimit ← integer (member item "PARKING_PASS_LIMIT")
    "config PARKING_PASS_LIMIT" 1 100
  let trailPassLimit ← integer (member item "TRAIL_PASS_LIMIT") "config TRAIL_PASS_LIMIT" 1 100
  return ⟨advanceBookingLimit, advanceBookingHour, parkingPassLimit, trailPassLimit⟩

/-! ## The park and facility endpoints -/

/-- The loop over the items of a response, with the names that have been seen. -/
def parseItems {α : Type} (name : α → String)
    (parse : ℕ → List String → Json → Except BCParksFailure α) :
    ℕ → List String → List Json → Except BCParksFailure (List α)
  | _, _, [] => .ok []
  | index, seen, raw :: raws => do
    let item ← parse index seen raw
    let items ← parseItems name parse (index + 1) (name item :: seen) raws
    return item :: items

/-- The body of the loop of `parse_parks`. -/
def parsePark (index : ℕ) (seen : List String) (raw : Json) : Except BCParksFailure Park := do
  let label := "park response item " ++ toString index
  let item ← object raw label
  let parkId ← text (member item "sk") (label ++ " sk")
  require (parkId ∉ seen) ("Duplicate park id " ++ pyRepr parkId)
  require (isText "park" (member item "pk") = true) (label ++ " pk must be 'park'")
  let status ← text (member item "status") (label ++ " status")
  let state ← known (stateNamed status) (label ++ " has unknown status " ++ pyRepr status)
  let name ← text (member item "name") (label ++ " name")
  let visible ← boolean (member item "visible") (label ++ " visible")
  return ⟨parkId, name, state, visible⟩

/-- `parse_parks`. -/
def parseParks (value : Json) : Except BCParksFailure (List Park) := do
  let items ← nonEmptyList value "park response"
  parseItems Park.id parsePark 0 [] items

/-- The keys of `bookingDays`, in order. -/
def dayKeys : List String := ["1", "2", "3", "4", "5", "6", "7"]

/-- `_parse_booking_days`, by ISO weekday. -/
def parseBookingDays (value : Json) (label : String) : Except BCParksFailure (ℕ → Bool) := do
  let rawDays ← object value (label ++ " bookingDays")
  require ((∀ day ∈ rawDays.map Prod.fst, day ∈ dayKeys) ∧
    ∀ day ∈ dayKeys, day ∈ rawDays.map Prod.fst)
    (label ++ " bookingDays must define days 1 through 7")
  let days ← dayKeys.mapM fun day =>
    boolean (member rawDays day) (label ++ " bookingDays " ++ day)
  return fun weekday => days.getD (weekday - 1) false

/-- `_parse_booking_times`. -/
def parseBookingTimes (value : Json) (label : String) :
    Except BCParksFailure (List (ParksSlot × ℕ)) := do
  let rawTimes ← object value (label ++ " bookingTimes")
  require (rawTimes ≠ []) (label ++ " bookingTimes must not be empty")
  let unexpected := (rawTimes.map Prod.fst).filter fun slot => (slotNamed slot).isNone
  require (unexpected = []) (label ++ " bookingTimes has unknown slots: " ++
    ", ".intercalate (unexpected.dedup.mergeSort fun a b => a ≤ b))
  rawTimes.mapM fun (slot, rawValue) => do
    let item ← object rawValue (label ++ " bookingTimes " ++ slot)
    let maximum ← integer (member item "max") (label ++ " bookingTimes " ++ slot ++ " max") 1 100000
    let slot ← known (slotNamed slot) (label ++ " bookingTimes has unknown slots: " ++ slot)
    return (slot, (maximum : ℕ))

/-- The body of the loop of `_parse_holidays`; `none` for a day that is not enabled. -/
def parseHoliday (label rawDate : String) (enabled : Json) :
    Except BCParksFailure (Option Date) := do
  let enabled ← boolean enabled (label ++ " bookableHolidays " ++ rawDate)
  if enabled then
    let date ← known (dateFromisoformat rawDate)
      (label ++ " bookableHolidays has invalid date " ++ pyRepr rawDate)
    return some date
  else return none

/-- `_parse_holidays`. -/
def parseHolidays (value : Json) (label : String) : Except BCParksFailure (List Date) := do
  let rawHolidays ← object value (label ++ " bookableHolidays")
  let holidays ← rawHolidays.mapM fun (rawDate, enabled) => parseHoliday label rawDate enabled
  return holidays.reduceOption

/-- The body of the loop of `parse_facilities`. -/
def parseFacility (parkId : String) (index : ℕ) (seen : List String) (raw : Json) :
    Except BCParksFailure Facility := do
  let label := "facility response item " ++ toString index
  let item ← object raw label
  let name ← text (member item "name") (label ++ " name")
  require (name ∉ seen) ("Duplicate facility name " ++ pyRepr name)
  require (isText name (member item "sk") = true) (label ++ " sk must match its name")
  require (isText ("facility::" ++ parkId) (member item "pk") = true)
    (label ++ " belongs to an unexpected park")
  let typeText ← text (member item "type") (label ++ " type")
  let type ← known (typeNamed typeText)
    (label ++ " has unknown facility type " ++ pyRepr typeText)
  let statusItem ← object (member item "status") (label ++ " status")
  let statusText ← text (member statusItem "state") (label ++ " status state")
  let status ← known (stateNamed statusText)
    (label ++ " has unknown status " ++ pyRepr statusText)
  let bookingDays ← parseBookingDays (member item "bookingDays") label
  let bookingTimes ← parseBookingTimes (member item "bookingTimes") label
  let bookableHolidays ← parseHolidays (member item "bookableHolidays") label
  let currentTime ← timestamp (member item "currentTime") (label ++ " currentTime")
  let visible ← boolean (member item "visible") (label ++ " visible")
  let bookingDaysAhead ← integer (member item "bookingDaysAhead")
    (label ++ " bookingDaysAhead") 0 31
  let hour ← integer (member item "bookingOpeningHour") (label ++ " bookingOpeningHour") 0 23
  let bookingOpeningHour : Fin 24 := ⟨hour, Nat.lt_succ_of_le hour.2.2⟩
  return { name, type, status, visible, bookingDaysAhead, bookingOpeningHour, bookingDays,
           bookingTimes, bookableHolidays, currentTime }

/-- `parse_facilities`. -/
def parseFacilities (parkId : String) (value : Json) : Except BCParksFailure (List Facility) := do
  let items ← nonEmptyList value "facility response"
  parseItems Facility.name (parseFacility parkId) 0 [] items

/-! ## The reservation endpoint -/

/-- The inner loop body of `parse_reservations`. -/
def parseSlot (rawDate : String) (date : Date) (slotText : String) (rawAvailability : Json) :
    Except BCParksFailure ReservationSlot := do
  let label := "reservation date " ++ rawDate ++ " slot " ++ slotText
  let errorLabel := "Reservation date " ++ rawDate ++ " slot " ++ slotText
  let slot ← known (slotNamed slotText)
    ("Reservation date " ++ rawDate ++ " has unknown slot " ++ pyRepr slotText)
  let availability ← object rawAvailability label
  let capacityText ← text (member availability "capacity") (label ++ " capacity")
  let capacity ← known (capacityNamed capacityText)
    (errorLabel ++ " has unknown capacity " ++ pyRepr capacityText)
  let maxReservable ← integer (member availability "max") (label ++ " max") 0 100
  if consistent : capacity = .full ↔ (maxReservable : ℕ) = 0 then
    return ⟨date, slot, capacity, maxReservable, consistent⟩
  else parseFailure (errorLabel ++ " has inconsistent capacity and max")

/-- The outer loop body of `parse_reservations`. -/
def parseReservationDate (rawDate : String) (rawSlots : Json) :
    Except BCParksFailure (List ReservationSlot) := do
  let date ← known (dateFromisoformat rawDate)
    ("Reservation response has invalid date " ++ pyRepr rawDate)
  let slots ← object rawSlots ("reservation date " ++ rawDate)
  require (slots ≠ []) ("Reservation date " ++ rawDate ++ " must contain at least one slot")
  slots.mapM fun (slot, rawAvailability) => parseSlot rawDate date slot rawAvailability

/-- The key that reservations are sorted by. -/
def sortKey (item : ReservationSlot) : Date ×ₗ String := toLex (item.date, item.slot.value)

/-- `parse_reservations`. -/
def parseReservations (value : Json) : Except BCParksFailure (List ReservationSlot) := do
  let response ← object value "reservation response"
  require (response ≠ []) "Reservation response must not be empty"
  let reservations ← response.mapM fun (rawDate, rawSlots) =>
    parseReservationDate rawDate rawSlots
  return reservations.flatten.insertionSort fun a b => sortKey a ≤ sortKey b

/-! ## The check -/

/-- The decoded responses of the four endpoints. -/
structure Responses where
  config : Json
  parks : Json
  facilities : Json
  reservations : Json

/-- `check` on decoded responses; `checkedAt` is the reading of the driver's own clock. -/
def check (zone : ProviderZone) (config : BCParksDayUseConfig) (responses : Responses)
    (checkedAt : Datetime) : Except BCParksFailure CheckResult := do
  let providerConfig ← parseProviderConfig responses.config
  let parks ← parseParks responses.parks
  let park ← findPark config parks
  let facilities ← parseFacilities config.parkId responses.facilities
  let facility ← findFacility config facilities
  checkAgreement providerConfig facility
  let reservations ← parseReservations responses.reservations
  let opportunities ← buildOpportunities zone config park.name providerConfig facility reservations
  checkResult checkedAt opportunities

/-! ## What the parsers raise -/

end BCParks

/-- The exception is a `DriverError`. -/
def BCParksFailure.isDriverError : BCParksFailure → Bool
  | .parseError _ => true
  | .providerClosedError _ => true
  | _ => false

namespace BCParks

/-- The computation raises nothing but a `DriverError`. -/
abbrev RaisesDriverError {α : Type} (x : Except BCParksFailure α) : Prop :=
  Raises (fun e => e.isDriverError = true) x

variable {α : Type}

@[simp] lemma raises_parseFailure (message : String) :
    RaisesDriverError (parseFailure message : Except BCParksFailure α) := by
  simp [parseFailure, BCParksFailure.isDriverError]

@[simp] lemma raises_object (value : Json) (label : String) :
    RaisesDriverError (object value label) := by
  cases value <;> simp [object]

@[simp] lemma raises_nonEmptyList (value : Json) (label : String) :
    RaisesDriverError (nonEmptyList value label) := by
  unfold nonEmptyList
  split <;> simp

@[simp] lemma raises_text (value : Json) (label : String) :
    RaisesDriverError (text value label) := by
  unfold text
  split
  · split <;> simp
  · simp

@[simp] lemma raises_boolean (value : Json) (label : String) :
    RaisesDriverError (boolean value label) := by
  cases value <;> simp [boolean]

@[simp] lemma raises_integer (value : Json) (label : String) (minimum maximum : ℕ) :
    RaisesDriverError (integer value label minimum maximum) := by
  unfold integer
  dsimp only
  split
  · split <;> simp
  · simp

@[simp] lemma raises_timestamp (value : Json) (label : String) :
    RaisesDriverError (timestamp value label) := by
  unfold timestamp
  split
  · split
    · split <;> simp
    · simp
  · simp

@[simp] lemma raises_known (named : Option α) (message : String) :
    RaisesDriverError (known named message) := by
  cases named <;> simp [known]

@[simp] lemma raises_require (condition : Prop) [Decidable condition] (message : String) :
    RaisesDriverError (require condition message) := by
  unfold require
  split <;> simp

lemma raises_parseItems {name : α → String}
    {parse : ℕ → List String → Json → Except BCParksFailure α}
    (h : ∀ index seen raw, RaisesDriverError (parse index seen raw)) (index : ℕ)
    (seen : List String) (raws : List Json) :
    RaisesDriverError (parseItems name parse index seen raws) := by
  induction raws generalizing index seen with
  | nil => simp [parseItems]
  | cons raw raws ih => simp [parseItems, h, ih]

lemma raises_parseProviderConfig (value : Json) :
    RaisesDriverError (parseProviderConfig value) := by
  simp [parseProviderConfig]

lemma raises_parseParks (value : Json) : RaisesDriverError (parseParks value) := by
  have hitem : ∀ index seen raw, RaisesDriverError (parsePark index seen raw) := by
    intro index seen raw
    simp [parsePark]
  simp [parseParks, raises_parseItems hitem]

lemma raises_parseBookingDays (value : Json) (label : String) :
    RaisesDriverError (parseBookingDays value label) := by
  have hday : ∀ rawDays, RaisesDriverError (dayKeys.mapM fun day =>
      boolean (member rawDays day) (label ++ " bookingDays " ++ day)) :=
    fun rawDays => .mapM fun _ _ => raises_boolean _ _
  simp [parseBookingDays, hday]

lemma raises_parseBookingTimes (value : Json) (label : String) :
    RaisesDriverError (parseBookingTimes value label) := by
  simp only [parseBookingTimes, raises_bind, raises_object, raises_require, true_and]
  intro rawTimes _ _ _ _ _
  exact .mapM fun entry _ => by simp

lemma raises_parseHolidays (value : Json) (label : String) :
    RaisesDriverError (parseHolidays value label) := by
  have hday : ∀ rawDate enabled, RaisesDriverError (parseHoliday label rawDate enabled) := by
    intro rawDate enabled
    simp only [parseHoliday, raises_bind, raises_boolean, true_and]
    intro b _
    cases b <;> simp
  simp only [parseHolidays, raises_bind, raises_object, true_and]
  intro rawHolidays _
  exact ⟨.mapM fun day _ => hday day.1 day.2, fun _ _ => raises_ok _⟩

lemma raises_parseFacilities (parkId : String) (value : Json) :
    RaisesDriverError (parseFacilities parkId value) := by
  have hitem : ∀ index seen raw, RaisesDriverError (parseFacility parkId index seen raw) := by
    intro index seen raw
    simp [parseFacility, raises_parseBookingDays, raises_parseBookingTimes, raises_parseHolidays]
  simp [parseFacilities, raises_parseItems hitem]

lemma raises_parseReservations (value : Json) : RaisesDriverError (parseReservations value) := by
  have hslot : ∀ rawDate date slotText rawAvailability,
      RaisesDriverError (parseSlot rawDate date slotText rawAvailability) := by
    intro rawDate date slotText rawAvailability
    simp only [parseSlot, raises_bind, raises_known, raises_object, raises_text, raises_integer,
      true_and]
    intro slot _ availability _ capacityText _ capacity _ maxReservable _
    split <;> simp
  have hdate : ∀ rawDate rawSlots, RaisesDriverError (parseReservationDate rawDate rawSlots) := by
    intro rawDate rawSlots
    simp only [parseReservationDate, raises_bind, raises_known, raises_object, raises_require,
      true_and]
    intro date _ slots _ _ _
    exact .mapM fun slot _ => hslot rawDate date slot.1 slot.2
  simp only [parseReservations, raises_bind, raises_object, raises_require, true_and]
  intro response _ _ _
  exact ⟨.mapM fun item _ => hdate item.1 item.2, fun _ _ => raises_ok _⟩

end BCParks

end WebChecker
