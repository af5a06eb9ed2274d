import WebChecker.Python.Datetime
import WebChecker.Python.Json

/-!
# Normalized opportunities and snapshots

`Opportunity` and `CheckResult` carry what their constructors check, so a snapshot with a blank
identifier, a repeated identifier or a naive `checked_at` cannot be built.  `create` is the
constructor as the code has it, with the exceptions it raises; `create_ok` says that it accepts
every value that is normalized already, which is what the store relies on when it rebuilds a
snapshot from its rows.
-/

namespace WebChecker

/-- Normalized availability. -/
inductive Availability where
  | available
  | unavailable
  | unknown
deriving DecidableEq, Repr

/-- The text of an availability. -/
def Availability.value : Availability → String
  | available => "available"
  | unavailable => "unavailable"
  | unknown => "unknown"

/-- One provider opportunity, with the checks of its constructor. -/
structure Opportunity where
  id : String
  title : String
  availability : Availability
  startsAt : Option Datetime := none
  bookingUrl : Option String := none
  attributes : Attributes := []
  id_stripped : strip id = id
  id_ne : id ≠ ""
  title_stripped : strip title = title
  title_ne : title ≠ ""
  bookingUrl_ne : ∀ u ∈ bookingUrl, strip u ≠ ""

/-- The `Opportunity` constructor. -/
def Opportunity.create (id title : String) (availability : Availability)
    (startsAt : Option Datetime) (bookingUrl : Option String) (attributes : Attributes) :
    Except PyError Opportunity :=
  if hid : strip id = "" then .error (.valueError "Opportunity ID must not be blank")
  else if htitle : strip title = "" then
    .error (.valueError "Opportunity title must not be blank")
  else if hurl : ∀ u ∈ bookingUrl, strip u ≠ "" then
    .ok { id := strip id, title := strip title, availability, startsAt, bookingUrl, attributes
          id_stripped := strip_strip id, id_ne := hid
          title_stripped := strip_strip title, title_ne := htitle, bookingUrl_ne := hurl }
  else .error (.valueError "Booking URL must be omitted or non-blank")

/-- The same opportunity with the representation of its time and its attributes replaced. -/
def Opportunity.represented (o : Opportunity) (startsAt : Option Datetime)
    (attributes : Attributes) : Opportunity :=
  { o with startsAt, attributes }

/-- **The constructor accepts what is normalized already.** -/
lemma Opportunity.create_ok (o : Opportunity) (startsAt : Option Datetime)
    (attributes : Attributes) :
    Opportunity.create o.id o.title o.availability startsAt o.bookingUrl attributes
      = .ok (o.represented startsAt attributes) := by
  have hid : strip o.id ≠ "" := by rw [o.id_stripped]; exact o.id_ne
  have htitle : strip o.title ≠ "" := by rw [o.title_stripped]; exact o.title_ne
  rw [create, dif_neg hid, dif_neg htitle, dif_pos o.bookingUrl_ne]
  simp only [represented, o.id_stripped, o.title_stripped]

/-- **What the constructor returns** has the fields it was given, with the blanks around the
identifier and the title stripped. -/
lemma Opportunity.create_fields {id title : String} {availability : Availability}
    {startsAt : Option Datetime} {bookingUrl : Option String} {attributes : Attributes}
    {o : Opportunity}
    (h : Opportunity.create id title availability startsAt bookingUrl attributes = .ok o) :
    o.id = strip id ∧ o.title = strip title ∧ o.availability = availability ∧
      o.startsAt = startsAt ∧ o.attributes = attributes := by
  rw [create] at h
  split_ifs at h
  rw [← Except.ok.inj h]
  exact ⟨rfl, rfl, rfl, rfl, rfl⟩

/-- A complete successful observation, with the checks of its constructor. -/
structure CheckResult where
  checkedAt : Datetime
  opportunities : List Opportunity
  checkedAt_aware : checkedAt.tzinfo.isSome
  ids_nodup : (opportunities.map Opportunity.id).Nodup

/-- The `CheckResult` constructor. -/
def CheckResult.create (checkedAt : Datetime) (opportunities : List Opportunity) :
    Except PyError CheckResult :=
  if haware : checkedAt.tzinfo.isSome then
    if hids : (opportunities.map Opportunity.id).Nodup then
      .ok ⟨checkedAt, opportunities, haware, hids⟩
    else .error (.valueError "Check result contains duplicate opportunity IDs")
  else .error (.valueError "checked_at must be timezone-aware")

namespace CheckResult

/-- The opportunity with an identifier: a dictionary lookup, which is a search because
identifiers do not repeat. -/
def byId (r : CheckResult) (id : String) : Option Opportunity :=
  r.opportunities.find? fun o => o.id == id

lemma byId_eq_some {r : CheckResult} {id : String} {o : Opportunity} :
    r.byId id = some o ↔ o ∈ r.opportunities ∧ o.id = id := by
  constructor
  · intro h
    exact ⟨List.mem_of_find?_eq_some h, by simpa using List.find?_some h⟩
  · rintro ⟨ho, rfl⟩
    cases hf : r.byId o.id with
    | none => simpa using List.find?_eq_none.mp hf o ho
    | some o' =>
        have hid : o'.id = o.id := by simpa using List.find?_some hf
        rw [List.inj_on_of_nodup_map r.ids_nodup (List.mem_of_find?_eq_some hf) ho hid]

lemma byId_eq_none {r : CheckResult} {id : String} :
    r.byId id = none ↔ ∀ o ∈ r.opportunities, o.id ≠ id := by
  simp [byId, List.find?_eq_none]

/-- The availability a snapshot gives an identifier; `none` if the identifier is absent. -/
def availabilityOf (r : CheckResult) (id : String) : Option Availability :=
  (r.byId id).map Opportunity.availability

/-- A snapshot of one opportunity, checked at a given day of January 1970. -/
def single (day : ℕ) (availability : Availability) (attributes : Attributes)
    (h : 1 ≤ day ∧ day ≤ 31) : CheckResult where
  checkedAt := january day h
  opportunities := [{
    id := "tour", title := "Tour", availability, attributes
    id_stripped := by decide, id_ne := by decide
    title_stripped := by decide, title_ne := by decide
    bookingUrl_ne := by simp }]
  checkedAt_aware := rfl
  ids_nodup := List.nodup_singleton _

/-- Such snapshots of the first three days. -/
def onFirst (availability : Availability) : CheckResult := single 1 availability [] (by decide)

def onSecond (availability : Availability) : CheckResult := single 2 availability [] (by decide)

def onThird (availability : Availability) : CheckResult := single 3 availability [] (by decide)

end CheckResult

end WebChecker
