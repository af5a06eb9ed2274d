import WebChecker.Core.Models
import WebChecker.Library.Verdicts
import WebChecker.Python.Unicode

/-!
# The generic HTML parser

`GenericHtmlParser.parse` reads one opportunity from each element that a configured selector
matches, and `GenericHtmlDriver.check` reports what it raises as a `DriverParseError`.

The HTML library and `urljoin` are a parameter (`HtmlLibrary`).  A selector may be refused in two
ways: as one that cannot be read, and as one the library has not implemented, such as a
pseudo-element; the parser catches the first only.  `urljoin` refuses some texts with a
`ValueError`.  A time is what `fromisoformat` of `Python/Datetime` takes for one.
-/

namespace WebChecker

/-! ## The HTML library -/

/-- The exceptions of a selector. -/
inductive SelectorFailure where
  | selectorSyntaxError
  | notImplementedError (message : String)
deriving DecidableEq, Repr

/-- The value of an attribute: some attributes hold a list of words. -/
inductive AttributeValue where
  | text (s : String)
  | list (parts : List String)
deriving DecidableEq, Repr

/-- What the parser uses of the HTML library, and `urljoin` with the message of its
`ValueError`. -/
structure HtmlLibrary (Tag : Type) where
  select : Tag → String → Except SelectorFailure (List Tag)
  selectOne : Tag → String → Except SelectorFailure (Option Tag)
  get : Tag → String → Option AttributeValue
  getText : Tag → String
  urljoin : String → String → Except String String

/-! ## The configuration -/

/-- `ValueSource`, with the checks of its constructor.  Its `attribute` is `attributeName` here. -/
structure ValueSource where
  selector : Option String := none
  attributeName : Option String := none
  required : Bool := true
  selector_ne : ∀ s ∈ selector, strip s ≠ ""
  attributeName_ne : ∀ s ∈ attributeName, strip s ≠ ""

/-- `ParserConfig`, with the checks of its constructor. -/
structure ParserConfig where
  opportunitySelector : String
  id : ValueSource
  title : ValueSource
  availability : ValueSource
  availabilityMapping : List (String × Availability)
  startsAt : Option ValueSource := none
  bookingUrl : Option ValueSource := none
  attributes : List (String × ValueSource) := []
  opportunitySelector_ne : strip opportunitySelector ≠ ""
  availabilityMapping_ne : availabilityMapping ≠ []
  providerValues_ne : ∀ value ∈ availabilityMapping.map Prod.fst, strip value ≠ ""
  providerValues_nodup : (availabilityMapping.map Prod.fst).Nodup
  attributeNames_ne : ∀ name ∈ attributes.map Prod.fst, strip name ≠ ""
  attributeNames_nodup : (attributes.map Prod.fst).Nodup

/-- The sources of a configuration, in the order in which the parser reads them. -/
def ParserConfig.sources (config : ParserConfig) : List ValueSource :=
  [config.id, config.title, config.availability] ++ config.startsAt.toList ++
    config.bookingUrl.toList ++ config.attributes.map Prod.snd

/-! ## Errors -/

/-- The exceptions of the parser: the subclasses of `HtmlParserError`, and the two that it does not
catch. -/
inductive HtmlFailure where
  | parserConfigurationError (message : String)
  | unexpectedPageError (message : String)
  | invalidOpportunityError (message : String)
  | notImplementedError (message : String)
  | valueError (message : String)
deriving DecidableEq, Repr

namespace HtmlFailure

def message : HtmlFailure → String
  | parserConfigurationError m => m
  | unexpectedPageError m => m
  | invalidOpportunityError m => m
  | notImplementedError m => m
  | valueError m => m

/-- The subclasses of `HtmlParserError`. -/
def isHtmlParserError : HtmlFailure → Bool
  | parserConfigurationError _ => true
  | unexpectedPageError _ => true
  | invalidOpportunityError _ => true
  | notImplementedError _ => false
  | valueError _ => false

end HtmlFailure

/-- A selector that cannot be read is an error of the configuration. -/
def SelectorFailure.raised (message : String) : SelectorFailure → HtmlFailure
  | selectorSyntaxError => .parserConfigurationError message
  | notImplementedError m => .notImplementedError m

/-! ## Values -/

/-- `repr` of a string or `None`. -/
def reprOptional : Option String → String
  | none => "None"
  | some s => pyRepr s

/-- `_missing`. -/
def missing (source : ValueSource) (fieldName : String) : Except HtmlFailure (Option String) :=
  if source.required then
    .error (.invalidOpportunityError ("Required " ++ fieldName ++ " is missing"))
  else .ok none

/-- `" ".join(value.split())`. -/
def normalizeSpace (value : String) : String := " ".intercalate (words value)

/-- The text of an attribute value: a list is joined with blanks. -/
def AttributeValue.joined : AttributeValue → String
  | text s => s
  | list parts => " ".intercalate parts

namespace HtmlLibrary

variable {Tag : Type} (lib : HtmlLibrary Tag) (baseUrl : String) (config : ParserConfig)

/-- The element a source is read from: the container itself if there is no selector. -/
def element (source : ValueSource) (container : Tag) : Except SelectorFailure (Option Tag) :=
  match source.selector with
  | none => .ok (some container)
  | some selector => lib.selectOne container selector

/-- The text of an element or of one of its attributes. -/
def rawValue (source : ValueSource) (element : Tag) : Option String :=
  match source.attributeName with
  | none => some (lib.getText element)
  | some attributeName => (lib.get element attributeName).map AttributeValue.joined

/-- `_extract`. -/
def extract (container : Tag) (source : ValueSource) (fieldName : String) :
    Except HtmlFailure (Option String) :=
  match lib.element source container with
  | .error e => .error (e.raised
      ("Invalid selector for " ++ fieldName ++ ": " ++ reprOptional source.selector))
  | .ok none => missing source fieldName
  | .ok (some element) =>
    match lib.rawValue source element with
    | none => missing source fieldName
    | some rawValue =>
      let value := normalizeSpace rawValue
      if value = "" then missing source fieldName else .ok (some value)

/-! ## One opportunity -/

/-- The lookup in `availability_mapping`; `None` is not one of its keys. -/
def mapAvailability (opportunityId providerAvailability : Option String) :
    Except HtmlFailure Availability :=
  match providerAvailability.bind fun value => config.availabilityMapping.lookup value with
  | some availability => .ok availability
  | none => .error (.invalidOpportunityError ("Opportunity " ++ reprOptional opportunityId ++
      " has unmapped availability " ++ reprOptional providerAvailability))

/-- `datetime.fromisoformat` on the text of `starts_at`. -/
def convertStartsAt (opportunityId : Option String) (rawStartsAt : String) :
    Except HtmlFailure Datetime :=
  match fromisoformat rawStartsAt with
  | some startsAt => .ok startsAt
  | none => .error (.invalidOpportunityError ("Opportunity " ++ reprOptional opportunityId ++
      " has invalid starts_at " ++ pyRepr rawStartsAt))

/-- `urljoin` on the text of `booking_url`. -/
def joinBookingUrl (rawBookingUrl : String) : Except HtmlFailure String :=
  match lib.urljoin baseUrl rawBookingUrl with
  | .ok url => .ok url
  | .error message => .error (.valueError message)

/-- A source that the configuration may leave out, with the conversion of its text. -/
def extractConverted {α : Type} (container : Tag) (source : Option ValueSource)
    (fieldName : String) (convert : String → Except HtmlFailure α) :
    Except HtmlFailure (Option α) :=
  match source with
  | none => .ok none
  | some source => do
    match ← lib.extract container source fieldName with
    | none => return none
    | some raw => (convert raw).map some

/-- One entry of `attributes`; an absent optional value has none. -/
def extractAttribute (container : Tag) (item : String × ValueSource) :
    Except HtmlFailure (Option (String × PyVal)) :=
  (lib.extract container item.2 ("attribute " ++ pyRepr item.1)).map
    (Option.map fun value => (item.1, PyVal.str value))

/-- The `Opportunity` constructor on texts that may be `None`, which it refuses like blank ones. -/
def construct (opportunityId title : Option String) (availability : Availability)
    (startsAt : Option Datetime) (bookingUrl : Option String) (attributes : Attributes) :
    Except HtmlFailure Opportunity :=
  match Opportunity.create (opportunityId.getD "") (title.getD "") availability startsAt bookingUrl
    attributes with
  | .ok o => .ok o
  | .error e => .error (.invalidOpportunityError e.message)

/-- `_parse_opportunity`. -/
def parseOpportunity (container : Tag) : Except HtmlFailure Opportunity := do
  let opportunityId ← lib.extract container config.id "id"
  let title ← lib.extract container config.title "title"
  let providerAvailability ← lib.extract container config.availability "availability"
  let availability ← mapAvailability config opportunityId providerAvailability
  let startsAt ←
    lib.extractConverted container config.startsAt "starts_at" (convertStartsAt opportunityId)
  let bookingUrl ←
    lib.extractConverted container config.bookingUrl "booking_url" (lib.joinBookingUrl baseUrl)
  let attributes ← config.attributes.mapM (lib.extractAttribute container)
  construct opportunityId title availability startsAt bookingUrl attributes.reduceOption

/-! ## The page -/

/-- The check on the identifiers of a page. -/
def rejectDuplicates (opportunities : List Opportunity) : Except HtmlFailure (List Opportunity) :=
  let repeated := duplicates (opportunities.map Opportunity.id)
  if repeated = [] then .ok opportunities
  else .error (.invalidOpportunityError
    ("Duplicate opportunity IDs: " ++ ", ".intercalate repeated))

/-- `parse`, on the document that the library reads from the text. -/
def parse (soup : Tag) : Except HtmlFailure (List Opportunity) :=
  match lib.select soup config.opportunitySelector with
  | .error e => .error (e.raised
      ("Invalid opportunity selector: " ++ pyRepr config.opportunitySelector))
  | .ok [] => .error (.unexpectedPageError
      ("No elements matched " ++ pyRepr config.opportunitySelector))
  | .ok containers =>
    containers.mapM (lib.parseOpportunity baseUrl config) >>= rejectDuplicates

end HtmlLibrary

/-! ## The driver -/

/-- The exceptions of `GenericHtmlDriver.check` after the response was read: its own, and those that
it passes on. -/
inductive GenericHtmlFailure where
  | driverParseError (message : String)
  | raised (e : HtmlFailure)
  | constructorError (e : PyError)
deriving DecidableEq, Repr

/-- `GenericHtmlDriver.check` from the document of the response on. -/
def HtmlLibrary.check {Tag : Type} (lib : HtmlLibrary Tag) (responseUrl : String)
    (config : ParserConfig) (soup : Tag) (checkedAt : Datetime) :
    Except GenericHtmlFailure CheckResult :=
  match lib.parse responseUrl config soup with
  | .error e =>
    if e.isHtmlParserError then
      .error (.driverParseError ("Could not safely parse provider response from " ++ responseUrl ++
        ": " ++ e.message))
    else .error (.raised e)
  | .ok opportunities =>
    match CheckResult.create checkedAt opportunities with
    | .ok result => .ok result
    | .error e => .error (.constructorError e)

end WebChecker
