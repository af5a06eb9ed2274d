import Mathlib.Data.List.Dedup
import WebChecker.Drivers.GenericHtml.Parser

/-!
# All or nothing

`parse` either gives one opportunity for each element that the selector matches or fails as a
whole, and `parse_allOrNothing_iff` says when the failure is one that the driver reports.

The parser asks a page for one thing after the other and stops at the first that is refused, so
what it asks for is a list of verdicts that is read off the page (`demands`).  Only two of the
verdicts are not handled: a selector that the library has not implemented, and a booking URL that
`urljoin` refuses.  The conversion of `starts_at` stands next to `urljoin` and is guarded.
-/

namespace WebChecker

open Results

/-- **A text whose blanks are normalized has none around it.** -/
lemma strip_normalizeSpace (value : String) :
    strip (normalizeSpace value) = normalizeSpace value := by
  have hchars : (normalizeSpace value).toList = [' '].intercalate (splitWords value.toList) := by
    rw [normalizeSpace, String.toList_intercalate, words, List.map_map]
    simp
  rw [strip, hchars, stripChars_intercalate mem_splitWords, ← hchars, String.ofList_toList]

namespace HtmlLibrary

variable {Tag : Type} (lib : HtmlLibrary Tag) (baseUrl : String) (config : ParserConfig)

/-! ## What a page says -/

/-- The text that a source has in a container, with its blanks normalized; `none` if there is no
such element, no such attribute, or only blanks. -/
def reading (container : Tag) (source : ValueSource) : Except SelectorFailure (Option String) :=
  (lib.element source container).map fun element =>
    ((element.bind (lib.rawValue source)).map normalizeSpace).filter (· ≠ "")

/-- The opportunity says what the sources have in the container. -/
structure Reads (container : Tag) (o : Opportunity) : Prop where
  id : lib.reading container config.id = .ok (some o.id)
  title : lib.reading container config.title = .ok (some o.title)
  availability : ∃ text, lib.reading container config.availability = .ok (some text) ∧
    config.availabilityMapping.lookup text = some o.availability
  required : ∀ source ∈ config.sources, source.required = true →
    ∃ text, lib.reading container source = .ok (some text)

/-! ## What the parser asks for -/

/-- The verdict on a source whose text is put to one more test. -/
def sourceVerdict (container : Tag) (source : ValueSource) (absent : Verdict)
    (test : String → Verdict) : Verdict :=
  match lib.reading container source with
  | .error .selectorSyntaxError => .handled
  | .error (.notImplementedError _) => .escapes
  | .ok none => if source.required then .handled else absent
  | .ok (some text) => test text

/-- A text that `urljoin` refuses is the one conversion that is not guarded. -/
def joinVerdict (text : String) : Verdict :=
  match lib.urljoin baseUrl text with
  | .ok _ => .returns
  | .error _ => .escapes

/-- The source has a text in the container. -/
def present (container : Tag) (source : ValueSource) : Bool :=
  match lib.reading container source with
  | .ok (some _) => true
  | _ => false

/-- The joined booking URL is blank. -/
def blankUrl (container : Tag) (source : ValueSource) : Bool :=
  match lib.reading container source with
  | .ok (some text) => lib.urljoin baseUrl text |>.toOption.any fun url => strip url = ""
  | _ => false

/-- The constructor of the opportunity refuses an absent identifier or title and a blank URL. -/
def constructVerdict (container : Tag) : Verdict :=
  if lib.present container config.id && lib.present container config.title &&
    config.bookingUrl.all fun source => ! lib.blankUrl baseUrl container source then .returns
  else .handled

/-- What the parser asks of a container, in its order. -/
def demands (container : Tag) : List Verdict :=
  [lib.sourceVerdict container config.id .returns fun _ => .returns,
    lib.sourceVerdict container config.title .returns fun _ => .returns,
    lib.sourceVerdict container config.availability .handled fun text =>
      if (config.availabilityMapping.lookup text).isSome then .returns else .handled] ++
  (config.startsAt.toList.map fun source => lib.sourceVerdict container source .returns fun text =>
    if (fromisoformat text).isSome then .returns else .handled) ++
  (config.bookingUrl.toList.map fun source =>
    lib.sourceVerdict container source .returns (lib.joinVerdict baseUrl)) ++
  (config.attributes.map fun item =>
    lib.sourceVerdict container item.2 .returns fun _ => .returns) ++
  [lib.constructVerdict baseUrl config container]

/-- What the parser asks of a page: the selector, and then one container after the other. -/
def pageDemands (soup : Tag) : List Verdict :=
  match lib.select soup config.opportunitySelector with
  | .error .selectorSyntaxError => [.handled]
  | .error (.notImplementedError _) => [.escapes]
  | .ok containers => containers.flatMap (lib.demands baseUrl config)

/-! ## One source -/

/-- The verdict of the driver on a step of the parser. -/
abbrev verdict {α : Type} (x : Except HtmlFailure α) : Verdict :=
  .ofExcept HtmlFailure.isHtmlParserError x

variable {container : Tag}

/-- `_extract` in terms of the text that the source has. -/
lemma extract_eq (source : ValueSource) (fieldName : String) :
    lib.extract container source fieldName =
      match lib.reading container source with
      | .error e => .error (e.raised
          ("Invalid selector for " ++ fieldName ++ ": " ++ reprOptional source.selector))
      | .ok none => missing source fieldName
      | .ok (some text) => .ok (some text) := by
  rw [extract, reading]
  cases lib.element source container with
  | error e => rfl
  | ok element =>
      cases element with
      | none => rfl
      | some element =>
          rw [map_ok, Option.bind_some]
          cases hraw : lib.rawValue source element with
          | none => simp [hraw]
          | some raw =>
              by_cases hblank : normalizeSpace raw = ""
              · simp [hraw, hblank, Option.filter_some]
              · simp [hraw, hblank, Option.filter_some]

/-- What `_extract` returns is what the source has; only an optional source has nothing. -/
lemma extract_eq_ok {source : ValueSource} {fieldName : String} {value : Option String} :
    lib.extract container source fieldName = .ok value ↔
      lib.reading container source = .ok value ∧ (value = none → source.required = false) := by
  rw [extract_eq]
  cases lib.reading container source with
  | error e => simp
  | ok read =>
      cases read with
      | none =>
          cases hrequired : source.required with
          | false => simp [missing, hrequired, eq_comm]
          | true => cases value <;> simp [missing, hrequired]
      | some text => cases value <;> simp

/-- **One source and what is done with its text.** -/
lemma verdict_extract_bind {α : Type} {source : ValueSource} (fieldName : String)
    {f : Option String → Except HtmlFailure α} {absent : Verdict} {test : String → Verdict}
    (habsent : verdict (f none) = absent) (htest : ∀ text, verdict (f (some text)) = test text) :
    verdict (lib.extract container source fieldName >>= f) =
      lib.sourceVerdict container source absent test := by
  rw [extract_eq, sourceVerdict]
  cases lib.reading container source with
  | error e => cases e <;> rfl
  | ok read =>
      cases read with
      | none =>
          rw [missing]
          cases source.required with
          | false => simpa using habsent
          | true => rfl
      | some text => exact htest text

lemma verdict_extract (source : ValueSource) (fieldName : String) :
    verdict (lib.extract container source fieldName) =
      lib.sourceVerdict container source .returns fun _ => .returns := by
  have h : verdict (lib.extract container source fieldName >>= Except.ok) =
      lib.sourceVerdict container source .returns fun _ => .returns :=
    lib.verdict_extract_bind fieldName rfl fun _ => rfl
  rw [← h]
  cases lib.extract container source fieldName <;> rfl

/-- A text that a source has is its own normal form and not blank. -/
lemma reading_some {source : ValueSource} {text : String}
    (h : lib.reading container source = .ok (some text)) : strip text = text ∧ text ≠ "" := by
  rw [reading, map_eq_ok] at h
  obtain ⟨element, _, hfilter⟩ := h
  rw [Option.filter_eq_some_iff, Option.map_eq_some_iff] at hfilter
  obtain ⟨⟨raw, _, rfl⟩, hne⟩ := hfilter
  exact ⟨strip_normalizeSpace raw, by simpa using hne⟩

/-! ## One container -/

/-- **The availability**: an absent one is not in the mapping, whether it is required or not. -/
lemma verdict_mapAvailability (opportunityId : Option String) :
    verdict (lib.extract container config.availability "availability" >>=
        mapAvailability config opportunityId) =
      lib.sourceVerdict container config.availability .handled fun text =>
        if (config.availabilityMapping.lookup text).isSome then .returns else .handled := by
  refine lib.verdict_extract_bind "availability" rfl fun text => ?_
  rw [mapAvailability, Option.bind_some]
  cases config.availabilityMapping.lookup text <;> rfl

/-- **A source that may be left out**, with the conversion of its text. -/
lemma verdict_extractConverted {α : Type} (source : Option ValueSource) (fieldName : String)
    {convert : String → Except HtmlFailure α} {test : String → Verdict}
    (htest : ∀ text, verdict (convert text) = test text) :
    verdict (lib.extractConverted container source fieldName convert) =
      .first
        (source.toList.map fun source => lib.sourceVerdict container source .returns test) := by
  cases source with
  | none => rfl
  | some source =>
      rw [Option.toList_some, List.map_singleton, Verdict.first_cons, Verdict.first_nil,
        Verdict.andThen_returns]
      refine lib.verdict_extract_bind fieldName rfl fun text => ?_
      rw [← htest text]
      exact Verdict.ofExcept_map

lemma verdict_convertStartsAt (opportunityId : Option String) (text : String) :
    verdict (convertStartsAt opportunityId text) =
      if (fromisoformat text).isSome then .returns else .handled := by
  rw [convertStartsAt]
  cases fromisoformat text <;> rfl

lemma verdict_joinBookingUrl (text : String) :
    verdict (lib.joinBookingUrl baseUrl text) = lib.joinVerdict baseUrl text := by
  rw [joinBookingUrl, joinVerdict]
  cases lib.urljoin baseUrl text <;> rfl

lemma verdict_extractAttribute (item : String × ValueSource) :
    verdict (lib.extractAttribute container item) =
      lib.sourceVerdict container item.2 .returns fun _ => .returns := by
  rw [extractAttribute, verdict, Verdict.ofExcept_map]
  exact lib.verdict_extract item.2 _

/-- What the constructor sees of an identifier or a title. -/
lemma strip_getD_eq_empty {source : ValueSource} {value : Option String}
    (h : lib.reading container source = .ok value) :
    strip (value.getD "") = "" ↔ lib.present container source = false := by
  rw [present, h]
  cases value with
  | none => simp [show strip "" = "" from rfl]
  | some text =>
      obtain ⟨hstrip, hne⟩ := lib.reading_some h
      simp [hstrip, hne]

/-- What the constructor sees of the booking URL. -/
lemma bookingUrl_ne_iff {source : Option ValueSource} {bookingUrl : Option String}
    (h : lib.extractConverted container source "booking_url" (lib.joinBookingUrl baseUrl)
      = .ok bookingUrl) :
    (∀ u ∈ bookingUrl, strip u ≠ "") ↔
      (source.all fun source => ! lib.blankUrl baseUrl container source) = true := by
  cases source with
  | none =>
      obtain rfl := Except.ok.inj h
      simp
  | some source =>
      rw [extractConverted, bind_eq_ok] at h
      obtain ⟨raw, hraw, h⟩ := h
      have hread := (lib.extract_eq_ok.mp hraw).1
      rw [Option.all_some, blankUrl, hread]
      cases raw with
      | none =>
          obtain rfl := Except.ok.inj h
          simp
      | some text =>
          dsimp only at h
          rw [map_eq_ok] at h
          obtain ⟨url, hurl, rfl⟩ := h
          rw [joinBookingUrl] at hurl
          split at hurl
          · next url' hjoin =>
              obtain rfl := Except.ok.inj hurl
              simp [hjoin, Except.toOption]
          · simp at hurl

/-- **The constructor** of the opportunity. -/
lemma verdict_construct {opportunityId title bookingUrl : Option String}
    (availability : Availability) (startsAt : Option Datetime) (attributes : Attributes)
    (hid : lib.reading container config.id = .ok opportunityId)
    (htitle : lib.reading container config.title = .ok title)
    (hurl : lib.extractConverted container config.bookingUrl "booking_url"
      (lib.joinBookingUrl baseUrl) = .ok bookingUrl) :
    verdict (construct opportunityId title availability startsAt bookingUrl attributes) =
      lib.constructVerdict baseUrl config container := by
  have hid := lib.strip_getD_eq_empty hid
  have htitle := lib.strip_getD_eq_empty htitle
  have hurl := lib.bookingUrl_ne_iff baseUrl hurl
  rw [construct, constructVerdict, Opportunity.create]
  cases hpresent : lib.present container config.id with
  | false =>
      rw [dif_pos (hid.mpr hpresent)]
      simp [HtmlFailure.isHtmlParserError]
  | true =>
      rw [dif_neg (by simp [hid, hpresent])]
      cases hpresent' : lib.present container config.title with
      | false =>
          rw [dif_pos (htitle.mpr hpresent')]
          simp [HtmlFailure.isHtmlParserError]
      | true =>
          rw [dif_neg (by simp [htitle, hpresent'])]
          by_cases hblank : ∀ u ∈ bookingUrl, strip u ≠ ""
          · rw [dif_pos hblank, hurl.mp hblank]
            rfl
          · rw [dif_neg hblank, Bool.eq_false_iff.mpr fun h => hblank (hurl.mpr h)]
            rfl

/-- **The verdict on a container** is the first that is not `returns` of what it is asked for. -/
lemma verdict_parseOpportunity :
    verdict (lib.parseOpportunity baseUrl config container) =
      .first (lib.demands baseUrl config container) := by
  simp only [demands, Verdict.first_append, Verdict.first_cons, Verdict.first_nil,
    Verdict.andThen_returns, Verdict.andThen_assoc]
  rw [parseOpportunity]
  refine Verdict.ofExcept_bind (lib.verdict_extract config.id "id") fun opportunityId hid => ?_
  refine Verdict.ofExcept_bind (lib.verdict_extract config.title "title") fun title htitle => ?_
  rw [← bind_assoc]
  refine Verdict.ofExcept_bind (lib.verdict_mapAvailability config opportunityId)
    fun availability _ => ?_
  refine Verdict.ofExcept_bind (lib.verdict_extractConverted config.startsAt "starts_at"
    (verdict_convertStartsAt opportunityId)) fun startsAt _ => ?_
  refine Verdict.ofExcept_bind (lib.verdict_extractConverted config.bookingUrl "booking_url"
    (lib.verdict_joinBookingUrl baseUrl)) fun bookingUrl hurl => ?_
  refine Verdict.ofExcept_bind (Verdict.ofExcept_mapM fun item _ =>
    lib.verdict_extractAttribute item) fun attributes _ => ?_
  exact lib.verdict_construct baseUrl config availability startsAt _
    (lib.extract_eq_ok.mp hid).1 (lib.extract_eq_ok.mp htitle).1 hurl

/-- A required source has been read. -/
lemma exists_reading {source : ValueSource} {fieldName : String} {value : Option String}
    (h : lib.extract container source fieldName = .ok value) (hrequired : source.required = true) :
    ∃ text, lib.reading container source = .ok (some text) := by
  obtain ⟨hread, habsent⟩ := lib.extract_eq_ok.mp h
  cases value with
  | none => simp [habsent rfl] at hrequired
  | some text => exact ⟨text, hread⟩

/-- What the constructor has kept of a text that it accepted is the text. -/
lemma reading_getD {source : ValueSource} {value : Option String} {s : String}
    (h : lib.reading container source = .ok value) (hs : s = strip (value.getD "")) (hne : s ≠ "") :
    lib.reading container source = .ok (some s) := by
  cases value with
  | none =>
      rw [Option.getD_none] at hs
      exact absurd hs hne
  | some text => rw [h, hs, Option.getD_some, (lib.reading_some h).1]

/-- **A container that is parsed** gives the opportunity that its sources say. -/
lemma parseOpportunity_ok {o : Opportunity}
    (h : lib.parseOpportunity baseUrl config container = .ok o) :
    lib.Reads config container o := by
  rw [parseOpportunity] at h
  simp only [bind_eq_ok] at h
  obtain ⟨opportunityId, hid, title, htitle, provider, hprovider, availability, havailability,
    startsAt, hstartsAt, bookingUrl, hbookingUrl, attributes, hattributes, h⟩ := h
  rw [construct] at h
  split at h
  · next o' hcreate =>
      obtain rfl := Except.ok.inj h
      obtain ⟨hidField, htitleField, havailabilityField, -, -⟩ := Opportunity.create_fields hcreate
      refine ⟨lib.reading_getD (lib.extract_eq_ok.mp hid).1 hidField o'.id_ne,
        lib.reading_getD (lib.extract_eq_ok.mp htitle).1 htitleField o'.title_ne, ?_, ?_⟩
      · rw [mapAvailability] at havailability
        split at havailability
        · next found hlookup =>
            obtain rfl := Except.ok.inj havailability
            obtain ⟨text, rfl, htext⟩ := Option.bind_eq_some_iff.mp hlookup
            exact ⟨text, (lib.extract_eq_ok.mp hprovider).1, havailabilityField ▸ htext⟩
        · simp at havailability
      · intro source hsource hrequired
        simp only [ParserConfig.sources, List.mem_append, List.mem_cons, List.not_mem_nil, or_false,
          Option.mem_toList, List.mem_map] at hsource
        rcases hsource with (((rfl | rfl | rfl) | hsource) | hsource) | ⟨item, hitem, rfl⟩
        · exact lib.exists_reading hid hrequired
        · exact lib.exists_reading htitle hrequired
        · exact lib.exists_reading hprovider hrequired
        · rw [hsource, extractConverted, bind_eq_ok] at hstartsAt
          obtain ⟨raw, hraw, _⟩ := hstartsAt
          exact lib.exists_reading hraw hrequired
        · rw [hsource, extractConverted, bind_eq_ok] at hbookingUrl
          obtain ⟨raw, hraw, _⟩ := hbookingUrl
          exact lib.exists_reading hraw hrequired
        · obtain ⟨entry, _, hentry⟩ := exists_of_mapM_eq_ok hattributes item hitem
          rw [extractAttribute, map_eq_ok] at hentry
          obtain ⟨value, hvalue, _⟩ := hentry
          exact lib.exists_reading hvalue hrequired
  · simp at h

/-! ## The page -/

lemma verdict_rejectDuplicates (opportunities : List Opportunity) :
    verdict (rejectDuplicates opportunities) ≠ .escapes := by
  rw [rejectDuplicates]
  split_ifs <;> simp [verdict, HtmlFailure.isHtmlParserError]

/-- **The verdict on a page** escapes exactly if the first thing that is refused does. -/
lemma verdict_parse (soup : Tag) :
    verdict (lib.parse baseUrl config soup) = .escapes ↔
      Verdict.first (lib.pageDemands baseUrl config soup) = .escapes := by
  rw [parse, pageDemands]
  cases lib.select soup config.opportunitySelector with
  | error e => cases e <;> simp [SelectorFailure.raised, HtmlFailure.isHtmlParserError]
  | ok containers =>
      cases containers with
      | nil => simp [HtmlFailure.isHtmlParserError]
      | cons container containers =>
          dsimp only
          rw [verdict, Verdict.ofExcept_bind_eq_escapes verdict_rejectDuplicates,
            Verdict.ofExcept_mapM fun container _ => lib.verdict_parseOpportunity baseUrl config,
            Verdict.first_flatMap]

/-- A page that is parsed has been parsed container by container. -/
lemma parse_eq_ok {soup : Tag} {opportunities : List Opportunity}
    (h : lib.parse baseUrl config soup = .ok opportunities) :
    ∃ containers, lib.select soup config.opportunitySelector = .ok containers ∧
      containers.mapM (lib.parseOpportunity baseUrl config) = .ok opportunities ∧
      (opportunities.map Opportunity.id).Nodup := by
  rw [parse] at h
  split at h
  · simp at h
  · simp at h
  · next hselect =>
      rw [bind_eq_ok] at h
      obtain ⟨parsed, hparsed, h⟩ := h
      rw [rejectDuplicates] at h
      split_ifs at h with hnodup
      obtain rfl := Except.ok.inj h
      exact ⟨_, hselect, hparsed, duplicates_eq_nil.mp hnodup⟩

/-- **A page that is parsed** gives one opportunity for each container, in document order, and no
two of them have one identifier. -/
lemma parse_ok {soup : Tag} {opportunities : List Opportunity}
    (h : lib.parse baseUrl config soup = .ok opportunities) :
    ∃ containers, lib.select soup config.opportunitySelector = .ok containers ∧
      List.Forall₂ (lib.Reads config) containers opportunities ∧
      (opportunities.map Opportunity.id).Nodup := by
  obtain ⟨containers, hselect, hparsed, hnodup⟩ := lib.parse_eq_ok baseUrl config h
  have hreads := (mapM_eq_ok_iff.mp hparsed).imp fun _ _ => lib.parseOpportunity_ok baseUrl config
  exact ⟨containers, hselect, hreads, hnodup⟩

/-- **Parsing is all or nothing**, and the driver reports the failure, exactly if the first thing
that the page refuses is neither a booking URL that `urljoin` does not take nor a selector that the
library has not implemented. -/
theorem parse_allOrNothing_iff (soup : Tag) :
    ((∃ opportunities containers, lib.parse baseUrl config soup = .ok opportunities ∧
        lib.select soup config.opportunitySelector = .ok containers ∧
        List.Forall₂ (lib.Reads config) containers opportunities ∧
        (opportunities.map Opportunity.id).Nodup) ∨
      ∃ e, lib.parse baseUrl config soup = .error e ∧ e.isHtmlParserError = true ∧
        ∀ checkedAt, lib.check baseUrl config soup checkedAt = .error (.driverParseError
          ("Could not safely parse provider response from " ++ baseUrl ++ ": " ++ e.message))) ↔
      Verdict.first (lib.pageDemands baseUrl config soup) ≠ .escapes := by
  rw [ne_eq, ← verdict_parse, ← ne_eq, Verdict.ofExcept_ne_escapes]
  constructor
  · rintro (⟨opportunities, _, h, _⟩ | ⟨e, h, he, _⟩)
    · exact Or.inl ⟨opportunities, h⟩
    · exact Or.inr ⟨e, h, he⟩
  · rintro (⟨opportunities, h⟩ | ⟨e, h, he⟩)
    · obtain ⟨containers, hselect, hreads, hnodup⟩ := lib.parse_ok baseUrl config h
      exact Or.inl ⟨opportunities, containers, h, hselect, hreads, hnodup⟩
    · refine Or.inr ⟨e, h, he, fun checkedAt => ?_⟩
      rw [check, h]
      simp [he]

end HtmlLibrary

/-- Elements that are read off their attributes, and a `urljoin` that knows one kind of malformed
host. -/
def attributeLibrary : HtmlLibrary (List (String × String)) where
  select tag _ := .ok [tag]
  selectOne tag _ := .ok (some tag)
  get tag name := (tag.lookup name).map .text
  getText _ := ""
  urljoin base url :=
    if "http://[".toList.isPrefixOf url.toList then .error "Invalid IPv6 URL" else .ok (base ++ url)

lemma stripped_ne_of_mem_none : ∀ s ∈ (none : Option String), strip s ≠ "" := by simp

/-- A source that is read off an attribute. -/
def attributeSource (name : String) (h : strip name ≠ "") : ValueSource where
  attributeName := some name
  selector_ne := stripped_ne_of_mem_none
  attributeName_ne := by simpa using h

/-- A configuration with a booking URL. -/
def bookingConfig : ParserConfig where
  opportunitySelector := "li"
  id := attributeSource "data-id" (by decide)
  title := attributeSource "data-title" (by decide)
  availability := attributeSource "data-status" (by decide)
  availabilityMapping := [("open", .available)]
  bookingUrl := some (attributeSource "href" (by decide))
  opportunitySelector_ne := by decide
  availabilityMapping_ne := by simp
  providerValues_ne := by decide
  providerValues_nodup := by decide
  attributeNames_ne := by simp
  attributeNames_nodup := by simp

/-- An element whose link has a malformed host. -/
def malformedHost : List (String × String) :=
  [("data-id", "tour"), ("data-title", "Tour"), ("data-status", "open"), ("href", "http://[bad/")]

/-- **A booking URL with a malformed host** makes the `ValueError` of `urljoin` escape. -/
theorem malformedHost_escapes :
    ¬ ((∃ opportunities containers,
        attributeLibrary.parse "http://mock-site" bookingConfig malformedHost = .ok opportunities ∧
        attributeLibrary.select malformedHost bookingConfig.opportunitySelector = .ok containers ∧
        List.Forall₂ (attributeLibrary.Reads bookingConfig) containers opportunities ∧
        (opportunities.map Opportunity.id).Nodup) ∨
      ∃ e, attributeLibrary.parse "http://mock-site" bookingConfig malformedHost = .error e ∧
        e.isHtmlParserError = true ∧
        ∀ checkedAt, attributeLibrary.check "http://mock-site" bookingConfig malformedHost checkedAt
          = .error (.driverParseError ("Could not safely parse provider response from " ++
              "http://mock-site" ++ ": " ++ e.message))) := by
  have hparse : (attributeLibrary.parse "http://mock-site" bookingConfig malformedHost).map
      (fun _ => ()) = .error (.valueError "Invalid IPv6 URL") := by decide +kernel
  rintro (⟨opportunities, _, h, _⟩ | ⟨e, h, he, _⟩)
  · simp [h] at hparse
  · rw [h, map_error, Except.error.injEq] at hparse
    simp [hparse, HtmlFailure.isHtmlParserError] at he

end WebChecker
