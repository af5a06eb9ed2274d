import WebChecker.Drivers.BcParks.Complete
import WebChecker.Drivers.GenericHtml.AllOrNothing
import WebChecker.Drivers.WelcomeBc.DrawDates
import WebChecker.Storage.RoundTrip

/-!
# What the shipped drivers store

The three drivers fill the attributes of an opportunity with very different things: the texts that
a configuration asks for, the fields of a reservation, the selection routes of a draw.  All of them
are dictionaries that JSON can write, and `getLatest_same_shipped_iff` says which of their
snapshots come back equal: those of the first two drivers.

WelcomeBC stores the routes of a draw as a tuple, which comes back as a list, and it never returns
an empty snapshot.
-/

namespace WebChecker

open Results

/-! ## Results -/

/-- The drivers that are shipped. -/
inductive ShippedDriver where
  | genericHtml
  | bcparksDayuse
  | welcomebcHighImpact
deriving DecidableEq, Repr

/-- The driver can return the snapshot, whatever its configuration and its provider's response. -/
inductive Returns : ShippedDriver → CheckResult → Prop
  | genericHtml {Tag : Type} {lib : HtmlLibrary Tag} {responseUrl : String} {config : ParserConfig}
      {soup : Tag} {checkedAt : Datetime} {result : CheckResult} :
      lib.check responseUrl config soup checkedAt = .ok result → Returns .genericHtml result
  | bcparksDayuse {zone : ProviderZone} {config : BCParksDayUseConfig}
      {responses : BCParks.Responses} {checkedAt : Datetime} {result : CheckResult} :
      BCParks.check zone config responses checkedAt = .ok result → Returns .bcparksDayuse result
  | welcomebcHighImpact {u : UnicodeData} {vancouver : Date → Time → TzInfo} {soup : DomNode}
      {responseUrl : String} {checkedAt : Datetime} {result : CheckResult} :
      u.check vancouver soup responseUrl checkedAt = .ok result →
        Returns .welcomebcHighImpact result

/-- What the constructor of a snapshot returns has the opportunities it was given. -/
lemma CheckResult.create_opportunities {checkedAt : Datetime} {opportunities : List Opportunity}
    {result : CheckResult} (h : CheckResult.create checkedAt opportunities = .ok result) :
    result.opportunities = opportunities := by
  rw [create] at h
  split_ifs at h
  rw [← Except.ok.inj h]

/-! ## The attributes of the generic driver -/

section GenericHtml

variable {Tag : Type} {lib : HtmlLibrary Tag} {container : Tag}

/-- The attributes that are read are some of those the configuration names, in its order. -/
lemma names_extractAttributes {items : List (String × ValueSource)}
    {entries : List (Option (String × PyVal))}
    (h : items.mapM (lib.extractAttribute container) = .ok entries) :
    (entries.reduceOption.map Prod.fst).Sublist (items.map Prod.fst) ∧
      ∀ entry ∈ entries.reduceOption, ∃ text, entry.2 = .str text := by
  rw [mapM_eq_ok_iff] at h
  induction h with
  | nil => simp
  | @cons item entry items entries hentry _ ih =>
      rw [HtmlLibrary.extractAttribute, map_eq_ok] at hentry
      obtain ⟨value, _, rfl⟩ := hentry
      obtain ⟨hnames, htexts⟩ := ih
      cases value with
      | none => exact ⟨hnames.cons _, htexts⟩
      | some text =>
          refine ⟨hnames.cons_cons _, ?_⟩
          rintro e (_ | ⟨_, he⟩)
          · exact ⟨text, rfl⟩
          · exact htexts e he

/-- **The attributes of a container** are texts under different names. -/
lemma parseOpportunity_attributes {baseUrl : String} {config : ParserConfig} {o : Opportunity}
    (h : lib.parseOpportunity baseUrl config container = .ok o) :
    (attributesDict o.attributes).WellFormed ∧ (attributesDict o.attributes).isNative = true := by
  simp only [HtmlLibrary.parseOpportunity, bind_eq_ok] at h
  obtain ⟨_, _, _, _, _, _, _, _, _, _, _, _, entries, hentries, h⟩ := h
  rw [HtmlLibrary.construct] at h
  split at h
  · next o' hcreate =>
      obtain rfl := Except.ok.inj h
      obtain ⟨-, -, -, -, hattributes⟩ := Opportunity.create_fields hcreate
      obtain ⟨hnames, htexts⟩ := names_extractAttributes hentries
      rw [hattributes, wellFormed_attributesDict, isNative_attributesDict]
      refine ⟨⟨config.attributeNames_nodup.sublist hnames, ?_⟩, ?_⟩
      · intro entry hentry
        obtain ⟨text, htext⟩ := htexts entry hentry
        simp [htext, PyVal.WellFormed]
      · intro entry hentry
        obtain ⟨text, htext⟩ := htexts entry hentry
        simp [htext, PyVal.isNative]
  · simp at h

end GenericHtml

/-! ## The attributes of BC Parks -/

/-- **The attributes of a reservation** are texts and numbers under fixed names. -/
lemma buildOpportunity_attributes {zone : ProviderZone} {config : BCParksDayUseConfig}
    {parkName : String} {facility : Facility} {now : Datetime} {latest : Date}
    {item : ReservationSlot} {o : Opportunity}
    (h : buildOpportunity zone config parkName facility now latest item = .ok (some o)) :
    (attributesDict o.attributes).WellFormed ∧ (attributesDict o.attributes).isNative = true := by
  rw [buildOpportunity] at h
  split_ifs at h with hwindow
  dsimp only at h
  split_ifs at h with hover
  · simp at h
  · split at h
    · simp at h
    · split at h
      · simp at h
      · split at h
        · next o' hcreate =>
            obtain rfl := Option.some.inj (Except.ok.inj h)
            obtain ⟨-, -, -, -, hattributes⟩ := Opportunity.create_fields hcreate
            rw [hattributes, wellFormed_attributesDict]
            exact ⟨⟨by simp, by simp [PyVal.WellFormed]⟩, rfl⟩
        · simp at h

/-! ## The attributes of WelcomeBC -/

/-- **The attributes of a draw** hold a tuple. -/
lemma toOpportunity_attributes {vancouver : Date → Time → TzInfo} {sourceUrl : String}
    {draw : HighImpactDraw} {o : Opportunity}
    (h : toOpportunity vancouver sourceUrl draw = .ok o) :
    (attributesDict o.attributes).WellFormed ∧ (attributesDict o.attributes).isNative = false := by
  rw [toOpportunity, bind_eq_ok] at h
  obtain ⟨suffix, _, h⟩ := h
  rw [uncaught_eq_ok] at h
  obtain ⟨-, -, -, -, hattributes⟩ := Opportunity.create_fields h
  have hroute (route : SelectionRoute) : route.attribute.WellFormed := by
    simp [SelectionRoute.attribute, PyVal.WellFormed, WellFormedItems, DistinctKeys, PyKey.same,
      PyKey.number]
  have hroutes : WellFormedList (draw.routes.map SelectionRoute.attribute) := by
    rw [wellFormedList_iff, List.forall_mem_map]
    exact fun route _ => hroute route
  rw [hattributes, wellFormed_attributesDict, Bool.eq_false_iff, ne_eq, isNative_attributesDict]
  constructor
  · cases draw.totalInvitations <;> simp [PyVal.WellFormed, hroutes]
  · intro hnative
    have htuple := hnative ("selection_routes", .tuple (draw.routes.map SelectionRoute.attribute))
      (by simp)
    simp [PyVal.isNative] at htuple

/-! ## Every driver -/

/-- An opportunity of the generic driver comes from a container. -/
lemma exists_parseOpportunity {Tag : Type} {lib : HtmlLibrary Tag} {responseUrl : String}
    {config : ParserConfig} {soup : Tag} {checkedAt : Datetime} {result : CheckResult}
    (h : lib.check responseUrl config soup checkedAt = .ok result) :
    ∀ o ∈ result.opportunities, ∃ container,
      lib.parseOpportunity responseUrl config container = .ok o := by
  rw [HtmlLibrary.check] at h
  split at h
  · split_ifs at h
  · next opportunities hparse =>
      split at h
      · next result' hcreate =>
          obtain rfl := Except.ok.inj h
          obtain ⟨containers, _, hparsed, _⟩ := lib.parse_eq_ok responseUrl config hparse
          intro o ho
          rw [CheckResult.create_opportunities hcreate] at ho
          obtain ⟨container, _, hcontainer⟩ := mem_of_mapM_eq_ok hparsed o ho
          exact ⟨container, hcontainer⟩
      · simp at h

/-- An opportunity of BC Parks comes from a reservation. -/
lemma exists_buildOpportunity {zone : ProviderZone} {config : BCParksDayUseConfig}
    {responses : BCParks.Responses} {checkedAt : Datetime} {result : CheckResult}
    (h : BCParks.check zone config responses checkedAt = .ok result) :
    ∀ o ∈ result.opportunities, ∃ parkName facility now latest item,
      buildOpportunity zone config parkName facility now latest item = .ok (some o) := by
  obtain ⟨parsed, _, hcheck⟩ := BCParks.parsed_of_check h
  simp only [checkParks, bind_eq_ok] at hcheck
  obtain ⟨park, _, facility, _, _, _, opportunities, hbuilt, hresult⟩ := hcheck
  simp only [buildOpportunities, bind_eq_ok, pure_eq_ok, Except.ok.injEq] at hbuilt
  obtain ⟨now, _, latest, _, _, _, _, _, _, _, _, _, rs, hrs, rfl⟩ := hbuilt
  rw [checkResult] at hresult
  split_ifs at hresult
  split at hresult
  · next result' hcreate =>
      obtain rfl := Except.ok.inj hresult
      intro o ho
      rw [CheckResult.create_opportunities hcreate, List.reduceOption_mem_iff] at ho
      obtain ⟨item, _, hitem⟩ := mem_of_mapM_eq_ok hrs _ ho
      exact ⟨_, _, _, _, _, hitem⟩
  · simp at hresult

/-- The opportunities of WelcomeBC come from draws, and there is one at least. -/
lemma exists_toOpportunity {u : UnicodeData} {vancouver : Date → Time → TzInfo} {soup : DomNode}
    {responseUrl : String} {checkedAt : Datetime} {result : CheckResult}
    (h : u.check vancouver soup responseUrl checkedAt = .ok result) :
    result.opportunities ≠ [] ∧ ∀ o ∈ result.opportunities, ∃ draw,
      toOpportunity vancouver responseUrl draw = .ok o := by
  rw [UnicodeData.check] at h
  split at h
  · simp at h
  · next opportunities hparse =>
      split at h
      · next result' hcreate =>
          obtain rfl := Except.ok.inj h
          rw [CheckResult.create_opportunities hcreate]
          simp only [UnicodeData.parse, bind_eq_ok] at hparse
          obtain ⟨_, _, _, _, _, _, _, _, hparse⟩ := hparse
          split_ifs at hparse with hnone
          constructor
          · rintro rfl
            have hlength := (mapM_eq_ok_iff.mp hparse).length_eq
            rw [List.length_insertionSort, List.length_nil, List.length_eq_zero_iff] at hlength
            exact hnone hlength
          · intro o ho
            obtain ⟨draw, _, hdraw⟩ := mem_of_mapM_eq_ok hparse o ho
            exact ⟨draw, hdraw⟩
      · simp at h

/-- **The attributes of a shipped driver** are dictionaries, and JSON has all of their values unless
the driver is WelcomeBC. -/
lemma Returns.attributes {driver : ShippedDriver} {result : CheckResult}
    (h : Returns driver result) :
    result.WellFormed ∧
      ((∀ o ∈ result.opportunities, (attributesDict o.attributes).isNative = true) ↔
        driver ≠ .welcomebcHighImpact) := by
  cases h with
  | genericHtml hcheck =>
      have hattributes : ∀ o ∈ result.opportunities, (attributesDict o.attributes).WellFormed ∧
          (attributesDict o.attributes).isNative = true := by
        intro o ho
        obtain ⟨container, hcontainer⟩ := exists_parseOpportunity hcheck o ho
        exact parseOpportunity_attributes hcontainer
      refine ⟨fun o ho => (hattributes o ho).1, ?_⟩
      simpa using fun o ho => (hattributes o ho).2
  | bcparksDayuse hcheck =>
      have hattributes : ∀ o ∈ result.opportunities, (attributesDict o.attributes).WellFormed ∧
          (attributesDict o.attributes).isNative = true := by
        intro o ho
        obtain ⟨_, _, _, _, _, hitem⟩ := exists_buildOpportunity hcheck o ho
        exact buildOpportunity_attributes hitem
      refine ⟨fun o ho => (hattributes o ho).1, ?_⟩
      simpa using fun o ho => (hattributes o ho).2
  | welcomebcHighImpact hcheck =>
      obtain ⟨hne, hdraws⟩ := exists_toOpportunity hcheck
      constructor
      · intro o ho
        obtain ⟨draw, hdraw⟩ := hdraws o ho
        exact (toOpportunity_attributes hdraw).1
      · obtain ⟨o, ho⟩ := List.exists_mem_of_ne_nil _ hne
        obtain ⟨draw, hdraw⟩ := hdraws o ho
        have htuple := (toOpportunity_attributes hdraw).2
        simp only [ne_eq, not_true_eq_false, iff_false, not_forall]
        exact ⟨o, ho, by simp [htuple]⟩

/-- **What a shipped driver returns comes back equal** exactly if the driver is not WelcomeBC and
no time of the snapshot has an offset that depends on `fold`. -/
theorem getLatest_same_shipped_iff {db db' : Database} (hreach : Reachable db) (jobId : String)
    {driver : ShippedDriver} {result : CheckResult} (hreturns : Returns driver result)
    {plan : NotificationPlan} {outcome : RecordOutcome}
    (h : recordSuccess db jobId result plan = .ok (outcome, db')) :
    (∃ latest, getLatest db' jobId = .ok (some latest) ∧ result.same latest = true) ↔
      driver ≠ .welcomebcHighImpact ∧ ∀ d ∈ result.times, d.foldDependent = false := by
  obtain ⟨hwellFormed, hnative⟩ := hreturns.attributes
  rw [getLatest_same_iff hreach jobId hwellFormed h, hnative, and_comm]

/-- A reservation snapshot comes back equal. -/
theorem getLatest_same_shipped_reservation :
    ∃ result outcome db', Returns .bcparksDayuse result ∧
      recordSuccess .empty "parks" result .email = .ok (outcome, db') ∧
      ∃ latest, getLatest db' "parks" = .ok (some latest) ∧ result.same latest = true := by
  obtain ⟨result, hresult, htest⟩ := exists_ok_of_any
    (x := BCParks.check summerZone southBeach
      (southBeachResponses [morning "2026-08-01", morning "2026-08-02"]) .epoch)
    (p := fun result => (recordSuccess .empty "parks" result .email).isOk &&
      result.times.all fun d => !d.foldDependent) (by decide +kernel)
  rw [Bool.and_eq_true, List.all_eq_true] at htest
  obtain ⟨⟨outcome, db'⟩, hrecord⟩ := exists_ok htest.1
  have hreturns : Returns .bcparksDayuse result := .bcparksDayuse hresult
  have hsame := (getLatest_same_shipped_iff ⟨[], rfl⟩ "parks" hreturns hrecord).mpr
    ⟨by decide, fun d hd => by simpa using htest.2 d hd⟩
  exact ⟨result, outcome, db', hreturns, hrecord, hsame⟩

/-- **A draw that WelcomeBC lists does not come back equal**: its routes were a tuple. -/
theorem draw_not_same :
    ∃ result outcome db', Returns .welcomebcHighImpact result ∧
      recordSuccess .empty "draws" result .email = .ok (outcome, db') ∧
      ¬ ∃ latest, getLatest db' "draws" = .ok (some latest) ∧ result.same latest = true := by
  obtain ⟨result, hresult, htest⟩ := exists_ok_of_any
    (x := UnicodeData.ascii.check summerZone.tzinfo tablePage "https://page" .epoch)
    (p := fun result => (recordSuccess .empty "draws" result .email).isOk) (by decide +kernel)
  obtain ⟨⟨outcome, db'⟩, hrecord⟩ := exists_ok htest
  have hreturns : Returns .welcomebcHighImpact result := .welcomebcHighImpact hresult
  refine ⟨result, outcome, db', hreturns, hrecord, ?_⟩
  obtain ⟨hwellFormed, hnative⟩ := hreturns.attributes
  rw [getLatest_same_iff ⟨[], rfl⟩ "draws" hwellFormed hrecord, hnative]
  simp

end WebChecker
