import Mathlib.Data.Finset.Sort
import WebChecker.Core.Transitions
import WebChecker.Drivers.WelcomeBc.Parser
import WebChecker.Library.Results

/-!
# Alerts depend on the draw dates alone

A page has its draw dates from two places, the table and the narrative sections.  What the parser
makes of a page it accepts is determined by the set of these dates as far as a comparison of
snapshots goes: one available opportunity for each date, the latest first, with an identifier that
is made of the date (`Lists`).

So the transitions between two pages are those between two finite sets (`transitions_of_drawDates`):
what is in the second alone has appeared, what is in the first alone has disappeared.
-/

namespace WebChecker

open Relational Results

/-! ## Snapshots of a set -/

section Keyed

variable {α : Type} [LinearOrder α] {key : α → String}

/-- A set, the largest element first. -/
def descending (s : Finset α) : List α := s.sort (· ≥ ·)

/-- The opportunities are those of a set, the largest first, and all of them are available. -/
structure ListsKeys (key : α → String) (s : Finset α) (os : List Opportunity) : Prop where
  ids : os.map Opportunity.id = (descending s).map key
  available : ∀ o ∈ os, o.availability = .available

lemma nodup_descending (s : Finset α) : (descending s).Nodup := Finset.sort_nodup s _

lemma pairwise_descending (s : Finset α) : (descending s).Pairwise (· ≥ ·) :=
  Finset.pairwise_sort s _

lemma pairwise_gt_descending (s : Finset α) : (descending s).Pairwise (· > ·) :=
  (pairwise_descending s).imp₂ (fun _ _ hge hne => lt_of_le_of_ne hge hne.symm)
    (nodup_descending s)

/-- An identifier is found exactly if its key is in the set. -/
lemma ListsKeys.byId_eq_none {s : Finset α} {r : CheckResult} (h : ListsKeys key s r.opportunities)
    (hkey : Function.Injective key) (a : α) : r.byId (key a) = none ↔ a ∉ s := by
  have hmem : key a ∈ r.opportunities.map Opportunity.id ↔ a ∈ s := by
    simp [h.ids, descending, hkey.eq_iff]
  rw [← hmem]
  constructor
  · intro hnone hid
    obtain ⟨o, ho, hid⟩ := List.mem_map.mp hid
    exact CheckResult.byId_eq_none.mp hnone o ho hid
  · intro hnot
    exact CheckResult.byId_eq_none.mpr fun o ho hid => hnot (hid ▸ List.mem_map_of_mem ho)

variable [DecidableEq α]

/-- A list without repetition that is in order lists its own set. -/
lemma descending_toFinset {l : List α} (hnodup : l.Nodup) (hsorted : l.Pairwise (· ≥ ·)) :
    descending l.toFinset = l :=
  (List.toFinset_sort (· ≥ ·) hnodup).mpr hsorted

/-- What is left of a set without another, in order. -/
lemma filter_descending (s t : Finset α) :
    (descending s).filter (· ∉ t) = descending (s \ t) := by
  have hsub : ((descending s).filter (· ∉ t)).Sublist (descending s) := List.filter_sublist
  have hset : ((descending s).filter (· ∉ t)).toFinset = s \ t := by
    ext a
    simp [descending]
  rw [← hset, descending_toFinset ((nodup_descending s).sublist hsub)
    ((pairwise_descending s).sublist hsub)]

/-- The type of a transition and what it is about. -/
def OpportunityTransition.summary (t : OpportunityTransition) : TransitionType × String :=
  (t.type, t.opportunityId)

/-- Between available opportunities the only news is an opportunity that was not there. -/
lemma summary_current {p : CheckResult} (hp : ∀ o ∈ p.opportunities, o.availability = .available)
    {os : List Opportunity} (hos : ∀ o ∈ os, o.availability = .available) :
    (os.filterMap (currentTransition p)).map OpportunityTransition.summary
      = ((os.map Opportunity.id).filter fun id => (p.byId id).isNone).map fun id =>
          (.appeared, id) := by
  induction os with
  | nil => rfl
  | cons o os ih =>
      have hrest := ih fun o' ho' => hos o' (List.mem_cons_of_mem _ ho')
      have ho := hos o List.mem_cons_self
      cases hid : p.byId o.id with
      | none => simp [currentTransition, hid, hrest, appearedTransition,
          OpportunityTransition.summary]
      | some old =>
          have hold := hp old (CheckResult.byId_eq_some.mp hid).1
          simp [currentTransition, hid, hrest, ho, hold]

lemma summary_previous (c : CheckResult) (os : List Opportunity) :
    (os.filterMap (previousTransition c)).map OpportunityTransition.summary
      = ((os.map Opportunity.id).filter fun id => (c.byId id).isNone).map fun id =>
          (.disappeared, id) := by
  induction os with
  | nil => rfl
  | cons o os ih =>
      cases hid : c.byId o.id with
      | none => simp [previousTransition, hid, ih, disappearedTransition,
          OpportunityTransition.summary]
      | some o' => simp [previousTransition, hid, ih]

/-- The keys of a list of opportunities that another snapshot does not have. -/
lemma ListsKeys.filter_ids {s t : Finset α} {os : List Opportunity} {r : CheckResult}
    (hs : ListsKeys key s os) (ht : ListsKeys key t r.opportunities)
    (hkey : Function.Injective key) :
    ((os.map Opportunity.id).filter fun id => (r.byId id).isNone)
      = (descending (s \ t)).map key := by
  rw [hs.ids, List.filter_map, ← filter_descending]
  refine congrArg _ (List.filter_congr fun a _ => ?_)
  rw [Function.comp_apply, Bool.eq_iff_iff, Option.isNone_iff_eq_none,
    ht.byId_eq_none hkey, decide_eq_true_eq]

/-- **The transitions between two sets**: the new elements, then those that are gone. -/
theorem ListsKeys.transitions {s t : Finset α} {p c : CheckResult}
    (hs : ListsKeys key s p.opportunities) (ht : ListsKeys key t c.opportunities)
    (hkey : Function.Injective key) :
    (detectTransitions p c).map OpportunityTransition.summary
      = (descending (t \ s)).map (fun a => (.appeared, key a)) ++
        (descending (s \ t)).map fun a => (.disappeared, key a) := by
  rw [detectTransitions, List.map_append, summary_current hs.available ht.available,
    summary_previous, ht.filter_ids hs hkey, hs.filter_ids ht hkey, List.map_map, List.map_map]
  rfl

end Keyed

/-! ## Identifiers -/

lemma append_isoformat_injective (start : String) :
    Function.Injective fun d : Date => start ++ d.isoformat := by
  intro d e h
  refine Date.isoformat_injective (String.toList_injective ?_)
  simpa [String.toList_append] using congrArg String.toList h

/-- **A date at the end of a text leaves no blanks to strip there.** -/
lemma strip_append_isoformat {start : String} (c : Char) (cs : List Char)
    (hstart : start.toList = c :: cs) (hc : isSpace c = false) (d : Date) :
    strip (start ++ d.isoformat) = start ++ d.isoformat := by
  have hday : isSpace (Nat.digitChar (d.day % 10)) = false := by
    have : d.day % 10 < 10 := Nat.mod_lt _ (by decide)
    interval_cases d.day % 10 <;> decide
  have hchars : (start ++ d.isoformat).toList = start.toList ++
      ((pad4 d.year ++ '-' :: pad2 d.month ++ ['-', Nat.digitChar (d.day / 10)]) ++
        [Nat.digitChar (d.day % 10)]) := by
    simp [Date.isoformat, isoDate, pad2, String.toList_append]
  have hdrop : start.toList.dropWhile isSpace = start.toList := by simp [hstart, hc]
  have hfront : ∃ c ∈ start.toList, isSpace c = false := ⟨c, by simp [hstart], hc⟩
  rw [strip, hchars, stripChars_append hfront ⟨_, List.mem_singleton_self _, hday⟩, hdrop]
  refine String.toList_injective ?_
  rw [String.toList_ofList, hchars]
  simp [List.rdropWhile, hday]

/-- **Identifiers tell dates apart.** -/
lemma drawId_injective : Function.Injective drawId := append_isoformat_injective _

lemma strip_drawId (d : Date) : strip (drawId d) = drawId d :=
  strip_append_isoformat 'h' "igh-economic-impact-".toList (by simp) (by decide) d

/-! ## The dates of a page -/

def Draws.dates (draws : Draws) : Finset Date := (draws.rows.map HighImpactDraw.drawDate).toFinset

/-- The draw dates of a page: those of the table and those of the narrative sections. -/
def UnicodeData.drawDates (u : UnicodeData) (soup : DomNode) :
    Except WelcomeBCFailure (Finset Date) := do
  let content ← pageContent soup
  let table ← u.findDrawTable content
  let tableDraws ← u.parseTableDraws table
  let narrativeDraws ← u.parseNarrativeDraws content
  return tableDraws.dates ∪ narrativeDraws.dates

lemma Draws.mem_dates {draws : Draws} {d : Date} : d ∈ draws.dates ↔ d ∈ draws.rows.map key :=
  List.mem_toFinset

lemma Draws.dates_setdefault (draws : Draws) (draw : HighImpactDraw) :
    (draws.setdefault draw).dates = insert draw.drawDate draws.dates := by
  ext d
  rw [mem_dates, setdefault, KeyTable.mem_keys_upsert, Finset.mem_insert, mem_dates]

/-- **Merging adds the dates**, whichever of the two has a date. -/
lemma Draws.dates_merge (draws : Draws) (narrative : List HighImpactDraw) :
    (narrative.foldl Draws.setdefault draws).dates
      = draws.dates ∪ (narrative.map HighImpactDraw.drawDate).toFinset := by
  induction narrative generalizing draws with
  | nil => simp
  | cons draw narrative ih =>
      rw [List.foldl_cons, ih, dates_setdefault, List.map_cons, List.toFinset_cons,
        Finset.insert_union, Finset.union_insert]

/-- Sorting the draws lists their dates. -/
lemma Draws.map_insertionSort (draws : Draws) :
    (draws.rows.insertionSort fun a b => b.drawDate ≤ a.drawDate).map HighImpactDraw.drawDate
      = descending draws.dates := by
  have hsort := List.map_insertionSort (fun a b : HighImpactDraw => b.drawDate ≤ a.drawDate)
    (· ≥ ·) HighImpactDraw.drawDate draws.rows fun _ _ _ _ => Iff.rfl
  have hperm := List.perm_insertionSort (· ≥ ·) (draws.rows.map HighImpactDraw.drawDate)
  have hnodup := hperm.nodup_iff.mpr draws.nodup
  rw [hsort, dates, ← List.toFinset_eq_of_perm _ _ hperm,
    descending_toFinset hnodup (List.pairwise_insertionSort (· ≥ ·) _)]

/-! ## What the parser makes of a page -/

/-- The opportunities of a set of dates: decreasing, told apart by their identifiers, and all of
them available. -/
structure ListsDates (dates : Finset Date) (os : List Opportunity) : Prop where
  startDates : os.map (fun o => o.startsAt.map Datetime.date) = (descending dates).map some
  decreasing : (descending dates).Pairwise (· > ·)
  ids : os.map Opportunity.id = (descending dates).map drawId
  ids_nodup : (os.map Opportunity.id).Nodup
  available : ∀ o ∈ os, o.availability = .available

lemma ListsDates.listsKeys {dates : Finset Date} {os : List Opportunity} (h : ListsDates dates os) :
    ListsKeys drawId dates os :=
  ⟨h.ids, h.available⟩

lemma uncaught_eq_ok {α : Type} {x : Except PyError α} {a : α} :
    uncaught x = .ok a ↔ x = .ok a := by
  cases x <;> simp [uncaught]

variable {u : UnicodeData} {vancouver : Date → Time → TzInfo}

/-- The opportunity of a draw depends on the date as far as it can be seen. -/
lemma toOpportunity_ok {sourceUrl : String} {draw : HighImpactDraw} {o : Opportunity}
    (h : toOpportunity vancouver sourceUrl draw = .ok o) :
    o.id = drawId draw.drawDate ∧ o.availability = .available ∧
      o.startsAt.map Datetime.date = some draw.drawDate := by
  rw [toOpportunity, bind_eq_ok] at h
  obtain ⟨suffix, _, h⟩ := h
  rw [uncaught_eq_ok, Opportunity.create] at h
  split_ifs at h
  obtain rfl := Except.ok.inj h
  exact ⟨strip_drawId draw.drawDate, rfl, rfl⟩

/-- **A page that is accepted is listed by its draw dates.** -/
theorem listsDates_of_parse {page : DomNode} {sourceUrl : String} {os : List Opportunity}
    (h : u.parse vancouver page sourceUrl = .ok os) :
    ∃ dates, u.drawDates page = .ok dates ∧ ListsDates dates os := by
  simp only [UnicodeData.parse, bind_eq_ok] at h
  obtain ⟨content, hcontent, table, htable, tableDraws, hfromTable, narrative, hnarrative, h⟩ := h
  split_ifs at h with hnone
  refine ⟨(narrative.rows.foldl Draws.setdefault tableDraws).dates, ?_, ?_⟩
  · simp only [UnicodeData.drawDates, hcontent, htable, hfromTable, hnarrative, ok_bind,
      Draws.dates_merge]
    rfl
  · generalize narrative.rows.foldl Draws.setdefault tableDraws = draws at h
    have hids := map_of_mapM_eq_ok h fun draw o ho => (toOpportunity_ok ho).1
    have hdates := map_of_mapM_eq_ok h fun draw o ho => (toOpportunity_ok ho).2.2
    have hlist := Draws.map_insertionSort draws
    have hids : os.map Opportunity.id = (descending draws.dates).map drawId := by
      rw [hids, ← hlist, List.map_map]
      rfl
    refine ⟨?_, ?_, hids, ?_, ?_⟩
    · rw [hdates, ← hlist, List.map_map]
      rfl
    · exact pairwise_gt_descending _
    · rw [hids]
      exact (nodup_descending _).map drawId_injective
    · intro o ho
      obtain ⟨draw, _, hdraw⟩ := mem_of_mapM_eq_ok h o ho
      exact (toOpportunity_ok hdraw).2.1

/-- **Alerts depend only on the set of draw dates.**  Two accepted pages, whatever else is on
them: each lists its dates, and the transitions between them are the dates that only the second
has, then the dates that only the first has, the latest first in both. -/
theorem transitions_of_drawDates {page₁ page₂ : DomNode} {url₁ url₂ : String}
    {os₁ os₂ : List Opportunity} (h₁ : u.parse vancouver page₁ url₁ = .ok os₁)
    (h₂ : u.parse vancouver page₂ url₂ = .ok os₂) :
    ∃ dates₁ dates₂ : Finset Date,
      u.drawDates page₁ = .ok dates₁ ∧ u.drawDates page₂ = .ok dates₂ ∧
      ListsDates dates₁ os₁ ∧ ListsDates dates₂ os₂ ∧
      ∀ r₁ r₂ : CheckResult, r₁.opportunities = os₁ → r₂.opportunities = os₂ →
        (detectTransitions r₁ r₂).map OpportunityTransition.summary
            = (descending (dates₂ \ dates₁)).map (fun d => (.appeared, drawId d)) ++
              (descending (dates₁ \ dates₂)).map (fun d => (.disappeared, drawId d)) ∧
          (dates₁ = dates₂ → detectTransitions r₁ r₂ = []) := by
  obtain ⟨dates₁, hdates₁, hlists₁⟩ := listsDates_of_parse h₁
  obtain ⟨dates₂, hdates₂, hlists₂⟩ := listsDates_of_parse h₂
  refine ⟨dates₁, dates₂, hdates₁, hdates₂, hlists₁, hlists₂, ?_⟩
  rintro r₁ r₂ rfl rfl
  have htransitions := hlists₁.listsKeys.transitions hlists₂.listsKeys drawId_injective
  refine ⟨htransitions, ?_⟩
  rintro rfl
  refine List.map_eq_nil_iff.mp (htransitions.trans ?_)
  simp [descending]

/-! ## A draw that moves -/

/-- An element with text. -/
def textElement (name s : String) : DomNode := .element name [] [.text .content s]

/-- A row of cells. -/
def textRow (cells : List String) : DomNode := .element "tr" [] (cells.map (textElement "td"))

/-- A page with rows of the table and sections below it. -/
def invitationsPage (rows sections : List DomNode) : DomNode :=
  .element "body" [] [.element "div" [("id", "Skills_Immigration_invitations")]
    [.element "div" [("class", "accordion-body")]
      (.element "table" [] (textRow ["Date", "ITA Type", "Selection factors", "Minimum score",
        "Number of invitations"] :: rows) :: sections)]]

/-- A draw in the table. -/
def tablePage : DomNode := invitationsPage
  [textRow ["July 16, 2026", "Innovate: High Economic Impact", "Points", "132", "346"]] []

/-- The same draw in prose, with another count. -/
def prosePage : DomNode := invitationsPage []
  [textElement "h3" "July 16, 2026",
    textElement "p" ("issued invitations to apply to 5 candidates " ++
      "who will create high economic impact"),
    .element "ul" [] [textElement "li" "Points (5 candidates)"]]

/-- What the parser makes of a page, down to the dates. -/
def parsedDates (page : DomNode) : Option (List (Option Date)) :=
  (UnicodeData.ascii.parse (fun _ _ => .fixed .utc) page "https://page").toOption.map
    fun os => os.map fun o => o.startsAt.map Datetime.date

lemma exists_parse {page : DomNode} {dates : List (Option Date)}
    (h : parsedDates page = some dates) :
    ∃ os, UnicodeData.ascii.parse (fun _ _ => .fixed .utc) page "https://page" = .ok os ∧
      os.map (fun o => o.startsAt.map Datetime.date) = dates := by
  rw [parsedDates] at h
  cases hparse : UnicodeData.ascii.parse (fun _ _ => .fixed .utc) page "https://page" with
  | error e => simp [hparse, Except.toOption] at h
  | ok os => exact ⟨os, rfl, by simpa [hparse, Except.toOption] using h⟩

/-- A draw moves from the table to the prose, and nothing is announced. -/
theorem transitions_of_drawDates_moved :
    ∃ os₁ os₂,
      UnicodeData.ascii.parse (fun _ _ => .fixed .utc) tablePage "https://page" = .ok os₁ ∧
      UnicodeData.ascii.parse (fun _ _ => .fixed .utc) prosePage "https://page" = .ok os₂ ∧
      ∀ r₁ r₂ : CheckResult, r₁.opportunities = os₁ → r₂.opportunities = os₂ →
        detectTransitions r₁ r₂ = [] := by
  let july : Date := ⟨2026, 7, 16, by decide, by decide, by decide⟩
  obtain ⟨os₁, h₁, hos₁⟩ := exists_parse
    (show parsedDates tablePage = some [some july] by decide +kernel)
  obtain ⟨os₂, h₂, hos₂⟩ := exists_parse
    (show parsedDates prosePage = some [some july] by decide +kernel)
  obtain ⟨dates₁, dates₂, _, _, hlists₁, hlists₂, htransitions⟩ := transitions_of_drawDates h₁ h₂
  have hsame : descending dates₁ = descending dates₂ := by
    refine List.map_injective_iff.mpr (Option.some_injective Date) ?_
    rw [← hlists₁.startDates, ← hlists₂.startDates, hos₁, hos₂]
  refine ⟨os₁, os₂, h₁, h₂, fun r₁ r₂ hr₁ hr₂ => (htransitions r₁ r₂ hr₁ hr₂).2 ?_⟩
  rw [← Finset.sort_toFinset dates₁ (· ≥ ·), ← Finset.sort_toFinset dates₂ (· ≥ ·)]
  exact congrArg List.toFinset hsame

end WebChecker
