import Mathlib.Data.List.Sort
import WebChecker.Core.Models
import WebChecker.Library.Dom
import WebChecker.Library.RowTable
import WebChecker.Python.Calendar
import WebChecker.Python.Unicode

/-!
# The WelcomeBC parser

From the document tree to one opportunity for each draw: `WelcomeBCHighImpactParser.parse` with the
two readers it merges, the table of invitations and the narrative sections.

The rows of the table are read one after the other, with the date that the rows before them have
declared and the number of rows it still covers (`TableState`).  A row says by the number of its
cells whether it declares a date of its own.

The tree is the one that the HTML library builds, and the zone database gives the offset of
Vancouver at a wall clock reading.
-/

namespace WebChecker

open Regex Relational

/-- The exceptions of the parser. -/
inductive WelcomeBCFailure where
  | invalidDrawError (message : String)
  | unexpectedPageError (message : String)
  | raised (e : PyError)
deriving DecidableEq, Repr

/-- What the driver makes of the exceptions of its parser: its own exception, and those of the
language, which it does not catch. -/
inductive WelcomeBCDriverFailure where
  | welcomeBCParseError (message : String)
  | raised (e : PyError)
deriving DecidableEq, Repr

def WelcomeBCFailure.reported (responseUrl : String) : WelcomeBCFailure → WelcomeBCDriverFailure
  | invalidDrawError m => .welcomeBCParseError
    ("Could not safely parse WelcomeBC response from " ++ responseUrl ++ ": " ++ m)
  | unexpectedPageError m => .welcomeBCParseError
    ("Could not safely parse WelcomeBC response from " ++ responseUrl ++ ": " ++ m)
  | raised e => .raised e

/-- An exception of the language that is not caught. -/
def uncaught {α : Type} : Except PyError α → Except WelcomeBCFailure α
  | .ok a => .ok a
  | .error e => .error (.raised e)

def highImpactType : String := "Innovate: High Economic Impact"

def expectedHeaders : List String :=
  ["date", "ita type", "selection factors", "minimum score", "number of invitations"]

/-! ## Draws -/

structure SelectionRoute where
  selectionFactors : String
  minimumScore : String
  invitations : String
  invitationCount : Option ℕ
deriving DecidableEq, Repr

structure HighImpactDraw where
  drawDate : Date
  routes : List SelectionRoute
deriving DecidableEq, Repr

instance : HasKey Date HighImpactDraw := ⟨HighImpactDraw.drawDate⟩

/-- Draws by their dates. -/
abbrev Draws := KeyTable Date HighImpactDraw

/-- The sum of the counts, if all of them are known. -/
def HighImpactDraw.totalInvitations (draw : HighImpactDraw) : Option ℕ :=
  if draw.routes.any fun route => route.invitationCount.isNone then none
  else some (draw.routes.map fun route => route.invitationCount.getD 0).sum

/-! ## Text and dates -/

/-- The elements whose strings belong to them alone. -/
def stringContainers : List String := ["rt", "rp", "style", "script", "template"]

/-- `_text`. -/
def elementText (element : DomNode) : String :=
  let strings := ((element.texts stringContainers).map strip).filter (· ≠ "")
  " ".intercalate (words (" ".intercalate strings))

def monthNames : List String :=
  ["january", "february", "march", "april", "may", "june", "july", "august", "september",
    "october", "november", "december"]

/-- The pattern of `%B`, which tries the longer names first. -/
def monthPattern : Expr :=
  .anyOf (["september", "february", "november", "december", "january", "october", "august",
    "march", "april", "june", "july", "may"].map ignoringCase)

/-- The pattern of `%d`. -/
def UnicodeData.dayPattern (u : UnicodeData) : Expr :=
  .anyOf [.seq (exactly "3") (.chars fun c => c = '0' ∨ c = '1'),
    .seq (.chars fun c => c = '1' ∨ c = '2') u.digit,
    .seq (exactly "0") (.chars fun c => '1' ≤ c ∧ c ≤ '9'),
    .chars fun c => '1' ≤ c ∧ c ≤ '9',
    .seq (exactly " ") (.chars fun c => '1' ≤ c ∧ c ≤ '9')]

/-- `%B %d, %Y` as `strptime` reads it. -/
def UnicodeData.datePattern (u : UnicodeData) : Expr :=
  .sequence [.group 1 monthPattern, .plus blank, .group 2 u.dayPattern, exactly ",", .plus blank,
    .group 3 (.sequence [u.digit, u.digit, u.digit, u.digit])]

/-- The text of a group. -/
def groupText (run : Run) (n : ℕ) : String := String.ofList ((run.group n).getD [])

/-- `datetime.strptime(value, "%B %d, %Y")`; `none` is its `ValueError`.  A name that only matches
because case is ignored in other alphabets is not the name of a month. -/
def UnicodeData.strptime (u : UnicodeData) (value : String) : Option Date := do
  let run ← u.datePattern.matchFront value.toList
  if run.rest = [] then
    let month ← monthNames.findIdx? (· = (groupText run 1).toLower)
    let day ← u.readInt (groupText run 2)
    let year ← u.readInt (groupText run 3)
    Date.ofYmd year.toNat (month + 1) day.toNat
  else none

/-- `_parse_date`. -/
def UnicodeData.parseDate (u : UnicodeData) (value : String) : Except WelcomeBCFailure Date :=
  match u.strptime value with
  | some date => .ok date
  | none => .error (.invalidDrawError ("Invalid draw date " ++ pyRepr value))

/-! ## Counts -/

/-- `_integer`. -/
def UnicodeData.integer (u : UnicodeData) (value field : String) : Except WelcomeBCFailure ℕ :=
  match u.readInt (removeChar ',' value) with
  | some n =>
    if 0 < n then .ok n.toNat
    else .error (.invalidDrawError ("Invalid " ++ field ++ " " ++ pyRepr value))
  | none => .error (.invalidDrawError ("Invalid " ++ field ++ " " ++ pyRepr value))

/-- `_invitation_count`. -/
def UnicodeData.invitationCount (u : UnicodeData) (value : String) :
    Except WelcomeBCFailure (Option ℕ) :=
  if (Expr.plus u.digitOrComma).matchesAll value.toList then
    (u.integer value "invitation count").map some
  else if (Expr.sequence [exactly "<", .star blank, .plus u.digit]).matchesAll value.toList then
    .ok none
  else .error (.invalidDrawError ("Invalid invitation count " ++ pyRepr value))

/-! ## The table -/

/-- A cell of the table: its text, and its `rowspan` as it is written. -/
structure TableCell where
  text : String
  rowspan : String := "1"
deriving DecidableEq, Repr

/-- `_rowspan`. -/
def UnicodeData.rowspan (u : UnicodeData) (cell : TableCell) : Except WelcomeBCFailure ℕ :=
  match u.readInt cell.rowspan with
  | some n =>
    if 0 < n then .ok n.toNat
    else .error (.invalidDrawError ("Invalid date rowspan " ++ pyRepr cell.rowspan))
  | none => .error (.invalidDrawError ("Invalid date rowspan " ++ pyRepr cell.rowspan))

/-- `_is_high_impact`. -/
def UnicodeData.isHighImpact (u : UnicodeData) (value : String) : Bool :=
  u.foldCase value = u.foldCase highImpactType

/-- `_table_route`. -/
def UnicodeData.tableRoute (u : UnicodeData) (factors score invitations : String) :
    Except WelcomeBCFailure SelectionRoute :=
  if factors = "" then .error (.invalidDrawError "Selection factors must not be blank")
  else if (Expr.alt (ignoringCase "N/A") (.plus u.digitOrComma)).matchesAll score.toList then
    (u.invitationCount invitations).map fun count => ⟨factors, score, invitations, count⟩
  else .error (.invalidDrawError ("Invalid minimum score " ++ pyRepr score))

/-- The variables of the loop over the rows.  `routeKeys` holds the pairs of `route_keys`, each
with its date. -/
structure TableState where
  grouped : Draws := .empty
  routeKeys : List (Date × String × String) := []
  currentDate : Option Date := none
  remainingDateRows : ℕ := 0

/-- The date of a draw and the number of rows it covers, from the first cell of a row. -/
def UnicodeData.dateCell (u : UnicodeData) (cell : TableCell) :
    Except WelcomeBCFailure (Date × ℕ) := do
  let date ← u.parseDate cell.text
  let rows ← u.rowspan cell
  return (date, rows)

/-- The rest of the loop body, from the type of the draw on. -/
def TableState.readRoute (u : UnicodeData) (s : TableState)
    (itaType factors score invitations : String) : Except WelcomeBCFailure TableState :=
  if u.isHighImpact itaType then
    match s.currentDate with
    | none => .error (.invalidDrawError "High Economic Impact table row has no valid draw date")
    | some date => do
      let route ← u.tableRoute factors score invitations
      let key := (date, u.foldCase route.selectionFactors, u.foldCase route.minimumScore)
      if key ∈ s.routeKeys then
        .error (.invalidDrawError
          ("Draw " ++ date.isoformat ++ " has duplicate selection routes"))
      else
        return { s with
          routeKeys := key :: s.routeKeys
          grouped := s.grouped.upsert date ⟨date, [route]⟩
            (fun draw => { draw with routes := draw.routes ++ [route] }) rfl fun _ => rfl }
  else .ok s

/-- The loop body. -/
def TableState.readRow (u : UnicodeData) (s : TableState) (cells : List TableCell) :
    Except WelcomeBCFailure TableState :=
  match cells with
  | [rawDate, itaType, factors, score, invitations] =>
    match u.dateCell rawDate with
    | .ok (date, rows) =>
      TableState.readRoute u { s with currentDate := some date, remainingDateRows := rows - 1 }
        itaType.text factors.text score.text invitations.text
    | .error e =>
      if u.isHighImpact itaType.text then .error e
      else .ok { s with currentDate := none, remainingDateRows := 0 }
  | [itaType, factors, score, invitations] =>
    let s :=
      if s.remainingDateRows = 0 then { s with currentDate := none }
      else { s with remainingDateRows := s.remainingDateRows - 1 }
    s.readRoute u itaType.text factors.text score.text invitations.text
  | cells =>
    if cells.any fun cell => containsText "high economic impact" (u.foldCase cell.text) then
      .error (.invalidDrawError "High Economic Impact table row has an unexpected column count")
    else .ok { s with remainingDateRows := s.remainingDateRows - 1 }

/-- `_parse_table_draws` on the rows below the header. -/
def UnicodeData.parseTableRows (u : UnicodeData) (rows : List (List TableCell)) :
    Except WelcomeBCFailure Draws :=
  (rows.foldlM (TableState.readRow u) {}).map TableState.grouped

/-- The cells of a row. -/
def rowCells (row : DomNode) : List TableCell :=
  (row.findChildren ["th", "td"]).map fun cell => ⟨elementText cell, (cell.get "rowspan").getD "1"⟩

/-- `_parse_table_draws`. -/
def UnicodeData.parseTableDraws (u : UnicodeData) (table : DomNode) :
    Except WelcomeBCFailure Draws :=
  u.parseTableRows ((table.findAll "tr").tail.map rowCells)

/-- `_find_draw_table`. -/
def UnicodeData.findDrawTable (u : UnicodeData) (content : DomNode) :
    Except WelcomeBCFailure DomNode :=
  let headed := fun table : DomNode => (table.findAll "tr").head?.any fun row =>
    (rowCells row).map (fun cell => u.foldCase cell.text) = expectedHeaders
  match (content.findAll "table").find? headed with
  | some table => .ok table
  | none => .error (.unexpectedPageError
      "Skills Immigration invitation table headers changed or are missing")

/-! ## Narrative sections -/

/-- `_section_after`: the elements after a heading, up to the next one. -/
def sectionAfter (siblings : List DomNode) : List DomNode :=
  (siblings.filter fun sibling => sibling.name.isSome).takeWhile fun sibling =>
    sibling.name ≠ some "h3"

/-- The number of candidates in brackets. -/
def UnicodeData.candidatesPattern (u : UnicodeData) : Expr :=
  .sequence [exactly "(", .group 1 (.plus u.digitOrComma), .plus blank, ignoringCase "candidate",
    .optional (ignoringCase "s"), exactly ")"]

/-- The score that a route names. -/
def UnicodeData.scorePattern (u : UnicodeData) : Expr :=
  .sequence [ignoringCase "minimum score of", .plus blank, .group 1 (.plus u.digitOrComma)]

/-- What is cut from the end of a route. -/
def UnicodeData.routeEndPattern (u : UnicodeData) : Expr :=
  .sequence [.star blank, u.candidatesPattern, .star blank,
    .optional (.sequence [exactly ",", .star blank, ignoringCase "or"]), .star blank, .atEnd]

/-- `_narrative_route`. -/
def UnicodeData.narrativeRoute (u : UnicodeData) (value : String) :
    Except WelcomeBCFailure SelectionRoute :=
  match u.candidatesPattern.search value.toList with
  | none => .error (.invalidDrawError
      ("Narrative selection route has no invitation count: " ++ pyRepr value))
  | some run => do
    let count ← u.integer (groupText run 1) "narrative invitation count"
    let score := match u.scorePattern.search value.toList with
      | some run => groupText run 1
      | none => "N/A"
    let factors := rstripOf " .,;" (String.ofList
      (u.routeEndPattern.erase value.toList.length value.toList))
    if factors = "" then
      .error (.invalidDrawError "Narrative selection factors must not be blank")
    else
      let invitations ← uncaught (intText count)
      return ⟨factors, score, invitations, some count⟩

/-- The sentence with the total. -/
def UnicodeData.totalPattern (u : UnicodeData) : Expr :=
  .sequence [ignoringCase "issued invitations to apply to", .plus blank,
    .group 1 (.plus u.digitOrComma), .plus blank, ignoringCase "candidates", .plus blank,
    ignoringCase "who will create high economic impact"]

/-- The draw of a section that speaks of one. -/
def UnicodeData.narrativeDraw (u : UnicodeData) (drawDate : Date) (elements : List DomNode)
    (sectionText : String) : Except WelcomeBCFailure HighImpactDraw :=
  let draw := "Narrative draw " ++ drawDate.isoformat
  match u.totalPattern.search sectionText.toList with
  | none => .error (.invalidDrawError (draw ++ " has no valid total count"))
  | some run => do
    let expectedTotal ← u.integer (groupText run 1) "narrative total"
    let listItems := elements.flatMap (DomNode.findAll "li")
    if listItems = [] then .error (.invalidDrawError (draw ++ " has no selection routes"))
    else
      let routes ← listItems.mapM fun item => u.narrativeRoute (elementText item)
      let actualTotal := (routes.map fun route => route.invitationCount.getD 0).sum
      if actualTotal ≠ expectedTotal then
        let actual ← uncaught (intText actualTotal)
        let expected ← uncaught (intText expectedTotal)
        .error (.invalidDrawError
          (draw ++ " invitation counts sum to " ++ actual ++ ", expected " ++ expected))
      else return ⟨drawDate, routes⟩

/-- The loop body: a heading, with what follows it. -/
def UnicodeData.readHeading (u : UnicodeData) (draws : Draws)
    (heading : DomNode × List DomNode) : Except WelcomeBCFailure Draws :=
  match u.strptime (elementText heading.1) with
  | none => .ok draws
  | some drawDate =>
    let elements := sectionAfter heading.2
    let sectionText := " ".intercalate (elements.map elementText)
    if containsText "high economic impact" (u.foldCase sectionText) then do
      let draw ← u.narrativeDraw drawDate elements sectionText
      if (draws.lookup drawDate).any (· ≠ draw) then
        .error (.invalidDrawError
          ("Narrative draw " ++ drawDate.isoformat ++ " is inconsistent"))
      else
        return draws.upsert drawDate ⟨drawDate, draw.routes⟩
          (fun existing => { existing with routes := draw.routes }) rfl fun _ => rfl
    else .ok draws

/-- `_parse_narrative_draws`. -/
def UnicodeData.parseNarrativeDraws (u : UnicodeData) (content : DomNode) :
    Except WelcomeBCFailure Draws :=
  (content.followed "h3").foldlM u.readHeading .empty

/-! ## Opportunities -/

/-- `%B` of a date. -/
def Date.monthName (d : Date) : String := (monthNames.getD (d.month - 1) "").capitalize

/-- `f"{d:%B} {d.day}, {d:%Y}"`. -/
def Date.written (d : Date) : String :=
  d.monthName ++ " " ++ toString d.day ++ ", " ++ String.ofList (pad4 d.year)

/-- The identifier of a draw. -/
def drawId (d : Date) : String := "high-economic-impact-" ++ d.isoformat

/-- A route as an attribute. -/
def SelectionRoute.attribute (route : SelectionRoute) : PyVal :=
  .dict [(.str "selection_factors", .str route.selectionFactors),
    (.str "minimum_score", .str route.minimumScore), (.str "invitations", .str route.invitations)]

/-- The total in the title. -/
def totalSuffix (total : Option ℕ) : Except WelcomeBCFailure String :=
  match total with
  | none => .ok ""
  | some n => (uncaught (intText n)).map fun digits => " (" ++ digits ++ " invitations)"

/-- `_to_opportunity`; `vancouver` is the zone. -/
def toOpportunity (vancouver : Date → Time → TzInfo) (sourceUrl : String)
    (draw : HighImpactDraw) : Except WelcomeBCFailure Opportunity := do
  let total := draw.totalInvitations
  let suffix ← totalSuffix total
  let title := "BC PNP High Economic Impact draw on " ++ draw.drawDate.written ++ suffix
  let attributes : Attributes := [("draw_date", .str draw.drawDate.isoformat),
    ("ita_type", .str highImpactType),
    ("selection_routes", .tuple (draw.routes.map SelectionRoute.attribute))] ++
    match total with
    | some n => [("total_invitations", .int n)]
    | none => []
  uncaught (Opportunity.create (drawId draw.drawDate) title .available
    (some ⟨draw.drawDate, .min, some (vancouver draw.drawDate .min)⟩) (some sourceUrl) attributes)

/-! ## The page -/

/-- `select_one` of an identifier. -/
def selectId (id : String) (node : DomNode) : Option DomNode :=
  node.descendants.find? fun n => n.get "id" = some id

/-- `select_one` of a class. -/
def selectClass (name : String) (node : DomNode) : Option DomNode :=
  node.descendants.find? fun n => (n.get "class").any fun classes => name ∈ words classes

/-- The content of the invitations section. -/
def pageContent (soup : DomNode) : Except WelcomeBCFailure DomNode :=
  match selectId "Skills_Immigration_invitations" soup with
  | none => .error (.unexpectedPageError "Skills Immigration invitations section is missing")
  | some skillsSection =>
    match selectClass "accordion-body" skillsSection with
    | none => .error (.unexpectedPageError "Skills Immigration invitations content is missing")
    | some content => .ok content

/-- `draws.setdefault`. -/
def Draws.setdefault (draws : Draws) (draw : HighImpactDraw) : Draws :=
  draws.upsert draw.drawDate draw id rfl fun _ => rfl

/-- `parse`, on the tree of the page. -/
def UnicodeData.parse (u : UnicodeData) (vancouver : Date → Time → TzInfo) (soup : DomNode)
    (sourceUrl : String) : Except WelcomeBCFailure (List Opportunity) := do
  let content ← pageContent soup
  let table ← u.findDrawTable content
  let tableDraws ← u.parseTableDraws table
  let narrativeDraws ← u.parseNarrativeDraws content
  -- the table has priority
  let draws := narrativeDraws.rows.foldl Draws.setdefault tableDraws
  if draws.rows = [] then
    .error (.unexpectedPageError "No High Economic Impact invitation draws were found")
  else
    (draws.rows.insertionSort fun a b => b.drawDate ≤ a.drawDate).mapM
      (toOpportunity vancouver sourceUrl)

/-- `WelcomeBCHighImpactDriver.check` from the tree of the response on. -/
def UnicodeData.check (u : UnicodeData) (vancouver : Date → Time → TzInfo) (soup : DomNode)
    (responseUrl : String) (checkedAt : Datetime) : Except WelcomeBCDriverFailure CheckResult :=
  match u.parse vancouver soup responseUrl with
  | .error e => .error (e.reported responseUrl)
  | .ok opportunities =>
    match CheckResult.create checkedAt opportunities with
    | .ok result => .ok result
    | .error e => .error (.raised e)

end WebChecker
