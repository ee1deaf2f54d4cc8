/-
This file models the listing of the evidence sessions: the records that are built from the rows of
the index, the numbers beside the filters, the filters, the two sorts and the cut into pages. What
it uses of the library of Python is a parameter: the characters that are digits, the foldings of
text, and the dates.
-/

import MassTdl.Tolerances
import Mathlib.Data.List.Lex
import Mathlib.Data.String.Basic
import Mathlib.Data.Sum.Order

namespace MassL3.EvidenceLibrary.Listing

/-! ### The library of Python -/

/-- What the listing uses of it. A date that is missing is a `ValueError`, and a time zone that
cannot be converted an `OverflowError`. -/
structure PythonLibrary (DateTime Timestamp : Type) where
  /-- The characters that a regular expression takes for digits. -/
  isDecimal : Char → Bool
  /-- The characters that a string takes for digits; superscripts are among them. -/
  isDigit : Char → Bool
  decimalValue : Char → Nat
  lower : String → String
  casefold : String → String
  strip : String → String
  fromisoformat : String → Option DateTime
  strptime : String → Option DateTime
  hasTzinfo : DateTime → Bool
  replaceTzinfoUtc : DateTime → DateTime
  astimezoneUtc : DateTime → Option DateTime
  timestamp : DateTime → Timestamp

inductive SortKeyError where
  | valueError
  | overflowError
  deriving DecidableEq

/-- A number is not read from more digits than this. -/
def maxStrDigits : Nat := 4300

section

variable {DateTime Timestamp : Type} (lib : PythonLibrary DateTime Timestamp)

def int (token : List Char) : Except SortKeyError Nat :=
  if token.all lib.isDecimal && decide (token.length ≤ maxStrDigits) then
    .ok (token.foldl (fun number digit => 10 * number + lib.decimalValue digit) 0)
  else .error .valueError

/-- The longest pieces of digits and of other characters. -/
def naturalTokens (text : String) : List (List Char) :=
  text.toList.splitBy fun first second => lib.isDecimal first == lib.isDecimal second

/-- A key of words and numbers. Python compares them by position, a word before a number. -/
abbrev NaturalKey := List (String ⊕ₗ Nat)

def tokenSortKey (token : List Char) : Except SortKeyError (String ⊕ₗ Nat) :=
  if token.all lib.isDigit then do
    let number ← int lib token
    return Sum.inrₗ number
  else return Sum.inlₗ (lib.casefold (String.ofList token))

def naturalTextSortKey (text : String) : Except SortKeyError NaturalKey :=
  (naturalTokens lib text).mapM (tokenSortKey lib)

/-- The date and the time at the start of a session's name, without what is between them. -/
def sessionIdTime (text : String) : Option String :=
  let date := text.toList.take 8
  let time := (text.toList.drop 9).take 6
  if date.length = 8 ∧ date.all lib.isDecimal ∧ text.toList[8]? = some '_' ∧
      time.length = 6 ∧ time.all lib.isDecimal then
    some (String.ofList (date ++ time))
  else none

/-- The letter for UTC is written out, as an offset. -/
def isoText (text : String) : String :=
  if text.toList.getLast? = some 'Z' then String.ofList text.toList.dropLast ++ "+00:00" else text

/-- The moment of a date, once it has been parsed. -/
def utcTimestamp (parsed : DateTime) : Except SortKeyError Timestamp :=
  let parsed := if lib.hasTzinfo parsed then parsed else lib.replaceTzinfoUtc parsed
  match lib.astimezoneUtc parsed with
  | some moment => .ok (lib.timestamp moment)
  | none => .error .overflowError

def absoluteTimeSortKey (text : String) : Except SortKeyError (NaturalKey ⊕ₗ Timestamp) :=
  match lib.fromisoformat (isoText text) with
  | some parsed => do
    let moment ← utcTimestamp lib parsed
    return Sum.inrₗ moment
  | none =>
    match sessionIdTime lib text with
    | none => do
      let key ← naturalTextSortKey lib text
      return Sum.inlₗ key
    | some digits =>
      match lib.strptime digits with
      | none => .error .valueError
      | some parsed => do
        let moment ← utcTimestamp lib parsed
        return Sum.inrₗ moment

/-! ### Records -/

inductive Outcome where
  | unknown
  | failed
  | passed
  deriving DecidableEq

inductive Mode where
  | avoidance
  | debug
  | cohort
  | full
  deriving DecidableEq

def Outcome.text : Outcome → String
  | unknown => "unknown"
  | failed => "failed"
  | passed => "passed"

def Outcome.label : Outcome → String
  | unknown => "-"
  | failed => "不通过"
  | passed => "通过"

def Outcome.sortOrder : Outcome → Nat
  | unknown => 0
  | failed => 1
  | passed => 2

def Mode.text : Mode → String
  | avoidance => "avoidance"
  | debug => "debug"
  | cohort => "cohort"
  | full => "full"

def Mode.label : Mode → String
  | avoidance => "避碰验证"
  | debug => "调试验证"
  | cohort => "同类验证"
  | full => "完整验证"

def Mode.sortOrder : Mode → Nat
  | avoidance => 0
  | debug => 1
  | cohort => 2
  | full => 3

def sourceLabels : List (String × String) := [("cli", "CLI"), ("front", "Front")]

/-- A row of the index, as far as the listing reads it. -/
structure SessionRow where
  evidenceId : String
  sessionId : String
  suite : String
  sessionPath : String
  source : Option String
  createdAt : Option String
  endedAt : Option String
  worktreeName : Option String
  branch : Option String
  deriving DecidableEq

structure ScenarioRow where
  evidenceId : String
  scenarioId : String
  overallPass : Option Int

structure OverviewRow where
  evidenceId : String
  scenarioId : String
  relativePath : String

/-- A row with what the listing adds to it. The fields from `outcome` on are dropped again before
the answer. -/
structure SessionRecord where
  session : SessionRow
  scenarioIds : List String
  passedScenarios : Nat
  failedScenarios : Nat
  overviewPngs : List (String × String)
  overviewPng : Option (String × String)
  outcome : Outcome
  time : String
  mode : Mode
  scenario : String
  source : String
  sourceLabel : String
  worktree : String
  search : String
  deriving DecidableEq

def contains (text marker : String) : Bool := text.toList.tails.any marker.toList.isPrefixOf

def sessionListMode (session : SessionRow) : Mode :=
  let text := lib.lower (session.sessionId ++ " " ++ session.suite)
  if ["debug", "dbg", "trace", "ctx"].any (contains text) then .debug
  else if contains text "cohort" then .cohort
  else if ["full", "clean8", "clean12"].any (contains text) then .full
  else if contains text "fast" || session.suite = "single" then .avoidance
  else .debug

/-- The first value that is there and not empty. -/
def orElse (first : Option String) (second : String) : String :=
  match first with
  | some text => if text = "" then second else text
  | none => second

def sessionListSource (source : Option String) : String × String :=
  let rawSource := orElse source ""
  let canonical := lib.lower rawSource
  let canonical := if canonical = "frontend" ∨ canonical = "front" then "front" else canonical
  let canonical := if canonical = "" then "-" else canonical
  (canonical, (sourceLabels.lookup canonical).getD (orElse (some rawSource) "-"))

/-- What follows the first occurrence of a marker. -/
def afterFirst (marker : List Char) : List Char → List Char
  | [] => []
  | next :: rest =>
    if marker.isPrefixOf (next :: rest) then (next :: rest).drop marker.length
    else afterFirst marker rest

def sessionListWorktree (session : SessionRow) (sourceLabel : String) : String :=
  if sourceLabel = "Front" then ""
  else if orElse session.worktreeName "" ≠ "" then orElse session.worktreeName ""
  else
    let marker := "/.worktrees/"
    if contains session.sessionPath marker then
      String.ofList ((afterFirst marker.toList session.sessionPath.toList).takeWhile (· ≠ '/'))
    else orElse session.branch "-"

def outcomeOf (scenarioCount passed failed : Nat) : Outcome :=
  if failed ≠ 0 then .failed
  else if scenarioCount ≠ 0 ∧ passed = scenarioCount then .passed
  else .unknown

def scenarioText (scenarioIds : List String) : String :=
  match scenarioIds with
  | [] => "-"
  | first :: _ =>
    if scenarioIds.length ≤ 2 then ", ".intercalate scenarioIds
    else first ++ " +" ++ toString (scenarioIds.length - 1)

def resultDisplay (scenarioCount passed failed : Nat) : String :=
  if scenarioCount > 1 then toString passed ++ "/" ++ toString scenarioCount ++ " 通过"
  else if passed ≠ 0 then "通过"
  else if failed ≠ 0 then "不通过"
  else "-"

/-- The record of a session. -/
def sessionRecord (session : SessionRow) (scenarios : List ScenarioRow)
    (overviews : List OverviewRow) : SessionRecord :=
  let scenarioRows := scenarios.filter (·.evidenceId = session.evidenceId)
  let scenarioIds := scenarioRows.map (·.scenarioId)
  let passed := scenarioRows.countP (·.overallPass = some 1)
  let failed := scenarioRows.countP (·.overallPass = some 0)
  let overviewPngs := (overviews.filter (·.evidenceId = session.evidenceId)).map
    fun overview => (overview.scenarioId, overview.relativePath)
  let outcome := outcomeOf scenarioRows.length passed failed
  let mode := sessionListMode lib session
  let scenario := scenarioText scenarioIds
  let (source, sourceLabel) := sessionListSource lib session.source
  let worktree := sessionListWorktree session sourceLabel
  let searchValues := [session.evidenceId, session.sessionId, scenario] ++ scenarioIds ++
    [sourceLabel, orElse session.source "", session.suite, mode.text, mode.label, worktree,
      orElse session.worktreeName "", orElse session.branch "", outcome.text, outcome.label,
      resultDisplay scenarioRows.length passed failed]
  { session, scenarioIds, passedScenarios := passed, failedScenarios := failed, overviewPngs,
    overviewPng := overviewPngs.head?, outcome,
    time := orElse session.createdAt (orElse session.endedAt session.sessionId),
    mode, scenario, source, sourceLabel, worktree,
    search := "\n".intercalate (searchValues.map lib.casefold) }

/-- The records of the sessions whose directories are in order. -/
def buildSessionListRecords (healthy : String → Bool) (rows : List SessionRow)
    (scenarios : List ScenarioRow) (overviews : List OverviewRow) : List SessionRecord :=
  (rows.filter fun session => healthy session.sessionPath).map fun session =>
    sessionRecord lib session scenarios overviews

/-! ### Facets -/

/-- A value that some records have, with the number of them. -/
structure FacetItem (Value : Type) where
  value : Value
  label : String
  count : Nat

/-- The different values of some records, sorted, with the number of records of each. -/
def facetItems {Value Key : Type} [DecidableEq Value] [LinearOrder Key] (values : List Value)
    (key : Value → Key) (label : Value → String) : List (FacetItem Value) :=
  (Tolerances.sortedBy key values.eraseDups).map fun value =>
    { value, label := label value, count := values.count value }

structure Facets where
  result : List (FacetItem Outcome)
  scenarioCount : List (FacetItem Nat)
  mode : List (FacetItem Mode)
  scenario : List (FacetItem String)
  source : List (FacetItem String)
  worktree : List (FacetItem String)

/-- What the records have in a field, apart from nothing. -/
def facetTexts (read : SessionRecord → String) (eligible : List SessionRecord) : List String :=
  (eligible.map read).filter (· ≠ "")

def sessionListFacets (eligible : List SessionRecord) : Facets where
  result := facetItems (eligible.map (·.outcome)) (fun value => lib.casefold value.text)
    Outcome.label
  scenarioCount := facetItems (eligible.map (·.scenarioIds.length)) id toString
  mode := facetItems (eligible.map (·.mode)) (fun value => lib.casefold value.text) Mode.label
  scenario := facetItems (facetTexts (·.scenario) eligible) lib.casefold id
  source := facetItems (facetTexts (·.source) eligible) lib.casefold
    fun value => (sourceLabels.lookup value).getD value
  worktree := facetItems (facetTexts (·.worktree) eligible) lib.casefold id

/-! ### Filters and pages -/

inductive SortField where
  | time
  | result
  | scenarioCount
  | mode
  | scenario
  | source
  | worktree
  deriving DecidableEq

/-- A query. The routes let no other size of a page through than twenty and fifty. -/
structure EvidenceSessionListQuery where
  page : Int := 1
  pageSize : Nat := 20
  pageSizePos : 0 < pageSize := by decide
  search : String := ""
  sortKey : SortField := .time
  descending : Bool := true
  result : Option Outcome := none
  scenarioCount : Option Nat := none
  mode : Option Mode := none
  scenario : Option String := none
  source : Option String := none
  worktree : Option String := none

/-- A record that passes the search and every filter. -/
def selects (query : EvidenceSessionListQuery) (record : SessionRecord) : Bool :=
  let search := lib.casefold (lib.strip query.search)
  (search = "" || contains record.search search) &&
    query.result.all (· = record.outcome) &&
    query.scenarioCount.all (· = record.scenarioIds.length) &&
    query.mode.all (· = record.mode) &&
    query.scenario.all (· = record.scenario) &&
    query.source.all (· = record.source) &&
    query.worktree.all (· = record.worktree)

/-- The keys of all sorts, in one order. Those of one sort are of one kind. -/
abbrev SortKey (Timestamp : Type) := Nat ⊕ₗ (NaturalKey ⊕ₗ Timestamp)

def sortKeys (field : SortField) (record : SessionRecord) :
    Except SortKeyError (SortKey Timestamp) :=
  match field with
  | .time => do
    let key ← absoluteTimeSortKey lib record.time
    return Sum.inrₗ key
  | .result => return Sum.inlₗ record.outcome.sortOrder
  | .scenarioCount => return Sum.inlₗ record.scenarioIds.length
  | .mode => return Sum.inlₗ record.mode.sortOrder
  | .scenario => do
    let key ← naturalTextSortKey lib record.scenario
    return Sum.inrₗ (Sum.inlₗ key)
  | .source => do
    let key ← naturalTextSortKey lib record.sourceLabel
    return Sum.inrₗ (Sum.inlₗ key)
  | .worktree => do
    let key ← naturalTextSortKey lib record.worktree
    return Sum.inrₗ (Sum.inlₗ key)

variable [LinearOrder Timestamp]

/-- A sort with keys. Python asks for all keys first, and keeps the order of equal ones in both
directions. -/
def sortWithKey (key : SessionRecord → Except SortKeyError (SortKey Timestamp))
    (descending : Bool) (records : List SessionRecord) :
    Except SortKeyError (List SessionRecord) := do
  let keys ← records.mapM key
  let decorated := keys.zip records
  let placed := if descending then
      Tolerances.sortedBy (fun entry => OrderDual.toDual entry.1) decorated
    else Tolerances.sortedBy Prod.fst decorated
  return placed.map Prod.snd

/-- The pages that a number of records fills, and one if there are none. -/
def totalPages (count pageSize : Nat) : Nat := max 1 ((count + pageSize - 1) / pageSize)

/-- The records of a page, their number over all pages, and the page that they are of. -/
def filterAndPageSessionRecords (eligible : List SessionRecord)
    (query : EvidenceSessionListQuery) :
    Except SortKeyError (List SessionRecord × Nat × Int) := do
  let filtered := eligible.filter (selects lib query)
  let filtered := Tolerances.sortedBy (·.session.evidenceId) filtered
  let filtered ← sortWithKey (sortKeys lib query.sortKey) query.descending filtered
  let normalizedPage := min (max query.page 1) (totalPages filtered.length query.pageSize)
  let offset := (normalizedPage.toNat - 1) * query.pageSize
  return ((filtered.drop offset).take query.pageSize, filtered.length, normalizedPage)

structure SessionList where
  sessions : List SessionRecord
  total : Nat
  filteredTotal : Nat
  page : Int
  pageSize : Nat
  totalPages : Nat
  facets : Facets

/-- The listing. The directories are looked at when the records are built, once more for the page,
and again if one of the page is not in order any more. -/
def listSessions (healthy healthyOnPage healthyAgain : String → Bool) (rows : List SessionRow)
    (scenarios : List ScenarioRow) (overviews : List OverviewRow)
    (query : EvidenceSessionListQuery) : Except SortKeyError SessionList := do
  let answer := fun (eligible : List SessionRecord) (paged : List SessionRecord × Nat × Int) =>
    { sessions := paged.1, total := eligible.length, filteredTotal := paged.2.1, page := paged.2.2,
      pageSize := query.pageSize, totalPages := totalPages paged.2.1 query.pageSize,
      facets := sessionListFacets lib eligible : SessionList }
  let eligible := buildSessionListRecords lib healthy rows scenarios overviews
  let paged ← filterAndPageSessionRecords lib eligible query
  if paged.1.any fun record => !healthyOnPage record.session.sessionPath then
    let eligible := buildSessionListRecords lib healthyAgain rows scenarios overviews
    let paged ← filterAndPageSessionRecords lib eligible query
    return answer eligible paged
  else return answer eligible paged

end

end MassL3.EvidenceLibrary.Listing
