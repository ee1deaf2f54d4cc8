/-
This file is about the pages of the session listing. The listing is one sort away from failing.
Each record is given a key that is parsed from its own text, and a text that the parser does not
take fails the listing for every other record too. Where no key fails, the pages one after another
show each selected record, in the order of the sort.
-/

import MassTdl.EvidenceLibrary.SessionListing

namespace MassL3.EvidenceLibrary.Listing

/-! ### Keys that fail -/

section Keys

variable {Input Output Failure : Type} {key : Input → Except Failure Output}

/-- A pass over some inputs succeeds with what it finds of each one. -/
theorem mapM_eq_ok {inputs : List Input}
    (found : ∀ input ∈ inputs, ∃ output, key input = .ok output) :
    ∃ outputs, inputs.mapM key = .ok outputs ∧
      List.Forall₂ (fun input output => key input = .ok output) inputs outputs := by
  induction inputs with
  | nil => exact ⟨[], rfl, .nil⟩
  | cons input inputs inductionHypothesis =>
    obtain ⟨output, first⟩ := found input List.mem_cons_self
    obtain ⟨outputs, rest, all⟩ := inductionHypothesis fun other member =>
      found other (List.mem_cons_of_mem input member)
    refine ⟨output :: outputs, ?_, .cons first all⟩
    rw [List.mapM_cons, first, rest]
    rfl

/-- It fails exactly if it fails on one of them. -/
theorem mapM_eq_error_iff {inputs : List Input} :
    (∃ failure, inputs.mapM key = .error failure) ↔
      ∃ input ∈ inputs, ∃ failure, key input = .error failure := by
  constructor
  · rintro ⟨failure, failed⟩
    by_contra none
    have found : ∀ input ∈ inputs, ∃ output, key input = .ok output := fun input member => by
      cases read : key input with
      | error failure => exact absurd ⟨input, member, failure, read⟩ none
      | ok output => exact ⟨output, rfl⟩
    obtain ⟨outputs, collected, -⟩ := mapM_eq_ok found
    rw [collected] at failed
    cases failed
  · rintro ⟨input, member, failed⟩
    induction inputs with
    | nil => cases member
    | cons first inputs inductionHypothesis =>
      rw [List.mapM_cons]
      cases read : key first with
      | error failure => exact ⟨failure, rfl⟩
      | ok output =>
        rcases List.mem_cons.mp member with rfl | later
        · obtain ⟨failure, failed⟩ := failed
          rw [failed] at read
          cases read
        · obtain ⟨failure, rest⟩ := inductionHypothesis later
          rw [rest]
          exact ⟨failure, rfl⟩

end Keys

section

variable {DateTime Timestamp : Type} {lib : PythonLibrary DateTime Timestamp}

/-- A piece of digits that is no number: superscripts, or too many digits. -/
def UnreadableText (lib : PythonLibrary DateTime Timestamp) (text : String) : Prop :=
  ∃ token ∈ naturalTokens lib text, token.all lib.isDigit = true ∧
    (token.all lib.isDecimal = false ∨ maxStrDigits < token.length)

theorem tokenSortKey_eq_error_iff {token : List Char} :
    (∃ failure, tokenSortKey lib token = .error failure) ↔
      token.all lib.isDigit = true ∧
        (token.all lib.isDecimal = false ∨ maxStrDigits < token.length) := by
  unfold tokenSortKey int
  by_cases digits : token.all lib.isDigit = true
  · by_cases number : (token.all lib.isDecimal && decide (token.length ≤ maxStrDigits)) = true
    · rw [if_pos digits, if_pos number]
      rw [Bool.and_eq_true, decide_eq_true_eq] at number
      refine ⟨fun ⟨failure, failed⟩ => ?_, fun ⟨_, unreadable⟩ => ?_⟩
      · cases failed
      · rcases unreadable with other | long
        · rw [number.1] at other
          cases other
        · exact absurd number.2 (not_le.mpr long)
    · rw [if_pos digits, if_neg number]
      refine ⟨fun _ => ⟨digits, ?_⟩, fun _ => ⟨.valueError, rfl⟩⟩
      by_contra readable
      push Not at readable
      refine number ?_
      rw [Bool.and_eq_true, decide_eq_true_eq]
      exact ⟨Bool.eq_true_of_not_eq_false readable.1, readable.2⟩
  · rw [if_neg digits]
    refine ⟨fun ⟨failure, failed⟩ => ?_, fun unreadable => absurd unreadable.1 digits⟩
    cases failed

theorem naturalTextSortKey_eq_error_iff {text : String} :
    (∃ failure, naturalTextSortKey lib text = .error failure) ↔ UnreadableText lib text := by
  unfold naturalTextSortKey UnreadableText
  rw [mapM_eq_error_iff]
  simp only [tokenSortKey_eq_error_iff]

/-- A date whose moment is out of the range of dates. -/
def OutOfRange (lib : PythonLibrary DateTime Timestamp) (parsed : DateTime) : Prop :=
  lib.astimezoneUtc (if lib.hasTzinfo parsed then parsed else lib.replaceTzinfoUtc parsed) = none

/-- A time that has no key: a date out of range, the name of a session that begins with digits
that are no date, or any other text with a piece of digits that is no number. -/
inductive UnreadableTime (lib : PythonLibrary DateTime Timestamp) (text : String) : Prop where
  | iso {parsed : DateTime} (found : lib.fromisoformat (isoText text) = some parsed)
      (outOfRange : OutOfRange lib parsed)
  | notADate {digits : String} (noIso : lib.fromisoformat (isoText text) = none)
      (named : sessionIdTime lib text = some digits) (rejected : lib.strptime digits = none)
  | named {digits : String} {parsed : DateTime}
      (noIso : lib.fromisoformat (isoText text) = none)
      (named : sessionIdTime lib text = some digits) (found : lib.strptime digits = some parsed)
      (outOfRange : OutOfRange lib parsed)
  | other (noIso : lib.fromisoformat (isoText text) = none)
      (unnamed : sessionIdTime lib text = none) (unreadable : UnreadableText lib text)

theorem bind_eq_error_iff {Input Output Failure : Type} {first : Except Failure Input}
    {use : Input → Output} :
    (∃ failure, (do
        let input ← first
        return use input : Except Failure Output) = .error failure) ↔
      ∃ failure, first = .error failure := by
  cases first with
  | error failure => exact ⟨fun _ => ⟨failure, rfl⟩, fun _ => ⟨failure, rfl⟩⟩
  | ok input =>
    refine ⟨fun ⟨failure, failed⟩ => ?_, fun ⟨failure, failed⟩ => ?_⟩
    · cases failed
    · cases failed

theorem utcTimestamp_eq_error_iff {parsed : DateTime} :
    (∃ failure, utcTimestamp lib parsed = .error failure) ↔ OutOfRange lib parsed := by
  unfold utcTimestamp OutOfRange
  dsimp only
  generalize (if lib.hasTzinfo parsed then parsed else lib.replaceTzinfoUtc parsed) = dated
  cases lib.astimezoneUtc dated with
  | none => exact ⟨fun _ => rfl, fun _ => ⟨.overflowError, rfl⟩⟩
  | some moment =>
    refine ⟨fun ⟨failure, failed⟩ => ?_, fun none => ?_⟩
    · cases failed
    · cases none

theorem absoluteTimeSortKey_eq_error_iff {text : String} :
    (∃ failure, absoluteTimeSortKey lib text = .error failure) ↔ UnreadableTime lib text := by
  unfold absoluteTimeSortKey
  cases iso : lib.fromisoformat (isoText text) with
  | some parsed =>
    refine bind_eq_error_iff.trans (utcTimestamp_eq_error_iff.trans
      ⟨fun outOfRange => .iso iso outOfRange, fun unreadable => ?_⟩)
    cases unreadable with
    | iso found outOfRange =>
      rw [iso] at found
      cases found
      exact outOfRange
    | notADate noIso | named noIso | other noIso =>
      rw [iso] at noIso
      cases noIso
  | none =>
    cases named : sessionIdTime lib text with
    | none =>
      refine bind_eq_error_iff.trans (naturalTextSortKey_eq_error_iff.trans
        ⟨fun unreadable => .other iso named unreadable, fun unreadable => ?_⟩)
      cases unreadable with
      | iso found =>
        rw [iso] at found
        cases found
      | notADate _ found | named _ found =>
        rw [named] at found
        cases found
      | other _ _ unreadable => exact unreadable
    | some digits =>
      dsimp only
      cases date : lib.strptime digits with
      | none => exact ⟨fun _ => .notADate iso named date, fun _ => ⟨.valueError, rfl⟩⟩
      | some parsed =>
        refine bind_eq_error_iff.trans (utcTimestamp_eq_error_iff.trans
          ⟨fun outOfRange => .named iso named date outOfRange, fun unreadable => ?_⟩)
        cases unreadable with
        | iso found =>
          rw [iso] at found
          cases found
        | notADate _ found rejected =>
          rw [named] at found
          cases found
          rw [date] at rejected
          cases rejected
        | named _ found parsedDate outOfRange =>
          rw [named] at found
          cases found
          rw [date] at parsedDate
          cases parsedDate
          exact outOfRange
        | other _ unnamed =>
          rw [named] at unnamed
          cases unnamed

/-- A library that knows ASCII letters, the superscript two, and no dates. -/
def asciiLibrary : PythonLibrary Nat Nat where
  isDecimal := Char.isDigit
  isDigit := fun character => character.isDigit || character = '²'
  decimalValue := fun digit => digit.toNat - 48
  lower := fun text => String.ofList (text.toList.map Char.toLower)
  casefold := fun text => String.ofList (text.toList.map Char.toLower)
  strip := fun text => String.ofList (text.toList.dropWhile Char.isWhitespace)
  fromisoformat := fun _ => none
  strptime := fun _ => none
  hasTzinfo := fun _ => true
  replaceTzinfoUtc := id
  astimezoneUtc := some
  timestamp := id

example : naturalTextSortKey asciiLibrary "x²" = .ok [Sum.inlₗ "x²"] := by rfl
example : naturalTextSortKey asciiLibrary "2²" = .error .valueError := by rfl
example : absoluteTimeSortKey asciiLibrary "20261399_000000_fast" = .error .valueError := by rfl

/-- A record without a key for a sort. -/
def Unsortable (lib : PythonLibrary DateTime Timestamp) (field : SortField)
    (record : SessionRecord) : Prop :=
  match field with
  | .time => UnreadableTime lib record.time
  | .scenario => UnreadableText lib record.scenario
  | .source => UnreadableText lib record.sourceLabel
  | .worktree => UnreadableText lib record.worktree
  | .result | .scenarioCount | .mode => False

theorem sortKeys_eq_error_iff {field : SortField} {record : SessionRecord} :
    (∃ failure, sortKeys lib field record = .error failure) ↔ Unsortable lib field record := by
  cases field with
  | time => exact bind_eq_error_iff.trans absoluteTimeSortKey_eq_error_iff
  | scenario | source | worktree =>
    exact bind_eq_error_iff.trans naturalTextSortKey_eq_error_iff
  | result | scenarioCount | mode =>
    refine ⟨fun ⟨failure, failed⟩ => ?_, False.elim⟩
    cases failed

/-! ### Sorting and cutting -/

/-- A list is its pages one after another. -/
theorem flatten_pages {Entry : Type} (entries : List Entry) (size : Nat) {pages : Nat}
    (enough : entries.length ≤ pages * size) :
    ((List.range pages).map fun page => (entries.drop (page * size)).take size).flatten =
      entries := by
  induction pages generalizing entries with
  | zero =>
    rw [Nat.zero_mul, Nat.le_zero, List.length_eq_zero_iff] at enough
    rw [enough]
    rfl
  | succ pages inductionHypothesis =>
    rw [Nat.succ_mul] at enough
    have later := inductionHypothesis (entries.drop size) (by rw [List.length_drop]; omega)
    have moved : (fun page => (entries.drop (page * size)).take size) ∘ Nat.succ =
        fun page => ((entries.drop size).drop (page * size)).take size := by
      funext page
      rw [Function.comp_apply, List.drop_drop, Nat.succ_mul, Nat.add_comm size]
    rw [List.range_succ_eq_map, List.map_cons, List.flatten_cons, List.map_map, moved, later,
      Nat.zero_mul, List.drop_zero, List.take_append_drop]

theorem le_totalPages_mul {count pageSize : Nat} (positive : 0 < pageSize) :
    count ≤ totalPages count pageSize * pageSize := by
  have filled : count ≤ (count + pageSize - 1) / pageSize * pageSize := by
    have whole := Nat.div_add_mod (count + pageSize - 1) pageSize
    have rest := Nat.mod_lt (count + pageSize - 1) positive
    rw [Nat.mul_comm] at whole
    omega
  exact filled.trans (Nat.mul_le_mul_right _ (le_max_right _ _))

variable [LinearOrder Timestamp]

/-- One record before another: by its key, and by what was before among records of one key. -/
def PlacedBefore (key : SessionRecord → Except SortKeyError (SortKey Timestamp))
    (descending : Bool) (before : SessionRecord → SessionRecord → Prop)
    (first second : SessionRecord) : Prop :=
  ∃ firstKey secondKey, key first = .ok firstKey ∧ key second = .ok secondKey ∧
    ((if descending then secondKey < firstKey else firstKey < secondKey) ∨
      firstKey = secondKey ∧ before first second)

section Sorted

variable {key : SessionRecord → Except SortKeyError (SortKey Timestamp)}
  {records : List SessionRecord} {before : SessionRecord → SessionRecord → Prop}

/-- Where every record has a key, a sort has a result, which is sorted. -/
theorem sortWithKey_eq_ok (found : ∀ record ∈ records, ∃ own, key record = .ok own)
    (descending : Bool) (ordered : records.Pairwise before) :
    ∃ sorted, sortWithKey key descending records = .ok sorted ∧ sorted.Perm records ∧
      sorted.Pairwise (PlacedBefore key descending before) := by
  obtain ⟨keys, collected, all⟩ := mapM_eq_ok found
  have values : (keys.zip records).map Prod.snd = records :=
    List.map_snd_zip all.length_eq.le
  have keyed : ∀ entry ∈ keys.zip records, key entry.2 = .ok entry.1 := fun entry member =>
    (List.forall₂_iff_zip.mp all.flip).2 member
  have placed : (keys.zip records).Pairwise fun first second => before first.2 second.2 := by
    rw [← List.pairwise_map, values]
    exact ordered
  unfold sortWithKey
  rw [collected]
  cases descending with
  | false =>
    have sorted := Tolerances.sortedBy_perm Prod.fst (keys.zip records)
    refine ⟨_, rfl, (sorted.map Prod.snd).trans (by rw [values]), List.pairwise_map.mpr ?_⟩
    refine (Tolerances.pairwise_sortedBy_of_pairwise Prod.fst _ placed).imp_of_mem
      fun {first second} firstIn secondIn later => ?_
    exact ⟨first.1, second.1, keyed first (sorted.mem_iff.mp firstIn),
      keyed second (sorted.mem_iff.mp secondIn), later⟩
  | true =>
    have sorted := Tolerances.sortedBy_perm (fun entry => OrderDual.toDual entry.1)
      (keys.zip records)
    refine ⟨_, rfl, (sorted.map Prod.snd).trans (by rw [values]), List.pairwise_map.mpr ?_⟩
    refine (Tolerances.pairwise_sortedBy_of_pairwise (fun entry => OrderDual.toDual entry.1) _
      placed).imp_of_mem fun {first second} firstIn secondIn later => ?_
    exact ⟨first.1, second.1, keyed first (sorted.mem_iff.mp firstIn),
      keyed second (sorted.mem_iff.mp secondIn), later.imp_right
        fun ⟨same, kept⟩ => ⟨OrderDual.toDual.injective same, kept⟩⟩

theorem sortWithKey_eq_error_iff {descending : Bool} :
    (∃ failure, sortWithKey key descending records = .error failure) ↔
      ∃ record ∈ records, ∃ failure, key record = .error failure :=
  bind_eq_error_iff.trans mapM_eq_error_iff

end Sorted

/-! ### The listing -/

/-- The order of the listing: by the key of the sort, and by the names of the records where the
keys are equal. -/
def Before (lib : PythonLibrary DateTime Timestamp) (query : EvidenceSessionListQuery) :
    SessionRecord → SessionRecord → Prop :=
  PlacedBefore (sortKeys lib query.sortKey) query.descending fun first second =>
    first.session.evidenceId ≤ second.session.evidenceId

/-- An answer is a page of some pages: the one that is asked for, or the nearest there is. -/
structure PageOf (pages : List (List SessionRecord)) (number : Int) (sessions : List SessionRecord)
    (filteredTotal : Nat) (page : Int) : Prop where
  clamped : page = min (max number 1) pages.length
  shown : pages[page.toNat - 1]? = some sessions
  counted : filteredTotal = pages.flatten.length

section Listing

variable {query : EvidenceSessionListQuery} {eligible : List SessionRecord}

/-- One record without a key fails the page, whatever page it is on. -/
theorem filterAndPage_eq_error_iff :
    (∃ failure, filterAndPageSessionRecords lib eligible query = .error failure) ↔
      ∃ record ∈ eligible, selects lib query record = true ∧
        Unsortable lib query.sortKey record := by
  refine bind_eq_error_iff.trans (sortWithKey_eq_error_iff.trans ?_)
  simp only [(Tolerances.sortedBy_perm _ _).mem_iff, List.mem_filter, sortKeys_eq_error_iff,
    and_assoc]

/-- There are pages that show each selected record once, in the order of the listing, and each
number is answered with one of them. -/
def ShowsOnce (lib : PythonLibrary DateTime Timestamp) (eligible : List SessionRecord)
    (query : EvidenceSessionListQuery) : Prop :=
  ∃ pages : List (List SessionRecord),
    pages.length = totalPages (eligible.filter (selects lib query)).length query.pageSize ∧
      pages.flatten.Perm (eligible.filter (selects lib query)) ∧
      pages.flatten.Pairwise (Before lib query) ∧
      ∀ number : Int, ∃ sessions filteredTotal page,
        filterAndPageSessionRecords lib eligible { query with page := number } =
            .ok (sessions, filteredTotal, page) ∧
          PageOf pages number sessions filteredTotal page

/-- Otherwise there are such pages. -/
theorem showsOnce_of_readable
    (readable : ∀ record ∈ eligible, selects lib query record = true →
      ¬ Unsortable lib query.sortKey record) : ShowsOnce lib eligible query := by
  have named := Tolerances.sortedBy_perm (fun record : SessionRecord => record.session.evidenceId)
    (eligible.filter (selects lib query))
  have found : ∀ record ∈ Tolerances.sortedBy (fun record : SessionRecord =>
      record.session.evidenceId) (eligible.filter (selects lib query)),
      ∃ own, sortKeys lib query.sortKey record = .ok own := fun record member => by
    have selected := List.mem_filter.mp (named.mem_iff.mp member)
    cases read : sortKeys lib query.sortKey record with
    | ok own => exact ⟨own, rfl⟩
    | error failure =>
      exact absurd (sortKeys_eq_error_iff.mp ⟨failure, read⟩)
        (readable record selected.1 selected.2)
  obtain ⟨sorted, ran, same, ordered⟩ := sortWithKey_eq_ok found query.descending
    (Tolerances.pairwise_sortedBy _ _)
  have count : sorted.length = (eligible.filter (selects lib query)).length :=
    (same.trans named).length_eq
  have whole := flatten_pages sorted query.pageSize
    (le_totalPages_mul query.pageSizePos)
  refine ⟨(List.range (totalPages sorted.length query.pageSize)).map fun page =>
    (sorted.drop (page * query.pageSize)).take query.pageSize, ?_, ?_, ?_, fun number => ?_⟩
  · rw [List.length_map, List.length_range, count]
  · rw [whole]
    exact same.trans named
  · rw [whole]
    exact ordered
  · have filled : 1 ≤ totalPages sorted.length query.pageSize := le_max_left _ _
    refine ⟨(sorted.drop (((min (max number 1)
        (totalPages sorted.length query.pageSize : Int)).toNat - 1) * query.pageSize)).take
      query.pageSize, sorted.length, min (max number 1)
        (totalPages sorted.length query.pageSize : Int), ?_, ?_, ?_, ?_⟩
    · show (do
        let filtered ← sortWithKey (sortKeys lib query.sortKey) query.descending
          (Tolerances.sortedBy (fun record : SessionRecord => record.session.evidenceId)
            (eligible.filter (selects lib query)))
        _) = _
      rw [ran]
      rfl
    · rw [List.length_map, List.length_range]
    · have inside :
          (min (max number 1) (totalPages sorted.length query.pageSize : Int)).toNat - 1 <
            totalPages sorted.length query.pageSize := by omega
      rw [List.getElem?_map, List.getElem?_range inside]
      rfl
    · rw [whole]

/-- The pages show each selected record exactly if all of them have keys. -/
theorem showsOnce_iff (lib : PythonLibrary DateTime Timestamp) (eligible : List SessionRecord)
    (query : EvidenceSessionListQuery) :
    ShowsOnce lib eligible query ↔ ∀ record ∈ eligible, selects lib query record = true →
      ¬ Unsortable lib query.sortKey record := by
  refine ⟨fun shows record member selected unsortable => ?_, showsOnce_of_readable⟩
  obtain ⟨pages, -, -, -, answers⟩ := shows
  obtain ⟨sessions, filteredTotal, page, answered, -⟩ := answers query.page
  obtain ⟨failure, failed⟩ :=
    filterAndPage_eq_error_iff.mpr ⟨record, member, selected, unsortable⟩
  cases failed.symm.trans answered

variable {healthy healthyAgain : String → Bool} {rows : List SessionRow}
  {scenarios : List ScenarioRow} {overviews : List OverviewRow}

omit [LinearOrder Timestamp] in
theorem healthy_of_built {record : SessionRecord}
    (built : record ∈ buildSessionListRecords lib healthy rows scenarios overviews) :
    healthy record.session.sessionPath = true := by
  obtain ⟨session, kept, rfl⟩ := List.mem_map.mp built
  exact (List.mem_filter.mp kept).2

/-- A page has records that are listed. -/
theorem mem_of_filterAndPage {paged : List SessionRecord × Nat × Int}
    (ran : filterAndPageSessionRecords lib eligible query = .ok paged) {record : SessionRecord}
    (shown : record ∈ paged.1) : record ∈ eligible := by
  have readable : ∀ record ∈ eligible, selects lib query record = true →
      ¬ Unsortable lib query.sortKey record := fun record member selected unsortable => by
    obtain ⟨failure, failed⟩ :=
      filterAndPage_eq_error_iff.mpr ⟨record, member, selected, unsortable⟩
    rw [ran] at failed
    cases failed
  obtain ⟨pages, -, same, -, answers⟩ := showsOnce_of_readable readable
  obtain ⟨sessions, filteredTotal, page, answered, pageOf⟩ := answers query.page
  obtain rfl : paged = (sessions, filteredTotal, page) := Except.ok.inj (ran.symm.trans answered)
  have listed := List.mem_flatten.mpr ⟨_, List.mem_of_getElem? pageOf.shown, shown⟩
  exact (List.mem_filter.mp (same.mem_iff.mp listed)).1

/-- While no directory changes, the first look decides. -/
theorem listSessions_eq (query : EvidenceSessionListQuery) :
    listSessions lib healthy healthy healthyAgain rows scenarios overviews query = (do
      let paged ← filterAndPageSessionRecords lib
        (buildSessionListRecords lib healthy rows scenarios overviews) query
      return { sessions := paged.1,
               total := (buildSessionListRecords lib healthy rows scenarios overviews).length,
               filteredTotal := paged.2.1, page := paged.2.2, pageSize := query.pageSize,
               totalPages := totalPages paged.2.1 query.pageSize,
               facets := sessionListFacets lib
                 (buildSessionListRecords lib healthy rows scenarios overviews) }) := by
  unfold listSessions
  dsimp only
  cases ran : filterAndPageSessionRecords lib
      (buildSessionListRecords lib healthy rows scenarios overviews) query with
  | error failure => rfl
  | ok paged =>
    have unchanged : (paged.1.any fun record => !healthy record.session.sessionPath) = false := by
      refine List.any_eq_false.mpr fun record shown => ?_
      rw [healthy_of_built (mem_of_filterAndPage ran shown)]
      exact Bool.false_ne_true
    refine Eq.trans (if_neg ?_) rfl
    rw [unchanged]
    exact Bool.false_ne_true

/-- One session whose text is no key fails the listing, whatever page is asked for. -/
theorem listSessions_eq_error_iff :
    (∃ failure, listSessions lib healthy healthy healthyAgain rows scenarios overviews query =
        .error failure) ↔
      ∃ record ∈ buildSessionListRecords lib healthy rows scenarios overviews,
        selects lib query record = true ∧ Unsortable lib query.sortKey record := by
  rw [listSessions_eq]
  exact bind_eq_error_iff.trans filterAndPage_eq_error_iff

/-- Otherwise the answers are the pages of one list, which has each selected session once. -/
theorem listSessions_pages
    (readable : ∀ record ∈ buildSessionListRecords lib healthy rows scenarios overviews,
      selects lib query record = true → ¬ Unsortable lib query.sortKey record) :
    ∃ pages : List (List SessionRecord),
      pages.flatten.Perm ((buildSessionListRecords lib healthy rows scenarios overviews).filter
          (selects lib query)) ∧
        pages.flatten.Pairwise (Before lib query) ∧
        ∀ number : Int, ∃ answer,
          listSessions lib healthy healthy healthyAgain rows scenarios overviews
              { query with page := number } = .ok answer ∧
            PageOf pages number answer.sessions answer.filteredTotal answer.page ∧
            answer.totalPages = pages.length := by
  obtain ⟨pages, counted, same, ordered, answers⟩ := showsOnce_of_readable readable
  refine ⟨pages, same, ordered, fun number => ?_⟩
  obtain ⟨sessions, filteredTotal, page, answered, pageOf⟩ := answers number
  rw [listSessions_eq, answered]
  refine ⟨_, rfl, pageOf, ?_⟩
  rw [counted, ← same.length_eq, ← pageOf.counted]

end Listing

/-! ### Facets and filters -/

section Facets

variable {Value Key : Type} [DecidableEq Value] [LinearOrder Key]

omit [LinearOrder Timestamp]

/-- Each item of a facet is a filter of its own: the values are different, the number of an item
is that of the records that its filter lets through, and each value that lets one through is an
item. -/
structure Narrows (lib : PythonLibrary DateTime Timestamp) (eligible : List SessionRecord)
    (items : List (FacetItem Value)) (narrow : Value → EvidenceSessionListQuery)
    (listed : Value → Bool) : Prop where
  different : (items.map (·.value)).Nodup
  counted : ∀ item ∈ items,
    (eligible.filter (selects lib (narrow item.value))).length = item.count
  complete : ∀ value, listed value = true →
    ((∃ item ∈ items, item.value = value) ↔
      ∃ record ∈ eligible, selects lib (narrow value) record = true)

omit [LinearOrder Key] in
theorem nodup_eraseDups (values : List Value) : values.eraseDups.Nodup := by
  induction length : values.length using Nat.strong_induction_on generalizing values with
  | _ size inductionHypothesis =>
    cases values with
    | nil => exact List.nodup_nil
    | cons value rest =>
      rw [List.eraseDups_cons]
      refine List.nodup_cons.mpr ⟨fun member => ?_, inductionHypothesis _ ?_ _ rfl⟩
      · have other := (List.mem_filter.mp (List.mem_eraseDups.mp member)).2
        rw [beq_self_eq_true] at other
        cases other
      · rw [← length, List.length_cons]
        exact Nat.lt_succ_of_le (List.length_filter_le _ _)

theorem map_value_facetItems (values : List Value) (key : Value → Key) (label : Value → String) :
    (facetItems values key label).map (·.value) = Tolerances.sortedBy key values.eraseDups := by
  unfold facetItems
  rw [List.map_map]
  exact List.map_id _

theorem facetItems_narrows (lib : PythonLibrary DateTime Timestamp)
    (eligible : List SessionRecord) (read : SessionRecord → Value)
    (narrow : Value → EvidenceSessionListQuery) (listed : Value → Bool)
    (key : Value → Key) (label : Value → String)
    (filters : ∀ value record, selects lib (narrow value) record = true ↔ value = read record) :
    Narrows lib eligible (facetItems ((eligible.map read).filter listed) key label) narrow
      listed where
  different := by
    rw [map_value_facetItems]
    exact ((Tolerances.sortedBy_perm _ _).nodup_iff).mpr (nodup_eraseDups _)
  counted := fun item member => by
    obtain ⟨value, kept, rfl⟩ := List.mem_map.mp member
    have shown := (List.mem_filter.mp
      (List.mem_eraseDups.mp ((Tolerances.sortedBy_perm _ _).mem_iff.mp kept))).2
    rw [List.count_filter shown, List.count, List.countP_map, ← List.countP_eq_length_filter]
    refine List.countP_congr fun record _ => ?_
    rw [filters, Function.comp_apply, beq_iff_eq, eq_comm]
  complete := fun value shown => by
    have items : (∃ item ∈ facetItems ((eligible.map read).filter listed) key label,
        item.value = value) ↔ value ∈ (eligible.map read).filter listed := by
      rw [← List.mem_map, map_value_facetItems, (Tolerances.sortedBy_perm _ _).mem_iff,
        List.mem_eraseDups]
    rw [items, List.mem_filter, List.mem_map]
    refine ⟨fun ⟨⟨record, member, same⟩, _⟩ => ⟨record, member, (filters _ _).mpr same.symm⟩,
      fun ⟨record, member, selected⟩ => ⟨⟨record, member, ((filters _ _).mp selected).symm⟩,
        shown⟩⟩

/-- The numbers beside the filters are those of the records that the filters let through. -/
theorem sessionListFacets_narrow (blank : lib.casefold (lib.strip "") = "")
    (eligible : List SessionRecord) :
    Narrows lib eligible (sessionListFacets lib eligible).result
        (fun value => { result := some value }) (fun _ => true) ∧
      Narrows lib eligible (sessionListFacets lib eligible).scenarioCount
        (fun value => { scenarioCount := some value }) (fun _ => true) ∧
      Narrows lib eligible (sessionListFacets lib eligible).mode
        (fun value => { mode := some value }) (fun _ => true) ∧
      Narrows lib eligible (sessionListFacets lib eligible).scenario
        (fun value => { scenario := some value }) (· ≠ "") ∧
      Narrows lib eligible (sessionListFacets lib eligible).source
        (fun value => { source := some value }) (· ≠ "") ∧
      Narrows lib eligible (sessionListFacets lib eligible).worktree
        (fun value => { worktree := some value }) (· ≠ "") := by
  have all {Value : Type} (values : List Value) : values.filter (fun _ => true) = values :=
    List.filter_true values
  have result := facetItems_narrows lib eligible (·.outcome) (fun value => { result := some value })
    (fun _ => true) (fun value => lib.casefold value.text) Outcome.label
    fun value record => by simp [selects, blank]
  have scenarioCount := facetItems_narrows lib eligible (·.scenarioIds.length)
    (fun value => { scenarioCount := some value }) (fun _ => true) id toString
    fun value record => by simp [selects, blank]
  have mode := facetItems_narrows lib eligible (·.mode) (fun value => { mode := some value })
    (fun _ => true) (fun value => lib.casefold value.text) Mode.label
    fun value record => by simp [selects, blank]
  rw [all] at result scenarioCount mode
  refine ⟨result, scenarioCount, mode, facetItems_narrows lib eligible (·.scenario) _ _ _ _ ?_,
    facetItems_narrows lib eligible (·.source) _ _ _ _ ?_,
    facetItems_narrows lib eligible (·.worktree) _ _ _ _ ?_⟩
  all_goals
    intro value record
    simp [selects, blank]

end Facets

end

/-! ### A listing -/

/-- The library with the dates of the year 2026, as numbers in their order. -/
def datedLibrary : PythonLibrary Nat Nat :=
  { asciiLibrary with
    strptime := fun digits =>
      if digits = "20261399000000" then none
      else some (digits.toList.foldl (fun number digit => 10 * number + (digit.toNat - 48)) 0) }

/-- Two sessions with a running number and one that is named by its time. -/
def someSessions : List SessionRow :=
  ["nightly-10", "20260713_101500_fast", "nightly-2"].map fun name =>
    { evidenceId := "evidence-" ++ name
      sessionId := name
      suite := "single"
      sessionPath := "/runs/" ++ name
      source := some "cli"
      createdAt := none
      endedAt := none
      worktreeName := none
      branch := none }

/-- They are listed by their times, two on a page. -/
theorem someSessions_pages :
    ∃ pages : List (List SessionRecord),
      pages.flatten.Perm ((buildSessionListRecords datedLibrary (fun _ => true) someSessions []
          []).filter (selects datedLibrary { pageSize := 2 })) ∧
        pages.flatten.Pairwise (Before datedLibrary { pageSize := 2 }) ∧
        ∀ number : Int, ∃ answer,
          listSessions datedLibrary (fun _ => true) (fun _ => true) (fun _ => true) someSessions []
              [] { page := number, pageSize := 2 } = .ok answer ∧
            PageOf pages number answer.sessions answer.filteredTotal answer.page ∧
            answer.totalPages = pages.length := by
  refine listSessions_pages fun record member _ unsortable => ?_
  obtain ⟨failure, failed⟩ := sortKeys_eq_error_iff.mpr unsortable
  obtain ⟨session, kept, rfl⟩ := List.mem_map.mp member
  have listed : session ∈ someSessions := (List.mem_filter.mp kept).1
  obtain ⟨name, named, rfl⟩ := List.mem_map.mp listed
  simp only [List.mem_cons, List.not_mem_nil, or_false] at named
  rcases named with rfl | rfl | rfl <;> cases failed

/-- A session whose name begins like a time that there is not. -/
def misdated : SessionRow where
  evidenceId := "evidence-misdated"
  sessionId := "20261399_000000_fast"
  suite := "single"
  sessionPath := "/runs/misdated"
  source := some "cli"
  createdAt := none
  endedAt := none
  worktreeName := none
  branch := none

/-- Beside it none of them is listed by time. -/
theorem not_showsOnce_of_misdated :
    ¬ ∀ eligible query, (eligible.map fun record => record.session.evidenceId).Nodup →
      ShowsOnce datedLibrary eligible query := by
  intro law
  have shows := law (buildSessionListRecords datedLibrary (fun _ => true)
    (misdated :: someSessions) [] []) {} (by decide)
  obtain ⟨pages, -, -, -, answers⟩ := shows
  obtain ⟨sessions, filteredTotal, page, answered, -⟩ := answers 1
  have unsortable : Unsortable datedLibrary .time (sessionRecord datedLibrary misdated [] []) :=
    .notADate rfl rfl rfl
  have selected : selects datedLibrary {} (sessionRecord datedLibrary misdated [] []) = true := rfl
  obtain ⟨failure, failed⟩ := filterAndPage_eq_error_iff.mpr
    ⟨_, List.mem_cons_self, selected, unsortable⟩
  cases failed.symm.trans answered

/-- Two of them have passed the scenario that they ran, and one has not. -/
def someScenarios : List ScenarioRow :=
  [⟨"evidence-nightly-10", "head_on", some 1⟩, ⟨"evidence-nightly-2", "head_on", some 0⟩,
    ⟨"evidence-20260713_101500_fast", "crossing", some 1⟩]

theorem someSessions_narrow :
    datedLibrary.casefold (datedLibrary.strip "") = "" ∧
      let records := buildSessionListRecords datedLibrary (fun _ => true) someSessions
        someScenarios []
      Narrows datedLibrary records (sessionListFacets datedLibrary records).result
          (fun value => { result := some value }) (fun _ => true) ∧
        Narrows datedLibrary records (sessionListFacets datedLibrary records).scenario
          (fun value => { scenario := some value }) (· ≠ "") := by
  have blank : datedLibrary.casefold (datedLibrary.strip "") = "" := rfl
  refine ⟨blank, ?_⟩
  obtain ⟨result, -, -, scenario, -⟩ := sessionListFacets_narrow blank
    (buildSessionListRecords datedLibrary (fun _ => true) someSessions someScenarios [])
  exact ⟨result, scenario⟩

end MassL3.EvidenceLibrary.Listing
