import DirectTransfer.Core.HistoryDatabase
import Mathlib.Data.List.TakeWhile

/-! The search of the history compared with a search for the query itself. The
wildcards of `LIKE` are not escaped and a NUL ends a pattern as well as a text,
so only a query without them is looked for as it stands, and only in texts that
`LIKE` reads to their end. -/

set_option autoImplicit false

namespace DirectTransfer

open Library

/-! ## What a search should list -/

/-- The query occurs in the text, whatever the case of ASCII letters. -/
def occursIn (query text : PyStr) : Bool := decide (asciiLower query <:+: asciiLower text)

def satisfies (direction status search : Option PyStr) (row : TransferRow) : Bool :=
  (truthy direction).all (fun wanted => decide (row.direction = wanted)) &&
  (truthy status).all (fun wanted => decide (row.status = wanted)) &&
  search.all fun query => row.peerHostname.any (occursIn query) || occursIn query row.peerIp ||
    occursIn query row.transferId

/-- The rows started last, as many as there may be. -/
structure MostRecent (count : Nat) (rows listed : List TransferRow) : Prop where
  latest : ∃ rest, (listed ++ rest).Perm rows ∧
    ∀ row ∈ listed, ∀ other ∈ rest, other.startedAt ≤ row.startedAt
  counted : listed.length = min count rows.length
  ordered : listed.Pairwise fun first second => second.startedAt ≤ first.startedAt

def ListsExactly (order : List TransferRow → List TransferRow) (rows : List TransferRow)
    (direction status search : Option PyStr) (limit : Int) : Prop :=
  ∃ listed, listTransfers order rows direction status search limit = .ok listed ∧
    MostRecent (max 1 (min limit 5000)).toNat
      ((rows.filter (satisfies direction status search)).map TransferRow.shown) listed

/-- `ORDER BY started_at DESC`: rows that started together may come either way. -/
structure OrdersByStart (order : List TransferRow → List TransferRow) : Prop where
  permutes : ∀ rows, (order rows).Perm rows
  descends : ∀ rows, (order rows).Pairwise fun first second => second.startedAt ≤ first.startedAt

/-- A text without the characters that `LIKE` stops at or takes for another. -/
def ReadAsWritten (text : PyStr) : Prop :=
  ∀ point ∈ text, point.val ≠ 0 ∧ point.val ≠ 0xFFFE ∧ point.val ≠ 0xFFFF

/-- The texts a search looks into are read as they are stored. -/
structure TransferRow.ReadAsWritten (row : TransferRow) : Prop where
  hostname : ∀ hostname, row.peerHostname = some hostname → DirectTransfer.ReadAsWritten hostname
  ip : DirectTransfer.ReadAsWritten row.peerIp
  transferId : DirectTransfer.ReadAsWritten row.transferId

/-- SQLite takes the filters. -/
structure BindableFilters (direction status : Option PyStr) : Prop where
  direction : ∀ wanted, truthy direction = some wanted → bindable wanted = true
  status : ∀ wanted, truthy status = some wanted → bindable wanted = true

/-- Parameters SQLite takes, and a query that is read as written and has no wildcards. -/
structure PlainSearch (direction status search : Option PyStr) : Prop
    extends BindableFilters direction status where
  search : ∀ query, search = some query →
    bindable query = true ∧ ReadAsWritten query ∧ chr '%' ∉ query ∧ chr '_' ∉ query

/-! ## Patterns -/

theorem likeItem_exactly {point stands : CodePoint} (kind : likeItem point = .exactly stands) :
    stands = point := by
  unfold likeItem at kind
  split at kind
  · cases kind
  · split at kind
    · cases kind
    · cases kind
      rfl

theorem likeItem_plain_iff {point : CodePoint} :
    (∃ stands, likeItem point = .exactly stands) ↔ point ≠ chr '%' ∧ point ≠ chr '_' := by
  unfold likeItem
  by_cases run : point = chr '%'
  · simp [run]
  · by_cases one : point = chr '_'
    · rw [if_neg run, if_pos one]
      simp [one]
    · simp [run, one]

/-- Lowering a text neither adds nor removes a character that is no letter. -/
theorem mem_asciiLower_of_symbol {symbol : CodePoint}
    (noLower : ¬ (0x61 ≤ symbol.val ∧ symbol.val ≤ 0x7A))
    (noUpper : ¬ (0x41 ≤ symbol.val ∧ symbol.val ≤ 0x5A)) {text : PyStr} :
    symbol ∈ asciiLower text ↔ symbol ∈ text := by
  rw [asciiLower, List.mem_map]
  constructor
  · intro found
    obtain ⟨point, member, lowered⟩ := found
    split at lowered
    · next upper =>
        have value := congrArg Fin.val lowered
        rw [codePoint_val (by omega)] at value
        omega
    · exact lowered ▸ member
  · intro member
    exact ⟨symbol, member, if_neg noUpper⟩

theorem asciiLower_of_lower {text : PyStr}
    (lower : ∀ point ∈ text, ¬ (0x41 ≤ point.val ∧ point.val ≤ 0x5A)) : asciiLower text = text := by
  rw [asciiLower]
  conv_rhs => rw [← List.map_id text]
  apply List.map_congr_left
  intro point member
  exact if_neg (lower point member)

theorem not_upper_of_mem_asciiLower {text : PyStr} {point : CodePoint}
    (member : point ∈ asciiLower text) : ¬ (0x41 ≤ point.val ∧ point.val ≤ 0x5A) := by
  obtain ⟨original, _, lowered⟩ := List.mem_map.mp member
  rw [← lowered]
  split
  · next upper =>
      rw [codePoint_val (by omega)]
      omega
  · next notUpper => exact notUpper

theorem readAsWritten_asciiLower {text : PyStr} :
    ReadAsWritten (asciiLower text) ↔ ReadAsWritten text := by
  constructor
  · intro written point member
    by_cases letter : 0x41 ≤ point.val ∧ point.val ≤ 0x7A
    · omega
    · exact written point ((mem_asciiLower_of_symbol (by omega) (by omega)).mpr member)
  · intro written point member
    by_cases letter : 0x41 ≤ point.val ∧ point.val ≤ 0x7A
    · omega
    · exact written point ((mem_asciiLower_of_symbol (by omega) (by omega)).mp member)

/-- What is read is read again as written. -/
theorem readAsWritten_likeText (text : PyStr) : ReadAsWritten (likeText text) := by
  rw [likeText, readAsWritten_asciiLower]
  intro point member
  obtain ⟨original, kept, read⟩ := List.mem_map.mp member
  have present := List.mem_takeWhile_imp kept
  simp only [ne_eq, decide_eq_true_eq] at present
  rw [← read, utf8Read]
  split
  · rw [codePoint_val (by omega)]
    omega
  · next other =>
      rw [not_or] at other
      exact ⟨present, other⟩

theorem takeWhile_of_readAsWritten {text : PyStr} (written : ReadAsWritten text) :
    (text.takeWhile fun point => point.val ≠ 0) = text := by
  rw [List.takeWhile_eq_self_iff]
  intro point member
  exact decide_eq_true (written point member).1

theorem likeText_of_readAsWritten {text : PyStr} (written : ReadAsWritten text) :
    likeText text = asciiLower text := by
  rw [likeText, takeWhile_of_readAsWritten written]
  congr 1
  conv_rhs => rw [← List.map_id text]
  apply List.map_congr_left
  intro point member
  obtain ⟨_, first, second⟩ := written point member
  exact if_neg (not_or.mpr ⟨first, second⟩)

theorem length_likeText_le (text : PyStr) : (likeText text).length ≤ text.length := by
  rw [likeText, asciiLower, List.length_map, List.length_map]
  exact (List.takeWhile_prefix _).length_le

/-- The pattern begins with a run, and ends with one unless a NUL cuts it off. -/
theorem likeText_searchPattern {query : PyStr} (short : query.length ≤ 128) :
    (likeText (searchPattern query)).map likeItem =
      .anyRun :: ((likeText query).map likeItem ++
        if (query.takeWhile fun point => point.val ≠ 0) = query then [.anyRun] else []) := by
  have opened : (searchPattern query).takeWhile (fun point => point.val ≠ 0) =
      chr '%' :: (query ++ [chr '%']).takeWhile fun point => point.val ≠ 0 := by
    rw [searchPattern, List.take_of_length_le short]
    rfl
  have closing : [chr '%'].takeWhile (fun point => decide (point.val ≠ 0)) = [chr '%'] := rfl
  rw [likeText, opened, List.takeWhile_append, closing, likeText]
  split
  · next uncut =>
      have whole := (List.takeWhile_prefix _).eq_of_length uncut
      rw [if_pos whole, whole]
      simp only [asciiLower, List.map_append, List.map_cons]
      rfl
  · next cut =>
      have shorter : (query.takeWhile fun point => point.val ≠ 0) ≠ query := by
        intro whole
        exact cut (congrArg List.length whole)
      rw [if_neg shorter, List.append_nil]
      rfl

/-- A query read as written is looked for anywhere in what is read of a text. -/
theorem sqlLike_searchPattern {query text : PyStr} (short : query.length ≤ 128)
    (written : ReadAsWritten query) :
    sqlLike (searchPattern query) text = true ↔
      ∃ part, part <:+: likeText text ∧ Fits ((asciiLower query).map likeItem) part := by
  rw [sqlLike, likeText_searchPattern short, if_pos (takeWhile_of_readAsWritten written),
    likeText_of_readAsWritten written, matchesPattern_iff, fits_anywhere]

theorem map_likeItem_of_plain {query : PyStr} (noRun : chr '%' ∉ query) (noOne : chr '_' ∉ query) :
    (asciiLower query).map likeItem = (asciiLower query).map .exactly := by
  apply List.map_congr_left
  intro point member
  have plain : point ≠ chr '%' ∧ point ≠ chr '_' := by
    constructor
    · intro same
      exact noRun ((mem_asciiLower_of_symbol (by decide) (by decide)).mp (same ▸ member))
    · intro same
      exact noOne ((mem_asciiLower_of_symbol (by decide) (by decide)).mp (same ▸ member))
  obtain ⟨stands, kind⟩ := likeItem_plain_iff.mpr plain
  rw [kind, likeItem_exactly kind]

/-- Without wildcards the pattern matches where the query occurs. -/
theorem sqlLike_of_plain {query text : PyStr} (short : query.length ≤ 128)
    (written : ReadAsWritten query) (noRun : chr '%' ∉ query) (noOne : chr '_' ∉ query)
    (stored : ReadAsWritten text) : sqlLike (searchPattern query) text = occursIn query text := by
  rw [Bool.eq_iff_iff, sqlLike_searchPattern short written, map_likeItem_of_plain noRun noOne,
    likeText_of_readAsWritten stored, occursIn, decide_eq_true_eq]
  constructor
  · intro found
    obtain ⟨part, occurs, fits⟩ := found
    rw [fits_exactly] at fits
    exact fits ▸ occurs
  · intro occurs
    exact ⟨_, occurs, fits_exactly.mpr rfl⟩

/-- A name the pattern of a query matches, which holds the query only if that is plain. -/
def wildName (query : PyStr) : PyStr := collapse likeItem (chr 'a') (likeText query)

theorem mem_wildName {query : PyStr} {point : CodePoint} (member : point ∈ wildName query) :
    point = chr 'a' ∨ point ∈ likeText query := by
  cases mem_collapse member with
  | inl same => exact .inl same
  | inr found =>
      obtain ⟨read, member, kind⟩ := found
      exact .inr (likeItem_exactly kind ▸ member)

theorem readAsWritten_wildName (query : PyStr) : ReadAsWritten (wildName query) := by
  intro point member
  cases mem_wildName member with
  | inl same => rw [same]; decide
  | inr read => exact readAsWritten_likeText query point read

theorem asciiLower_wildName (query : PyStr) : asciiLower (wildName query) = wildName query := by
  apply asciiLower_of_lower
  intro point member
  cases mem_wildName member with
  | inl same => rw [same]; decide
  | inr read => exact not_upper_of_mem_asciiLower read

theorem sqlLike_wildName {query : PyStr} (short : query.length ≤ 128) :
    sqlLike (searchPattern query) (wildName query) = true := by
  rw [sqlLike, likeText_searchPattern short, matchesPattern_iff,
    likeText_of_readAsWritten (readAsWritten_wildName query), asciiLower_wildName]
  have fits : Fits ((likeText query).map likeItem) (wildName query) :=
    fits_collapse (chr 'a') (likeText query)
  split
  · exact fits_anywhere.mpr ⟨_, List.infix_refl _, fits⟩
  · rw [List.append_nil]
    exact .anyRun [] fits

/-- A query found in that name is read as written. -/
theorem readAsWritten_of_occursIn_wildName {query : PyStr}
    (occurs : asciiLower query <:+: wildName query) : ReadAsWritten query := by
  have sizes : (asciiLower query).length = query.length := List.length_map _
  have below : (wildName query).length ≤ (likeText query).length :=
    length_collapse_le (chr 'a') (likeText query)
  have whole := occurs.eq_of_length_le (below.trans ((length_likeText_le query).trans sizes.ge))
  rw [← readAsWritten_asciiLower, whole]
  exact readAsWritten_wildName query

theorem plain_of_occursIn_wildName {query : PyStr} (occurs : occursIn query (wildName query) = true) :
    ReadAsWritten query ∧ chr '%' ∉ query ∧ chr '_' ∉ query := by
  rw [occursIn, decide_eq_true_eq, asciiLower_wildName] at occurs
  have written := readAsWritten_of_occursIn_wildName occurs
  have distinct : ∀ symbol, likeItem symbol = .anyOne → symbol ≠ chr 'a' := by
    intro symbol kind same
    rw [same] at kind
    cases kind
  rw [wildName, likeText_of_readAsWritten written] at occurs
  have plain := exactly_of_infix_collapse distinct occurs
  refine ⟨written, ?_, ?_⟩
  · intro member
    have kept := (mem_asciiLower_of_symbol (by decide) (by decide)).mpr member
    exact (likeItem_plain_iff.mp (plain _ kept)).1 rfl
  · intro member
    have kept := (mem_asciiLower_of_symbol (by decide) (by decide)).mpr member
    exact (likeItem_plain_iff.mp (plain _ kept)).2 rfl

/-! ## Listing -/

section Listing

variable {order : List TransferRow → List TransferRow} {direction status search : Option PyStr}

/-- The rows the clauses of the statement let through. -/
def admitted (direction status search : Option PyStr) (row : TransferRow) : Bool :=
  (truthy direction).all (fun wanted => decide (row.direction = wanted)) &&
  (truthy status).all (fun wanted => decide (row.status = wanted)) &&
  (truthy search).all fun query => matchesSearch (searchPattern query) row

def takesParams (direction status search : Option PyStr) : Bool :=
  (truthy direction).all bindable && (truthy status).all bindable &&
    (truthy search).all fun query => bindable (searchPattern query)

theorem listTransfers_eq (rows : List TransferRow) (limit : Int) :
    listTransfers order rows direction status search limit =
      if takesParams direction status search then
        .ok (((order (rows.filter (admitted direction status search))).take
          (max 1 (min limit 5000)).toNat).map TransferRow.shown)
      else .error (raised .valueError "surrogates not allowed") := by
  rw [listTransfers, queryTransfers]
  unfold takesParams admitted
  cases truthy direction <;> cases truthy status <;> cases truthy search <;>
    simp [Bool.and_assoc]

theorem bindable_searchPattern {query : PyStr} (short : query.length ≤ 128) :
    bindable (searchPattern query) = bindable query := by
  rw [searchPattern, List.take_of_length_le short]
  simp only [bindable, List.all_append]
  have percent : (py "%").all (fun point => !point.isSurrogate) = true := by decide
  rw [percent, Bool.true_and, Bool.and_true]

theorem takesParams_iff (short : ∀ query, search = some query → query.length ≤ 128) :
    takesParams direction status search = true ↔
      (∀ wanted, truthy direction = some wanted → bindable wanted = true) ∧
      (∀ wanted, truthy status = some wanted → bindable wanted = true) ∧
      ∀ query, search = some query → bindable query = true := by
  have searched : (truthy search).all (fun query => bindable (searchPattern query)) = true ↔
      ∀ query, search = some query → bindable query = true := by
    cases search with
    | none => simp [truthy]
    | some query =>
        cases query with
        | nil => simp [truthy, bindable]
        | cons first query =>
            simp [truthy, bindable_searchPattern (short _ rfl)]
  rw [takesParams, Bool.and_eq_true, Bool.and_eq_true, searched, and_assoc]
  simp only [Option.all_eq_true]

theorem occursIn_nil (text : PyStr) : occursIn [] text = true := by
  simp [occursIn, asciiLower]

/-- Without a query every row that passes the filters is listed. -/
theorem admitted_of_unsearched (absent : truthy search = none) :
    admitted direction status search = satisfies direction status search := by
  funext row
  unfold admitted satisfies
  congr 1
  rw [absent]
  cases search with
  | none => rfl
  | some query =>
      cases query with
      | nil => simp [occursIn_nil]
      | cons first query => cases absent

/-- Without wildcards the clauses say what a search should list. -/
theorem admitted_eq_satisfies {row : TransferRow} (stored : row.ReadAsWritten)
    (short : ∀ query, search = some query → query.length ≤ 128)
    (plain : PlainSearch direction status search) :
    admitted direction status search row = satisfies direction status search row := by
  cases search with
  | none => rw [admitted_of_unsearched rfl]
  | some query =>
      cases query with
      | nil => rw [admitted_of_unsearched rfl]
      | cons first query =>
          obtain ⟨_, written, noRun, noOne⟩ := plain.search _ rfl
          have matched {text : PyStr} (read : ReadAsWritten text) :=
            sqlLike_of_plain (short _ rfl) written noRun noOne read
          have named : row.peerHostname.any (sqlLike (searchPattern (first :: query))) =
              row.peerHostname.any (occursIn (first :: query)) := by
            cases hostname : row.peerHostname with
            | none => rfl
            | some name => exact matched (stored.hostname name hostname)
          unfold admitted satisfies
          simp [truthy, matchesSearch, named, matched stored.ip, matched stored.transferId]

theorem mostRecent_take (sorts : OrdersByStart order) (rows : List TransferRow) (count : Nat) :
    MostRecent count (rows.map TransferRow.shown)
      (((order rows).take count).map TransferRow.shown) := by
  have whole := sorts.permutes rows
  have descends := sorts.descends rows
  rw [← List.take_append_drop count (order rows), List.pairwise_append] at descends
  obtain ⟨taken, _, across⟩ := descends
  constructor
  · refine ⟨((order rows).drop count).map TransferRow.shown, ?_, ?_⟩
    · rw [← List.map_append, List.take_append_drop]
      exact whole.map _
    · intro row member other left
      obtain ⟨first, firstMember, same⟩ := List.mem_map.mp member
      obtain ⟨second, secondMember, again⟩ := List.mem_map.mp left
      rw [← same, ← again]
      exact across first firstMember second secondMember
  · rw [List.length_map, List.length_take, List.length_map, whole.length_eq]
  · exact List.pairwise_map.mpr taken

/-- A row of that name which passes the filters. -/
def namedRow (direction status : Option PyStr) (hostname : PyStr) : TransferRow where
  transferId := []
  peerDeviceId := none
  peerIp := []
  peerHostname := some hostname
  direction := (truthy direction).getD []
  status := (truthy status).getD []
  message := none
  fileCount := 0
  totalSize := 0
  bytesTransferred := 0
  startedAt := 0
  completedAt := none
  error := none
  resumed := some 0
  resumeOffset := some 0

theorem filters_namedRow (direction status : Option PyStr) (hostname : PyStr) :
    (truthy direction).all
      (fun wanted => decide ((namedRow direction status hostname).direction = wanted)) = true ∧
    (truthy status).all
      (fun wanted => decide ((namedRow direction status hostname).status = wanted)) = true := by
  unfold namedRow
  cases truthy direction <;> cases truthy status <;> simp

theorem satisfies_namedRow {first : CodePoint} {query hostname : PyStr} :
    satisfies direction status (some (first :: query)) (namedRow direction status hostname) =
      occursIn (first :: query) hostname := by
  obtain ⟨byDirection, byStatus⟩ := filters_namedRow direction status hostname
  have nowhere : occursIn (first :: query) [] = false := by simp [occursIn, asciiLower]
  rw [satisfies, byDirection, byStatus]
  simp [namedRow, nowhere]

/-- A store of one row is listed exactly only if the clauses treat the row as they should. -/
theorem admitted_eq_of_lists (sorts : OrdersByStart order) {row : TransferRow} {limit : Int}
    (exact_ : ListsExactly order [row] direction status search limit) :
    admitted direction status search row = satisfies direction status search row := by
  obtain ⟨listed, returned, recent⟩ := exact_
  rw [listTransfers_eq] at returned
  split at returned
  · have counted := recent.counted
    cases returned
    rw [List.length_map, List.length_take, (sorts.permutes _).length_eq, List.filter_singleton,
      List.filter_singleton, List.length_map] at counted
    have positive : 1 ≤ (max 1 (min limit 5000)).toNat := by omega
    cases listed : admitted direction status search row <;>
      cases wanted : satisfies direction status search row <;>
        simp only [listed, wanted, cond_true, cond_false, List.length_nil, List.length_singleton,
          Nat.min_zero, Nat.min_eq_right positive, one_ne_zero, zero_ne_one] at counted ⊢
  · cases returned

theorem namedRow_readAsWritten {hostname : PyStr} (written : ReadAsWritten hostname) :
    (namedRow direction status hostname).ReadAsWritten where
  hostname := by
    intro name same
    cases same
    exact written
  ip := List.forall_mem_nil _
  transferId := List.forall_mem_nil _

/-- Where the row that the pattern matches is listed rightly, the query is plain. -/
theorem plain_of_lists_wildName (sorts : OrdersByStart order) {query : PyStr} {limit : Int}
    (short : query.length ≤ 128)
    (exact_ : ListsExactly order [namedRow direction status (wildName query)] direction status
      (some query) limit) :
    ReadAsWritten query ∧ chr '%' ∉ query ∧ chr '_' ∉ query := by
  have same := admitted_eq_of_lists sorts exact_
  cases query with
  | nil => exact ⟨List.forall_mem_nil _, List.not_mem_nil, List.not_mem_nil⟩
  | cons first query =>
      obtain ⟨byDirection, byStatus⟩ := filters_namedRow direction status (wildName (first :: query))
      have named := sqlLike_wildName short
      rw [satisfies_namedRow, admitted, byDirection, byStatus] at same
      apply plain_of_occursIn_wildName
      rw [← same]
      simp [truthy, matchesSearch, namedRow, named]

/-- A plain query is not found behind a NUL. -/
theorem sqlLike_behind_nul {first : CodePoint} {query : PyStr}
    (plain : PlainSearch direction status (some (first :: query)))
    (short : (first :: query).length ≤ 128) :
    sqlLike (searchPattern (first :: query)) (codePoint 0 :: first :: query) = false := by
  obtain ⟨_, written, noRun, noOne⟩ := plain.search _ rfl
  rw [Bool.eq_false_iff]
  intro matched
  obtain ⟨part, occurs, fits⟩ := (sqlLike_searchPattern short written).mp matched
  have nothing : likeText (codePoint 0 :: first :: query) = [] := rfl
  rw [map_likeItem_of_plain noRun noOne, fits_exactly] at fits
  rw [nothing, List.infix_nil] at occurs
  rw [occurs] at fits
  cases fits

/-- Where the row that hides the query behind a NUL is listed rightly, there is no query. -/
theorem unsearched_of_lists_hidden (sorts : OrdersByStart order) {limit : Int}
    (plain : PlainSearch direction status search)
    (short : ∀ query, search = some query → query.length ≤ 128)
    (exact_ : ∀ hostname, ListsExactly order [namedRow direction status hostname] direction status
      search limit) : truthy search = none := by
  cases search with
  | none => rfl
  | some query =>
      cases query with
      | nil => rfl
      | cons first query =>
          have hidden := sqlLike_behind_nul plain (short _ rfl)
          have nowhere : sqlLike (searchPattern (first :: query)) [] = false := hidden
          have there : occursIn (first :: query) (codePoint 0 :: first :: query) = true := by
            rw [occursIn, decide_eq_true_eq]
            exact List.infix_cons (List.infix_refl _)
          have same := admitted_eq_of_lists sorts (exact_ (codePoint 0 :: first :: query))
          rw [satisfies_namedRow, there, admitted] at same
          simp [truthy, matchesSearch, namedRow, hidden, nowhere] at same

end Listing

/-- SQLite takes the filters, and there is no query. -/
structure Unsearched (direction status search : Option PyStr) : Prop
    extends BindableFilters direction status where
  search : truthy search = none

/-- The search lists exactly the rows the query occurs in, whatever texts are
stored that `LIKE` reads as written, when and only when SQLite takes the
parameters and the query is read as written and has no wildcard. Over stores with
any texts it does so when and only when there is no query. -/
theorem search_exact_iff {order : List TransferRow → List TransferRow}
    (sorts : OrdersByStart order) (direction status search : Option PyStr)
    (short : ∀ query, search = some query → query.length ≤ 128) (limit : Int) :
    ((∀ rows : List TransferRow, (∀ row ∈ rows, row.ReadAsWritten) →
        ListsExactly order rows direction status search limit) ↔
      PlainSearch direction status search) ∧
    ((∀ rows, ListsExactly order rows direction status search limit) ↔
      Unsearched direction status search) := by
  have plainOf (always : ∀ rows : List TransferRow, (∀ row ∈ rows, row.ReadAsWritten) →
      ListsExactly order rows direction status search limit) :
      PlainSearch direction status search := by
    have taken : takesParams direction status search = true := by
      obtain ⟨listed, returned, _⟩ := always [] (List.forall_mem_nil _)
      rw [listTransfers_eq] at returned
      split at returned
      · next taken => exact taken
      · cases returned
    obtain ⟨byDirection, byStatus, bySearch⟩ := (takesParams_iff short).mp taken
    refine ⟨⟨byDirection, byStatus⟩, ?_⟩
    intro query given
    subst given
    have written := readAsWritten_wildName query
    refine ⟨bySearch query rfl, plain_of_lists_wildName sorts (short query rfl) (always _ ?_)⟩
    exact List.forall_mem_singleton.mpr (namedRow_readAsWritten written)
  have listsOf {rows : List TransferRow} (plain : PlainSearch direction status search)
      (same : ∀ row ∈ rows, admitted direction status search row =
        satisfies direction status search row) :
      ListsExactly order rows direction status search limit := by
    have taken : takesParams direction status search = true :=
      (takesParams_iff short).mpr
        ⟨plain.direction, plain.status, fun query given => (plain.search query given).1⟩
    refine ⟨_, (listTransfers_eq rows limit).trans (if_pos taken), ?_⟩
    rw [List.filter_congr same]
    exact mostRecent_take sorts _ _
  constructor
  · constructor
    · exact plainOf
    · intro plain rows stored
      exact listsOf plain fun row member => admitted_eq_satisfies (stored row member) short plain
  · constructor
    · intro always
      have plain := plainOf fun rows _ => always rows
      exact ⟨plain.toBindableFilters,
        unsearched_of_lists_hidden sorts plain short fun hostname => always _⟩
    · intro unsearched rows
      refine listsOf ⟨unsearched.toBindableFilters, ?_⟩ ?_
      · intro query given
        subst given
        cases query with
        | nil => exact ⟨rfl, List.forall_mem_nil _, List.not_mem_nil, List.not_mem_nil⟩
        | cons first query => cases unsearched.search
      · intro row _
        rw [admitted_of_unsearched unsearched.search]

def latestFirst (rows : List TransferRow) : List TransferRow :=
  rows.insertionSort fun first second => second.startedAt ≤ first.startedAt

theorem latestFirst_orders : OrdersByStart latestFirst := by
  let below : TransferRow → TransferRow → Prop := fun first second =>
    second.startedAt ≤ first.startedAt
  have isTotal : Std.Total below := ⟨fun first second => le_total second.startedAt first.startedAt⟩
  have isTrans : IsTrans TransferRow below := ⟨fun _ _ _ before after => le_trans after before⟩
  constructor
  · intro rows
    exact List.perm_insertionSort below rows
  · intro rows
    exact List.pairwise_insertionSort below rows

theorem readAsWritten_of_ascii {text : PyStr}
    (ascii : text.all (fun point => decide (0 < point.val ∧ point.val < 0x80)) = true) :
    ReadAsWritten text := by
  intro point member
  have bounds := of_decide_eq_true (List.all_eq_true.mp ascii point member)
  omega

theorem peer_plain : PlainSearch none none (some (py "peer")) where
  direction := by
    intro wanted given
    cases given
  status := by
    intro wanted given
    cases given
  search := by
    intro query given
    cases given
    exact ⟨by decide, readAsWritten_of_ascii (by decide), by decide, by decide⟩

/-- The query `peer` lists every store of texts read as written exactly, but not every store. -/
theorem peer_search_exact : OrdersByStart latestFirst ∧
    (∀ rows : List TransferRow, (∀ row ∈ rows, row.ReadAsWritten) →
      ListsExactly latestFirst rows none none (some (py "peer")) 500) ∧
    ∃ rows, ¬ ListsExactly latestFirst rows none none (some (py "peer")) 500 := by
  have short : ∀ query, some (py "peer") = some query → query.length ≤ 128 := by
    intro query given
    cases given
    decide
  obtain ⟨written, any⟩ := search_exact_iff latestFirst_orders none none _ short 500
  refine ⟨latestFirst_orders, written.mpr peer_plain, ?_⟩
  by_contra always
  rw [not_exists_not] at always
  cases (any.mp always).search

def laptopRow : TransferRow where
  transferId := py "0123456789abcdef0123456789abcdef"
  peerDeviceId := none
  peerIp := py "10.0.0.2"
  peerHostname := some (py "laptop")
  direction := py "send"
  status := py "complete"
  message := none
  fileCount := 1
  totalSize := 1
  bytesTransferred := 1
  startedAt := 0
  completedAt := none
  error := none
  resumed := some 0
  resumeOffset := some 0

/-- An underscore is in none of its texts, and the search lists it. -/
theorem underscore_lists_laptop :
    listTransfers latestFirst [laptopRow] none none (some (py "_")) 500 = .ok [laptopRow] ∧
    satisfies none none (some (py "_")) laptopRow = false ∧
    ¬ ListsExactly latestFirst [laptopRow] none none (some (py "_")) 500 := by
  have returned : listTransfers latestFirst [laptopRow] none none (some (py "_")) 500 =
      .ok [laptopRow] := by decide +kernel
  have foreign : satisfies none none (some (py "_")) laptopRow = false := by decide +kernel
  refine ⟨returned, foreign, ?_⟩
  intro exact_
  obtain ⟨listed, again, recent⟩ := exact_
  cases returned.symm.trans again
  have counted := recent.counted
  rw [List.filter_singleton, foreign] at counted
  simp at counted

end DirectTransfer
