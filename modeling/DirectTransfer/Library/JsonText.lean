import DirectTransfer.Library.JsonProperties

/-! Lengths of serialized values, and what a decoder that inverts the
serializer makes of a string: a surrogate pair comes back as one character. -/

set_option autoImplicit false

namespace DirectTransfer.Library

/-! ## Lengths -/

/-- Characters written for one character of a string. -/
def escapedLength (point : CodePoint) : Nat :=
  if 0x10000 ≤ point.val then 12
  else if point.val ∈ [0x22, 0x5C, 0x0A, 0x0D, 0x09, 0x08, 0x0C] then 2
  else if 0x20 ≤ point.val ∧ point.val ≤ 0x7E then 1
  else 6

def quotedLength (text : PyStr) : Nat := 2 + (text.map escapedLength).sum

def decimalLength (value : Nat) : Nat := (natText value).length

theorem shortEscapes_isSome (unit : Nat) :
    (findEntry unit shortEscapes).isSome =
      decide (unit ∈ [0x22, 0x5C, 0x0A, 0x0D, 0x09, 0x08, 0x0C]) := by
  rw [Bool.eq_iff_iff, decide_eq_true_iff, Option.isSome_iff_ne_none, ne_eq, findEntry_eq_none_iff,
    not_not]
  rfl

theorem escapeUnit_length (unit : Nat) :
    (escapeUnit unit).length =
      if unit ∈ [0x22, 0x5C, 0x0A, 0x0D, 0x09, 0x08, 0x0C] then 2
      else if 0x20 ≤ unit ∧ unit ≤ 0x7E then 1 else 6 := by
  have short := shortEscapes_isSome unit
  unfold escapeUnit
  cases found : findEntry unit shortEscapes with
  | some letter =>
      rw [found, Option.isSome_some, eq_comm, decide_eq_true_iff] at short
      rw [if_pos short]
      rfl
  | none =>
      rw [found, Option.isSome_none, eq_comm, decide_eq_false_iff_not] at short
      rw [if_neg short]
      by_cases plain : 0x20 ≤ unit ∧ unit ≤ 0x7E <;> simp [plain, hex4]

theorem surrogate_length {unit : Nat} (range : 0xD800 ≤ unit) : (escapeUnit unit).length = 6 := by
  rw [escapeUnit_length, if_neg, if_neg (by omega)]
  simp only [List.mem_cons, List.not_mem_nil, or_false]
  omega

theorem escapedLength_eq (point : CodePoint) :
    ((utf16 point).flatMap escapeUnit).length = escapedLength point := by
  unfold utf16 escapedLength
  by_cases basic : point.val < 0x10000
  · rw [if_pos basic, if_neg (by omega : ¬ 0x10000 ≤ point.val)]
    simp [escapeUnit_length]
  · rw [if_neg basic, if_pos (by omega : 0x10000 ≤ point.val)]
    simp [surrogate_length (by omega : 0xD800 ≤ 0xD800 + (point.val - 0x10000) / 0x400),
      surrogate_length (by omega : 0xD800 ≤ 0xDC00 + (point.val - 0x10000) % 0x400)]

theorem quote_length (text : PyStr) : (quote text).length = quotedLength text := by
  have body : ((text.flatMap utf16).flatMap escapeUnit).length = (text.map escapedLength).sum := by
    rw [List.flatMap_assoc, List.length_flatMap]
    exact congrArg List.sum (List.map_congr_left fun point _ => escapedLength_eq point)
  simp [quote, quotedLength, body]
  omega

/-- A string is written with at least one character for each of its own. -/
theorem length_le_quotedLength (text : PyStr) : text.length ≤ quotedLength text := by
  have each : ∀ text : PyStr, text.length ≤ (text.map escapedLength).sum := by
    intro text
    induction text with
    | nil => simp
    | cons point rest ih =>
        have one : 1 ≤ escapedLength point := by unfold escapedLength; split_ifs <;> omega
        simp only [List.length_cons, List.map_cons, List.sum_cons]
        omega
  have := each text
  unfold quotedLength
  omega

/-- Plain characters are written as themselves. -/
theorem quotedLength_of_plain {text : PyStr}
    (plain : ∀ point ∈ text, point.val ∈ Set.Icc 0x20 0x7E ∧ point.val ≠ 0x22 ∧ point.val ≠ 0x5C) :
    quotedLength text = text.length + 2 := by
  have one : ∀ point ∈ text, escapedLength point = 1 := by
    intro point member
    obtain ⟨⟨low, high⟩, notQuote, notBackslash⟩ := plain point member
    unfold escapedLength
    rw [if_neg (by omega), if_neg, if_pos ⟨low, high⟩]
    simp only [List.mem_cons, List.not_mem_nil, or_false]
    omega
  rw [quotedLength, List.map_congr_left one]
  simp
  omega

theorem decimalLength_pos (value : Nat) : 0 < decimalLength value := by
  obtain ⟨first, rest, text⟩ := natText_cons value
  simp [decimalLength, text]

theorem decimalLength_mono {left right : Nat} (below : left ≤ right) :
    decimalLength left ≤ decimalLength right := by
  by_cases zero : left = 0
  · have := decimalLength_pos right
    subst zero
    simpa [decimalLength, natText, Nat.one_le_iff_ne_zero, Nat.pos_iff_ne_zero] using this
  · have positive : right ≠ 0 := by omega
    simpa [decimalLength, natText, zero, positive] using Nat.le_length_digits_le 10 left right below

theorem decimalLength_le {value digits : Nat} (positive : 0 < digits)
    (below : value < 10 ^ digits) : decimalLength value ≤ digits := by
  by_cases zero : value = 0
  · simp only [decimalLength, natText, zero, ↓reduceIte, List.length_singleton]
    omega
  · simp only [decimalLength, natText, zero, ↓reduceIte, List.length_map, List.length_reverse]
    exact (Nat.digits_length_le_iff (by omega) value).mpr below

namespace Json

variable (floats : FloatRepr)

@[simp] theorem dumps_str_length (text : PyStr) :
    (dumps floats (.str text)).length = quotedLength text := by
  rw [dumps, quote_length]

@[simp] theorem dumps_nat_length (value : Nat) :
    (dumps floats (.int value)).length = decimalLength value := by
  rw [dumps]; rfl

theorem dumpsItems_length (items : List Json) :
    (dumpsItems floats items).length =
      (items.map fun item => 1 + (dumps floats item).length).sum := by
  induction items with
  | nil => rfl
  | cons item rest ih => simp [dumpsItems, ih]; omega

/-- Two brackets, the items, and a comma between any two of them. -/
theorem dumps_arr_length (items : List Json) :
    (dumps floats (.arr items)).length =
      2 + (items.map fun item => (dumps floats item).length).sum + (items.length - 1) := by
  cases items with
  | nil => rfl
  | cons first rest =>
      have commas : ((rest.map fun item => 1 + (dumps floats item).length)).sum =
          (rest.map fun item => (dumps floats item).length).sum + rest.length := by
        rw [List.sum_map_add]
        simp
        omega
      simp [dumps, dumpsItems_length, commas]
      omega

theorem dumpsFields_length (fields : List (PyStr × Json)) :
    (dumpsFields floats fields).length =
      (fields.map fun field => 2 + quotedLength field.1 + (dumps floats field.2).length).sum := by
  induction fields with
  | nil => rfl
  | cons field rest ih =>
      obtain ⟨key, value⟩ := field
      simp [dumpsFields, ih, quote_length]
      omega

/-- Two braces, a colon in each field, and a comma between any two of them. -/
theorem dumps_obj_length (key : PyStr) (value : Json) (rest : List (PyStr × Json)) :
    (dumps floats (.obj ((key, value) :: rest))).length =
      3 + quotedLength key + (dumps floats value).length +
        (rest.map fun field => 2 + quotedLength field.1 + (dumps floats field.2).length).sum := by
  simp [dumps, dumpsFields_length, quote_length]
  omega

/-- The order of the keys does not change the length. -/
theorem dumps_obj_perm_length {left right : List (PyStr × Json)} (perm : left.Perm right) :
    (dumps floats (.obj left)).length = (dumps floats (.obj right)).length := by
  have total := (perm.map fun field =>
    2 + quotedLength field.1 + (dumps floats field.2).length).sum_eq
  cases left with
  | nil => rw [List.nil_perm.mp perm]
  | cons first rest =>
      cases right with
      | nil => cases List.perm_nil.mp perm
      | cons other others =>
          rw [dumps_obj_length, dumps_obj_length]
          simp only [List.map_cons, List.sum_cons] at total
          omega

mutual

theorem dumps_sortKeys_length : ∀ value : Json,
    (dumps floats (sortKeys value)).length = (dumps floats value).length
  | .arr items => by
      rw [sortKeys, dumps_arr_length, dumps_arr_length, dumps_sortKeysItems_length items,
        length_sortKeysItems]
  | .obj fields => by
      have sorted := List.perm_insertionSort
        (fun left right : PyStr × Json => textLe left.1 right.1 = true) (sortKeysFields fields)
      rw [sortKeys, dumps_obj_perm_length floats sorted]
      cases fields with
      | nil => rfl
      | cons field rest =>
          have total := dumps_sortKeysFields_length (field :: rest)
          simp only [sortKeysFields, List.map_cons, List.sum_cons] at total
          rw [sortKeysFields, dumps_obj_length, dumps_obj_length]
          omega
  | .null | .bool _ | .int _ | .float _ | .str _ => rfl

theorem dumps_sortKeysItems_length : ∀ items : List Json,
    ((sortKeysItems items).map fun item => (dumps floats item).length).sum =
      (items.map fun item => (dumps floats item).length).sum
  | [] => rfl
  | item :: rest => by
      simp only [sortKeysItems, List.map_cons, List.sum_cons, dumps_sortKeys_length item,
        dumps_sortKeysItems_length rest]

theorem length_sortKeysItems : ∀ items : List Json, (sortKeysItems items).length = items.length
  | [] => rfl
  | item :: rest => by rw [sortKeysItems, List.length_cons, List.length_cons, length_sortKeysItems rest]

theorem dumps_sortKeysFields_length : ∀ fields : List (PyStr × Json),
    ((sortKeysFields fields).map fun field =>
      2 + quotedLength field.1 + (dumps floats field.2).length).sum =
      (fields.map fun field => 2 + quotedLength field.1 + (dumps floats field.2).length).sum
  | [] => rfl
  | (key, value) :: rest => by
      simp only [sortKeysFields, List.map_cons, List.sum_cons, dumps_sortKeys_length value,
        dumps_sortKeysFields_length rest]

end

end Json

/-! ## Surrogate pairs -/

/-- The characters a decoder makes of a text: surrogate pairs are joined. -/
def joinPairs : PyStr → PyStr
  | first :: second :: rest =>
      if first.isHighSurrogate = true ∧ second.isLowSurrogate = true then
        codePoint (0x10000 + (first.val - 0xD800) * 0x400 + (second.val - 0xDC00)) ::
          joinPairs rest
      else first :: joinPairs (second :: rest)
  | short => short

theorem joinPairs_of_pairFree {text : PyStr} (free : PairFree text) : joinPairs text = text := by
  fun_induction joinPairs text with
  | case1 first second rest pair => exact absurd pair free.1
  | case2 first second rest _ ih => rw [ih free.2]
  | case3 => rfl

theorem flatMap_utf16_joinPairs (text : PyStr) :
    (joinPairs text).flatMap utf16 = text.flatMap utf16 := by
  fun_induction joinPairs text with
  | case1 first second rest pair ih =>
      obtain ⟨high, low⟩ := pair
      simp only [CodePoint.isHighSurrogate, CodePoint.isLowSurrogate, Bool.and_eq_true,
        decide_eq_true_eq] at high low
      have bounded : 0x10000 + (first.val - 0xD800) * 0x400 + (second.val - 0xDC00) < 0x110000 := by
        omega
      simp only [List.flatMap_cons, ih, utf16, codePoint_val bounded]
      rw [if_neg (by omega), if_pos (by omega), if_pos (by omega)]
      simp only [List.cons_append, List.nil_append, List.cons.injEq, and_true]
      omega
  | case2 first second rest _ ih => simp only [List.flatMap_cons, ih]
  | case3 => rfl

theorem joinPairs_head (point : CodePoint) (rest : PyStr) :
    ∃ head tail, joinPairs (point :: rest) = head :: tail ∧
      (head = point ∨ head.isLowSurrogate = false) := by
  cases rest with
  | nil => exact ⟨point, [], rfl, .inl rfl⟩
  | cons second rest =>
      by_cases pair : point.isHighSurrogate = true ∧ second.isLowSurrogate = true
      · refine ⟨_, _, by rw [joinPairs, if_pos pair], .inr ?_⟩
        obtain ⟨high, low⟩ := pair
        simp only [CodePoint.isHighSurrogate, CodePoint.isLowSurrogate, Bool.and_eq_true,
          decide_eq_true_eq] at high low
        rw [CodePoint.isLowSurrogate, codePoint_val (by omega)]
        simp
        omega
      · exact ⟨point, _, by rw [joinPairs, if_neg pair], .inl rfl⟩

theorem pairFree_cons {point : CodePoint} {rest : PyStr} (free : PairFree rest)
    (apart : ∀ head tail, rest = head :: tail →
      ¬ (point.isHighSurrogate = true ∧ head.isLowSurrogate = true)) :
    PairFree (point :: rest) := by
  cases rest with
  | nil => trivial
  | cons head tail => exact ⟨apart head tail rfl, free⟩

theorem pairFree_joinPairs (text : PyStr) : PairFree (joinPairs text) := by
  fun_induction joinPairs text with
  | case1 first second rest pair ih =>
      refine pairFree_cons ih fun _ _ _ both => ?_
      obtain ⟨high, low⟩ := pair
      simp only [CodePoint.isHighSurrogate, CodePoint.isLowSurrogate, Bool.and_eq_true,
        decide_eq_true_eq] at high low
      have joined := both.1
      rw [CodePoint.isHighSurrogate, codePoint_val (by omega)] at joined
      simp at joined
      omega
  | case2 first second rest pair ih =>
      refine pairFree_cons ih fun head tail shape both => ?_
      obtain ⟨_, _, actual, kept⟩ := joinPairs_head second rest
      obtain ⟨rfl, rfl⟩ := List.cons.inj (shape.symm.trans actual)
      rcases kept with rfl | plain
      · exact pair both
      · rw [plain] at both
        exact absurd both.2 (by simp)
  | case3 short shape =>
      cases short with
      | nil => trivial
      | cons first rest =>
          cases rest with
          | nil => trivial
          | cons second rest => exact absurd rfl (shape first second rest)

/-- Joining pairs does not change how a string is written. -/
theorem quote_joinPairs (text : PyStr) : quote (joinPairs text) = quote text := by
  rw [quote, quote, flatMap_utf16_joinPairs]

theorem pairFree_of_no_surrogate {text : PyStr} (plain : ∀ point ∈ text, point.isSurrogate = false) :
    PairFree text := by
  induction text with
  | nil => trivial
  | cons point rest ih =>
      refine pairFree_cons (ih fun p member => plain p (by simp [member])) fun _ _ _ both => ?_
      have outside := plain point (by simp)
      have inside := both.1
      simp [CodePoint.isSurrogate, CodePoint.isHighSurrogate] at outside inside
      omega

/-- Literals hold no surrogates. -/
@[simp] theorem pairFree_py (text : String) : PairFree (py text) := by
  refine pairFree_of_no_surrogate fun point member => ?_
  obtain ⟨character, _, rfl⟩ := List.mem_map.mp member
  have scalar : character.toNat < 0xD800 ∨
      (0xDFFF < character.toNat ∧ character.toNat < 0x110000) := character.valid
  have value : (chr character).val = character.toNat := Nat.mod_eq_of_lt (by omega)
  simp only [CodePoint.isSurrogate, value, Bool.and_eq_false_iff, decide_eq_false_iff_not]
  omega

/-- A text that UTF-8 can encode has no surrogates. -/
theorem pairFree_of_utf8Length {text : PyStr} (encodable : (utf8Length text).isSome = true) :
    PairFree text := by
  refine pairFree_of_no_surrogate ?_
  induction text with
  | nil => simp
  | cons point rest ih =>
      simp only [utf8Length] at encodable
      split at encodable
      · cases encodable
      · next plain =>
          simp only [Option.isSome_map] at encodable
          intro other member
          rcases List.mem_cons.mp member with rfl | later
          · simpa using plain
          · exact ih encodable other later

namespace Json

theorem wellFormedItems_iff {items : List Json} :
    WellFormedItems items ↔ ∀ item ∈ items, item.WellFormed := by
  induction items with
  | nil => simp [WellFormedItems]
  | cons item rest ih => simp [WellFormedItems, ih]

end Json

/-! ## A serializer and a decoder that satisfy the laws -/

/-- Floats written as a quotient with the letter `e` between its parts. -/
def quotientText : PyFloat → PyStr
  | .finite value => intText value.num ++ chr 'e' :: natText value.den
  | .negativeZero => py "-0.0"
  | .infinity false => py "Infinity"
  | .infinity true => py "-Infinity"
  | .nan => py "NaN"

theorem quotientText_integer_or_letter (value : PyFloat) :
    ∃ point ∈ quotientText value, point ∉ py "0123456789-" := by
  cases value with
  | finite value => exact ⟨chr 'e', by simp [quotientText], by decide⟩
  | negativeZero => exact ⟨chr '.', by decide, by decide⟩
  | infinity negative => exact ⟨chr 'I', by cases negative <;> decide, by decide⟩
  | nan => exact ⟨chr 'N', by decide, by decide⟩

/-- The quotient parts are read off at the letter between them. -/
theorem finiteText_inj {left right : Rat}
    (same : quotientText (.finite left) = quotientText (.finite right)) : left = right := by
  have letter : chr 'e' ∉ py "0123456789-" := by decide
  have numerators : intText left.num = intText right.num ∧
      natText left.den = natText right.den := by
    have absent : ∀ value : Int, chr 'e' ∉ intText value := fun value member =>
      letter (intText_mem member)
    have shape : intText left.num ++ chr 'e' :: natText left.den =
        intText right.num ++ chr 'e' :: natText right.den := same
    have heads := congrArg (List.takeWhile fun point => point ≠ chr 'e') shape
    have takes : ∀ (value : Int) (rest : PyStr),
        (intText value ++ chr 'e' :: rest).takeWhile (fun point => point ≠ chr 'e') =
          intText value := by
      intro value rest
      rw [List.takeWhile_append_of_pos]
      · simp
      · intro point member
        simp only [ne_eq, decide_not, Bool.not_eq_eq_eq_not, Bool.not_true, decide_eq_false_iff_not]
        rintro rfl
        exact absent value member
    rw [takes, takes] at heads
    rw [heads] at shape
    exact ⟨heads, (List.cons.inj (List.append_cancel_left shape)).2⟩
  exact Rat.ext (intText_inj numerators.1) (natText_inj numerators.2)

theorem letter_mem_quotientText (value : PyFloat) :
    chr 'e' ∈ quotientText value ↔ ∃ number, value = .finite number := by
  cases value with
  | finite value => simp [quotientText]
  | negativeZero => simp only [reduceCtorEq, exists_false, iff_false]; decide
  | infinity negative =>
      simp only [reduceCtorEq, exists_false, iff_false]
      cases negative <;> decide
  | nan => simp only [reduceCtorEq, exists_false, iff_false]; decide

theorem quotientText_inj {left right : PyFloat} (same : quotientText left = quotientText right) :
    left = right := by
  by_cases finite : ∃ number, left = .finite number
  · have other := (letter_mem_quotientText right).mp (same ▸ (letter_mem_quotientText left).mpr finite)
    obtain ⟨leftNumber, rfl⟩ := finite
    obtain ⟨rightNumber, rfl⟩ := other
    rw [finiteText_inj same]
  · have other : ¬ ∃ number, right = .finite number := fun finiteRight =>
      finite ((letter_mem_quotientText left).mp
        (same ▸ (letter_mem_quotientText right).mpr finiteRight))
    revert same
    cases left with
    | finite number => exact absurd ⟨number, rfl⟩ finite
    | negativeZero => cases right with
      | finite number => exact absurd ⟨number, rfl⟩ other
      | negativeZero => exact fun _ => rfl
      | infinity negative => cases negative <;> decide
      | nan => decide
    | infinity leftNegative => cases right with
      | finite number => exact absurd ⟨number, rfl⟩ other
      | negativeZero => cases leftNegative <;> decide
      | infinity negative => cases leftNegative <;> cases negative <;> decide
      | nan => cases leftNegative <;> decide
    | nan => cases right with
      | finite number => exact absurd ⟨number, rfl⟩ other
      | negativeZero => decide
      | infinity negative => cases negative <;> decide
      | nan => exact fun _ => rfl

theorem quotientText_alphabet (value : PyFloat) : ∀ point ∈ quotientText value, point ∈ numberAlphabet := by
  have digits : ∀ point ∈ py "0123456789-", point ∈ numberAlphabet := forall_of_all (by decide)
  have naturals : ∀ point ∈ py "0123456789", point ∈ numberAlphabet := forall_of_all (by decide)
  cases value with
  | finite value =>
      intro point member
      simp only [quotientText, List.mem_append, List.mem_cons] at member
      rcases member with numerator | rfl | denominator
      · exact digits point (intText_mem numerator)
      · decide
      · exact naturals point (natText_mem denominator)
  | negativeZero => exact forall_of_all (by decide)
  | infinity negative => cases negative <;> exact forall_of_all (by decide)
  | nan => exact forall_of_all (by decide)

theorem quotientText_head (value : PyFloat) :
    ∃ first rest, quotientText value = first :: rest ∧ first ∈ py "0123456789-NI" := by
  cases value with
  | finite value =>
      cases text : intText value.num with
      | nil =>
          cases number : value.num with
          | ofNat natural =>
              obtain ⟨first, rest, shape⟩ := natText_cons natural
              rw [number, intText, shape] at text
              cases text
          | negSucc natural =>
              rw [number, intText] at text
              cases text
      | cons first rest =>
          refine ⟨first, rest ++ chr 'e' :: natText value.den, by simp [quotientText, text], ?_⟩
          have wider : ∀ point ∈ py "0123456789-", point ∈ py "0123456789-NI" :=
            forall_of_all (by decide)
          exact wider first (intText_mem (text ▸ List.mem_cons_self))
  | negativeZero => exact ⟨_, _, rfl, by decide⟩
  | infinity negative => cases negative <;> exact ⟨_, _, rfl, by decide⟩
  | nan => exact ⟨_, _, rfl, by decide⟩

/-- One printing of floats that meets the laws. -/
def quotientFloats : FloatRepr where
  text := quotientText
  injective := fun _ _ => quotientText_inj
  alphabet := quotientText_alphabet
  head := quotientText_head
  notInteger := quotientText_integer_or_letter

/-- The well-formed value a text was written from, when there is one. -/
noncomputable def parseText (floats : FloatRepr) (octets : Bytes) : Option Json :=
  open scoped Classical in
  if written : ∃ value : Json, value.WellFormed ∧ encodeAscii (value.dumps floats) = octets then
    some written.choose
  else none

theorem parseText_dumps (floats : FloatRepr) {value : Json} (formed : value.WellFormed) :
    parseText floats (encodeAscii (value.dumps floats)) = some value := by
  have written : ∃ other : Json, other.WellFormed ∧
      encodeAscii (other.dumps floats) = encodeAscii (value.dumps floats) := ⟨value, formed, rfl⟩
  rw [parseText, dif_pos written]
  obtain ⟨otherFormed, same⟩ := written.choose_spec
  exact congrArg some (Json.dumps_inj floats otherFormed formed
    (encodeAscii_inj (Json.ascii_dumps floats _) (Json.ascii_dumps floats _) same))

theorem parseText_wellFormed {floats : FloatRepr} {octets : Bytes} {value : Json}
    (parsed : parseText floats octets = some value) : value.WellFormed := by
  unfold parseText at parsed
  split at parsed
  · next written =>
      cases parsed
      exact written.choose_spec.1
  · cases parsed

end DirectTransfer.Library
