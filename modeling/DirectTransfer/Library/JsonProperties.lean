import DirectTransfer.Library.Json
import Mathlib.Tactic.IntervalCases
import Mathlib.Tactic.Linarith
import Mathlib.Data.Nat.Digits.Lemmas

/-! Serialized JSON is uniquely decodable: a compact ASCII text determines the
value it was written from, and a text written with sorted keys determines the
value up to the order of its fields. -/

set_option autoImplicit false

namespace DirectTransfer.Library

/-! ## Words over an alphabet with delimiters -/

/-- What may follow a value inside a document. -/
def delimiters : PyStr := py ",]\x7d"

def Delimited (text : PyStr) : Prop := ∀ first rest, text = first :: rest → first ∈ delimiters

theorem delimited_nil : Delimited [] := by intro _ _ equal; cases equal

theorem delimited_cons {first : CodePoint} {rest : PyStr} (member : first ∈ delimiters) :
    Delimited (first :: rest) := by
  intro _ _ equal
  cases equal
  exact member

/-- A word without delimiters ends where the first delimiter stands. -/
theorem word_append_inj {left right leftRest rightRest : PyStr}
    (leftWord : ∀ point ∈ left, point ∉ delimiters)
    (rightWord : ∀ point ∈ right, point ∉ delimiters)
    (leftEnd : Delimited leftRest) (rightEnd : Delimited rightRest)
    (same : left ++ leftRest = right ++ rightRest) : left = right ∧ leftRest = rightRest := by
  induction left generalizing right with
  | nil => cases right with
    | nil => exact ⟨rfl, same⟩
    | cons point rest => exact absurd (leftEnd _ _ same) (rightWord point (by simp))
  | cons point rest ih => cases right with
    | nil => exact absurd (rightEnd _ _ same.symm) (leftWord point (by simp))
    | cons other others =>
        simp only [List.cons_append, List.cons.injEq] at same
        obtain ⟨rest, tail⟩ := ih (fun p member => leftWord p (by simp [member]))
          (fun p member => rightWord p (by simp [member])) same.2
        exact ⟨by rw [same.1, rest], tail⟩

/-! ## Numbers -/

theorem digitChar_mem {digit : Nat} (bounded : digit < 10) : digitChar digit ∈ py "0123456789" := by
  interval_cases digit <;> decide

theorem digitChar_inj {left right : Nat} (leftBound : left < 10) (rightBound : right < 10)
    (same : digitChar left = digitChar right) : left = right := by
  have := codePoint_inj (by omega) (by omega) same
  omega

theorem map_digitChar_inj {left right : List Nat} (leftBound : ∀ digit ∈ left, digit < 10)
    (rightBound : ∀ digit ∈ right, digit < 10)
    (same : left.map digitChar = right.map digitChar) : left = right := by
  induction left generalizing right with
  | nil => cases right with
    | nil => rfl
    | cons => simp at same
  | cons head tail ih => cases right with
    | nil => simp at same
    | cons other others =>
        simp only [List.map_cons, List.cons.injEq] at same
        rw [digitChar_inj (leftBound head (by simp)) (rightBound other (by simp)) same.1,
          ih (fun d member => leftBound d (by simp [member]))
            (fun d member => rightBound d (by simp [member])) same.2]

/-- Decimal digits, most significant first; zero has one digit. -/
def decimalDigits (value : Nat) : List Nat :=
  if value = 0 then [0] else (Nat.digits 10 value).reverse

theorem natText_eq (value : Nat) : natText value = (decimalDigits value).map digitChar := by
  unfold natText decimalDigits
  split <;> rfl

theorem decimalDigits_lt {value digit : Nat} (member : digit ∈ decimalDigits value) : digit < 10 := by
  unfold decimalDigits at member
  split at member
  · simp_all
  · exact Nat.digits_lt_base (by omega) (List.mem_reverse.mp member)

theorem decimalDigits_ne_nil (value : Nat) : decimalDigits value ≠ [] := by
  unfold decimalDigits
  split
  · simp
  · next positive => simpa [Nat.digits_eq_nil_iff_eq_zero] using positive

theorem decimalDigits_inj {left right : Nat} (same : decimalDigits left = decimalDigits right) :
    left = right := by
  have value : ∀ number, Nat.ofDigits 10 (decimalDigits number).reverse = number := by
    intro number
    unfold decimalDigits
    split
    · next zero => simp [zero]
    · simp [Nat.ofDigits_digits]
  rw [← value left, ← value right, same]

theorem natText_inj {left right : Nat} (same : natText left = natText right) : left = right := by
  rw [natText_eq, natText_eq] at same
  exact decimalDigits_inj (map_digitChar_inj (fun _ => decimalDigits_lt)
    (fun _ => decimalDigits_lt) same)

theorem natText_mem {value : Nat} {point : CodePoint} (member : point ∈ natText value) :
    point ∈ py "0123456789" := by
  rw [natText_eq, List.mem_map] at member
  obtain ⟨digit, included, rfl⟩ := member
  exact digitChar_mem (decimalDigits_lt included)

theorem natText_cons (value : Nat) : ∃ first rest, natText value = first :: rest := by
  rw [natText_eq]
  cases digits : decimalDigits value with
  | nil => exact absurd digits (decimalDigits_ne_nil value)
  | cons head tail => exact ⟨_, _, rfl⟩

theorem minus_not_digit : chr '-' ∉ py "0123456789" := by decide

theorem intText_inj {left right : Int} (same : intText left = intText right) : left = right := by
  have signed : ∀ value other : Nat, natText value ≠ chr '-' :: natText other := by
    intro value other equal
    exact minus_not_digit (@natText_mem value _ (by rw [equal]; simp))
  cases left with
  | ofNat value => cases right with
    | ofNat other => exact congrArg Int.ofNat (natText_inj same)
    | negSucc other => exact absurd same (signed _ _)
  | negSucc value => cases right with
    | ofNat other => exact absurd same.symm (signed _ _)
    | negSucc other =>
        have equal := natText_inj (List.cons.inj same).2
        exact congrArg Int.negSucc (by omega)

/-- A finite check of every character of a literal. -/
theorem forall_of_all {test : CodePoint → Prop} [DecidablePred test] {text : PyStr}
    (checked : (text.all fun point => decide (test point)) = true) :
    ∀ point ∈ text, test point := fun point member =>
  of_decide_eq_true (List.all_eq_true.mp checked point member)

theorem intText_mem {value : Int} {point : CodePoint} (member : point ∈ intText value) :
    point ∈ py "0123456789-" := by
  have digits : ∀ point ∈ py "0123456789", point ∈ py "0123456789-" := forall_of_all (by decide)
  cases value with
  | ofNat value => exact digits _ (natText_mem member)
  | negSucc value =>
      rcases List.mem_cons.mp member with rfl | later
      · decide
      · exact digits _ (natText_mem later)

theorem numberAlphabet_word : ∀ point ∈ numberAlphabet, point ∉ delimiters :=
  forall_of_all (by decide)

theorem intText_word {value : Int} : ∀ point ∈ intText value, point ∉ delimiters := by
  intro point member
  have alphabet : ∀ point ∈ py "0123456789-", point ∉ delimiters := forall_of_all (by decide)
  exact alphabet point (intText_mem member)

theorem floatText_word (floats : FloatRepr) (value : PyFloat) :
    ∀ point ∈ floats.text value, point ∉ delimiters := fun point member =>
  numberAlphabet_word point (floats.alphabet value point member)

theorem intText_ne_floatText (floats : FloatRepr) (value : Int) (other : PyFloat) :
    intText value ≠ floats.text other := by
  intro same
  obtain ⟨point, member, foreign⟩ := floats.notInteger other
  exact foreign (@intText_mem value _ (by rw [same]; exact member))

/-! ## Strings -/

theorem hexDigit_inj {left right : Nat} (leftBound : left < 16) (rightBound : right < 16)
    (same : hexDigit left = hexDigit right) : left = right := by
  have := codePoint_inj (by split <;> omega) (by split <;> omega) same
  split at this <;> split at this <;> omega

theorem hex4_append_inj {left right : Nat} {leftRest rightRest : PyStr}
    (leftBound : left < 0x10000) (rightBound : right < 0x10000)
    (same : hex4 left ++ leftRest = hex4 right ++ rightRest) :
    left = right ∧ leftRest = rightRest := by
  simp only [hex4, List.cons_append, List.nil_append, List.cons.injEq] at same
  obtain ⟨first, second, third, fourth, rest⟩ := same
  have first := hexDigit_inj (Nat.mod_lt _ (by omega)) (Nat.mod_lt _ (by omega)) first
  have second := hexDigit_inj (Nat.mod_lt _ (by omega)) (Nat.mod_lt _ (by omega)) second
  have third := hexDigit_inj (Nat.mod_lt _ (by omega)) (Nat.mod_lt _ (by omega)) third
  have fourth := hexDigit_inj (Nat.mod_lt _ (by omega)) (Nat.mod_lt _ (by omega)) fourth
  exact ⟨by omega, rest⟩

theorem shortEscapes_inj {left right : Nat} {letter : CodePoint}
    (leftShort : (left, letter) ∈ shortEscapes) (rightShort : (right, letter) ∈ shortEscapes) :
    left = right := by
  have table : ∀ entry ∈ shortEscapes, ∀ other ∈ shortEscapes,
      entry.2 = other.2 → entry.1 = other.1 := by decide
  exact table _ leftShort _ rightShort rfl

theorem shortEscapes_letter {unit : Nat} {letter : CodePoint}
    (short : (unit, letter) ∈ shortEscapes) : letter ≠ chr 'u' := by
  have table : ∀ entry ∈ shortEscapes, entry.2 ≠ chr 'u' := by decide
  exact table _ short

/-- The three shapes of an escaped code unit. -/
theorem escapeUnit_cases (unit : Nat) :
    (∃ letter, (unit, letter) ∈ shortEscapes ∧ escapeUnit unit = [chr '\\', letter]) ∨
    (0x20 ≤ unit ∧ unit ≤ 0x7E ∧ unit ≠ 0x5C ∧ unit ≠ 0x22 ∧
      escapeUnit unit = [codePoint unit]) ∨
    escapeUnit unit = chr '\\' :: chr 'u' :: hex4 unit := by
  unfold escapeUnit
  cases short : findEntry unit shortEscapes with
  | some letter => exact .inl ⟨letter, findEntry_mem short, rfl⟩
  | none =>
      right
      by_cases plain : 0x20 ≤ unit ∧ unit ≤ 0x7E
      · left
        have missing := findEntry_eq_none_iff.mp short
        refine ⟨plain.1, plain.2, ?_, ?_, by simp [plain]⟩
        · rintro rfl; exact missing (by decide)
        · rintro rfl; exact missing (by decide)
      · right
        simp [plain]

theorem plain_ne_backslash {unit : Nat} (bounded : unit ≤ 0x7E) (different : unit ≠ 0x5C) :
    codePoint unit ≠ chr '\\' := fun same =>
  different (codePoint_inj (by omega) (by omega) (same.trans (by decide : chr '\\' = codePoint 0x5C)))

theorem escapeUnit_append_inj {left right : Nat} {leftRest rightRest : PyStr}
    (leftBound : left < 0x10000) (rightBound : right < 0x10000)
    (same : escapeUnit left ++ leftRest = escapeUnit right ++ rightRest) :
    left = right ∧ leftRest = rightRest := by
  rcases escapeUnit_cases left with ⟨letter, short, text⟩ | ⟨_, high, notSlash, _, text⟩ | text <;>
    rcases escapeUnit_cases right with
      ⟨letter', short', text'⟩ | ⟨_, high', notSlash', _, text'⟩ | text' <;>
    simp only [text, text', List.cons_append, List.nil_append, List.cons.injEq] at same
  · obtain ⟨-, rfl, rest⟩ := same
    exact ⟨shortEscapes_inj short short', rest⟩
  · exact absurd same.1.symm (plain_ne_backslash high' notSlash')
  · exact absurd same.2.1 (shortEscapes_letter short)
  · exact absurd same.1 (plain_ne_backslash high notSlash)
  · exact ⟨codePoint_inj (by omega) (by omega) same.1, same.2⟩
  · exact absurd same.1 (plain_ne_backslash high notSlash)
  · exact absurd same.2.1.symm (shortEscapes_letter short')
  · exact absurd same.1.symm (plain_ne_backslash high' notSlash')
  · exact hex4_append_inj leftBound rightBound same.2.2

theorem escapeUnit_ne_quote (unit : Nat) (rest others : PyStr) :
    escapeUnit unit ++ rest ≠ chr '"' :: others := by
  intro same
  rcases escapeUnit_cases unit with ⟨letter, _, text⟩ | ⟨_, high, _, notQuote, text⟩ | text <;>
    simp only [text, List.cons_append, List.cons.injEq] at same
  · exact absurd same.1 (by decide)
  · exact notQuote (codePoint_inj (by omega) (by omega)
      (same.1.trans (by decide : chr '"' = codePoint 0x22)))
  · exact absurd same.1 (by decide)

theorem escape_append_inj {left right : List Nat} {leftRest rightRest : PyStr}
    (leftBound : ∀ unit ∈ left, unit < 0x10000) (rightBound : ∀ unit ∈ right, unit < 0x10000)
    (same : left.flatMap escapeUnit ++ chr '"' :: leftRest =
      right.flatMap escapeUnit ++ chr '"' :: rightRest) :
    left = right ∧ leftRest = rightRest := by
  induction left generalizing right with
  | nil => cases right with
    | nil => exact ⟨rfl, by simpa using same⟩
    | cons unit rest =>
        rw [List.flatMap_cons, List.append_assoc] at same
        exact absurd same.symm (escapeUnit_ne_quote _ _ _)
  | cons unit rest ih => cases right with
    | nil =>
        rw [List.flatMap_cons, List.append_assoc] at same
        exact absurd same (escapeUnit_ne_quote _ _ _)
    | cons other others =>
        rw [List.flatMap_cons, List.flatMap_cons, List.append_assoc, List.append_assoc] at same
        obtain ⟨rfl, tails⟩ := escapeUnit_append_inj (leftBound unit (by simp))
          (rightBound other (by simp)) same
        obtain ⟨rfl, remaining⟩ := ih (fun u member => leftBound u (by simp [member]))
          (fun u member => rightBound u (by simp [member])) tails
        exact ⟨rfl, remaining⟩

theorem utf16_lt {point : CodePoint} {unit : Nat} (member : unit ∈ utf16 point) :
    unit < 0x10000 := by
  have bounded := point.isLt
  unfold utf16 at member
  split at member
  · next basic => rwa [List.mem_singleton.mp member]
  · have split := List.mem_pair.mp member
    omega

theorem PairFree.tail {first : CodePoint} {rest : PyStr} (free : PairFree (first :: rest)) :
    PairFree rest := by
  cases rest with
  | nil => trivial
  | cons => exact free.2

/-- Units that spell a surrogate pair come from one character only. -/
theorem pair_not_split {point : CodePoint} {rest : PyStr} {high low : Nat} {units : List Nat}
    (free : PairFree (point :: rest)) (small : point.val = high)
    (highRange : 0xD800 ≤ high ∧ high < 0xDC00) (lowRange : 0xDC00 ≤ low ∧ low < 0xE000)
    (same : rest.flatMap utf16 = low :: units) : False := by
  cases rest with
  | nil => simp at same
  | cons next others =>
      rw [List.flatMap_cons] at same
      by_cases basic : next.val < 0x10000
      · simp only [utf16, basic, ↓reduceIte, List.cons_append, List.nil_append,
          List.cons.injEq] at same
        refine free.1 ⟨?_, ?_⟩
        · simp [CodePoint.isHighSurrogate]; omega
        · simp [CodePoint.isLowSurrogate]; omega
      · have bounded := next.isLt
        simp only [utf16, basic, ↓reduceIte, List.cons_append, List.nil_append,
          List.cons.injEq] at same
        omega

theorem utf16_inj {left right : PyStr} (leftFree : PairFree left) (rightFree : PairFree right)
    (same : left.flatMap utf16 = right.flatMap utf16) : left = right := by
  induction left generalizing right with
  | nil => cases right with
    | nil => rfl
    | cons point rest =>
        rw [List.flatMap_cons] at same
        unfold utf16 at same
        split at same <;> simp at same
  | cons point rest ih => cases right with
    | nil =>
        rw [List.flatMap_cons] at same
        unfold utf16 at same
        split at same <;> simp at same
    | cons other others =>
        have pointBound := point.isLt
        have otherBound := other.isLt
        rw [List.flatMap_cons, List.flatMap_cons] at same
        by_cases basic : point.val < 0x10000 <;> by_cases otherBasic : other.val < 0x10000 <;>
          simp only [utf16, basic, otherBasic, ↓reduceIte, List.cons_append, List.nil_append,
            List.cons.injEq] at same
        · rw [Fin.ext same.1, ih leftFree.tail rightFree.tail same.2]
        · exact (pair_not_split leftFree same.1 (by omega) (by omega) same.2).elim
        · exact (pair_not_split rightFree same.1.symm (by omega) (by omega) same.2.symm).elim
        · have equal : point = other := Fin.ext (by omega)
          rw [equal, ih leftFree.tail rightFree.tail same.2.2]

theorem quote_append_inj {left right leftRest rightRest : PyStr}
    (leftFree : PairFree left) (rightFree : PairFree right)
    (same : quote left ++ leftRest = quote right ++ rightRest) :
    left = right ∧ leftRest = rightRest := by
  simp only [quote, List.cons_append, List.append_assoc, List.nil_append, List.cons.injEq,
    true_and] at same
  have bounded : ∀ (text : PyStr), ∀ unit ∈ text.flatMap utf16, unit < 0x10000 := by
    intro text unit member
    obtain ⟨point, _, included⟩ := List.mem_flatMap.mp member
    exact utf16_lt included
  obtain ⟨units, rest⟩ := escape_append_inj (bounded left) (bounded right) same
  exact ⟨utf16_inj leftFree rightFree units, rest⟩

/-! ## Values -/

namespace Json

/-- The kind of value a text starts, read off its first character. -/
def headKind (text : PyStr) : Nat :=
  match text with
  | [] => 0
  | point :: rest =>
      if point = chr 'n' then 1 else if point = chr 't' then 2 else if point = chr 'f' then 3
      else if point = chr '"' then 4
      else if point = chr '[' then (if rest.head? = some (chr ']') then 5 else 6)
      else if point = chr '{' then (if rest.head? = some (chr '}') then 7 else 8)
      else 9

def kind : Json → Nat
  | .null => 1
  | .bool true => 2
  | .bool false => 3
  | .str _ => 4
  | .arr [] => 5
  | .arr (_ :: _) => 6
  | .obj [] => 7
  | .obj (_ :: _) => 8
  | .int _ => 9
  | .float _ => 9

theorem headKind_number {first : CodePoint} {rest : PyStr}
    (member : first ∈ py "0123456789-NI") : headKind (first :: rest) = 9 := by
  have table : ∀ point ∈ py "0123456789-NI", point ≠ chr 'n' ∧ point ≠ chr 't' ∧
      point ≠ chr 'f' ∧ point ≠ chr '"' ∧ point ≠ chr '[' ∧ point ≠ chr '{' :=
    forall_of_all (by decide)
  obtain ⟨h1, h2, h3, h4, h5, h6⟩ := table first member
  simp [headKind, h1, h2, h3, h4, h5, h6]

variable (floats : FloatRepr)

/-- A value never starts like the closing bracket of a list. -/
theorem dumps_head (value : Json) : ∃ first rest, dumps floats value = first :: rest ∧
    first ≠ chr ']' := by
  cases value with
  | null => exact ⟨_, _, rfl, by decide⟩
  | bool value => cases value <;> exact ⟨_, _, rfl, by decide⟩
  | int value =>
      cases value with
      | ofNat value =>
          obtain ⟨first, rest, text⟩ := natText_cons value
          refine ⟨first, rest, by simpa [dumps, intText] using text, ?_⟩
          rintro rfl
          have digit : chr ']' ∈ py "0123456789" := @natText_mem value _ (by rw [text]; simp)
          exact absurd digit (by decide)
      | negSucc value => exact ⟨_, _, rfl, by decide⟩
  | float value =>
      obtain ⟨first, rest, text, member⟩ := floats.head value
      refine ⟨first, rest, by simpa [dumps] using text, ?_⟩
      rintro rfl
      exact absurd member (by decide)
  | str text => exact ⟨_, _, rfl, by decide⟩
  | arr items => cases items <;> exact ⟨_, _, rfl, by decide⟩
  | obj fields =>
      cases fields with
      | nil => exact ⟨_, _, rfl, by decide⟩
      | cons field rest => exact ⟨_, _, rfl, by decide⟩

theorem headKind_dumps (value : Json) (rest : PyStr) :
    headKind (dumps floats value ++ rest) = value.kind := by
  cases value with
  | null => rfl
  | bool value => cases value <;> rfl
  | int value =>
      cases value with
      | ofNat value =>
          obtain ⟨first, tail, text⟩ := natText_cons value
          have digit : first ∈ py "0123456789" := @natText_mem value _ (by rw [text]; simp)
          have alphabet : ∀ point ∈ py "0123456789", point ∈ py "0123456789-NI" :=
            forall_of_all (by decide)
          simp only [dumps, intText, text, List.cons_append, kind]
          exact headKind_number (alphabet first digit)
      | negSucc value => exact headKind_number (by decide)
  | float value =>
      obtain ⟨first, tail, text, member⟩ := floats.head value
      simp only [dumps, text, List.cons_append, kind]
      exact headKind_number member
  | str text => rfl
  | arr items =>
      cases items with
      | nil => rfl
      | cons first tail =>
          obtain ⟨point, others, text, different⟩ := dumps_head floats first
          simp only [dumps, text, List.cons_append, kind]
          simp [headKind, different, show chr '[' ≠ chr 'n' by decide,
            show chr '[' ≠ chr 't' by decide, show chr '[' ≠ chr 'f' by decide,
            show chr '[' ≠ chr '"' by decide]
  | obj fields =>
      cases fields with
      | nil => rfl
      | cons field tail =>
          simp only [dumps, quote, List.cons_append, kind]
          simp [headKind, show chr '{' ≠ chr 'n' by decide, show chr '{' ≠ chr 't' by decide,
            show chr '{' ≠ chr 'f' by decide, show chr '{' ≠ chr '"' by decide,
            show chr '{' ≠ chr '[' by decide, show chr '"' ≠ chr '}' by decide]

theorem dumpsItems_delimited (items : List Json) (rest : PyStr) :
    Delimited (dumpsItems floats items ++ chr ']' :: rest) := by
  cases items with
  | nil => exact delimited_cons (by decide)
  | cons => exact delimited_cons (by decide)

theorem dumpsFields_delimited (fields : List (PyStr × Json)) (rest : PyStr) :
    Delimited (dumpsFields floats fields ++ chr '}' :: rest) := by
  cases fields with
  | nil => exact delimited_cons (by decide)
  | cons => exact delimited_cons (by decide)

theorem number_append_inj {left right : Json} {leftRest rightRest : PyStr}
    (leftKind : left.kind = 9) (rightKind : right.kind = 9)
    (leftEnd : Delimited leftRest) (rightEnd : Delimited rightRest)
    (same : dumps floats left ++ leftRest = dumps floats right ++ rightRest) :
    left = right ∧ leftRest = rightRest := by
  have word : ∀ value : Json, value.kind = 9 →
      ∀ point ∈ dumps floats value, point ∉ delimiters := by
    intro value number
    unfold kind at number
    split at number <;> first | (exfalso; omega) | skip
    · exact intText_word
    · exact floatText_word floats _
  obtain ⟨text, rest⟩ := word_append_inj (word left leftKind) (word right rightKind)
    leftEnd rightEnd same
  refine ⟨?_, rest⟩
  unfold kind at leftKind rightKind
  split at leftKind <;> first | (exfalso; omega) | skip
  · split at rightKind <;> first | (exfalso; omega) | skip
    · exact congrArg Json.int (intText_inj text)
    · exact absurd text (intText_ne_floatText floats _ _)
  · split at rightKind <;> first | (exfalso; omega) | skip
    · exact absurd text.symm (intText_ne_floatText floats _ _)
    · exact congrArg Json.float (floats.injective text)

/-- Each kind but the numbers fixes the outermost constructor. -/
theorem of_kind (value : Json) : match value.kind with
    | 1 => value = .null
    | 2 => value = .bool true
    | 3 => value = .bool false
    | 4 => ∃ text, value = .str text
    | 5 => value = .arr []
    | 6 => ∃ first rest, value = .arr (first :: rest)
    | 7 => value = .obj []
    | 8 => ∃ key first rest, value = .obj ((key, first) :: rest)
    | _ => value.kind = 9 :=
  match value with
  | .null => rfl
  | .bool true => rfl
  | .bool false => rfl
  | .str text => ⟨text, rfl⟩
  | .arr [] => rfl
  | .arr (first :: rest) => ⟨first, rest, rfl⟩
  | .obj [] => rfl
  | .obj ((key, first) :: rest) => ⟨key, first, rest, rfl⟩
  | .int _ => rfl
  | .float _ => rfl

mutual

/-- The text of a value, followed by the end of the document or a delimiter,
determines the value and what follows. -/
theorem dumps_append_inj (left right : Json) (leftRest rightRest : PyStr)
    (leftFormed : left.WellFormed) (rightFormed : right.WellFormed)
    (leftEnd : Delimited leftRest) (rightEnd : Delimited rightRest)
    (same : dumps floats left ++ leftRest = dumps floats right ++ rightRest) :
    left = right ∧ leftRest = rightRest := by
  have kinds : right.kind = left.kind := by
    rw [← headKind_dumps floats left leftRest, same, headKind_dumps]
  have shape := of_kind right
  rw [kinds] at shape
  match left, leftFormed with
  | .null, _ =>
      cases (show right = .null from shape)
      exact ⟨rfl, List.append_cancel_left same⟩
  | .bool true, _ =>
      cases (show right = .bool true from shape)
      exact ⟨rfl, List.append_cancel_left same⟩
  | .bool false, _ =>
      cases (show right = .bool false from shape)
      exact ⟨rfl, List.append_cancel_left same⟩
  | .int _, _ => exact number_append_inj floats rfl kinds leftEnd rightEnd same
  | .float _, _ => exact number_append_inj floats rfl kinds leftEnd rightEnd same
  | .str text, formed =>
      obtain ⟨other, rfl⟩ := show ∃ text, right = .str text from shape
      obtain ⟨rfl, rest⟩ := quote_append_inj formed rightFormed same
      exact ⟨rfl, rest⟩
  | .arr [], _ =>
      cases (show right = .arr [] from shape)
      exact ⟨rfl, List.append_cancel_left same⟩
  | .arr (first :: rest), formed =>
      obtain ⟨other, others, rfl⟩ :=
        show ∃ first rest, right = .arr (first :: rest) from shape
      simp only [dumps, List.cons_append, List.append_assoc, List.nil_append, List.cons.injEq,
        true_and] at same
      obtain ⟨rfl, tails⟩ := dumps_append_inj first other _ _ formed.1 rightFormed.1
        (dumpsItems_delimited floats _ _) (dumpsItems_delimited floats _ _) same
      obtain ⟨rfl, remaining⟩ :=
        dumpsItems_append_inj rest others _ _ formed.2 rightFormed.2 tails
      exact ⟨rfl, remaining⟩
  | .obj [], _ =>
      cases (show right = .obj [] from shape)
      exact ⟨rfl, List.append_cancel_left same⟩
  | .obj ((key, first) :: rest), formed =>
      obtain ⟨name, other, others, rfl⟩ :=
        show ∃ key first rest, right = .obj ((key, first) :: rest) from shape
      simp only [dumps, List.cons_append, List.append_assoc, List.nil_append, List.cons.injEq,
        true_and] at same
      obtain ⟨rfl, values⟩ := quote_append_inj formed.2.1 rightFormed.2.1 same
      obtain ⟨rfl, tails⟩ := dumps_append_inj first other _ _ formed.2.2.1 rightFormed.2.2.1
        (dumpsFields_delimited floats _ _) (dumpsFields_delimited floats _ _)
        (List.cons.inj values).2
      obtain ⟨rfl, remaining⟩ :=
        dumpsFields_append_inj rest others _ _ formed.2.2.2 rightFormed.2.2.2 tails
      exact ⟨rfl, remaining⟩

theorem dumpsItems_append_inj (left right : List Json) (leftRest rightRest : PyStr)
    (leftFormed : WellFormedItems left) (rightFormed : WellFormedItems right)
    (same : dumpsItems floats left ++ chr ']' :: leftRest =
      dumpsItems floats right ++ chr ']' :: rightRest) :
    left = right ∧ leftRest = rightRest := by
  match left, right with
  | [], [] => exact ⟨rfl, (List.cons.inj same).2⟩
  | [], _ :: _ => exact absurd (List.cons.inj same).1 (by decide)
  | _ :: _, [] => exact absurd (List.cons.inj same).1 (by decide)
  | item :: rest, other :: others =>
      simp only [dumpsItems, List.cons_append, List.append_assoc, List.cons.injEq,
        true_and] at same
      obtain ⟨rfl, tails⟩ := dumps_append_inj item other _ _ leftFormed.1 rightFormed.1
        (dumpsItems_delimited floats _ _) (dumpsItems_delimited floats _ _) same
      obtain ⟨rfl, remaining⟩ :=
        dumpsItems_append_inj rest others _ _ leftFormed.2 rightFormed.2 tails
      exact ⟨rfl, remaining⟩

theorem dumpsFields_append_inj (left right : List (PyStr × Json)) (leftRest rightRest : PyStr)
    (leftFormed : WellFormedFields left) (rightFormed : WellFormedFields right)
    (same : dumpsFields floats left ++ chr '}' :: leftRest =
      dumpsFields floats right ++ chr '}' :: rightRest) :
    left = right ∧ leftRest = rightRest := by
  match left, right with
  | [], [] => exact ⟨rfl, (List.cons.inj same).2⟩
  | [], _ :: _ => exact absurd (List.cons.inj same).1 (by decide)
  | _ :: _, [] => exact absurd (List.cons.inj same).1 (by decide)
  | (key, value) :: rest, (name, other) :: others =>
      simp only [dumpsFields, List.cons_append, List.append_assoc, List.cons.injEq,
        true_and] at same
      obtain ⟨rfl, values⟩ := quote_append_inj leftFormed.1 rightFormed.1 same
      obtain ⟨rfl, tails⟩ := dumps_append_inj value other _ _ leftFormed.2.1 rightFormed.2.1
        (dumpsFields_delimited floats _ _) (dumpsFields_delimited floats _ _)
        (List.cons.inj values).2
      obtain ⟨rfl, remaining⟩ :=
        dumpsFields_append_inj rest others _ _ leftFormed.2.2 rightFormed.2.2 tails
      exact ⟨rfl, remaining⟩

end

/-- Distinct well-formed values are written differently. -/
theorem dumps_inj {left right : Json} (leftFormed : left.WellFormed)
    (rightFormed : right.WellFormed) (same : dumps floats left = dumps floats right) :
    left = right :=
  (dumps_append_inj floats left right [] [] leftFormed rightFormed delimited_nil delimited_nil
    (by simpa using same)).1

end Json

/-! ## Sorted keys -/

namespace Json

theorem keys_sortKeysFields (fields : List (PyStr × Json)) :
    (sortKeysFields fields).map Prod.fst = fields.map Prod.fst := by
  induction fields with
  | nil => rfl
  | cons field rest ih => obtain ⟨key, value⟩ := field; simp [sortKeysFields, ih]

theorem findEntry_sortKeysFields (key : PyStr) (fields : List (PyStr × Json)) :
    findEntry key (sortKeysFields fields) = (findEntry key fields).map sortKeys := by
  induction fields with
  | nil => rfl
  | cons field rest ih =>
      obtain ⟨name, value⟩ := field
      by_cases same : name = key
      · simp [sortKeysFields, findEntry, same]
      · simp [sortKeysFields, findEntry, same, ih]

/-- Sorting moves the fields of a dict and leaves what each key maps to. -/
theorem get_sortKeys {payload : Json} (formed : payload.WellFormed) (key : PyStr) :
    (sortKeys payload).get key = (payload.get key).map sortKeys := by
  cases payload with
  | obj fields =>
      simp only [sortKeys, get]
      rw [← findEntry_sortKeysFields]
      refine (findEntry_perm ?_ (List.perm_insertionSort _ _).symm key).symm
      rw [keys_sortKeysFields]
      exact formed.1
  | null | bool | int | float | str | arr => rfl

theorem field_sortKeys {payload : Json} (formed : payload.WellFormed) (key : String) :
    (sortKeys payload).field key = sortKeys (payload.field key) := by
  unfold field
  rw [get_sortKeys formed]
  cases payload.get (py key) with
  | none => rfl
  | some value => rfl

theorem wellFormedFields_iff (fields : List (PyStr × Json)) :
    WellFormedFields fields ↔ ∀ field ∈ fields, PairFree field.1 ∧ field.2.WellFormed := by
  induction fields with
  | nil => simp [WellFormedFields]
  | cons field rest ih =>
      obtain ⟨key, value⟩ := field
      simp [WellFormedFields, ih, and_assoc]

mutual

theorem wellFormed_sortKeys : ∀ value : Json, value.WellFormed → (sortKeys value).WellFormed
  | .arr items, formed => wellFormedItems_sortKeys items formed
  | .obj fields, formed => by
      have sorted := List.perm_insertionSort
        (fun left right : PyStr × Json => textLe left.1 right.1 = true) (sortKeysFields fields)
      refine ⟨?_, ?_⟩
      · rw [(sorted.map Prod.fst).nodup_iff, keys_sortKeysFields]
        exact formed.1
      · rw [wellFormedFields_iff]
        intro field member
        exact (wellFormedFields_iff _).mp (wellFormedFields_sortKeys fields formed.2) field
          (sorted.mem_iff.mp member)
  | .null, _ => trivial
  | .bool _, _ => trivial
  | .int _, _ => trivial
  | .float _, _ => trivial
  | .str _, formed => formed

theorem wellFormedItems_sortKeys : ∀ items : List Json,
    WellFormedItems items → WellFormedItems (sortKeysItems items)
  | [], _ => trivial
  | item :: rest, formed =>
      ⟨wellFormed_sortKeys item formed.1, wellFormedItems_sortKeys rest formed.2⟩

theorem wellFormedFields_sortKeys : ∀ fields : List (PyStr × Json),
    WellFormedFields fields → WellFormedFields (sortKeysFields fields)
  | [], _ => trivial
  | (_, value) :: rest, formed =>
      ⟨formed.1, wellFormed_sortKeys value formed.2.1, wellFormedFields_sortKeys rest formed.2.2⟩

end

end Json

/-! ## ASCII octets -/

def Ascii (text : PyStr) : Prop := ∀ point ∈ text, point.val < 0x80

theorem ascii_append {left right : PyStr} (leftAscii : Ascii left) (rightAscii : Ascii right) :
    Ascii (left ++ right) := fun point member =>
  (List.mem_append.mp member).elim (leftAscii point) (rightAscii point)

theorem ascii_cons {first : CodePoint} {rest : PyStr} (firstAscii : first.val < 0x80)
    (restAscii : Ascii rest) : Ascii (first :: rest) := by
  intro point member
  rcases List.mem_cons.mp member with rfl | later
  · exact firstAscii
  · exact restAscii point later

theorem ascii_natText (value : Nat) : Ascii (natText value) := by
  have digits : ∀ point ∈ py "0123456789", point.val < 0x80 := forall_of_all (by decide)
  exact fun point member => digits point (natText_mem member)

theorem ascii_intText (value : Int) : Ascii (intText value) := by
  have alphabet : ∀ point ∈ py "0123456789-", point.val < 0x80 := forall_of_all (by decide)
  exact fun point member => alphabet point (intText_mem member)

theorem ascii_floatText (floats : FloatRepr) (value : PyFloat) : Ascii (floats.text value) := by
  have alphabet : ∀ point ∈ numberAlphabet, point.val < 0x80 := forall_of_all (by decide)
  exact fun point member => alphabet point (floats.alphabet value point member)

theorem ascii_escapeUnit (unit : Nat) : Ascii (escapeUnit unit) := by
  have digits : ∀ digit, digit < 16 → (hexDigit digit).val < 0x80 := by decide
  rcases escapeUnit_cases unit with ⟨letter, short, text⟩ | ⟨_, high, _, _, text⟩ | text <;> rw [text]
  · have letters : ∀ entry ∈ shortEscapes, entry.2.val < 0x80 := by decide
    exact ascii_cons (by decide) (ascii_cons (letters _ short) (by simp [Ascii]))
  · refine ascii_cons ?_ (by simp [Ascii])
    rw [codePoint_val (by omega)]
    omega
  · refine ascii_cons (by decide) (ascii_cons (by decide) fun point member => ?_)
    simp only [hex4, List.mem_cons, List.not_mem_nil, or_false] at member
    rcases member with rfl | rfl | rfl | rfl <;> exact digits _ (Nat.mod_lt _ (by omega))

theorem ascii_quote (text : PyStr) : Ascii (quote text) := by
  refine ascii_cons (by decide) (ascii_append ?_ (ascii_cons (by decide) (by simp [Ascii])))
  intro point member
  obtain ⟨unit, _, included⟩ := List.mem_flatMap.mp member
  exact ascii_escapeUnit unit point included

namespace Json

variable (floats : FloatRepr)

mutual

theorem ascii_dumps : ∀ value : Json, Ascii (dumps floats value)
  | .null => by unfold dumps; exact forall_of_all (by decide)
  | .bool true => by unfold dumps; exact forall_of_all (by decide)
  | .bool false => by unfold dumps; exact forall_of_all (by decide)
  | .int value => ascii_intText value
  | .float value => ascii_floatText floats value
  | .str text => ascii_quote text
  | .arr [] => by unfold dumps; exact forall_of_all (by decide)
  | .arr (first :: rest) =>
      ascii_cons (by decide) (ascii_append (ascii_dumps first)
        (ascii_append (ascii_dumpsItems rest) (ascii_cons (by decide) (by simp [Ascii]))))
  | .obj [] => by unfold dumps; exact forall_of_all (by decide)
  | .obj ((key, first) :: rest) =>
      ascii_cons (by decide) (ascii_append (ascii_quote key) (ascii_cons (by decide)
        (ascii_append (ascii_dumps first)
          (ascii_append (ascii_dumpsFields rest) (ascii_cons (by decide) (by simp [Ascii]))))))

theorem ascii_dumpsItems : ∀ items : List Json, Ascii (dumpsItems floats items)
  | [] => by simp [Ascii, dumpsItems]
  | item :: rest => ascii_cons (by decide) (ascii_append (ascii_dumps item) (ascii_dumpsItems rest))

theorem ascii_dumpsFields : ∀ fields : List (PyStr × Json), Ascii (dumpsFields floats fields)
  | [] => by simp [Ascii, dumpsFields]
  | (key, value) :: rest =>
      ascii_cons (by decide) (ascii_append (ascii_quote key) (ascii_cons (by decide)
        (ascii_append (ascii_dumps value) (ascii_dumpsFields rest))))

end

/-- The octets written with sorted keys determine what every key maps to. -/
theorem get_of_sorted_octets {left right : Json} (leftFormed : left.WellFormed)
    (rightFormed : right.WellFormed)
    (same : encodeAscii (dumps floats (sortKeys left)) =
      encodeAscii (dumps floats (sortKeys right))) (key : PyStr) :
    (left.get key).map sortKeys = (right.get key).map sortKeys := by
  have texts := encodeAscii_inj (ascii_dumps floats _) (ascii_dumps floats _) same
  have sorted := dumps_inj floats (wellFormed_sortKeys left leftFormed)
    (wellFormed_sortKeys right rightFormed) texts
  rw [← get_sortKeys leftFormed, sorted, get_sortKeys rightFormed]

/-- A value without items or fields of its own. -/
def isScalar : Json → Bool
  | .arr _ | .obj _ => false
  | _ => true

/-- A dict of scalars. -/
def Flat (payload : Json) : Prop := ∀ key value, payload.get key = some value → value.isScalar = true

theorem wellFormed_findEntry {key : PyStr} {value : Json} {fields : List (PyStr × Json)}
    (formed : WellFormedFields fields) (found : findEntry key fields = some value) :
    value.WellFormed :=
  ((wellFormedFields_iff fields).mp formed _ (findEntry_mem found)).2

/-- Setting an entry of an object. -/
theorem wellFormed_putEntry {key : PyStr} {value : Json} {fields : List (PyStr × Json)}
    (formed : (obj fields).WellFormed) (free : PairFree key) (inner : value.WellFormed) :
    (obj (putEntry key value fields)).WellFormed := by
  refine ⟨nodup_keys_putEntry formed.1, ?_⟩
  have entries := formed.2
  clear formed
  induction fields with
  | nil => exact ⟨free, inner, trivial⟩
  | cons field rest ih =>
      obtain ⟨candidate, old⟩ := field
      obtain ⟨first, second, others⟩ := entries
      unfold putEntry
      split
      · exact ⟨first, inner, others⟩
      · exact ⟨first, second, ih others⟩

theorem sortKeys_eq_scalar {left right : Json} (scalar : right.isScalar = true) :
    sortKeys left = sortKeys right ↔ left = right := by
  cases left <;> cases right <;> simp_all [sortKeys, isScalar]

/-- Octets that agree with those of a flat dict come from the same dict. -/
theorem get_eq_of_sorted_octets {left right : Json} (leftFormed : left.WellFormed)
    (rightFormed : right.WellFormed) (flat : right.Flat)
    (same : encodeAscii (dumps floats (sortKeys left)) =
      encodeAscii (dumps floats (sortKeys right))) (key : PyStr) :
    left.get key = right.get key := by
  have sorted := get_of_sorted_octets floats leftFormed rightFormed same key
  cases found : right.get key with
  | none =>
      rw [found, Option.map_none, Option.map_eq_none_iff] at sorted
      exact sorted
  | some value =>
      rw [found, Option.map_some, Option.map_eq_some_iff] at sorted
      obtain ⟨other, foundOther, agree⟩ := sorted
      rw [foundOther, (sortKeys_eq_scalar (flat key value found)).mp agree]

theorem sortKeysFields_eq_map (fields : List (PyStr × Json)) :
    sortKeysFields fields = fields.map fun field => (field.1, sortKeys field.2) := by
  induction fields with
  | nil => rfl
  | cons field rest ih => obtain ⟨key, value⟩ := field; simp [sortKeysFields, ih]

/-- Dicts with the same entries are written alike once their keys are sorted. -/
theorem sortKeys_eq_of_get_eq {left right : List (PyStr × Json)}
    (leftUnique : (left.map Prod.fst).Nodup) (rightUnique : (right.map Prod.fst).Nodup)
    (same : ∀ key, (obj left).get key = (obj right).get key) :
    sortKeys (.obj left) = sortKeys (.obj right) := by
  have permuted : left.Perm right := by
    refine (List.perm_ext_iff_of_nodup leftUnique.of_map rightUnique.of_map).mpr fun entry => ?_
    constructor
    · intro member
      exact findEntry_mem ((same entry.1).symm.trans (findEntry_of_mem leftUnique member))
    · intro member
      exact findEntry_mem ((same entry.1).trans (findEntry_of_mem rightUnique member))
  have sortedPerm := permuted.map fun field : PyStr × Json => (field.1, sortKeys field.2)
  rw [← sortKeysFields_eq_map, ← sortKeysFields_eq_map] at sortedPerm
  let below : PyStr × Json → PyStr × Json → Prop := fun first second =>
    textLe first.1 second.1 = true
  have total : Std.Total below := ⟨fun first second => textLe_total first.1 second.1⟩
  have transitive : IsTrans (PyStr × Json) below := ⟨fun _ _ _ => textLe_trans⟩
  have leftPerm := List.perm_insertionSort below (sortKeysFields left)
  have rightPerm := List.perm_insertionSort below (sortKeysFields right)
  have sorted : (sortKeysFields left).insertionSort below =
      (sortKeysFields right).insertionSort below := by
    refine (leftPerm.trans (sortedPerm.trans rightPerm.symm)).eq_of_pairwise ?_
      (List.pairwise_insertionSort below _) (List.pairwise_insertionSort below _)
    intro first second firstMember secondMember firstBelow secondBelow
    have keys : first.1 = second.1 := textLe_antisymm firstBelow secondBelow
    have unique : ((sortKeysFields right).map Prod.fst).Nodup := by
      rw [keys_sortKeysFields]
      exact rightUnique
    have firstIn := (leftPerm.trans sortedPerm).mem_iff.mp firstMember
    have secondIn := rightPerm.mem_iff.mp secondMember
    have values := (findEntry_of_mem unique firstIn).symm.trans
      (keys ▸ findEntry_of_mem unique secondIn)
    exact Prod.ext keys (Option.some.inj values)
  exact congrArg Json.obj sorted

end Json

end DirectTransfer.Library
