import DirectTransfer.Library.JsonText
import Mathlib.Algebra.Order.BigOperators.Group.List

/-! Octets as text: lower-case hexadecimal digits, and base64 with the standard
alphabet. The decoder accepts a last group whose unused bits are not zero, so
several texts denote the same octets. -/

set_option autoImplicit false

namespace DirectTransfer.Library

/-- Characters that are neither surrogates nor control characters. -/
def Plain (text : PyStr) : Prop := ∀ point ∈ text, 0x20 ≤ point.val ∧ point.val ≤ 0x7E

theorem Plain.quotedLength_le {text : PyStr} (plain : Plain text) :
    quotedLength text ≤ 2 + 2 * text.length := by
  have each : ∀ size ∈ text.map escapedLength, size ≤ 2 := by
    intro size member
    obtain ⟨point, inside, rfl⟩ := List.mem_map.mp member
    have bounds := plain point inside
    unfold escapedLength
    split_ifs <;> omega
  have total : (text.map escapedLength).sum ≤ (text.map escapedLength).length * 2 :=
    List.sum_le_card_nsmul _ _ each
  rw [List.length_map] at total
  unfold quotedLength
  omega

theorem Plain.pairFree {text : PyStr} (plain : Plain text) : PairFree text :=
  pairFree_of_no_surrogate fun point member => by
    have bounds := plain point member
    simp only [CodePoint.isSurrogate, Bool.and_eq_false_iff, decide_eq_false_iff_not]
    omega

theorem Plain.append {left right : PyStr} (first : Plain left) (second : Plain right) :
    Plain (left ++ right) := fun point member =>
  (List.mem_append.mp member).elim (first point) (second point)

theorem Plain.take {text : PyStr} (plain : Plain text) (count : Nat) : Plain (text.take count) :=
  fun point member => plain point (List.mem_of_mem_take member)

/-! ## Hexadecimal -/

/-- `bytes.hex()`. -/
def hexText (octets : Bytes) : PyStr :=
  octets.flatMap fun octet => [hexDigit (octet.toNat / 16), hexDigit (octet.toNat % 16)]

theorem hexText_inj {left right : Bytes} (same : hexText left = hexText right) : left = right := by
  induction left generalizing right with
  | nil => cases right with
    | nil => rfl
    | cons => simp [hexText] at same
  | cons first rest ih => cases right with
    | nil => simp [hexText] at same
    | cons other others =>
        simp only [hexText, List.flatMap_cons, List.cons_append, List.nil_append,
          List.cons.injEq] at same
        obtain ⟨high, low, tails⟩ := same
        have firstBound := first.toNat_lt
        have otherBound := other.toNat_lt
        have highs := hexDigit_inj (by omega) (by omega) high
        have lows := hexDigit_inj (by omega) (by omega) low
        rw [ih tails, UInt8.toNat_inj.mp (show first.toNat = other.toNat by omega)]

theorem hexDigit_plain {digit : Nat} (bounded : digit < 16) :
    0x20 ≤ (hexDigit digit).val ∧ (hexDigit digit).val ≤ 0x7E := by
  unfold hexDigit
  split <;> rw [codePoint_val (by omega)] <;> omega

theorem hexText_length (octets : Bytes) : (hexText octets).length = 2 * octets.length := by
  induction octets with
  | nil => rfl
  | cons octet rest ih =>
      simp only [hexText, List.flatMap_cons, List.length_append, List.length_cons] at ih ⊢
      rw [ih]
      simp only [List.length_nil]
      omega

theorem hexText_plain (octets : Bytes) : Plain (hexText octets) := by
  intro point member
  simp only [hexText, List.mem_flatMap, List.mem_cons, List.not_mem_nil, or_false] at member
  obtain ⟨octet, _, written⟩ := member
  have bound := octet.toNat_lt
  rcases written with rfl | rfl
  · exact hexDigit_plain (by omega)
  · exact hexDigit_plain (by omega)

/-! ## Base64 -/

def b64Alphabet : PyStr :=
  py "ABCDEFGHIJKLMNOPQRSTUVWXYZabcdefghijklmnopqrstuvwxyz0123456789+/"

def b64Letter (value : Nat) : CodePoint := b64Alphabet.getD value (chr '=')

def b64Value (letter : CodePoint) : Option Nat :=
  let value := b64Alphabet.idxOf letter
  if value < 64 then some value else none

theorem b64Value_letter {value : Nat} (bounded : value < 64) :
    b64Value (b64Letter value) = some value := by
  have all : ∀ small : Fin 64, b64Value (b64Letter small) = some small.val := by
    decide +kernel
  exact all ⟨value, bounded⟩

theorem b64Letter_plain (value : Nat) :
    0x20 ≤ (b64Letter value).val ∧ (b64Letter value).val ≤ 0x7E := by
  have all : ∀ point ∈ b64Alphabet, 0x20 ≤ point.val ∧ point.val ≤ 0x7E :=
    forall_of_all (by decide)
  unfold b64Letter
  rw [List.getD_eq_getElem?_getD]
  cases found : b64Alphabet[value]? with
  | none => decide
  | some point => exact all point (List.mem_of_getElem? found)

theorem b64Letter_ne_pad {value : Nat} (bounded : value < 64) : b64Letter value ≠ chr '=' := by
  have all : ∀ small : Fin 64, b64Letter small ≠ chr '=' := by decide +kernel
  exact all ⟨value, bounded⟩

/-- `base64.b64encode`, three octets at a time. -/
def b64encode : Bytes → PyStr
  | [] => []
  | [first] =>
      let number := first.toNat * 0x10000
      [b64Letter (number / 0x40000), b64Letter (number / 0x1000 % 64), chr '=', chr '=']
  | [first, second] =>
      let number := first.toNat * 0x10000 + second.toNat * 0x100
      [b64Letter (number / 0x40000), b64Letter (number / 0x1000 % 64),
        b64Letter (number / 64 % 64), chr '=']
  | first :: second :: third :: rest =>
      let number := first.toNat * 0x10000 + second.toNat * 0x100 + third.toNat
      b64Letter (number / 0x40000) :: b64Letter (number / 0x1000 % 64) ::
        b64Letter (number / 64 % 64) :: b64Letter (number % 64) :: b64encode rest

/-- `base64.b64decode(text, validate=True)`: whole groups of the alphabet, the
last one padded; bits beyond the last octet are dropped. As from Python 3.11 on,
padding anywhere else is refused; 3.10 also takes more padding at the end. -/
def b64decode : PyStr → Option Bytes
  | [] => some []
  | first :: second :: third :: fourth :: rest => do
      let high ← b64Value first
      let low ← b64Value second
      if third = chr '=' ∧ fourth = chr '=' ∧ rest = [] then
        return [UInt8.ofNat (high * 4 + low / 16)]
      let third ← b64Value third
      if fourth = chr '=' ∧ rest = [] then
        return [UInt8.ofNat (high * 4 + low / 16), UInt8.ofNat (low % 16 * 16 + third / 4)]
      let fourth ← b64Value fourth
      return UInt8.ofNat (high * 4 + low / 16) :: UInt8.ofNat (low % 16 * 16 + third / 4) ::
        UInt8.ofNat (third % 4 * 64 + fourth) :: (← b64decode rest)
  | _ => none

theorem octet_ofNat {octet : UInt8} {value : Nat} (same : value = octet.toNat) :
    UInt8.ofNat value = octet := by
  subst same
  exact UInt8.ofNat_toNat

theorem b64decode_b64encode (octets : Bytes) : b64decode (b64encode octets) = some octets := by
  induction octets using b64encode.induct with
  | case1 => rfl
  | case2 first =>
      have bound := first.toNat_lt
      simp only [b64encode, b64decode, and_self, ↓reduceIte]
      rw [b64Value_letter (by omega), b64Value_letter (by omega)]
      simp only [Option.bind_eq_bind, Option.bind_some, Option.pure_def, Option.some.injEq]
      rw [octet_ofNat (show _ = first.toNat by omega)]
  | case3 first second =>
      have firstBound := first.toNat_lt
      have secondBound := second.toNat_lt
      have letter : b64Letter ((first.toNat * 65536 + second.toNat * 256) / 64 % 64) ≠ chr '=' :=
        b64Letter_ne_pad (by omega)
      simp only [b64encode, b64decode, letter, false_and, and_self, ↓reduceIte]
      rw [b64Value_letter (by omega), b64Value_letter (by omega), b64Value_letter (by omega)]
      simp only [Option.bind_eq_bind, Option.bind_some, Option.pure_def, Option.some.injEq]
      rw [octet_ofNat (show _ = first.toNat by omega), octet_ofNat (show _ = second.toNat by omega)]
  | case4 first second third rest ih =>
      have firstBound := first.toNat_lt
      have secondBound := second.toNat_lt
      have thirdBound := third.toNat_lt
      have middle : b64Letter ((first.toNat * 65536 + second.toNat * 256 + third.toNat) / 64 % 64) ≠
          chr '=' := b64Letter_ne_pad (by omega)
      have last : b64Letter ((first.toNat * 65536 + second.toNat * 256 + third.toNat) % 64) ≠
          chr '=' := b64Letter_ne_pad (by omega)
      simp only [b64encode, b64decode, middle, last, false_and, ↓reduceIte]
      rw [b64Value_letter (by omega), b64Value_letter (by omega), b64Value_letter (by omega),
        b64Value_letter (by omega), ih]
      simp only [Option.bind_eq_bind, Option.bind_some, Option.pure_def, Option.some.injEq]
      rw [octet_ofNat (show _ = first.toNat by omega), octet_ofNat (show _ = second.toNat by omega),
        octet_ofNat (show _ = third.toNat by omega)]

theorem b64encode_length (octets : Bytes) :
    (b64encode octets).length = 4 * ((octets.length + 2) / 3) := by
  induction octets using b64encode.induct with
  | case1 | case2 | case3 => simp [b64encode]
  | case4 first second third rest ih =>
      simp only [b64encode, List.length_cons, ih]
      omega

/-- What holds of the letters and of the padding holds of a whole text. -/
theorem b64encode_forall {holds : CodePoint → Prop} (letters : ∀ value, holds (b64Letter value))
    (pad : holds (chr '=')) (octets : Bytes) : ∀ point ∈ b64encode octets, holds point := by
  induction octets using b64encode.induct with
  | case1 => intro point member; cases member
  | case2 | case3 =>
      intro point member
      simp only [b64encode, List.mem_cons, List.not_mem_nil, or_false] at member
      rcases member with rfl | rfl | rfl | rfl <;> first | exact letters _ | exact pad
  | case4 first second third rest ih =>
      intro point member
      simp only [b64encode, List.mem_cons] at member
      rcases member with rfl | rfl | rfl | rfl | later
      · exact letters _
      · exact letters _
      · exact letters _
      · exact letters _
      · exact ih point later

theorem b64encode_plain (octets : Bytes) : Plain (b64encode octets) :=
  b64encode_forall b64Letter_plain (by decide) octets

theorem space_not_mem_b64encode (octets : Bytes) : chr ' ' ∉ b64encode octets := by
  have letters : ∀ value, b64Letter value ≠ chr ' ' := by
    have all : ∀ point ∈ b64Alphabet, point ≠ chr ' ' := forall_of_all (by decide)
    intro value
    unfold b64Letter
    rw [List.getD_eq_getElem?_getD]
    cases found : b64Alphabet[value]? with
    | none => decide
    | some point => exact all point (List.mem_of_getElem? found)
  have inked : ∀ point ∈ b64encode octets, point ≠ chr ' ' :=
    b64encode_forall letters (by decide) octets
  intro member
  exact inked _ member rfl

/-! ## Several texts of the same octets -/

theorem b64Letter_value {letter : CodePoint} {value : Nat} (read : b64Value letter = some value) :
    value < 64 ∧ b64Letter value = letter := by
  unfold b64Value at read
  dsimp only at read
  split at read
  · next small =>
      cases read
      refine ⟨small, ?_⟩
      have inside : b64Alphabet.idxOf letter < b64Alphabet.length := by
        have length : b64Alphabet.length = 64 := by decide
        omega
      rw [b64Letter, List.getD_eq_getElem?_getD, List.getElem?_eq_getElem inside,
        Option.getD_some, List.getElem_idxOf inside]
  · cases read

/-- The texts the decoder accepts, group by group. -/
inductive Base64 : PyStr → Bytes → Prop where
  | empty : Base64 [] []
  | one {first second : CodePoint} {high low : Nat} :
      b64Value first = some high → b64Value second = some low →
      Base64 [first, second, chr '=', chr '='] [UInt8.ofNat (high * 4 + low / 16)]
  | two {first second third : CodePoint} {high middle low : Nat} :
      b64Value first = some high → b64Value second = some middle → b64Value third = some low →
      Base64 [first, second, third, chr '=']
        [UInt8.ofNat (high * 4 + middle / 16), UInt8.ofNat (middle % 16 * 16 + low / 4)]
  | group {first second third fourth : CodePoint} {high middle low last : Nat} {text : PyStr}
      {octets : Bytes} :
      b64Value first = some high → b64Value second = some middle → b64Value third = some low →
      b64Value fourth = some last → Base64 text octets →
      Base64 (first :: second :: third :: fourth :: text)
        (UInt8.ofNat (high * 4 + middle / 16) :: UInt8.ofNat (middle % 16 * 16 + low / 4) ::
          UInt8.ofNat (low % 4 * 64 + last) :: octets)

theorem base64_of_decode {text : PyStr} {octets : Bytes} (decoded : b64decode text = some octets) :
    Base64 text octets := by
  induction text using b64decode.induct generalizing octets with
  | case1 =>
      cases decoded
      exact .empty
  | case2 first second third fourth rest ih =>
      simp only [b64decode, Option.bind_eq_bind, Option.pure_def, Option.bind_eq_some_iff] at decoded
      obtain ⟨high, highRead, middle, middleRead, decoded⟩ := decoded
      split at decoded
      · next padded =>
          obtain ⟨rfl, rfl, rfl⟩ := padded
          cases decoded
          exact .one highRead middleRead
      · simp only [Option.bind_eq_some_iff] at decoded
        obtain ⟨low, lowRead, decoded⟩ := decoded
        split at decoded
        · next padded =>
            obtain ⟨rfl, rfl⟩ := padded
            cases decoded
            exact .two highRead middleRead lowRead
        · simp only [Option.bind_eq_some_iff] at decoded
          obtain ⟨last, lastRead, tail, tailRead, same⟩ := decoded
          cases same
          exact .group highRead middleRead lowRead lastRead (ih tailRead)
  | case3 text short long => simp [b64decode] at decoded

theorem toNat_ofNat_octet {value : Nat} (small : value < 256) : (UInt8.ofNat value).toNat = value :=
  UInt8.toNat_ofNat_of_lt' small

/-- A text of `3 * count + 2` octets is the one the encoder writes exactly when
its last character leaves the two unused bits clear. -/
theorem Base64.encode_iff {text : PyStr} {octets : Bytes} (base64 : Base64 text octets)
    {count : Nat} (sized : octets.length = 3 * count + 2) :
    b64encode octets = text ↔
      ∃ value, text[4 * count + 2]?.bind b64Value = some value ∧ value % 4 = 0 := by
  induction base64 generalizing count with
  | empty => simp at sized
  | one =>
      simp only [List.length_cons, List.length_nil] at sized
      omega
  | @two first second third high middle low highRead middleRead lowRead =>
      obtain ⟨highSmall, rfl⟩ := b64Letter_value highRead
      obtain ⟨middleSmall, rfl⟩ := b64Letter_value middleRead
      obtain ⟨lowSmall, rfl⟩ := b64Letter_value lowRead
      have only : count = 0 := by
        simp only [List.length_cons, List.length_nil] at sized
        omega
      subst only
      simp only [b64encode, toNat_ofNat_octet (show high * 4 + middle / 16 < 256 by omega),
        toNat_ofNat_octet (show middle % 16 * 16 + low / 4 < 256 by omega)]
      have firstSame : ((high * 4 + middle / 16) * 0x10000 + (middle % 16 * 16 + low / 4) * 0x100) /
          0x40000 = high := by omega
      have secondSame : ((high * 4 + middle / 16) * 0x10000 +
          (middle % 16 * 16 + low / 4) * 0x100) / 0x1000 % 64 = middle := by omega
      have thirdCleared : ((high * 4 + middle / 16) * 0x10000 +
          (middle % 16 * 16 + low / 4) * 0x100) / 64 % 64 = low / 4 * 4 := by omega
      rw [firstSame, secondSame, thirdCleared]
      constructor
      · intro same
        simp only [List.cons.injEq, true_and, and_true] at same
        have values := congrArg b64Value same
        rw [b64Value_letter (by omega), lowRead] at values
        have cleared := Option.some.inj values
        exact ⟨low, lowRead, by omega⟩
      · intro clear
        obtain ⟨value, read, cleared⟩ := clear
        have same : low = value := Option.some.inj (lowRead.symm.trans read)
        rw [show low / 4 * 4 = low by omega]
  | @group first second third fourth high middle low last text octets highRead middleRead lowRead
      lastRead _ ih =>
      obtain ⟨highSmall, rfl⟩ := b64Letter_value highRead
      obtain ⟨middleSmall, rfl⟩ := b64Letter_value middleRead
      obtain ⟨lowSmall, rfl⟩ := b64Letter_value lowRead
      obtain ⟨lastSmall, rfl⟩ := b64Letter_value lastRead
      obtain ⟨fewer, rfl⟩ : ∃ fewer, count = fewer + 1 := by
        simp only [List.length_cons] at sized
        exact ⟨count - 1, by omega⟩
      have tail := @ih fewer (by simp only [List.length_cons] at sized; omega)
      simp only [b64encode, toNat_ofNat_octet (show high * 4 + middle / 16 < 256 by omega),
        toNat_ofNat_octet (show middle % 16 * 16 + low / 4 < 256 by omega),
        toNat_ofNat_octet (show low % 4 * 64 + last < 256 by omega)]
      generalize numbered : (high * 4 + middle / 16) * 0x10000 +
        (middle % 16 * 16 + low / 4) * 0x100 + (low % 4 * 64 + last) = number
      have letters : number / 0x40000 = high ∧ number / 0x1000 % 64 = middle ∧
          number / 64 % 64 = low ∧ number % 64 = last := by omega
      obtain ⟨firstSame, secondSame, thirdSame, fourthSame⟩ := letters
      rw [firstSame, secondSame, thirdSame, fourthSame]
      simp only [List.cons.injEq, true_and]
      rw [tail]
      rfl

example : b64encode [0x66, 0x6F, 0x6F, 0x62] = py "Zm9vYg==" := by decide

example : b64decode (py "Zm9vYh==") = b64decode (py "Zm9vYg==") := by decide

end DirectTransfer.Library
