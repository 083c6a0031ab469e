import Mathlib.Data.Fin.Basic
import Mathlib.Data.List.Basic
import Mathlib.Data.Nat.Digits.Defs

/-! Python text. A `str` is a sequence of code points, lone surrogates
included, and `bytes` is a sequence of octets. -/

set_option autoImplicit false

namespace DirectTransfer.Library

abbrev CodePoint := Fin 0x110000

abbrev PyStr := List CodePoint

abbrev Bytes := List UInt8

def chr (character : Char) : CodePoint := Fin.ofNat 0x110000 character.toNat

/-- A string literal of the source. -/
def py (text : String) : PyStr := text.toList.map chr

theorem chr_inj {left right : Char} (same : chr left = chr right) : left = right := by
  have bounded (character : Char) : character.toNat < 0x110000 := by
    rcases character.valid with below | ⟨_, below⟩
    · exact Nat.lt_trans below (by decide)
    · exact below
  have values : left.toNat = right.toNat := by
    have equal := congrArg Fin.val same
    simpa [chr, Fin.val_ofNat, Nat.mod_eq_of_lt (bounded left),
      Nat.mod_eq_of_lt (bounded right)] using equal
  exact Char.toNat_inj.mp values

/-- Distinct literals are distinct strings. -/
@[simp] theorem py_inj {left right : String} : py left = py right ↔ left = right := by
  constructor
  · intro same
    exact String.toList_injective (List.map_injective_iff.mpr (fun _ _ => chr_inj) same)
  · rintro rfl
    rfl

def codePoint (value : Nat) : CodePoint := Fin.ofNat 0x110000 value

@[simp] theorem codePoint_val {value : Nat} (bounded : value < 0x110000) :
    (codePoint value).val = value := Nat.mod_eq_of_lt bounded

theorem codePoint_inj {left right : Nat} (leftBound : left < 0x110000)
    (rightBound : right < 0x110000) (same : codePoint left = codePoint right) : left = right := by
  rw [← codePoint_val leftBound, ← codePoint_val rightBound, same]

def CodePoint.isHighSurrogate (point : CodePoint) : Bool :=
  0xD800 ≤ point.val && point.val < 0xDC00

def CodePoint.isLowSurrogate (point : CodePoint) : Bool :=
  0xDC00 ≤ point.val && point.val < 0xE000

def CodePoint.isSurrogate (point : CodePoint) : Bool :=
  0xD800 ≤ point.val && point.val < 0xE000

/-- `str.isspace` of one character: bidirectional type WS, B or S, or category Zs. -/
def CodePoint.isSpace (point : CodePoint) : Bool :=
  let value := point.val
  (0x09 ≤ value && value ≤ 0x0D) || (0x1C ≤ value && value ≤ 0x20) || value = 0x85 ||
    value = 0xA0 || value = 0x1680 || (0x2000 ≤ value && value ≤ 0x200A) ||
    value = 0x2028 || value = 0x2029 || value = 0x202F || value = 0x205F || value = 0x3000

/-- A character of category Cc: C0 with NUL, DEL, and C1. -/
def CodePoint.isControl (point : CodePoint) : Bool :=
  point.val < 0x20 || (0x7F ≤ point.val && point.val ≤ 0x9F)

def CodePoint.isAsciiDigit (point : CodePoint) : Bool := 0x30 ≤ point.val && point.val ≤ 0x39

/-- `str.lower()` of an ASCII text. -/
def asciiLower (text : PyStr) : PyStr :=
  text.map fun point =>
    if 0x41 ≤ point.val ∧ point.val ≤ 0x5A then codePoint (point.val + 0x20) else point

/-- `str.rstrip(chars)`. -/
def rstrip (drop : CodePoint → Bool) (text : PyStr) : PyStr :=
  (text.reverse.dropWhile drop).reverse

/-- `str.strip()`. -/
def strip (text : PyStr) : PyStr := rstrip CodePoint.isSpace (text.dropWhile CodePoint.isSpace)

/-- Length in octets of `str.encode("utf-8")`, or `none` where a surrogate
makes the encoder raise `UnicodeEncodeError`. -/
def utf8Length : PyStr → Option Nat
  | [] => some 0
  | point :: rest =>
      if point.isSurrogate then none
      else (utf8Length rest).map fun size =>
        size + if point.val < 0x80 then 1 else if point.val < 0x800 then 2
          else if point.val < 0x10000 then 3 else 4

/-- The octets of a text whose characters are all below 256. -/
def encodeAscii (text : PyStr) : Bytes := text.map fun point => UInt8.ofNat point.val

@[simp] theorem encodeAscii_length (text : PyStr) : (encodeAscii text).length = text.length := by
  simp [encodeAscii]

theorem encodeAscii_inj {left right : PyStr} (leftAscii : ∀ point ∈ left, point.val < 0x80)
    (rightAscii : ∀ point ∈ right, point.val < 0x80)
    (same : encodeAscii left = encodeAscii right) : left = right := by
  induction left generalizing right with
  | nil => cases right with
    | nil => rfl
    | cons => simp [encodeAscii] at same
  | cons point rest ih => cases right with
    | nil => simp [encodeAscii] at same
    | cons other others =>
        simp only [encodeAscii, List.map_cons, List.cons.injEq] at same
        have pointBound := leftAscii point (by simp)
        have otherBound := rightAscii other (by simp)
        have octet := congrArg UInt8.toNat same.1
        rw [UInt8.toNat_ofNat_of_lt' (by simp [UInt8.size]; omega),
          UInt8.toNat_ofNat_of_lt' (by simp [UInt8.size]; omega)] at octet
        rw [Fin.ext octet, ih (fun p member => leftAscii p (by simp [member]))
          (fun p member => rightAscii p (by simp [member])) same.2]

/-- Lexicographic order by code point, the order of `sorted` on strings. -/
def textLe : PyStr → PyStr → Bool
  | [], _ => true
  | _ :: _, [] => false
  | left :: lefts, right :: rights =>
      if left = right then textLe lefts rights else decide (left.val < right.val)

theorem textLe_total (left right : PyStr) : textLe left right = true ∨ textLe right left = true := by
  induction left generalizing right with
  | nil => exact .inl rfl
  | cons head tail ih => cases right with
    | nil => exact .inr rfl
    | cons other others =>
        by_cases same : head = other
        · subst same
          simpa [textLe] using ih others
        · have different : head.val ≠ other.val := fun equal => same (Fin.ext equal)
          simp only [textLe, same, Ne.symm same, ↓reduceIte, decide_eq_true_eq]
          omega

theorem textLe_antisymm {left right : PyStr} (below : textLe left right = true)
    (above : textLe right left = true) : left = right := by
  induction left generalizing right with
  | nil => cases right with
    | nil => rfl
    | cons => simp [textLe] at above
  | cons head tail ih => cases right with
    | nil => simp [textLe] at below
    | cons other others =>
        by_cases same : head = other
        · subst same
          simp only [textLe, ↓reduceIte] at below above
          rw [ih below above]
        · simp only [textLe, same, Ne.symm same, ↓reduceIte, decide_eq_true_eq] at below above
          omega

theorem textLe_trans {left middle right : PyStr} (first : textLe left middle = true)
    (second : textLe middle right = true) : textLe left right = true := by
  induction left generalizing middle right with
  | nil => rfl
  | cons head tail ih => cases middle with
    | nil => simp [textLe] at first
    | cons other others => cases right with
      | nil => simp [textLe] at second
      | cons last lasts =>
          by_cases low : head = other
          · subst low
            by_cases high : head = last
            · subst high
              simp only [textLe, ↓reduceIte] at first second ⊢
              exact ih first second
            · simpa [textLe, high] using second
          · by_cases high : other = last
            · subst high
              simpa [textLe, low] using first
            · simp only [textLe, low, high, ↓reduceIte, decide_eq_true_eq] at first second
              have apart : head ≠ last := fun equal => by rw [equal] at first; omega
              simp only [textLe, apart, ↓reduceIte, decide_eq_true_eq]
              omega

/-! Decimal text of numbers. -/

def digitChar (digit : Nat) : CodePoint := codePoint (0x30 + digit)

/-- `str(n)` of a natural number. -/
def natText (value : Nat) : PyStr :=
  if value = 0 then [digitChar 0] else ((Nat.digits 10 value).reverse).map digitChar

/-- `str(n)` of an integer. -/
def intText : Int → PyStr
  | .ofNat value => natText value
  | .negSucc value => chr '-' :: natText (value + 1)

end DirectTransfer.Library
