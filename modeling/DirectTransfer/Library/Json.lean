import DirectTransfer.Library.Dictionary
import DirectTransfer.Library.Text
import Mathlib.Data.List.Sort
import Mathlib.Data.Rat.Defs

/-! JSON values as Python's `json` module reads and writes them: `dict.get`,
the equality of Python values, and `json.dumps` with compact separators and
ASCII escaping. -/

set_option autoImplicit false

namespace DirectTransfer.Library

/-- A Python float: finite values compare by their number, and the two zeros
are equal but print differently. -/
inductive PyFloat where
  | finite (value : Rat)
  | negativeZero
  | infinity (negative : Bool)
  | nan
  deriving DecidableEq

inductive Json where
  | null
  | bool (value : Bool)
  | int (value : Int)
  | float (value : PyFloat)
  | str (text : PyStr)
  | arr (items : List Json)
  | obj (fields : List (PyStr × Json))

namespace Json

mutual

def same : Json → Json → Bool
  | .null, .null => true
  | .bool left, .bool right => left = right
  | .int left, .int right => left = right
  | .float left, .float right => left = right
  | .str left, .str right => left = right
  | .arr left, .arr right => sameItems left right
  | .obj left, .obj right => sameFields left right
  | _, _ => false

def sameItems : List Json → List Json → Bool
  | [], [] => true
  | left :: lefts, right :: rights => same left right && sameItems lefts rights
  | _, _ => false

def sameFields : List (PyStr × Json) → List (PyStr × Json) → Bool
  | [], [] => true
  | (key, left) :: lefts, (other, right) :: rights =>
      key = other && same left right && sameFields lefts rights
  | _, _ => false

end

mutual

theorem same_iff : ∀ left right : Json, same left right = true ↔ left = right
  | .arr left, right => by cases right <;> simp [same, sameItems_iff left]
  | .obj left, right => by cases right <;> simp [same, sameFields_iff left]
  | .null, right => by cases right <;> simp [same]
  | .bool _, right => by cases right <;> simp [same]
  | .int _, right => by cases right <;> simp [same]
  | .float _, right => by cases right <;> simp [same]
  | .str _, right => by cases right <;> simp [same]

theorem sameItems_iff : ∀ left right : List Json, sameItems left right = true ↔ left = right
  | [], right => by cases right <;> simp [sameItems]
  | head :: tail, right => by
      cases right <;> simp [sameItems, same_iff head, sameItems_iff tail]

theorem sameFields_iff : ∀ left right : List (PyStr × Json),
    sameFields left right = true ↔ left = right
  | [], right => by cases right <;> simp [sameFields]
  | (key, head) :: tail, right => by
      cases right <;>
        simp [sameFields, same_iff head, sameFields_iff tail, Prod.ext_iff, and_assoc]

end

instance : DecidableEq Json := fun left right =>
  decidable_of_iff (same left right = true) (same_iff left right)

/-- `payload.get(key)` of a dict; a value of another type has no keys. -/
def get (payload : Json) (key : PyStr) : Option Json :=
  match payload with
  | .obj fields => findEntry key fields
  | _ => none

/-- `payload.get(key)` where an absent key reads as `None`. -/
def field (payload : Json) (key : String) : Json := (payload.get (py key)).getD .null

@[simp] theorem field_nil (key : String) : (obj []).field key = .null := rfl

@[simp] theorem field_cons (key name : String) (value : Json) (rest : List (PyStr × Json)) :
    (obj ((py name, value) :: rest)).field key =
      if name = key then value else (obj rest).field key := by
  by_cases same : name = key <;> simp [field, get, findEntry, same]

def isDict : Json → Bool
  | .obj _ => true
  | _ => false

/-- The number a value compares as; `True` is 1 and `False` is 0. -/
def number? : Json → Option Rat
  | .bool value => some (if value then 1 else 0)
  | .int value => some value
  | .float (.finite value) => some value
  | .float .negativeZero => some 0
  | _ => none

mutual

/-- Python's `==`. Dicts compare by key, in any order. -/
def pyEq : Json → Json → Bool
  | .null, right => right = .null
  | .str left, right => right = .str left
  | .arr left, right => match right with
    | .arr items => pyEqItems left items
    | _ => false
  | .obj left, right => match right with
    | .obj fields => left.length = fields.length && pyEqFields left fields
    | _ => false
  | .bool left, right => (Json.bool left).number? = right.number?
  | .int left, right => (Json.int left).number? = right.number?
  | .float (.infinity sign), right => right = .float (.infinity sign)
  | .float left, right =>
      (Json.float left).number?.isSome && (Json.float left).number? = right.number?

def pyEqItems : List Json → List Json → Bool
  | [], right => right.isEmpty
  | left :: lefts, right => match right with
    | item :: rights => pyEq left item && pyEqItems lefts rights
    | [] => false

def pyEqFields : List (PyStr × Json) → List (PyStr × Json) → Bool
  | [], _ => true
  | (key, left) :: lefts, right =>
      (match findEntry key right with
        | some value => pyEq left value
        | none => false) && pyEqFields lefts right

end

end Json

/-! ## Serialization -/

def numberAlphabet : PyStr := py "0123456789+-.eNaIinfty"

/-- `float.__repr__` with the names `json` gives the special values: what the
serializer relies on is that distinct floats print differently, and never as
an integer or as another kind of value. -/
structure FloatRepr where
  text : PyFloat → PyStr
  injective : Function.Injective text
  alphabet : ∀ value, ∀ point ∈ text value, point ∈ numberAlphabet
  head : ∀ value, ∃ first rest, text value = first :: rest ∧ first ∈ py "0123456789-NI"
  notInteger : ∀ value, ∃ point ∈ text value, point ∉ py "0123456789-"

/-- UTF-16 code units of a code point. -/
def utf16 (point : CodePoint) : List Nat :=
  if point.val < 0x10000 then [point.val]
  else [0xD800 + (point.val - 0x10000) / 0x400, 0xDC00 + (point.val - 0x10000) % 0x400]

def hexDigit (digit : Nat) : CodePoint :=
  codePoint (if digit < 10 then 0x30 + digit else 0x57 + digit)

def hex4 (unit : Nat) : PyStr :=
  [hexDigit (unit / 0x1000 % 16), hexDigit (unit / 0x100 % 16), hexDigit (unit / 16 % 16),
    hexDigit (unit % 16)]

def shortEscapes : List (Nat × CodePoint) :=
  [(0x22, chr '"'), (0x5C, chr '\\'), (0x0A, chr 'n'), (0x0D, chr 'r'), (0x09, chr 't'),
    (0x08, chr 'b'), (0x0C, chr 'f')]

/-- How `ensure_ascii` writes one code unit inside a string literal. -/
def escapeUnit (unit : Nat) : PyStr :=
  match findEntry unit shortEscapes with
  | some letter => [chr '\\', letter]
  | none =>
      if 0x20 ≤ unit ∧ unit ≤ 0x7E then [codePoint unit] else chr '\\' :: chr 'u' :: hex4 unit

def quote (text : PyStr) : PyStr :=
  chr '"' :: ((text.flatMap utf16).flatMap escapeUnit ++ [chr '"'])

namespace Json

variable (floats : FloatRepr)

mutual

/-- `json.dumps(value, separators=(",", ":"))`. -/
def dumps : Json → PyStr
  | .null => py "null"
  | .bool true => py "true"
  | .bool false => py "false"
  | .int value => intText value
  | .float value => floats.text value
  | .str text => quote text
  | .arr [] => py "[]"
  | .arr (first :: rest) => chr '[' :: (dumps first ++ (dumpsItems rest ++ [chr ']']))
  | .obj [] => py "\x7b\x7d"
  | .obj ((key, first) :: rest) =>
      chr '{' :: (quote key ++ (chr ':' :: (dumps first ++ (dumpsFields rest ++ [chr '}']))))

/-- The items after the first one, each with its separator. -/
def dumpsItems : List Json → PyStr
  | [] => []
  | item :: rest => chr ',' :: (dumps item ++ dumpsItems rest)

def dumpsFields : List (PyStr × Json) → PyStr
  | [] => []
  | (key, value) :: rest =>
      chr ',' :: (quote key ++ (chr ':' :: (dumps value ++ dumpsFields rest)))

end

mutual

/-- `sort_keys=True` at every level. -/
def sortKeys : Json → Json
  | .arr items => .arr (sortKeysItems items)
  | .obj fields =>
      .obj ((sortKeysFields fields).insertionSort fun left right => textLe left.1 right.1 = true)
  | other => other

def sortKeysItems : List Json → List Json
  | [] => []
  | item :: rest => sortKeys item :: sortKeysItems rest

def sortKeysFields : List (PyStr × Json) → List (PyStr × Json)
  | [] => []
  | (key, value) :: rest => (key, sortKeys value) :: sortKeysFields rest

end

end Json

/-- No high surrogate is directly followed by a low one: the decoder of a
string joins such a pair into one character. -/
def PairFree : PyStr → Prop
  | [] => True
  | [_] => True
  | first :: second :: rest =>
      ¬ (first.isHighSurrogate = true ∧ second.isLowSurrogate = true) ∧ PairFree (second :: rest)

namespace Json

mutual

/-- Values the decoder returns: strings without surrogate pairs, dicts without
repeated keys. -/
def WellFormed : Json → Prop
  | .str text => PairFree text
  | .arr items => WellFormedItems items
  | .obj fields => (fields.map Prod.fst).Nodup ∧ WellFormedFields fields
  | _ => True

def WellFormedItems : List Json → Prop
  | [] => True
  | item :: rest => WellFormed item ∧ WellFormedItems rest

def WellFormedFields : List (PyStr × Json) → Prop
  | [] => True
  | (key, value) :: rest => PairFree key ∧ WellFormed value ∧ WellFormedFields rest

end

end Json

end DirectTransfer.Library
