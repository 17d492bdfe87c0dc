import Mathlib.Algebra.Order.Ring.Unbundled.Rat
import Ticketing.Browser.Session
import Ticketing.Python.Value

/-!
# JSON values as the scripts see them

What `JSON.parse` can return, and `undefined`, with the operations on it: property
access, truth value, `||`, `String()` and `Number()`. Numbers are exact. What is read
of the responses are ids, counts and prices, which a double holds.
-/

namespace JavaScript

open Python Ticketing

inductive Value where
  | undefined
  | null
  | bool (value : Bool)
  | number (value : ℚ)
  | string (text : String)
  | array (items : List Value)
  | object (fields : List (String × Value))

namespace Value

/-! ## Access and truth -/

/-- Reading a property of such a value is a TypeError. -/
def isNullish : Value → Bool
  | undefined | null => true
  | _ => false

/-- `value.key`, for a key that is not inherited. -/
def get (value : Value) (key : String) : Value :=
  match value with
  | object fields => ((fields.find? fun field => field.1 == key).map (·.2)).getD undefined
  | _ => undefined

/-- The keys that `Object.keys(value)` lists, with their values. -/
def entries : Value → List (String × Value)
  | object fields => fields
  | array items => items.mapIdx fun index item => (toString index, item)
  | _ => []

/-- `value && typeof value === 'object'`. -/
def isObject : Value → Bool
  | array _ | object _ => true
  | _ => false

/-- `Boolean(value)`. -/
def truthy : Value → Bool
  | undefined | null => false
  | bool value => value
  | number value => value ≠ 0
  | string text => text ≠ ""
  | array _ | object _ => true

/-- `value || other`. -/
def orElse (value other : Value) : Value := if value.truthy then value else other

theorem orElse_assoc (first second third : Value) :
    (first.orElse second).orElse third = first.orElse (second.orElse third) := by
  cases hfirst : first.truthy <;> simp [orElse, hfirst]

end Value

/-! ## Numbers as text -/

/-- The number of digits that a decimal has behind the point. -/
def decimalPlaces (value : ℚ) : Nat :=
  ((List.range (Nat.log2 value.den + 1)).find? fun places => value.den ∣ 10 ^ places).getD 0

/-- One digit before the point, and the exponent. -/
def exponentText (digits : List Char) (exponent : Int) : List Char :=
  let digits := (digits.reverse.dropWhile (· = '0')).reverse
  let mantissa := match digits with
    | first :: second :: rest => first :: '.' :: second :: rest
    | short => short
  mantissa ++ ['e', if exponent < 0 then '-' else '+'] ++ Nat.toDigits 10 exponent.natAbs

/-- `String(value)` of a number. -/
def numberText (value : ℚ) : String :=
  let places := decimalPlaces value
  let digits := Nat.toDigits 10 (value * 10 ^ places).num.natAbs
  -- the point stands behind so many of the digits
  let point : Int := digits.length - places
  let text :=
    if 21 < point ∨ point ≤ -6 then exponentText digits (point - 1)
    else if point ≤ 0 then '0' :: '.' :: (List.replicate point.natAbs '0' ++ digits)
    else if places = 0 then digits
    else digits.take point.natAbs ++ '.' :: digits.drop point.natAbs
  (if value < 0 then "-" else "") ++ String.ofList text

/-! ## Text as a number -/

/-- The value of a digit in any base; 36 for what is no digit. -/
def digitValue (c : Char) : Nat :=
  if c.isDigit then c.toNat - 48
  else if 'a' ≤ c ∧ c ≤ 'z' then c.toNat - 87
  else if 'A' ≤ c ∧ c ≤ 'Z' then c.toNat - 55
  else 36

/-- One digit or more. -/
def natOfRadix (radix : Nat) (text : List Char) : Option Nat :=
  if text ≠ [] ∧ text.all fun c => digitValue c < radix then
    some (text.foldl (fun n c => radix * n + digitValue c) 0)
  else none

/-- What follows the letter of an exponent. -/
def exponentOfText : List Char → Option Int
  | '-' :: digits => (natOfRadix 10 digits).map fun n : Nat => -(n : Int)
  | '+' :: digits => (natOfRadix 10 digits).map fun n : Nat => (n : Int)
  | digits => (natOfRadix 10 digits).map fun n : Nat => (n : Int)

/-- A decimal literal without a sign. -/
def decimalOfText (text : List Char) : Option ℚ := do
  let whole := text.takeWhile Char.isDigit
  let (fraction, rest) := match text.dropWhile Char.isDigit with
    | '.' :: rest => (rest.takeWhile Char.isDigit, rest.dropWhile Char.isDigit)
    | rest => ([], rest)
  let mantissa ← natOfRadix 10 (whole ++ fraction)
  let exponent ← match rest with
    | [] => some 0
    | c :: digits => if c = 'e' ∨ c = 'E' then exponentOfText digits else none
  return mantissa * (10 : ℚ) ^ (exponent - fraction.length)

/-- `Number(text)`; `none` is NaN or infinite. -/
def numberOfText (text : String) : Option ℚ :=
  match trim isTrimSpace text.toList with
  | [] => some 0
  | '0' :: 'x' :: digits | '0' :: 'X' :: digits => (natOfRadix 16 digits).map Nat.cast
  | '0' :: 'o' :: digits | '0' :: 'O' :: digits => (natOfRadix 8 digits).map Nat.cast
  | '0' :: 'b' :: digits | '0' :: 'B' :: digits => (natOfRadix 2 digits).map Nat.cast
  | '-' :: literal => (decimalOfText literal).map Neg.neg
  | '+' :: literal => decimalOfText literal
  | literal => decimalOfText literal

/-! ## Conversions -/

mutual

/-- `String(value)`, of an object without a `toString` of its own. -/
def Value.toText : Value → String
  | .undefined => "undefined"
  | .null => "null"
  | .bool true => "true"
  | .bool false => "false"
  | .number value => numberText value
  | .string text => text
  | .array items => joinStr "," (itemTexts items)
  | .object _ => "[object Object]"

/-- The texts that `items.join()` joins. -/
def itemTexts : List Value → List String
  | [] => []
  | .undefined :: rest | .null :: rest => "" :: itemTexts rest
  | item :: rest => item.toText :: itemTexts rest

end

/-- `Number(value)`; `none` is NaN or infinite. -/
def Value.toNumber : Value → Option ℚ
  | .undefined => none
  | .null => some 0
  | .bool value => some (if value then 1 else 0)
  | .number value => some value
  | .string text => numberOfText text
  | .array items => numberOfText (Value.array items).toText
  | .object _ => none

/-- `text.trim()`. -/
def trimText (text : String) : String := String.ofList (trim isTrimSpace text.toList)

/-! ## Responses -/

/-- The number that a float was written as. -/
def floatValue (text : FloatText) : ℚ :=
  let digits := text.fraction.foldl (fun (n : Nat) d => 10 * n + d.val) text.whole
  let magnitude := digits * (10 : ℚ) ^ (text.exponent.getD 0 - text.fraction.length)
  if text.negative then -magnitude else magnitude

mutual

/-- `JSON.parse` of the text of a value. No response has a float that is not
finite. -/
def Value.ofJson : Json → Value
  | .null => .null
  | .bool value => .bool value
  | .int n => .number n
  | .float (.finite text _) => .number (floatValue text)
  | .float _ => .null
  | .str text => .string text
  | .arr items => .array (ofItems items)
  | .obj fields => .object (ofFields fields)

def ofItems : List Json → List Value
  | [] => []
  | item :: rest => Value.ofJson item :: ofItems rest

def ofFields : List (String × Json) → List (String × Value)
  | [] => []
  | (key, value) :: rest => (key, Value.ofJson value) :: ofFields rest

end

@[simp] theorem ofItems_eq (items : List Json) : ofItems items = items.map Value.ofJson := by
  induction items with
  | nil => rfl
  | cons item rest ih => rw [ofItems, ih, List.map_cons]

@[simp] theorem ofFields_eq (fields : List (String × Json)) :
    ofFields fields = fields.map fun field => (field.1, Value.ofJson field.2) := by
  induction fields with
  | nil => rfl
  | cons field rest ih => rw [ofFields, ih, List.map_cons]

end JavaScript
