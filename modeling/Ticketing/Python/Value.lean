import Ticketing.Python.Integer

/-!
# JSON values as Python sees them

What `json.loads` can return, with the operations on it: truth value,
`or`, `str()`, `int()` and iteration. An operation that raises returns `none`.
-/

namespace Python

/-- The pieces of `repr` of a finite float: sign, digits before and after the
point, and the exponent if there is one. -/
structure FloatText where
  negative : Bool
  whole : Nat
  fraction : List (Fin 10)
  exponent : Option Int
deriving DecidableEq, Repr

/-- A float: its text, and what `int()` makes of it. -/
inductive PyFloat where
  | finite (text : FloatText) (truncated : Int)
  | infinity (negative : Bool)
  | nan
deriving DecidableEq, Repr

/-- A JSON value. The fields of an object are in insertion order. -/
inductive Json where
  | null
  | bool (value : Bool)
  | int (value : Int)
  | float (value : PyFloat)
  | str (text : String)
  | arr (items : List Json)
  | obj (fields : List (String × Json))

/-- `text.join(parts)`. -/
def joinStr (separator : String) : List String → String
  | [] => ""
  | [part] => part
  | part :: rest => part ++ separator ++ joinStr separator rest

def FloatText.str (text : FloatText) : String :=
  let exponent := match text.exponent with
    | none => ""
    | some e =>
        -- the exponent has at least two digits
        let digits := if e.natAbs < 10 then "0" ++ toString e.natAbs else toString e.natAbs
        (if e < 0 then "e-" else "e+") ++ digits
  let fraction := match text.fraction with
    | [] => ""
    | digits => "." ++ String.ofList (digits.map fun d => Nat.digitChar d)
  (if text.negative then "-" else "") ++ toString text.whole ++ fraction ++ exponent

def PyFloat.str : PyFloat → String
  | .finite text _ => text.str
  | .infinity false => "inf"
  | .infinity true => "-inf"
  | .nan => "nan"

/-- `repr` of a string: quotes and the common escapes. Characters that Python
does not count as printable are written as they are. -/
def reprStr (text : String) : String :=
  -- double quotes only around a text with single quotes and no double ones
  let quote := if '\'' ∈ text.toList ∧ '\"' ∉ text.toList then '\"' else '\''
  let escape := fun c =>
    if c = '\\' then ['\\', '\\']
    else if c = quote then ['\\', c]
    else if c = '\n' then ['\\', 'n']
    else if c = '\r' then ['\\', 'r']
    else if c = '\t' then ['\\', 't']
    else [c]
  String.ofList ([quote] ++ text.toList.flatMap escape ++ [quote])

mutual

def Json.repr : Json → String
  | .null => "None"
  | .bool true => "True"
  | .bool false => "False"
  | .int n => toString n
  | .float f => f.str
  | .str text => reprStr text
  | .arr items => "[" ++ joinStr ", " (reprItems items) ++ "]"
  | .obj fields => "\x7b" ++ joinStr ", " (reprFields fields) ++ "\x7d"

def reprItems : List Json → List String
  | [] => []
  | item :: rest => item.repr :: reprItems rest

def reprFields : List (String × Json) → List String
  | [] => []
  | (key, value) :: rest => (reprStr key ++ ": " ++ value.repr) :: reprFields rest

end

namespace Json

/-- `str(value)`. -/
def toStr : Json → String
  | .str text => text
  | other => other.repr

/-- `bool(value)`. -/
def truthy : Json → Bool
  | .null => false
  | .bool value => value
  | .int n => n ≠ 0
  | .float (.finite text _) => text.whole ≠ 0 || text.fraction.any (· ≠ 0)
  | .float _ => true
  | .str text => text ≠ ""
  | .arr items => !items.isEmpty
  | .obj fields => !fields.isEmpty

/-- `value or other`. -/
def orElse (value other : Json) : Json := if value.truthy then value else other

/-- `value[key]` on an object; `none` is the KeyError or TypeError. -/
def item (value : Json) (key : String) : Option Json :=
  match value with
  | .obj fields => (fields.find? fun field => field.1 == key).map (·.2)
  | _ => none

/-- `value.get(key)` on an object. -/
def get (value : Json) (key : String) : Json := (value.item key).getD .null

/-- `int(value)` guarded by `except (TypeError, ValueError): return default`.
`none` is the OverflowError of an infinite float, which the guard lets pass. -/
def toInt (value : Json) (default : Int) : Option Int :=
  match value with
  | .int n => some n
  | .bool value => some (if value then 1 else 0)
  | .float (.finite _ truncated) => some truncated
  | .float (.infinity _) => none
  | .float .nan => some default
  | .str text => some ((intOfStr text.toList).getD default)
  | .null | .arr _ | .obj _ => some default

/-- The values that `for item in value` visits; `none` is the TypeError. -/
def iterate : Json → Option (List Json)
  | .arr items => some items
  | .obj fields => some (fields.map fun field => .str field.1)
  | .str text => some (text.toList.map fun c => .str (String.ofList [c]))
  | .null | .bool _ | .int _ | .float _ => none

@[simp] theorem orElse_of_truthy {value other : Json} (h : value.truthy = true) :
    value.orElse other = value := by simp [orElse, h]

@[simp] theorem iterate_arr (items : List Json) : (Json.arr items).iterate = some items := rfl

@[simp] theorem toStr_str (text : String) : (Json.str text).toStr = text := rfl

/-- An infinite float, which `json.loads` makes of `Infinity` and of `1e999`. -/
def Infinite : Json → Prop
  | .float (.infinity _) => True
  | _ => False

/-- Nothing else makes `int()` raise what the guard does not catch. -/
theorem toInt_eq_none_iff {value : Json} {default : Int} :
    value.toInt default = none ↔ value.Infinite := by
  unfold toInt Infinite
  split <;> simp

@[simp] theorem toInt_int (n default : Int) : (Json.int n).toInt default = some n := rfl

end Json

end Python
