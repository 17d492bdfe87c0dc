import Ticketing.Python.Value

/-!
# Rows of the database driver, and the two ways to write them as JSON

A row of a dictionary cursor holds dates, times and decimals next to what JSON
knows. FastAPI's `jsonable_encoder` and `json.dumps(.., default=str)` both turn
lists and dictionaries made of such values into JSON. They walk the value in the
same way and differ at the leaves.
-/

namespace Python

structure Date where
  year : Nat
  month : Nat
  day : Nat
deriving DecidableEq, Repr

/-- A DATETIME column without a fraction of a second. -/
structure DateTime where
  date : Date
  hour : Nat
  minute : Nat
  second : Nat
deriving DecidableEq, Repr

/-- A value of a column. A decimal has no digits after the point: it is the SUM
of an integer column. -/
inductive Scalar where
  | json (value : Json)
  | date (value : Date)
  | datetime (value : DateTime)
  | decimal (value : Int)

/-- A row of the cursor. -/
abbrev Row := List (String × Scalar)

/-- Lists and dictionaries of column values. -/
inductive PyValue where
  | scalar (value : Scalar)
  | list (items : List PyValue)
  | dict (fields : List (String × PyValue))

/-! ## Text -/

/-- `str(n).zfill(width)`. -/
def zfill (width n : Nat) : String :=
  String.ofList (List.replicate (width - (Nat.toDigits 10 n).length) '0' ++ Nat.toDigits 10 n)

/-- `date.isoformat()`, which `str(date)` is too. -/
def Date.str (value : Date) : String :=
  zfill 4 value.year ++ "-" ++ zfill 2 value.month ++ "-" ++ zfill 2 value.day

/-- `datetime.isoformat(sep)`. -/
def DateTime.isoformat (sep : String) (value : DateTime) : String :=
  value.date.str ++ (sep ++ (zfill 2 value.hour ++ ":" ++ zfill 2 value.minute ++ ":" ++
    zfill 2 value.second))

/-- The capitals of a character, as far as they are ASCII letters. The other
characters are left alone: their capitals are no ASCII letters. -/
def upperChar (c : Char) : List Char :=
  match c with
  | 'ß' => ['S', 'S']
  | 'ı' => ['I']
  | 'ŉ' => ['ʼ', 'N']
  | 'ſ' => ['S']
  | 'ǰ' => ['J', '\u030c']
  | 'ẖ' => ['H', '\u0331']
  | 'ẗ' => ['T', '\u0308']
  | 'ẘ' => ['W', '\u030a']
  | 'ẙ' => ['Y', '\u030a']
  | 'ẚ' => ['A', 'ʾ']
  | 'ﬀ' => ['F', 'F']
  | 'ﬁ' => ['F', 'I']
  | 'ﬂ' => ['F', 'L']
  | 'ﬃ' => ['F', 'F', 'I']
  | 'ﬄ' => ['F', 'F', 'L']
  | 'ﬅ' => ['S', 'T']
  | 'ﬆ' => ['S', 'T']
  | c => [c.toUpper]

/-- `text.upper()`, for comparisons with ASCII text. -/
def upperStr (text : String) : List Char := text.toList.flatMap upperChar

/-- `text.split()[0]` of a text that `strip()` has left something of. -/
def firstWord (text : List Char) : List Char := text.takeWhile fun c => !isStripSpace c

namespace Scalar

/-- `str(value)`. -/
def str : Scalar → String
  | .json value => value.toStr
  | .date value => value.str
  | .datetime value => value.isoformat " "
  | .decimal n => toString n

def truthy : Scalar → Bool
  | .json value => value.truthy
  | .date _ | .datetime _ => true
  | .decimal n => n ≠ 0

/-- `str(value or default)`. -/
def strOr (value : Scalar) (default : String) : String :=
  if value.truthy then value.str else default

/-- `_to_int(value)`. The infinite float, at which `int()` raises something
else, is in no column. -/
def toInt : Scalar → Int
  | .json value => (value.toInt 0).getD 0
  | .date _ | .datetime _ => 0
  | .decimal n => n

end Scalar

/-- `row.get(column)`. -/
def Row.get (row : Row) (column : String) : Scalar :=
  ((row.find? fun field => field.1 == column).map (·.2)).getD (.json .null)

/-- `dict(row)`, as a value that an encoder can be applied to. -/
def Row.toPy (row : Row) : PyValue := .dict (row.map fun field => (field.1, .scalar field.2))

/-! ## The encoders -/

mutual

/-- The JSON of a value when its column values are written by `leaf`. -/
def PyValue.encode (leaf : Scalar → Json) : PyValue → Json
  | .scalar value => leaf value
  | .list items => .arr (encodeItems leaf items)
  | .dict fields => .obj (encodeFields leaf fields)

def encodeItems (leaf : Scalar → Json) : List PyValue → List Json
  | [] => []
  | item :: rest => item.encode leaf :: encodeItems leaf rest

def encodeFields (leaf : Scalar → Json) : List (String × PyValue) → List (String × Json)
  | [] => []
  | (key, value) :: rest => (key, value.encode leaf) :: encodeFields leaf rest

end

section Encode

variable {leaf : Scalar → Json}

@[simp] theorem encodeItems_eq (items : List PyValue) :
    encodeItems leaf items = items.map (PyValue.encode leaf) := by
  induction items with
  | nil => rfl
  | cons item rest ih => rw [encodeItems, ih, List.map_cons]

@[simp] theorem encodeFields_eq (fields : List (String × PyValue)) :
    encodeFields leaf fields = fields.map fun field => (field.1, field.2.encode leaf) := by
  induction fields with
  | nil => rfl
  | cons field rest ih => rw [encodeFields, ih, List.map_cons]

end Encode

/-- `jsonable_encoder(value)`: ISO text for dates, a number for a decimal. -/
def Scalar.jsonable : Scalar → Json
  | .json value => value
  | .date value => .str value.str
  | .datetime value => .str (value.isoformat "T")
  | .decimal n => .int n

/-- What `json.loads` reads after `json.dumps(value, default=str)`. -/
def Scalar.dumped : Scalar → Json
  | .json value => value
  | .date value => .str value.str
  | .datetime value => .str (value.isoformat " ")
  | .decimal n => .str (toString n)

/-- The body of a response. -/
def PyValue.jsonable (value : PyValue) : Json := value.encode Scalar.jsonable

/-- The value that the cache gives back. -/
def PyValue.dumped (value : PyValue) : Json := value.encode Scalar.dumped

/-! ## Where they agree -/

mutual

/-- The column values inside. -/
def PyValue.scalars : PyValue → List Scalar
  | .scalar value => [value]
  | .list items => itemScalars items
  | .dict fields => fieldScalars fields

def itemScalars : List PyValue → List Scalar
  | [] => []
  | item :: rest => item.scalars ++ itemScalars rest

def fieldScalars : List (String × PyValue) → List Scalar
  | [] => []
  | (_, value) :: rest => value.scalars ++ fieldScalars rest

end

section Encode

variable {first second : Scalar → Json}

mutual

/-- Two encoders give the same JSON exactly if they write every column value
inside in the same way. -/
theorem PyValue.encode_eq_iff : ∀ value : PyValue,
    value.encode first = value.encode second ↔ ∀ leaf ∈ value.scalars, first leaf = second leaf
  | .scalar value => by simp [PyValue.encode, PyValue.scalars]
  | .list items => by
      rw [PyValue.encode, PyValue.encode, Json.arr.injEq, PyValue.scalars]
      exact encodeItems_eq_iff items
  | .dict fields => by
      rw [PyValue.encode, PyValue.encode, Json.obj.injEq, PyValue.scalars]
      exact encodeFields_eq_iff fields

theorem encodeItems_eq_iff : ∀ items : List PyValue,
    encodeItems first items = encodeItems second items ↔
      ∀ leaf ∈ itemScalars items, first leaf = second leaf
  | [] => by simp [encodeItems, itemScalars]
  | item :: rest => by
      rw [encodeItems, encodeItems, List.cons.injEq, itemScalars, List.forall_mem_append,
        item.encode_eq_iff, encodeItems_eq_iff rest]

theorem encodeFields_eq_iff : ∀ fields : List (String × PyValue),
    encodeFields first fields = encodeFields second fields ↔
      ∀ leaf ∈ fieldScalars fields, first leaf = second leaf
  | [] => by simp [encodeFields, fieldScalars]
  | (key, value) :: rest => by
      rw [encodeFields, encodeFields, List.cons.injEq, Prod.mk.injEq, fieldScalars,
        List.forall_mem_append, value.encode_eq_iff, encodeFields_eq_iff rest]
      simp

end

end Encode

/-- JSON has a form for the value, or both encoders use its ISO text. -/
def Scalar.Portable : Scalar → Prop
  | .json _ | .date _ => True
  | .datetime _ | .decimal _ => False

theorem DateTime.isoformat_ne (value : DateTime) : value.isoformat "T" ≠ value.isoformat " " := by
  intro heq
  have htail := congrArg String.toList heq
  simp only [isoformat, String.toList_append] at htail
  exact absurd (List.cons.inj (List.append_cancel_left htail)).1 (by decide)

theorem Scalar.jsonable_eq_dumped_iff (value : Scalar) :
    value.jsonable = value.dumped ↔ value.Portable := by
  cases value with
  | json value => simp [jsonable, dumped, Portable]
  | date value => simp [jsonable, dumped, Portable]
  | datetime value => simp [jsonable, dumped, Portable, value.isoformat_ne]
  | decimal n => simp [jsonable, dumped, Portable]

/-- The body of a response is what the cache gives back exactly if no time and
no decimal is inside. -/
theorem PyValue.jsonable_eq_dumped_iff (value : PyValue) :
    value.jsonable = value.dumped ↔ ∀ leaf ∈ value.scalars, leaf.Portable := by
  rw [jsonable, dumped, encode_eq_iff]
  simp only [Scalar.jsonable_eq_dumped_iff]

theorem mem_itemScalars {leaf : Scalar} {items : List PyValue} :
    leaf ∈ itemScalars items ↔ ∃ item ∈ items, leaf ∈ item.scalars := by
  induction items with
  | nil => simp [itemScalars]
  | cons item rest ih => simp [itemScalars, ih]

theorem mem_fieldScalars {leaf : Scalar} {fields : List (String × PyValue)} :
    leaf ∈ fieldScalars fields ↔ ∃ field ∈ fields, leaf ∈ field.2.scalars := by
  induction fields with
  | nil => simp [fieldScalars]
  | cons field rest ih =>
      obtain ⟨key, value⟩ := field
      simp [fieldScalars, ih]

theorem Row.mem_scalars {row : Row} {leaf : Scalar} :
    leaf ∈ row.toPy.scalars ↔ ∃ field ∈ row, field.2 = leaf := by
  simp [toPy, PyValue.scalars, mem_fieldScalars, eq_comm]

end Python
