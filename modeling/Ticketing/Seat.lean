import Mathlib.Data.List.Sort
import Ticketing.Python.Value

/-!
# Seat positions and their keys

Seats travel as text: the write API formats a position as `row-col`, the worker
parses the text again. A `Seat` is a position with both coordinates positive,
so nothing behind the parser has to ask for that.
-/

namespace Ticketing

open Python

/-- A seat position, counted from one. -/
structure Seat where
  row : Nat
  col : Nat
  row_pos : 0 < row
  col_pos : 0 < col
deriving DecidableEq, Repr

namespace Seat

@[ext] theorem ext {left right : Seat} (hrow : left.row = right.row)
    (hcol : left.col = right.col) : left = right := by
  cases left
  cases right
  cases hrow
  cases hcol
  rfl

/-- The text `f"{r}-{c}"`. -/
def key (seat : Seat) : String := toString seat.row ++ "-" ++ toString seat.col

/-- Both coordinates are short enough for Python to write them as text. -/
def Writable (seat : Seat) : Prop :=
  (Nat.toDigits 10 seat.row).length ≤ maxStrDigits ∧
    (Nat.toDigits 10 seat.col).length ≤ maxStrDigits

end Seat

/-- `_to_int(text)` with the default 0. -/
def toIntOfStr (text : List Char) : Int := (intOfStr text).getD 0

/-- `_parse_seat_key`, of which the worker and both write modules hold a copy. -/
def parseSeatKey (value : Json) : Option Seat :=
  let text := (value.orElse (.str "")).toStr
  match (stripStr text.toList).splitOn '-' with
  | [first, second] =>
      let row := toIntOfStr first
      let col := toIntOfStr second
      if h : 0 < row ∧ 0 < col then
        some ⟨row.toNat, col.toNat, by omega, by omega⟩
      else none
  | _ => none

/-- `[s for s in map(_parse_seat_key, seats) if s]`. -/
def parseSeats (seats : List Json) : List Seat := seats.filterMap parseSeatKey

theorem toIntOfStr_of_pos {text : List Char} (h : 0 < toIntOfStr text) :
    intOfStr text = some (toIntOfStr text) := by
  unfold toIntOfStr at h ⊢
  cases hint : intOfStr text with
  | none => simp [hint] at h
  | some n => rfl

/-- A seat that was parsed can be written again. -/
theorem parseSeatKey_writable {value : Json} {seat : Seat} (h : parseSeatKey value = some seat) :
    seat.Writable := by
  unfold parseSeatKey at h
  dsimp only at h
  split at h
  next first second _ =>
    split at h
    next hpos =>
      obtain rfl := Option.some.inj h
      have hrow := length_toDigits_of_intOfStr (toIntOfStr_of_pos hpos.1)
      have hcol := length_toDigits_of_intOfStr (toIntOfStr_of_pos hpos.2)
      have habs : ∀ n : Int, 0 < n → n.natAbs = n.toNat := fun n hn => by omega
      rw [habs _ hpos.1] at hrow
      rw [habs _ hpos.2] at hcol
      exact ⟨hrow, hcol⟩
    next => cases h
  next => cases h

theorem isDigit_of_mem_toDigits {n : Nat} {c : Char} (h : c ∈ Nat.toDigits 10 n) :
    c.isDigit = true :=
  Nat.isDigit_of_mem_toDigits (by decide) (by decide) h

theorem Seat.toList_key (seat : Seat) :
    seat.key.toList = Nat.toDigits 10 seat.row ++ '-' :: Nat.toDigits 10 seat.col := by
  simp [Seat.key]

theorem Seat.splitOn_key (seat : Seat) :
    seat.key.toList.splitOn '-' = [Nat.toDigits 10 seat.row, Nat.toDigits 10 seat.col] := by
  have hdash : ∀ n, ∀ c ∈ Nat.toDigits 10 n, (c == '-') = false := by
    intro n c hc
    rw [beq_eq_false_iff_ne]
    rintro rfl
    exact absurd (isDigit_of_mem_toDigits hc) (by decide)
  rw [seat.toList_key, List.splitOn,
    List.splitOnP_append_cons_of_forall_mem (hdash seat.row) '-' (by decide),
    List.splitOnP_eq_singleton (hdash seat.col)]

/-- Different seats have different keys. -/
theorem Seat.key_injective : Function.Injective Seat.key := by
  intro left right hkey
  have hsplit := left.splitOn_key
  rw [hkey, right.splitOn_key] at hsplit
  simp only [List.cons.injEq, and_true] at hsplit
  apply Seat.ext
  · rw [← Nat.ofDigitChars_ten_toDigits (n := left.row), ← hsplit.1,
      Nat.ofDigitChars_ten_toDigits]
  · rw [← Nat.ofDigitChars_ten_toDigits (n := left.col), ← hsplit.2,
      Nat.ofDigitChars_ten_toDigits]

/-- The key of a writable seat is parsed back to the seat. -/
theorem parseSeatKey_key {seat : Seat} (h : seat.Writable) :
    parseSeatKey (.str seat.key) = some seat := by
  have hspace : ∀ c ∈ seat.key.toList, isStripSpace c = false := by
    intro c hc
    rw [seat.toList_key, List.mem_append, List.mem_cons] at hc
    rcases hc with hc | rfl | hc
    · exact isStripSpace_of_isDigit (isDigit_of_mem_toDigits hc)
    · decide
    · exact isStripSpace_of_isDigit (isDigit_of_mem_toDigits hc)
  have htruthy : (Json.str seat.key).truthy = true := by
    simp only [Json.truthy, decide_eq_true_eq]
    intro hempty
    have := congrArg String.toList hempty
    rw [seat.toList_key] at this
    simp at this
  have hstrip : stripStr seat.key.toList = seat.key.toList := trim_eq_self hspace
  have hrow : toIntOfStr (Nat.toDigits 10 seat.row) = seat.row := by
    rw [toIntOfStr, intOfStr_toDigits h.1, Option.getD_some]
  have hcol : toIntOfStr (Nat.toDigits 10 seat.col) = seat.col := by
    rw [toIntOfStr, intOfStr_toDigits h.2, Option.getD_some]
  have hpos : (0 : Int) < seat.row ∧ (0 : Int) < seat.col :=
    ⟨Int.ofNat_lt.mpr seat.row_pos, Int.ofNat_lt.mpr seat.col_pos⟩
  unfold parseSeatKey
  simp only [Json.orElse_of_truthy htruthy, Json.toStr_str, hstrip, seat.splitOn_key, hrow, hcol,
    hpos, and_self, ↓reduceDIte, Int.toNat_natCast]

/-- A list of writable seats survives the trip through a message. -/
theorem parseSeats_map_key {seats : List Seat} (h : ∀ seat ∈ seats, seat.Writable) :
    parseSeats (seats.map fun seat => .str seat.key) = seats := by
  induction seats with
  | nil => rfl
  | cons seat rest ih =>
      rw [parseSeats, List.map_cons,
        List.filterMap_cons_some (parseSeatKey_key (h seat List.mem_cons_self))]
      exact congrArg (seat :: ·) (ih fun other hother => h other (List.mem_cons_of_mem seat hother))

example : parseSeatKey (.str " 3-0_4") = some ⟨3, 4, by decide, by decide⟩ := by decide

/-! ## The order of seats -/

/-- By row, then by column. -/
def Seat.Precedes (left right : Seat) : Prop :=
  left.row < right.row ∨ left.row = right.row ∧ left.col ≤ right.col

instance : DecidableRel Seat.Precedes := fun _ _ => inferInstanceAs (Decidable (_ ∨ _))

instance : IsTrans Seat Seat.Precedes where
  trans _ _ _ := by
    unfold Seat.Precedes
    omega

instance : Std.Total Seat.Precedes where
  total _ _ := by
    unfold Seat.Precedes
    omega

instance : Std.Antisymm Seat.Precedes where
  antisymm left right h h' := by
    unfold Seat.Precedes at h h'
    exact Seat.ext (by omega) (by omega)

/-- The keys of seats in their order. -/
def sortedKeys (seats : List Seat) : List String :=
  (seats.insertionSort Seat.Precedes).map Seat.key

theorem mem_sortedKeys {seats : List Seat} {key : String} :
    key ∈ sortedKeys seats ↔ ∃ seat ∈ seats, seat.key = key := by
  simp [sortedKeys]

theorem sortedKeys_nodup {seats : List Seat} (hnodup : seats.Nodup) :
    (sortedKeys seats).Nodup :=
  ((List.perm_insertionSort _ seats).nodup_iff.mpr hnodup).map Seat.key_injective

@[simp] theorem sortedKeys_length (seats : List Seat) :
    (sortedKeys seats).length = seats.length := by
  simp [sortedKeys]

@[simp] theorem sortedKeys_nil : sortedKeys [] = [] := rfl

end Ticketing
