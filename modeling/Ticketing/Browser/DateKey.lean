import Ticketing.Browser.Dataset
import Ticketing.Browser.Numeral
import Ticketing.Foundation.Calendar
import Ticketing.Foundation.Decimal

/-!
# Date keys

The booking page keeps its dates as texts. Keys of years with four digits are read as the
days that they are written for, and compare as these do.
-/

namespace Ticketing

open Foundation JavaScript Python

/-! ## Keys -/

/-- The UTF-16 code units of a text, by which `<` compares. -/
def codeUnits (text : String) : List Nat :=
  text.toList.flatMap fun c =>
    if c.toNat < 0x10000 then [c.toNat]
    else [0xd800 + (c.toNat - 0x10000) / 0x400, 0xdc00 + (c.toNat - 0x10000) % 0x400]

def textLt (left right : String) : Bool := codeUnits left < codeUnits right

def pad2 (value : Nat) : String := String.ofList (padded 2 value)

/-- `toDateKey` of the local day. -/
def dateKey (d : Day) : String := toString d.year ++ "-" ++ pad2 d.month ++ "-" ++ pad2 d.day

/-- The day of `new Date(year, monthIndex, date)`. -/
def localDay (year monthIndex date : Int) : Day :=
  let year := if 0 ≤ year ∧ year ≤ 99 then 1900 + year else year
  (Day.first (year + monthIndex / 12) ((monthIndex % 12).toNat + 1) (Nat.le_add_left 1 _)
    (by omega)).addDays (date - 1)

def startOfDayFromDateKey (key : String) : Option Day :=
  match key.toList.splitOn '-' with
  | [first, second, third] =>
      let y := toInt (.string (String.ofList first))
      let m := toInt (.string (String.ofList second))
      let d := toInt (.string (String.ofList third))
      if y = 0 ∨ m = 0 ∨ d = 0 then none else some (localDay y (m - 1) d)
  | _ => none

def addDaysToDateKey (key : String) (deltaDays : Int) : String :=
  match startOfDayFromDateKey key with
  | none => ""
  | some d => dateKey (d.addDays deltaDays)

/-- The year is written with four digits. -/
def FourDigits (d : Day) : Prop := 1000 ≤ d.year ∧ d.year ≤ 9999

section Keys

variable {d other : Day}

theorem toList_toString_year (h : FourDigits d) :
    (toString d.year).toList = padded 4 d.year.toNat := by
  obtain ⟨hlow, hhigh⟩ := h
  have hyear : d.year = (d.year.toNat : Int) := (Int.toNat_of_nonneg (by omega)).symm
  have htext : toString d.year = toString d.year.toNat := by
    rw [hyear]
    rfl
  rw [htext, Nat.toString_eq_ofList_toDigits, String.toList_ofList,
    padded_eq_toDigits (by omega) (by decide)]

theorem toList_dateKey (h : FourDigits d) : (dateKey d).toList =
    padded 4 d.year.toNat ++ '-' :: (padded 2 d.month ++ '-' :: padded 2 d.day) := by
  simp only [dateKey, pad2, String.toList_append, toList_toString_year h, String.toList_ofList,
    List.append_assoc]
  rfl

theorem codeUnits_eq_codes {text : String} (h : ∀ c ∈ text.toList, c.toNat < 0x10000) :
    codeUnits text = codes text.toList := by
  rw [codeUnits, codes, ← List.flatMap_singleton' (text.toList.map Char.toNat), List.flatMap_map]
  refine List.flatMap_congr fun c hc => ?_
  rw [if_pos (h c hc)]

theorem toNat_lt_of_isDigit {c : Char} (h : c.isDigit = true) : c.toNat < 0x10000 := by
  obtain ⟨hle, hge⟩ := toNat_digit h
  have hzero : '0'.toNat = 48 := rfl
  omega

theorem codeUnits_dateKey (h : FourDigits d) : codeUnits (dateKey d) =
    codes (padded 4 d.year.toNat) ++ ('-'.toNat ::
      (codes (padded 2 d.month) ++ ('-'.toNat :: codes (padded 2 d.day)))) := by
  rw [codeUnits_eq_codes, toList_dateKey h]
  · simp [codes]
  · rw [toList_dateKey h]
    simp only [List.mem_append, List.mem_cons]
    rintro c (hc | rfl | hc | rfl | hc)
    · exact toNat_lt_of_isDigit (isDigit_of_mem_padded hc)
    · decide
    · exact toNat_lt_of_isDigit (isDigit_of_mem_padded hc)
    · decide
    · exact toNat_lt_of_isDigit (isDigit_of_mem_padded hc)

/-- The texts compare as the days. -/
theorem textLt_dateKey (h : FourDigits d) (hother : FourDigits other) :
    textLt (dateKey d) (dateKey other) = true ↔ d < other := by
  have hmonth := d.month_le
  have hmonth' := other.month_le
  have hday := d.day_le.trans (daysInMonth_le _ _)
  have hday' := other.day_le.trans (daysInMonth_le _ _)
  obtain ⟨hlow, hhigh⟩ := h
  obtain ⟨hlow', hhigh'⟩ := hother
  have hlength : ∀ {width n m : Nat}, 0 < width → n < 10 ^ width → m < 10 ^ width →
      (codes (padded width n)).length = (codes (padded width m)).length := by
    intro width n m hwidth hn hm
    rw [codes, codes, List.length_map, List.length_map, length_padded hwidth hn,
      length_padded hwidth hm]
  have hinj : ∀ {width n m : Nat}, codes (padded width n) = codes (padded width m) ↔ n = m :=
    fun {width n m} => ⟨fun hcodes =>
      padded_inj (List.map_injective_iff.mpr (fun _ _ => Char.toNat_inj.mp) hcodes), fun hsame => hsame ▸ rfl⟩
  rw [textLt, decide_eq_true_eq, codeUnits_dateKey ⟨hlow, hhigh⟩, codeUnits_dateKey ⟨hlow', hhigh'⟩,
    append_lt_append_iff (hlength (by decide) (by omega) (by omega)), List.cons_lt_cons_iff,
    append_lt_append_iff (hlength (by decide) (by omega) (by omega)), List.cons_lt_cons_iff,
    codes_padded_lt_iff (by decide) (by omega) (by omega),
    codes_padded_lt_iff (by decide) (by omega) (by omega),
    codes_padded_lt_iff (by decide) (by omega) (by omega), hinj, hinj, Day.lt_iff]
  omega

theorem dateKey_inj (h : FourDigits d) (hother : FourDigits other)
    (hkey : dateKey d = dateKey other) : d = other := by
  rcases lt_trichotomy d other with hlt | hsame | hgt
  · rw [← textLt_dateKey h hother, hkey] at hlt
    simp [textLt] at hlt
  · exact hsame
  · rw [← textLt_dateKey hother h, hkey] at hgt
    simp [textLt] at hgt

/-! ## Keys are read -/

/-- `Number()` of a number with zeros in front. -/
theorem toInt_padded (width n : Nat) :
    toInt (.string (String.ofList (padded width n))) = n := by
  let numeral : Numeral := {
    sign := .none
    whole := padded width n
    fraction := none
    exponent := none
    whole_isDigit := fun _ => isDigit_of_mem_padded
    fraction_isDigit := by simp
    digits_ne := by simpa using padded_ne_nil width n }
  have htext : numeral.text = String.ofList (padded width n) := by
    simp [numeral, Numeral.text, Numeral.literal, NumeralSign.text]
  have hvalue : numeral.value = n := by
    simp [numeral, Numeral.value, Numeral.magnitude, NumeralSign.apply, ofDigitChars_padded]
  have hnumber := numberOfText_text numeral
  rw [htext, hvalue] at hnumber
  rw [toInt, Value.toNumber, hnumber]
  simp

theorem localDay_eq (h : 100 ≤ d.year) : localDay d.year ((d.month : Int) - 1) d.day = d := by
  have hmonth := d.month_le
  have hone := d.one_le_month
  have hyear : d.year + ((d.month : Int) - 1) / 12 = d.year := by omega
  have hindex : (((d.month : Int) - 1) % 12).toNat + 1 = d.month := by omega
  unfold localDay
  simp only [show ¬ (0 ≤ d.year ∧ d.year ≤ 99) by omega, if_false]
  apply Day.number_injective
  rw [Day.number_addDays]
  simp only [Day.number, Day.first, hyear, hindex]
  omega

theorem startOfDay_dateKey (h : FourDigits d) : startOfDayFromDateKey (dateKey d) = some d := by
  have hdash : ∀ width n, '-' ∉ padded width n := fun width n hmem =>
    absurd (isDigit_of_mem_padded hmem) (by decide)
  have hsplit : (dateKey d).toList.splitOn '-' =
      [padded 4 d.year.toNat, padded 2 d.month, padded 2 d.day] := by
    rw [toList_dateKey h, List.splitOn_append_cons_self_of_not_mem (hdash _ _),
      List.splitOn_append_cons_self_of_not_mem (hdash _ _), List.splitOn_eq_singleton (hdash _ _)]
  obtain ⟨hlow, _⟩ := h
  have hmonth := d.one_le_month
  have hday := d.one_le_day
  have hyear : (d.year.toNat : Int) = d.year := Int.toNat_of_nonneg (by omega)
  unfold startOfDayFromDateKey
  rw [hsplit]
  simp only [toInt_padded, hyear]
  rw [if_neg (by omega), localDay_eq (by omega)]

theorem addDaysToDateKey_dateKey (h : FourDigits d) (deltaDays : Int) :
    addDaysToDateKey (dateKey d) deltaDays = dateKey (d.addDays deltaDays) := by
  rw [addDaysToDateKey, startOfDay_dateKey h]

end Keys

end Ticketing
