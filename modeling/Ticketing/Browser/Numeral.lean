import Mathlib.Data.Nat.Prime.Basic
import Mathlib.Tactic.Linarith
import Mathlib.Tactic.NormNum
import Mathlib.Tactic.Positivity
import Mathlib.Tactic.Ring
import Ticketing.Browser.Value

/-!
# Decimal numerals

What a decimal number can be written as, with the number that it denotes. `Number()`
reads every numeral as this number, and `String()` of a number is one of its numerals.
-/

namespace JavaScript

open Python Ticketing

/-- A sign, which may be left out. -/
inductive NumeralSign where
  | none
  | plus
  | minus
deriving DecidableEq, Repr

def NumeralSign.text : NumeralSign → List Char
  | .none => []
  | .plus => ['+']
  | .minus => ['-']

def NumeralSign.apply {α : Type} [Neg α] (value : α) : NumeralSign → α
  | .none | .plus => value
  | .minus => -value

/-- The part of a numeral from the letter of the exponent on. -/
structure NumeralExponent where
  letter : Char
  sign : NumeralSign
  digits : List Char
  letter_eq : letter = 'e' ∨ letter = 'E'
  digits_ne : digits ≠ []
  isDigit : ∀ c ∈ digits, c.isDigit = true

namespace NumeralExponent

def text (exponent : NumeralExponent) : List Char :=
  exponent.letter :: (exponent.sign.text ++ exponent.digits)

def value (exponent : NumeralExponent) : Int :=
  exponent.sign.apply ((Nat.ofDigitChars 10 exponent.digits 0 : Nat) : Int)

end NumeralExponent

/-- Digits before the point, behind it, or on both sides. -/
structure Numeral where
  sign : NumeralSign
  whole : List Char
  fraction : Option (List Char)
  exponent : Option NumeralExponent
  whole_isDigit : ∀ c ∈ whole, c.isDigit = true
  fraction_isDigit : ∀ c ∈ fraction.getD [], c.isDigit = true
  digits_ne : whole ++ fraction.getD [] ≠ []

namespace Numeral

variable (numeral : Numeral)

/-- The numeral without its sign. -/
def literal : List Char :=
  numeral.whole ++ (numeral.fraction.elim [] ('.' :: ·) ++
    numeral.exponent.elim [] NumeralExponent.text)

def text : String := String.ofList (numeral.sign.text ++ numeral.literal)

def magnitude : ℚ :=
  (Nat.ofDigitChars 10 (numeral.whole ++ numeral.fraction.getD []) 0 : Nat) *
    (10 : ℚ) ^ ((numeral.exponent.elim 0 NumeralExponent.value : Int) -
      (numeral.fraction.getD []).length)

def value : ℚ := numeral.sign.apply numeral.magnitude

end Numeral

/-! ## Numerals are read -/

theorem mem_signText {sign : NumeralSign} {c : Char} (hc : c ∈ sign.text) : c = '+' ∨ c = '-' := by
  cases sign with
  | none => cases hc
  | plus => exact .inl (List.mem_singleton.mp hc)
  | minus => exact .inr (List.mem_singleton.mp hc)

theorem digitValue_of_isDigit {c : Char} (h : c.isDigit = true) : digitValue c = c.toNat - 48 :=
  if_pos h

theorem natOfRadix_digits {digits : List Char} (hne : digits ≠ [])
    (hdigits : ∀ c ∈ digits, c.isDigit = true) :
    natOfRadix 10 digits = some (Nat.ofDigitChars 10 digits 0) := by
  have hsmall : (digits.all fun c => decide (digitValue c < 10)) = true := by
    rw [List.all_eq_true]
    intro c hc
    obtain ⟨_, hhigh⟩ := (isDigit_iff_toNat c).mp (hdigits c hc)
    rw [digitValue_of_isDigit (hdigits c hc), decide_eq_true_eq]
    omega
  have hfold : ∀ start, digits.foldl (fun n c => 10 * n + digitValue c) start =
      Nat.ofDigitChars 10 digits start := by
    clear hne hsmall
    intro start
    induction digits generalizing start with
    | nil => rfl
    | cons c rest ih =>
        obtain ⟨hc, hrest⟩ := List.forall_mem_cons.mp hdigits
        rw [List.foldl_cons, Nat.ofDigitChars_cons, ih hrest, digitValue_of_isDigit hc]
        rfl
  rw [natOfRadix, if_pos ⟨hne, hsmall⟩, hfold]

/-- Digits end where something else begins. -/
theorem span_digits {digits rest : List Char} (hdigits : ∀ c ∈ digits, c.isDigit = true)
    (hrest : ∀ c ∈ rest.head?, c.isDigit = false) :
    (digits ++ rest).takeWhile Char.isDigit = digits ∧
      (digits ++ rest).dropWhile Char.isDigit = rest := by
  rw [List.takeWhile_append_of_pos hdigits, List.dropWhile_append_of_pos hdigits]
  cases rest with
  | nil => exact ⟨List.append_nil _, rfl⟩
  | cons c rest =>
      have hc : ¬ c.isDigit = true := by
        rw [hrest c rfl]
        decide
      rw [List.takeWhile_cons_of_neg hc, List.dropWhile_cons_of_neg hc]
      exact ⟨List.append_nil _, rfl⟩

theorem ne_of_isDigit {c other : Char} (h : c.isDigit = true) (hother : other.isDigit = false) :
    c ≠ other := by
  rintro rfl
  rw [h] at hother
  cases hother

theorem exponentOfText_text (exponent : NumeralExponent) :
    exponentOfText (exponent.sign.text ++ exponent.digits) = some exponent.value := by
  have hdigits := natOfRadix_digits exponent.digits_ne exponent.isDigit
  unfold NumeralExponent.value
  cases hsign : exponent.sign with
  | minus =>
      change (natOfRadix 10 exponent.digits).map _ = _
      rw [hdigits]
      rfl
  | plus =>
      change (natOfRadix 10 exponent.digits).map _ = _
      rw [hdigits]
      rfl
  | none =>
      change exponentOfText exponent.digits = _
      unfold exponentOfText
      split
      next rest heq =>
        exact absurd (exponent.isDigit '-' (by rw [heq]; exact List.mem_cons_self)) (by decide)
      next rest heq =>
        exact absurd (exponent.isDigit '+' (by rw [heq]; exact List.mem_cons_self)) (by decide)
      next =>
        rw [hdigits]
        rfl

/-! ## The parts of a literal -/

/-- The exponent that the end of a literal denotes. -/
def tailExponent : List Char → Option Int
  | [] => some 0
  | c :: digits => if c = 'e' ∨ c = 'E' then exponentOfText digits else none

/-- The value of the digits on both sides of the point, and of what follows them. -/
def literalValue (whole fraction tail : List Char) : Option ℚ :=
  (natOfRadix 10 (whole ++ fraction)).bind fun mantissa =>
    (tailExponent tail).map fun exponent : Int =>
      mantissa * (10 : ℚ) ^ (exponent - fraction.length)

theorem decimalOfText_point {text rest : List Char}
    (hrest : text.dropWhile Char.isDigit = '.' :: rest) :
    decimalOfText text = literalValue (text.takeWhile Char.isDigit)
      (rest.takeWhile Char.isDigit) (rest.dropWhile Char.isDigit) := by
  unfold decimalOfText literalValue
  rw [hrest]
  cases hmantissa : natOfRadix 10 (text.takeWhile Char.isDigit ++ rest.takeWhile Char.isDigit) with
  | none => simp [hmantissa]
  | some mantissa =>
      cases htail : rest.dropWhile Char.isDigit with
      | nil => simp [hmantissa, htail, tailExponent]
      | cons c digits =>
          by_cases hletter : c = 'e' ∨ c = 'E'
          · simp [hmantissa, htail, tailExponent, hletter, Option.map_eq_bind]
          · simp [hmantissa, htail, tailExponent, hletter]

theorem decimalOfText_plain {text : List Char}
    (hpoint : ∀ c ∈ (text.dropWhile Char.isDigit).head?, c ≠ '.') :
    decimalOfText text =
      literalValue (text.takeWhile Char.isDigit) [] (text.dropWhile Char.isDigit) := by
  unfold decimalOfText literalValue
  rw [List.append_nil]
  cases htail : text.dropWhile Char.isDigit with
  | nil =>
      cases hmantissa : natOfRadix 10 (text.takeWhile Char.isDigit) with
      | none => simp [hmantissa]
      | some mantissa => simp [hmantissa, tailExponent]
  | cons c digits =>
      have hc : c ≠ '.' := hpoint c (by rw [htail]; rfl)
      cases hmantissa : natOfRadix 10 (text.takeWhile Char.isDigit) with
      | none => simp [hmantissa, hc]
      | some mantissa =>
          by_cases hletter : c = 'e' ∨ c = 'E'
          · simp [hmantissa, hc, tailExponent, hletter, Option.map_eq_bind]
          · simp [hmantissa, hc, tailExponent, hletter]

section Numerals

variable (numeral : Numeral)

theorem head_exponent : ∀ c ∈ (numeral.exponent.elim [] NumeralExponent.text).head?,
    c.isDigit = false ∧ c ≠ '.' := by
  intro c hc
  cases hexponent : numeral.exponent with
  | none =>
      rw [hexponent] at hc
      cases hc
  | some exponent =>
      rw [hexponent] at hc
      obtain rfl : exponent.letter = c := Option.some.inj hc
      rcases exponent.letter_eq with hletter | hletter <;>
        · rw [hletter]
          decide

theorem tailExponent_text :
    tailExponent (numeral.exponent.elim [] NumeralExponent.text) =
      some (numeral.exponent.elim 0 NumeralExponent.value) := by
  cases numeral.exponent with
  | none => rfl
  | some exponent =>
      change (if exponent.letter = 'e' ∨ exponent.letter = 'E' then _ else none) = _
      rw [if_pos exponent.letter_eq, exponentOfText_text]
      rfl

theorem decimalOfText_literal : decimalOfText numeral.literal = some numeral.magnitude := by
  have hhead := head_exponent numeral
  have hdigits := numeral.fraction_isDigit
  have hmantissa := natOfRadix_digits numeral.digits_ne
    (List.forall_mem_append.mpr ⟨numeral.whole_isDigit, numeral.fraction_isDigit⟩)
  unfold Numeral.literal Numeral.magnitude
  cases hfraction : numeral.fraction with
  | some digits =>
      rw [hfraction, Option.getD_some] at hdigits hmantissa
      have hpoint : ∀ c ∈ ('.' :: (digits ++
          numeral.exponent.elim [] NumeralExponent.text)).head?, c.isDigit = false := by
        rintro c ⟨⟩
        decide
      obtain ⟨htake, hdrop⟩ := span_digits hdigits fun c hc => (hhead c hc).1
      obtain ⟨hwhole, hrest⟩ := span_digits numeral.whole_isDigit hpoint
      change decimalOfText (numeral.whole ++ '.' :: (digits ++ _)) = _
      rw [decimalOfText_point hrest, hwhole, htake, hdrop, literalValue, hmantissa,
        tailExponent_text]
      rfl
  | none =>
      rw [hfraction, Option.getD_none] at hmantissa
      obtain ⟨hwhole, hrest⟩ := span_digits numeral.whole_isDigit fun c hc => (hhead c hc).1
      change decimalOfText (numeral.whole ++ numeral.exponent.elim [] NumeralExponent.text) = _
      rw [decimalOfText_plain (by rw [hrest]; exact fun c hc => (hhead c hc).2), hwhole, hrest,
        literalValue, hmantissa, tailExponent_text]
      rfl

/-- What a numeral is written with. -/
theorem mem_literal {c : Char} (hc : c ∈ numeral.literal) :
    c.isDigit = true ∨ c ∈ ['.', 'e', 'E', '+', '-'] := by
  unfold Numeral.literal at hc
  rcases List.mem_append.mp hc with hwhole | hc
  · exact .inl (numeral.whole_isDigit c hwhole)
  rcases List.mem_append.mp hc with hfraction | hexponent
  · have hdigits := numeral.fraction_isDigit
    cases hsome : numeral.fraction with
    | none =>
        rw [hsome] at hfraction
        cases hfraction
    | some digits =>
        rw [hsome] at hfraction hdigits
        rcases List.mem_cons.mp hfraction with rfl | hmem
        · exact .inr List.mem_cons_self
        · exact .inl (hdigits c hmem)
  · cases hsome : numeral.exponent with
    | none =>
        rw [hsome] at hexponent
        cases hexponent
    | some exponent =>
        rw [hsome] at hexponent
        rcases List.mem_cons.mp hexponent with rfl | hmem
        · rcases exponent.letter_eq with hletter | hletter <;> simp [hletter]
        rcases List.mem_append.mp hmem with hsign | hdigits
        · rcases mem_signText hsign with rfl | rfl
          · exact .inr (by decide)
          · exact .inr (by decide)
        · exact .inl (exponent.isDigit c hdigits)

theorem isTrimSpace_of_mem_literal {c : Char} (hc : c ∈ numeral.literal) :
    isTrimSpace c = false := by
  rcases mem_literal numeral hc with hdigit | hother
  · obtain ⟨hlow, hhigh⟩ := (isDigit_iff_toNat c).mp hdigit
    have hspace := isIntSpace_of_isDigit hdigit
    have hmark : c.toNat ≠ 0xfeff := by omega
    simp [isTrimSpace, hspace, hmark]
  · simp only [List.mem_cons, List.not_mem_nil, or_false] at hother
    rcases hother with rfl | rfl | rfl | rfl | rfl <;> decide

/-- A literal does not go on like a number in another base. -/
theorem not_mem_literal {c : Char} (hdigit : c.isDigit = false)
    (hother : c ∉ ['.', 'e', 'E', '+', '-']) : c ∉ numeral.literal := by
  intro hc
  rcases mem_literal numeral hc with htrue | hmem
  · rw [hdigit] at htrue
    cases htrue
  · exact hother hmem

theorem head_literal : ∃ c rest, numeral.literal = c :: rest ∧ c ≠ '-' ∧ c ≠ '+' := by
  unfold Numeral.literal
  cases hwhole : numeral.whole with
  | cons c whole =>
      have hdigit := numeral.whole_isDigit c (by rw [hwhole]; exact List.mem_cons_self)
      exact ⟨c, _, rfl, ne_of_isDigit hdigit (by decide), ne_of_isDigit hdigit (by decide)⟩
  | nil =>
      cases hfraction : numeral.fraction with
      | some digits => exact ⟨'.', _, rfl, by decide, by decide⟩
      | none =>
          have hne := numeral.digits_ne
          rw [hwhole, hfraction] at hne
          exact absurd rfl hne

/-- Every numeral is read as the number that it denotes. -/
theorem numberOfText_text : numberOfText numeral.text = some numeral.value := by
  have hliteral := decimalOfText_literal numeral
  obtain ⟨c, rest, hhead, hminus, hplus⟩ := head_literal numeral
  have htrim : trim isTrimSpace numeral.text.toList = numeral.sign.text ++ numeral.literal := by
    rw [Numeral.text, String.toList_ofList]
    refine trim_eq_self fun c hc => ?_
    rcases List.mem_append.mp hc with hsign | hmem
    · rcases mem_signText hsign with rfl | rfl
      · decide
      · decide
    · exact isTrimSpace_of_mem_literal numeral hmem
  unfold numberOfText Numeral.value
  rw [htrim]
  cases numeral.sign with
  | minus =>
      change (decimalOfText numeral.literal).map _ = _
      rw [hliteral]
      rfl
  | plus => exact hliteral
  | none =>
      rw [NumeralSign.text, List.nil_append]
      have hletters : ∀ c ∈ ['x', 'X', 'o', 'O', 'b', 'B'], ∀ rest,
          numeral.literal ≠ '0' :: c :: rest := by
        intro c hc rest heq
        have hmem : c ∈ numeral.literal := by
          rw [heq]
          exact List.mem_cons_of_mem _ List.mem_cons_self
        simp only [List.mem_cons, List.not_mem_nil, or_false] at hc
        rcases hc with rfl | rfl | rfl | rfl | rfl | rfl <;>
          exact not_mem_literal numeral (by decide) (by decide) hmem
      split
      next heq =>
        rw [hhead] at heq
        cases heq
      next heq => exact absurd heq (hletters 'x' (by decide) _)
      next heq => exact absurd heq (hletters 'X' (by decide) _)
      next heq => exact absurd heq (hletters 'o' (by decide) _)
      next heq => exact absurd heq (hletters 'O' (by decide) _)
      next heq => exact absurd heq (hletters 'b' (by decide) _)
      next heq => exact absurd heq (hletters 'B' (by decide) _)
      next heq =>
        rw [hhead] at heq
        exact absurd (List.cons.inj heq).1 hminus
      next heq =>
        rw [hhead] at heq
        exact absurd (List.cons.inj heq).1 hplus
      next => exact hliteral

end Numerals

/-! ## Numbers are written as numerals -/

/-- A divisor of a power of ten divides one with an exponent that is found. -/
theorem dvd_ten_pow_log2 {k : Nat} (n : Nat) (hdvd : n ∣ 10 ^ k) : n ∣ 10 ^ Nat.log2 n := by
  induction n using Nat.strongRecOn with
  | ind n ih =>
      by_cases hone : n = 1
      · rw [hone]
        exact one_dvd _
      · obtain ⟨p, hprime, m, rfl⟩ := Nat.exists_prime_and_dvd hone
        have hp : p ∣ 10 := hprime.dvd_of_dvd_pow ((Nat.dvd_mul_right p m).trans hdvd)
        have hm : m ∣ 10 ^ k := (Nat.dvd_mul_left m p).trans hdvd
        have hpos : 0 < m := Nat.pos_of_dvd_of_pos hm (by positivity)
        have htwo := hprime.two_le
        have hless : m < p * m := by nlinarith
        have hlog : Nat.log2 m + 1 ≤ Nat.log2 (p * m) := by
          rw [Nat.le_log2 (by positivity), Nat.pow_succ]
          have hle := Nat.log2_self_le hpos.ne'
          nlinarith
        calc p * m ∣ 10 * 10 ^ Nat.log2 m := Nat.mul_dvd_mul hp (ih m hless hm)
          _ = 10 ^ (Nat.log2 m + 1) := (Nat.pow_succ').symm
          _ ∣ 10 ^ Nat.log2 (p * m) := Nat.pow_dvd_pow 10 hlog

/-- A number that has a finite decimal expansion. -/
def IsDecimal (value : ℚ) : Prop := ∃ k, value.den ∣ 10 ^ k

theorem den_dvd_decimalPlaces {value : ℚ} (h : IsDecimal value) :
    value.den ∣ 10 ^ decimalPlaces value := by
  obtain ⟨k, hk⟩ := h
  unfold decimalPlaces
  cases hfind : (List.range (Nat.log2 value.den + 1)).find? fun places =>
      decide (value.den ∣ 10 ^ places) with
  | some places => simpa using List.find?_some hfind
  | none =>
      have hlog := List.find?_eq_none.mp hfind (Nat.log2 value.den)
        (List.mem_range.mpr (Nat.lt_succ_self _))
      exact absurd (dvd_ten_pow_log2 _ hk) (by simpa using hlog)

/-- The digits of the number, and how many of them stand behind the point. -/
theorem abs_eq_digits {value : ℚ} (h : IsDecimal value) :
    |value| = ((value * 10 ^ decimalPlaces value).num.natAbs : ℚ) *
      (10 : ℚ) ^ (-(decimalPlaces value : Int)) := by
  obtain ⟨c, hc⟩ := den_dvd_decimalPlaces h
  have hten : ((10 : ℚ) ^ decimalPlaces value) = value.den * c := by exact_mod_cast hc
  have hwhole : value * 10 ^ decimalPlaces value = ((value.num * c : Int) : ℚ) := by
    rw [hten, ← mul_assoc, Rat.mul_den_eq_num]
    push_cast
    rfl
  have hpos : (0 : ℚ) < 10 ^ decimalPlaces value := by positivity
  rw [zpow_neg, zpow_natCast, eq_mul_inv_iff_mul_eq₀ hpos.ne', hwhole, Rat.num_intCast,
    Nat.cast_natAbs, Int.cast_abs, ← hwhole, abs_mul, abs_of_pos hpos]

/-- The zeros at the end of the digits. -/
theorem exists_trailing_zeros (digits : List Char) :
    ∃ zeros, digits = (digits.reverse.dropWhile (· = '0')).reverse ++ List.replicate zeros '0' := by
  refine ⟨(digits.reverse.takeWhile (· = '0')).length, ?_⟩
  have hzeros : digits.reverse.takeWhile (· = '0') =
      List.replicate (digits.reverse.takeWhile (· = '0')).length '0' := by
    refine List.eq_replicate_of_mem fun c hc => ?_
    simpa using List.all_eq_true.mp List.all_takeWhile c hc
  rw [← List.reverse_inj, List.reverse_append, List.reverse_reverse, List.reverse_replicate,
    ← hzeros, List.takeWhile_append_dropWhile]

theorem toDigits_isDigit {n : Nat} : ∀ c ∈ Nat.toDigits 10 n, c.isDigit = true :=
  fun _ => Nat.isDigit_of_mem_toDigits (by decide) (by decide)

/-- The exponent that `exponentText` writes. -/
def writtenExponent (exponent : Int) : NumeralExponent where
  letter := 'e'
  sign := if exponent < 0 then .minus else .plus
  digits := Nat.toDigits 10 exponent.natAbs
  letter_eq := .inl rfl
  digits_ne := Nat.toDigits_ne_nil
  isDigit := toDigits_isDigit

theorem writtenExponent_text (exponent : Int) : (writtenExponent exponent).text =
    ['e', if exponent < 0 then '-' else '+'] ++ Nat.toDigits 10 exponent.natAbs := by
  unfold NumeralExponent.text writtenExponent
  split <;> rfl

theorem writtenExponent_value (exponent : Int) : (writtenExponent exponent).value = exponent := by
  unfold NumeralExponent.value writtenExponent
  rw [Nat.ofDigitChars_ten_toDigits]
  split
  next hneg =>
    change -(exponent.natAbs : Int) = exponent
    omega
  next hneg =>
    change (exponent.natAbs : Int) = exponent
    omega

/-- The digits of a number, of which so many stand behind the point, as `numberText`
writes them. -/
def pointText (digits : List Char) (places : Nat) : List Char :=
  let point : Int := digits.length - places
  if 21 < point ∨ point ≤ -6 then exponentText digits (point - 1)
  else if point ≤ 0 then '0' :: '.' :: (List.replicate point.natAbs '0' ++ digits)
  else if places = 0 then digits
  else digits.take point.natAbs ++ '.' :: digits.drop point.natAbs

theorem numberText_eq (value : ℚ) :
    numberText value = (if value < 0 then "-" else "") ++ String.ofList (pointText
      (Nat.toDigits 10 (value * 10 ^ decimalPlaces value).num.natAbs) (decimalPlaces value)) :=
  rfl

section Written

variable {digits : List Char} {places : Nat}

/-- With an exponent. -/
theorem exists_exponentText (hdigits : ∀ c ∈ digits, c.isDigit = true)
    (hpos : Nat.ofDigitChars 10 digits 0 ≠ 0) {exponent : Int}
    (hexponent : exponent = digits.length - places - 1) :
    ∃ numeral : Numeral, numeral.literal = exponentText digits exponent ∧
      numeral.magnitude = (Nat.ofDigitChars 10 digits 0 : Nat) * (10 : ℚ) ^ (-(places : Int)) := by
  obtain ⟨zeros, hzeros⟩ := exists_trailing_zeros digits
  unfold exponentText
  generalize (digits.reverse.dropWhile (· = '0')).reverse = kept at hzeros ⊢
  subst hzeros
  rw [Nat.ofDigitChars_append, Nat.ofDigitChars_replicate_zero] at hpos ⊢
  have hpower : ∀ behind : Nat, (behind : Int) + 1 = kept.length →
      ((Nat.ofDigitChars 10 kept 0 : Nat) : ℚ) * (10 : ℚ) ^ (exponent - behind) =
        ((10 ^ zeros * Nat.ofDigitChars 10 kept 0 : Nat) : ℚ) * (10 : ℚ) ^ (-(places : Int)) := by
    intro behind hbehind
    have hshift : exponent - behind = zeros + -(places : Int) := by
      rw [List.length_append, List.length_replicate] at hexponent
      push_cast at hexponent
      omega
    rw [hshift, zpow_add₀ (by norm_num), zpow_natCast]
    push_cast
    ring
  have hkept := (List.forall_mem_append.mp hdigits).1
  match kept with
  | [] => exact absurd (Nat.mul_zero _) hpos
  | [first] =>
      refine ⟨⟨.none, [first], none, some (writtenExponent exponent), hkept,
        fun c hc => absurd hc List.not_mem_nil, List.cons_ne_nil _ _⟩, ?_, ?_⟩
      · unfold Numeral.literal
        rw [Option.elim_some, writtenExponent_text]
        rfl
      · unfold Numeral.magnitude
        rw [Option.elim_some, writtenExponent_value]
        exact hpower 0 rfl
  | first :: second :: rest =>
      obtain ⟨hfirst, hrest⟩ := List.forall_mem_cons.mp hkept
      refine ⟨⟨.none, [first], some (second :: rest), some (writtenExponent exponent),
        List.forall_mem_singleton.mpr hfirst, hrest, List.cons_ne_nil _ _⟩, ?_, ?_⟩
      · unfold Numeral.literal
        rw [Option.elim_some, Option.elim_some, writtenExponent_text]
        simp
      · unfold Numeral.magnitude
        rw [Option.elim_some, writtenExponent_value]
        exact hpower (second :: rest).length (by push_cast [List.length_cons]; ring)

/-- In any of the four ways. -/
theorem exists_pointText (hdigits : ∀ c ∈ digits, c.isDigit = true)
    (hpos : Nat.ofDigitChars 10 digits 0 ≠ 0) :
    ∃ numeral : Numeral, numeral.literal = pointText digits places ∧
      numeral.magnitude = (Nat.ofDigitChars 10 digits 0 : Nat) * (10 : ℚ) ^ (-(places : Int)) := by
  have hne : digits ≠ [] := by
    rintro rfl
    exact hpos rfl
  unfold pointText
  dsimp only
  split
  next => exact exists_exponentText hdigits hpos rfl
  next hshort =>
    split
    next hbefore =>
      -- zeros between the point and the digits
      generalize hcount : (digits.length - places : Int).natAbs = count
      have hzeros : ∀ c ∈ List.replicate count '0' ++ digits, c.isDigit = true := by
        refine List.forall_mem_append.mpr ⟨fun c hc => ?_, hdigits⟩
        rw [List.eq_of_mem_replicate hc]
        decide
      refine ⟨⟨.none, ['0'], some (List.replicate count '0' ++ digits), none,
        List.forall_mem_singleton.mpr (by decide), hzeros, List.cons_ne_nil _ _⟩, ?_, ?_⟩
      · simp [Numeral.literal]
      · have hlength : ((List.replicate count '0' ++ digits).length : Int) = places := by
          rw [List.length_append, List.length_replicate]
          push_cast
          omega
        have hvalue : Nat.ofDigitChars 10 (['0'] ++ (List.replicate count '0' ++ digits)) 0 =
            Nat.ofDigitChars 10 digits 0 := by
          rw [Nat.ofDigitChars_append, Nat.ofDigitChars_append, Nat.ofDigitChars_replicate_zero]
          rfl
        change ((Nat.ofDigitChars 10 (['0'] ++ (List.replicate count '0' ++ digits)) 0 : Nat) : ℚ) *
          (10 : ℚ) ^ ((0 : Int) - ((List.replicate count '0' ++ digits).length : Int)) = _
        rw [hvalue, hlength, Int.zero_sub]
    next hafter =>
      split
      next hwhole =>
        refine ⟨⟨.none, digits, none, none, hdigits, fun c hc => absurd hc List.not_mem_nil,
          by simpa using hne⟩, ?_, ?_⟩
        · simp [Numeral.literal]
        · simp [Numeral.magnitude, hwhole]
      next hplaces =>
        generalize hcount : (digits.length - places : Int).natAbs = count
        have hsplit : digits.take count ++ digits.drop count = digits :=
          List.take_append_drop count digits
        obtain ⟨htake, hdrop⟩ := List.forall_mem_append.mp (hsplit ▸ hdigits)
        refine ⟨⟨.none, digits.take count, some (digits.drop count), none, htake, hdrop,
          by rwa [Option.getD_some, hsplit]⟩, ?_, ?_⟩
        · simp [Numeral.literal]
        · have hlength : ((digits.drop count).length : Int) = places := by
            rw [List.length_drop]
            omega
          change ((Nat.ofDigitChars 10 (digits.take count ++ digits.drop count) 0 : Nat) : ℚ) *
            (10 : ℚ) ^ ((0 : Int) - ((digits.drop count).length : Int)) = _
          rw [hsplit, hlength, Int.zero_sub]

end Written

/-- `String(value)` is a numeral of the value. -/
theorem exists_numeral_numberText {value : ℚ} (h : IsDecimal value) :
    ∃ numeral : Numeral, numeral.text = numberText value ∧ numeral.value = value := by
  by_cases hzero : value = 0
  · subst hzero
    refine ⟨⟨.none, ['0'], none, none, List.forall_mem_singleton.mpr (by decide),
      fun c hc => absurd hc List.not_mem_nil, List.cons_ne_nil _ _⟩, by decide +kernel, ?_⟩
    norm_num [Numeral.value, Numeral.magnitude, NumeralSign.apply, Nat.ofDigitChars]
  · have habs := abs_eq_digits h
    have hread : Nat.ofDigitChars 10
        (Nat.toDigits 10 (value * 10 ^ decimalPlaces value).num.natAbs) 0 =
          (value * 10 ^ decimalPlaces value).num.natAbs := Nat.ofDigitChars_ten_toDigits
    have hpos : Nat.ofDigitChars 10
        (Nat.toDigits 10 (value * 10 ^ decimalPlaces value).num.natAbs) 0 ≠ 0 := by
      rw [hread, Int.natAbs_ne_zero, Rat.num_ne_zero]
      positivity
    obtain ⟨numeral, hliteral, hmagnitude⟩ :=
      @exists_pointText _ (decimalPlaces value) toDigits_isDigit hpos
    rw [hread, ← habs] at hmagnitude
    rw [numberText_eq, ← hliteral]
    by_cases hneg : value < 0
    · refine ⟨{ numeral with sign := .minus }, ?_, ?_⟩
      · rw [if_pos hneg]
        apply String.toList_injective
        simp [Numeral.text, Numeral.literal, NumeralSign.text]
      · change -numeral.magnitude = value
        rw [hmagnitude, abs_of_neg hneg, neg_neg]
    · refine ⟨{ numeral with sign := .none }, ?_, ?_⟩
      · rw [if_neg hneg]
        apply String.toList_injective
        simp [Numeral.text, Numeral.literal, NumeralSign.text]
      · change numeral.magnitude = value
        rw [hmagnitude, abs_of_nonneg (not_lt.mp hneg)]

/-- `Number(String(value))` is the value. -/
theorem numberOfText_numberText {value : ℚ} (h : IsDecimal value) :
    numberOfText (numberText value) = some value := by
  obtain ⟨numeral, htext, hvalue⟩ := exists_numeral_numberText h
  rw [← htext, numberOfText_text, hvalue]

end JavaScript
