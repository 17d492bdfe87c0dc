import Mathlib.Data.List.Basic
import Mathlib.Data.List.Lex
import Mathlib.Tactic.Common
import Mathlib.Tactic.Ring

/-!
# Decimals of a fixed width

Numbers that are written with the same number of digits are ordered as their texts are.
-/

namespace Foundation

/-- The digits of a number, with zeros in front up to the width. -/
def padded (width n : Nat) : List Char :=
  List.replicate (width - (Nat.toDigits 10 n).length) '0' ++ Nat.toDigits 10 n

/-- The codes of the characters, by which texts are compared. -/
def codes (text : List Char) : List Nat := text.map Char.toNat

variable {width n m : Nat}

theorem isDigit_of_mem_padded {c : Char} (hc : c ∈ padded width n) : c.isDigit = true := by
  rcases List.mem_append.mp hc with hzero | hdigit
  · rw [List.eq_of_mem_replicate hzero]
    rfl
  · exact Nat.isDigit_of_mem_toDigits (Nat.succ_pos 9) (Nat.le_refl 10) hdigit

theorem padded_ne_nil (width n : Nat) : padded width n ≠ [] :=
  List.append_ne_nil_of_right_ne_nil _ Nat.toDigits_ne_nil

theorem length_padded (hwidth : 0 < width) (hn : n < 10 ^ width) :
    (padded width n).length = width := by
  have hle : (Nat.toDigits 10 n).length ≤ width :=
    (Nat.length_toDigits_le_iff (by decide) hwidth).mpr hn
  rw [padded, List.length_append, List.length_replicate, Nat.sub_add_cancel hle]

theorem ofDigitChars_padded (width n : Nat) : Nat.ofDigitChars 10 (padded width n) 0 = n := by
  rw [padded, Nat.ofDigitChars_append, Nat.ofDigitChars_replicate_zero, Nat.mul_zero,
    Nat.ofDigitChars_ten_toDigits]

/-- No zeros are put in front of as many digits. -/
theorem padded_eq_toDigits (h : 10 ^ (width - 1) ≤ n) (hwidth : 1 < width) :
    padded width n = Nat.toDigits 10 n := by
  have hle : ¬ (Nat.toDigits 10 n).length ≤ width - 1 := by
    rw [Nat.length_toDigits_le_iff (by decide) (Nat.sub_pos_of_lt hwidth)]
    exact Nat.not_lt.mpr h
  have hnone : width - (Nat.toDigits 10 n).length = 0 := by omega
  rw [padded, hnone]
  rfl

theorem ofDigitChars_cons_eq (c : Char) (rest : List Char) :
    Nat.ofDigitChars 10 (c :: rest) 0 =
      (c.toNat - '0'.toNat) * 10 ^ rest.length + Nat.ofDigitChars 10 rest 0 := by
  rw [Nat.ofDigitChars_cons, Nat.ofDigitChars_eq_ofDigitChars_zero]
  ring

/-- The value of a digit. -/
theorem toNat_digit {c : Char} (hc : c.isDigit = true) : c.toNat - '0'.toNat ≤ 9 ∧
    '0'.toNat ≤ c.toNat := by
  simp only [Char.isDigit, Bool.and_eq_true, decide_eq_true_eq] at hc
  have hhigh : c.toNat ≤ 57 := hc.2
  exact ⟨Nat.sub_le_sub_right hhigh 48, hc.1⟩

/-- Of two numbers in positional notation the leading parts decide, unless they are the
same. -/
theorem mul_add_lt_iff {base x y a b : Nat} (hx : x < base) (hy : y < base) :
    a * base + x < b * base + y ↔ a < b ∨ a = b ∧ x < y := by
  rcases lt_trichotomy a b with hlt | rfl | hgt
  · have hstep : (a + 1) * base ≤ b * base := Nat.mul_le_mul_right base hlt
    rw [Nat.add_mul, Nat.one_mul] at hstep
    omega
  · omega
  · have hstep : (b + 1) * base ≤ a * base := Nat.mul_le_mul_right base hgt
    rw [Nat.add_mul, Nat.one_mul] at hstep
    omega

theorem ofDigitChars_lt {digits : List Char} (hdigits : ∀ c ∈ digits, c.isDigit = true) :
    Nat.ofDigitChars 10 digits 0 < 10 ^ digits.length := by
  induction digits with
  | nil => exact Nat.one_pos
  | cons c rest ih =>
      obtain ⟨hc, hrest⟩ := List.forall_mem_cons.mp hdigits
      have hlow := ih hrest
      have hlead := Nat.mul_le_mul_right (10 ^ rest.length) (toNat_digit hc).1
      rw [ofDigitChars_cons_eq, List.length_cons, Nat.pow_succ]
      omega

/-- Texts of digits of one length are ordered as the numbers are. -/
theorem codes_lt_iff {left right : List Char} (hleft : ∀ c ∈ left, c.isDigit = true)
    (hright : ∀ c ∈ right, c.isDigit = true) (hlength : left.length = right.length) :
    codes left < codes right ↔
      Nat.ofDigitChars 10 left 0 < Nat.ofDigitChars 10 right 0 := by
  induction left generalizing right with
  | nil =>
      obtain rfl := List.length_eq_zero_iff.mp hlength.symm
      simp [codes]
  | cons c left ih =>
      cases right with
      | nil => cases hlength
      | cons d right =>
          obtain ⟨hc, hleft⟩ := List.forall_mem_cons.mp hleft
          obtain ⟨hd, hright⟩ := List.forall_mem_cons.mp hright
          have hsame : left.length = right.length := Nat.succ.inj hlength
          have hlow := (toNat_digit hc).2
          have hlow' := (toNat_digit hd).2
          rw [ofDigitChars_cons_eq, ofDigitChars_cons_eq, hsame,
            mul_add_lt_iff (hsame ▸ ofDigitChars_lt hleft) (ofDigitChars_lt hright),
            ← ih hleft hright hsame, codes, List.map_cons, codes, List.map_cons,
            List.cons_lt_cons_iff]
          refine or_congr (by omega) (and_congr_left fun _ => by omega)

/-- Parts of one length decide before what follows them. -/
theorem append_lt_append_iff {left right : List Nat} (hlength : left.length = right.length)
    (more rest : List Nat) :
    left ++ more < right ++ rest ↔ left < right ∨ left = right ∧ more < rest := by
  induction left generalizing right with
  | nil =>
      obtain rfl := List.length_eq_zero_iff.mp hlength.symm
      simp
  | cons a left ih =>
      cases right with
      | nil => cases hlength
      | cons b right =>
          simp only [List.cons_append, List.cons_lt_cons_iff, List.cons.injEq,
            ih (Nat.succ.inj hlength)]
          tauto

/-- Numbers of the same width. -/
theorem codes_padded_lt_iff (hwidth : 0 < width) (hn : n < 10 ^ width) (hm : m < 10 ^ width) :
    codes (padded width n) < codes (padded width m) ↔ n < m := by
  rw [codes_lt_iff (fun _ => isDigit_of_mem_padded) (fun _ => isDigit_of_mem_padded)
    (by rw [length_padded hwidth hn, length_padded hwidth hm]), ofDigitChars_padded,
    ofDigitChars_padded]

theorem padded_inj (h : padded width n = padded width m) : n = m := by
  rw [← ofDigitChars_padded width n, h, ofDigitChars_padded]

end Foundation
