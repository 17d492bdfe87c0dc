import Mathlib.Algebra.Group.Nat.Defs
import Mathlib.Data.List.Basic
import Mathlib.Tactic.Common

/-!
# Reading integers from text

`intOfStr` is Python's `int(text)` for base ten: surrounding whitespace, one
sign, decimal digits of any script with single underscores between them, and
the interpreter's limit on the number of digits. `stripStr` is `str.strip()`,
whose notion of whitespace is slightly wider.
-/

namespace Python

/-- The code points of the zeros of the decimal digits beyond ASCII, each the
first of ten consecutive digits. -/
def wideDigitZeros : List Nat :=
  [0x660, 0x6f0, 0x7c0, 0x966, 0x9e6, 0xa66, 0xae6, 0xb66, 0xbe6, 0xc66, 0xce6, 0xd66,
    0xde6, 0xe50, 0xed0, 0xf20, 0x1040, 0x1090, 0x17e0, 0x1810, 0x1946, 0x19d0, 0x1a80, 0x1a90,
    0x1b50, 0x1bb0, 0x1c40, 0x1c50, 0xa620, 0xa8d0, 0xa900, 0xa9d0, 0xa9f0, 0xaa50, 0xabf0,
    0xff10, 0x104a0, 0x10d30, 0x11066, 0x110f0, 0x11136, 0x111d0, 0x112f0, 0x11450, 0x114d0,
    0x11650, 0x116c0, 0x11730, 0x118e0, 0x11950, 0x11c50, 0x11d50, 0x11da0, 0x11f50, 0x16a60,
    0x16ac0, 0x16b50, 0x1d7ce, 0x1d7d8, 0x1d7e2, 0x1d7ec, 0x1d7f6, 0x1e140, 0x1e2f0, 0x1e4f0,
    0x1e950, 0x1fbf0]

/-- The value of a decimal digit. -/
def decimalValue (c : Char) : Option Nat :=
  ((0x30 :: wideDigitZeros).find? fun first => first ≤ c.toNat && c.toNat < first + 10).map
    (c.toNat - ·)

/-- The whitespace beyond ASCII. -/
def isWideSpace (c : Char) : Bool :=
  c.toNat ∈ [0x85, 0xa0, 0x1680, 0x2028, 0x2029, 0x202f, 0x205f, 0x3000] ||
    (0x2000 ≤ c.toNat && c.toNat ≤ 0x200a)

/-- The whitespace that `int()` skips at both ends. -/
def isIntSpace (c : Char) : Bool :=
  (9 ≤ c.toNat && c.toNat ≤ 13) || c.toNat = 32 || isWideSpace c

/-- The whitespace that `str.strip()` removes: also the four separators
U+001C to U+001F. -/
def isStripSpace (c : Char) : Bool :=
  (0x1c ≤ c.toNat && c.toNat ≤ 0x1f) || isIntSpace c

/-- Remove the characters of `space` from both ends. -/
def trim (space : Char → Bool) (text : List Char) : List Char :=
  ((text.dropWhile space).reverse.dropWhile space).reverse

def stripStr (text : List Char) : List Char := trim isStripSpace text

/-- Digits with at most one underscore between neighbours. -/
def digitRun : List Char → Option (List Nat)
  | [] => none
  | [c] => (decimalValue c).map ([·])
  | c :: '_' :: rest => do
      let d ← decimalValue c
      let ds ← digitRun rest
      return d :: ds
  | c :: rest => do
      let d ← decimalValue c
      let ds ← digitRun rest
      return d :: ds

/-- `sys.int_info.default_max_str_digits`: longer digit strings are refused. -/
def maxStrDigits : Nat := 4300

/-- The number that a list of digits denotes, most significant first. -/
def digitsValue (digits : List Nat) : Nat := digits.foldl (fun acc d => 10 * acc + d) 0

def natOfDigits (text : List Char) : Option Nat :=
  match digitRun text with
  | none => none
  | some digits => if digits.length ≤ maxStrDigits then some (digitsValue digits) else none

/-- `int(text)`; `none` is the ValueError. -/
def intOfStr (text : List Char) : Option Int :=
  match trim isIntSpace text with
  | '-' :: digits => (natOfDigits digits).map fun n : Nat => -(n : Int)
  | '+' :: digits => (natOfDigits digits).map fun n : Nat => (n : Int)
  | digits => (natOfDigits digits).map fun n : Nat => (n : Int)

/-! ## Decimal text is read back -/

theorem trim_eq_self {space : Char → Bool} {text : List Char}
    (h : ∀ c ∈ text, space c = false) : trim space text = text := by
  have hdrop : ∀ l : List Char, (∀ c ∈ l, space c = false) → l.dropWhile space = l := by
    intro l hl
    cases l with
    | nil => rfl
    | cons c rest => simp [hl c List.mem_cons_self]
  unfold trim
  rw [hdrop text h, hdrop _ (fun c hc => h c (List.mem_reverse.mp hc)), List.reverse_reverse]

theorem isDigit_iff_toNat (c : Char) : c.isDigit = true ↔ 48 ≤ c.toNat ∧ c.toNat ≤ 57 := by
  unfold Char.isDigit
  simp only [Bool.and_eq_true, decide_eq_true_eq, ge_iff_le, UInt32.le_iff_toNat_le]
  rfl

theorem decimalValue_of_isDigit {c : Char} (h : c.isDigit = true) :
    decimalValue c = some (c.toNat - 48) := by
  obtain ⟨hlow, hhigh⟩ := (isDigit_iff_toNat c).mp h
  unfold decimalValue
  rw [List.find?_cons_of_pos (by simp only [Bool.and_eq_true, decide_eq_true_eq]; omega)]
  rfl

theorem isStripSpace_of_isDigit {c : Char} (h : c.isDigit = true) : isStripSpace c = false := by
  obtain ⟨hlow, hhigh⟩ := (isDigit_iff_toNat c).mp h
  simp only [isStripSpace, isIntSpace, isWideSpace, Bool.or_eq_false_iff, Bool.and_eq_false_iff,
    decide_eq_false_iff_not, List.mem_cons, List.not_mem_nil, or_false]
  omega

theorem isIntSpace_of_isDigit {c : Char} (h : c.isDigit = true) : isIntSpace c = false := by
  have hstrip := isStripSpace_of_isDigit h
  simp only [isStripSpace, Bool.or_eq_false_iff] at hstrip
  exact hstrip.2

theorem digitRun_of_isDigit {text : List Char} (hne : text ≠ [])
    (h : ∀ c ∈ text, c.isDigit = true) : digitRun text = some (text.map fun c => c.toNat - 48) := by
  induction text with
  | nil => exact absurd rfl hne
  | cons c rest ih =>
      have hc := decimalValue_of_isDigit (h c List.mem_cons_self)
      cases rest with
      | nil => simp [digitRun, hc]
      | cons c' rest' =>
          -- the third equation of `digitRun` is not the one that applies
          have hc' : c' ≠ '_' := by
            rintro rfl
            have := h '_' (by simp)
            exact absurd this (by decide)
          have htail := ih (by simp) (fun d hd => h d (List.mem_cons_of_mem c hd))
          rw [digitRun]
          · rw [hc, htail]
            rfl
          · simp
          · rintro rest'' ⟨rfl, rfl⟩
            exact hc' rfl

theorem digitsValue_eq_ofDigitChars (text : List Char) :
    digitsValue (text.map fun c => c.toNat - 48) = Nat.ofDigitChars 10 text 0 := by
  unfold digitsValue
  rw [Nat.ofDigitChars_eq_foldl, List.foldl_map]
  rfl

/-- `int(str(n)) = n` for every natural number whose text is short enough to
be written and read at all. -/
theorem intOfStr_toDigits {n : Nat} (hlen : (Nat.toDigits 10 n).length ≤ maxStrDigits) :
    intOfStr (Nat.toDigits 10 n) = some (n : Int) := by
  have hdigit : ∀ c ∈ Nat.toDigits 10 n, c.isDigit = true := fun c hc =>
    Nat.isDigit_of_mem_toDigits (by decide) (by decide) hc
  have hnat : natOfDigits (Nat.toDigits 10 n) = some n := by
    unfold natOfDigits
    rw [digitRun_of_isDigit Nat.toDigits_ne_nil hdigit]
    simp only [List.length_map, hlen, ↓reduceIte, digitsValue_eq_ofDigitChars]
    rw [Nat.ofDigitChars_toDigits (by decide) (by decide)]
  unfold intOfStr
  rw [trim_eq_self (fun c hc => isIntSpace_of_isDigit (hdigit c hc))]
  -- decimal text has no sign in front
  split
  next digits heq =>
    have := hdigit '-' (by rw [heq]; exact List.mem_cons_self)
    exact absurd this (by decide)
  next digits heq =>
    have := hdigit '+' (by rw [heq]; exact List.mem_cons_self)
    exact absurd this (by decide)
  next =>
    rw [hnat]
    rfl

/-- Text that is too long is refused, also if it is the text of a number. -/
theorem intOfStr_toDigits_long {n : Nat} (hlen : maxStrDigits < (Nat.toDigits 10 n).length) :
    intOfStr (Nat.toDigits 10 n) = none := by
  have hdigit : ∀ c ∈ Nat.toDigits 10 n, c.isDigit = true := fun c hc =>
    Nat.isDigit_of_mem_toDigits (by decide) (by decide) hc
  have hnat : natOfDigits (Nat.toDigits 10 n) = none := by
    unfold natOfDigits
    rw [digitRun_of_isDigit Nat.toDigits_ne_nil hdigit]
    simp only [List.length_map]
    exact if_neg (Nat.not_le.mpr hlen)
  unfold intOfStr
  rw [trim_eq_self (fun c hc => isIntSpace_of_isDigit (hdigit c hc))]
  split
  next digits heq =>
    have := hdigit '-' (by rw [heq]; exact List.mem_cons_self)
    exact absurd this (by decide)
  next digits heq =>
    have := hdigit '+' (by rw [heq]; exact List.mem_cons_self)
    exact absurd this (by decide)
  next =>
    rw [hnat]
    rfl

/-! ## What is read can be written -/

theorem decimalValue_lt {c : Char} {d : Nat} (h : decimalValue c = some d) : d < 10 := by
  obtain ⟨first, hfind, rfl⟩ := Option.map_eq_some_iff.mp h
  have hrange := List.find?_some hfind
  simp only [Bool.and_eq_true, decide_eq_true_eq] at hrange
  omega

theorem digitRun_lt {text : List Char} {digits : List Nat} (h : digitRun text = some digits) :
    ∀ d ∈ digits, d < 10 := by
  have hcons : ∀ {c : Char} {rest : List Char} {all : List Nat},
      (∀ ds, digitRun rest = some ds → ∀ d ∈ ds, d < 10) →
      (do let d ← decimalValue c
          let ds ← digitRun rest
          return d :: ds) = some all → ∀ d ∈ all, d < 10 := by
    intro c rest all hrest hall
    obtain ⟨d, hd, hall⟩ := Option.bind_eq_some_iff.mp hall
    obtain ⟨ds, hds, hall⟩ := Option.bind_eq_some_iff.mp hall
    obtain rfl : d :: ds = all := Option.some.inj hall
    exact List.forall_mem_cons.mpr ⟨decimalValue_lt hd, hrest ds hds⟩
  induction text using digitRun.induct generalizing digits with
  | case1 => simp [digitRun] at h
  | case2 c =>
      obtain ⟨d, hd, rfl⟩ := Option.map_eq_some_iff.mp h
      simpa using decimalValue_lt hd
  | case3 c rest ih => exact hcons (fun ds hds => ih hds) h
  | case4 c rest hne hund ih =>
      rw [digitRun] at h
      · exact hcons (fun ds hds => ih hds) h
      · exact hne
      · exact hund

theorem digitsValue_lt {digits : List Nat} (h : ∀ d ∈ digits, d < 10) :
    digitsValue digits < 10 ^ digits.length := by
  have hfold : ∀ (ds : List Nat) (acc : Nat), (∀ d ∈ ds, d < 10) →
      ds.foldl (fun acc d => 10 * acc + d) acc < (acc + 1) * 10 ^ ds.length := by
    intro ds
    induction ds with
    | nil => intro acc _; simp
    | cons d rest ih =>
        intro acc hds
        have hd := hds d List.mem_cons_self
        -- Horner: one more digit multiplies the bound by ten
        calc List.foldl (fun acc d => 10 * acc + d) (10 * acc + d) rest
            < (10 * acc + d + 1) * 10 ^ rest.length :=
              ih _ fun e he => hds e (List.mem_cons_of_mem d he)
          _ ≤ ((acc + 1) * 10) * 10 ^ rest.length := Nat.mul_le_mul_right _ (by omega)
          _ = (acc + 1) * 10 ^ (d :: rest).length := by
              rw [List.length_cons, Nat.pow_succ, Nat.mul_assoc, Nat.mul_comm 10]
  simpa [digitsValue] using hfold digits 0 h

/-- A number that `int()` reads has a text that `str()` writes. -/
theorem length_toDigits_of_natOfDigits {text : List Char} {n : Nat}
    (h : natOfDigits text = some n) : (Nat.toDigits 10 n).length ≤ maxStrDigits := by
  unfold natOfDigits at h
  split at h
  next => cases h
  next digits hrun =>
    split at h
    next hlen =>
      obtain rfl : digitsValue digits = n := Option.some.inj h
      rw [Nat.length_toDigits_le_iff (by decide) (by decide)]
      exact Nat.lt_of_lt_of_le (digitsValue_lt (digitRun_lt hrun))
        (Nat.pow_le_pow_right (by decide) hlen)
    next => cases h

theorem length_toDigits_of_intOfStr {text : List Char} {n : Int} (h : intOfStr text = some n) :
    (Nat.toDigits 10 n.natAbs).length ≤ maxStrDigits := by
  unfold intOfStr at h
  split at h <;>
  · obtain ⟨m, hm, rfl⟩ := Option.map_eq_some_iff.mp h
    simpa using length_toDigits_of_natOfDigits hm

example : intOfStr " +1_0 ".toList = some 10 := by decide

end Python
