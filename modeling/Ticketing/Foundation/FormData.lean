import Mathlib.Data.List.Basic
import Mathlib.Tactic.Common

/-!
# Form data

Pairs of texts as one line of ASCII, `application/x-www-form-urlencoded`. What is read
can be anything: a percent sign that no two hex digits follow stands for itself, and
bytes that are no UTF-8 become replacement characters. What has been written is read
back as it was.
-/

namespace Foundation

/-! ## UTF-8 -/

def utf8Bytes (c : Char) : List Nat :=
  let n := c.toNat
  if n < 0x80 then [n]
  else if n < 0x800 then [0xc0 + n / 64, 0x80 + n % 64]
  else if n < 0x10000 then [0xe0 + n / 4096, 0x80 + n / 64 % 64, 0x80 + n % 64]
  else [0xf0 + n / 262144, 0x80 + n / 4096 % 64, 0x80 + n / 64 % 64, 0x80 + n % 64]

/-- A character that has begun: what its bytes denote so far, how many are to come, and
the bounds of the next one. -/
structure Utf8Pending where
  codePoint : Nat
  needed : Nat
  lower : Nat
  upper : Nat
deriving DecidableEq, Repr

def replacementChar : Char := '\uFFFD'

/-- A byte between two characters. The bounds exclude what has a shorter form, the
surrogates, and what is no code point. -/
def utf8Start (byte : Nat) : List Char × Option Utf8Pending :=
  if byte < 0x80 then ([Char.ofNat byte], none)
  else if 0xc2 ≤ byte ∧ byte < 0xe0 then ([], some ⟨byte - 0xc0, 1, 0x80, 0xbf⟩)
  else if 0xe0 ≤ byte ∧ byte < 0xf0 then
    ([], some ⟨byte - 0xe0, 2, if byte = 0xe0 then 0xa0 else 0x80,
      if byte = 0xed then 0x9f else 0xbf⟩)
  else if 0xf0 ≤ byte ∧ byte < 0xf5 then
    ([], some ⟨byte - 0xf0, 3, if byte = 0xf0 then 0x90 else 0x80,
      if byte = 0xf4 then 0x8f else 0xbf⟩)
  else ([replacementChar], none)

/-- A byte that does not continue the character ends it, and is read once more. -/
def utf8Next (pending : Option Utf8Pending) (byte : Nat) : List Char × Option Utf8Pending :=
  match pending with
  | none => utf8Start byte
  | some pending =>
      if pending.lower ≤ byte ∧ byte ≤ pending.upper then
        let codePoint := pending.codePoint * 64 + (byte - 0x80)
        if pending.needed = 1 then ([Char.ofNat codePoint], none)
        else ([], some ⟨codePoint, pending.needed - 1, 0x80, 0xbf⟩)
      else (replacementChar :: (utf8Start byte).1, (utf8Start byte).2)

def utf8DecodeFrom (pending : Option Utf8Pending) : List Nat → List Char
  | [] => if pending.isSome then [replacementChar] else []
  | byte :: rest => (utf8Next pending byte).1 ++ utf8DecodeFrom (utf8Next pending byte).2 rest

def utf8Decode (bytes : List Nat) : List Char := utf8DecodeFrom none bytes

/-! ## Percent encoding -/

def hexDigit (n : Nat) : Char := if n < 10 then Char.ofNat (48 + n) else Char.ofNat (55 + n)

def hexValue (c : Char) : Option Nat :=
  let n := c.toNat
  if 48 ≤ n ∧ n ≤ 57 then some (n - 48)
  else if 65 ≤ n ∧ n ≤ 70 then some (n - 55)
  else if 97 ≤ n ∧ n ≤ 102 then some (n - 87)
  else none

def percentByte (byte : Nat) : List Char := ['%', hexDigit (byte / 16), hexDigit (byte % 16)]

/-- The characters that stand for themselves. -/
def isFormSafe (c : Char) : Bool := c.isAlphanum || c ∈ ['*', '-', '.', '_']

def formChar (c : Char) : List Char :=
  if c = ' ' then ['+'] else if isFormSafe c then [c] else (utf8Bytes c).flatMap percentByte

def formText (text : List Char) : List Char := text.flatMap formChar

/-- The byte that two hex digits denote. -/
def hexByte (high low : Char) : Option Nat :=
  match hexValue high, hexValue low with
  | some high, some low => some (16 * high + low)
  | _, _ => none

/-- The bytes of a text in which pluses are spaces. -/
def formBytes : List Char → List Nat
  | '%' :: high :: low :: rest =>
      match hexByte high low with
      | some byte => byte :: formBytes rest
      | none => 37 :: formBytes (high :: low :: rest)
  | '+' :: rest => 32 :: formBytes rest
  | c :: rest => utf8Bytes c ++ formBytes rest
  | [] => []

def formDecode (text : List Char) : String := String.ofList (utf8Decode (formBytes text))

/-! ## Pairs -/

def formPair (pair : String × String) : List Char :=
  formText pair.1.toList ++ '=' :: formText pair.2.toList

def formSerialize (pairs : List (String × String)) : List Char :=
  ['&'].intercalate (pairs.map formPair)

/-- What stands before the first equals sign, and what stands behind it. -/
def formParsePair (piece : List Char) : String × String :=
  (formDecode (piece.takeWhile (· ≠ '=')), formDecode ((piece.dropWhile (· ≠ '=')).drop 1))

def formParse (text : List Char) : List (String × String) :=
  ((text.splitOn '&').filter (· ≠ [])).map formParsePair

/-! ## Bytes are read back -/

theorem utf8Bytes_lt {c : Char} {byte : Nat} (h : byte ∈ utf8Bytes c) : byte < 256 := by
  have hvalid := c.valid
  have hlt : c.toNat < 0x110000 := by
    rcases hvalid with hlow | ⟨_, hhigh⟩
    · exact Nat.lt_trans hlow (by decide)
    · exact hhigh
  simp only [utf8Bytes] at h
  split at h
  · rw [List.mem_singleton] at h
    omega
  · split at h
    · simp only [List.mem_cons, List.not_mem_nil, or_false] at h
      omega
    · split at h
      · simp only [List.mem_cons, List.not_mem_nil, or_false] at h
        omega
      · simp only [List.mem_cons, List.not_mem_nil, or_false] at h
        omega

theorem utf8DecodeFrom_cons (pending : Option Utf8Pending) (byte : Nat) (rest : List Nat) :
    utf8DecodeFrom pending (byte :: rest) =
      (utf8Next pending byte).1 ++ utf8DecodeFrom (utf8Next pending byte).2 rest := rfl

/-- The first byte of a character. -/
theorem utf8DecodeFrom_start (byte : Nat) (rest : List Nat) :
    utf8DecodeFrom none (byte :: rest) =
      (utf8Start byte).1 ++ utf8DecodeFrom (utf8Start byte).2 rest := rfl

/-- A byte within the bounds, after which the character goes on. -/
theorem utf8DecodeFrom_continue {pending : Utf8Pending} {byte : Nat} {rest : List Nat}
    (hlower : pending.lower ≤ byte) (hupper : byte ≤ pending.upper) (hneeded : pending.needed ≠ 1) :
    utf8DecodeFrom (some pending) (byte :: rest) =
      utf8DecodeFrom (some ⟨pending.codePoint * 64 + (byte - 0x80), pending.needed - 1,
        0x80, 0xbf⟩) rest := by
  rw [utf8DecodeFrom_cons]
  unfold utf8Next
  simp only [if_pos (And.intro hlower hupper), if_neg hneeded]
  rfl

/-- The last byte of a character. -/
theorem utf8DecodeFrom_last {pending : Utf8Pending} {byte : Nat} {rest : List Nat} {c : Char}
    (hlower : pending.lower ≤ byte) (hupper : byte ≤ pending.upper) (hneeded : pending.needed = 1)
    (hc : pending.codePoint * 64 + (byte - 0x80) = c.toNat) :
    utf8DecodeFrom (some pending) (byte :: rest) = c :: utf8DecodeFrom none rest := by
  rw [utf8DecodeFrom_cons]
  unfold utf8Next
  simp only [if_pos (And.intro hlower hupper), if_pos hneeded, hc, Char.ofNat_toNat]
  rfl

theorem utf8DecodeFrom_two {byte : Nat} {rest : List Nat} (hlow : 0xc2 ≤ byte)
    (hhigh : byte < 0xe0) :
    utf8DecodeFrom none (byte :: rest) =
      utf8DecodeFrom (some ⟨byte - 0xc0, 1, 0x80, 0xbf⟩) rest := by
  rw [utf8DecodeFrom_start]
  unfold utf8Start
  rw [if_neg (by omega), if_pos ⟨hlow, hhigh⟩]
  rfl

theorem utf8DecodeFrom_three {byte : Nat} {rest : List Nat} (hlow : 0xe0 ≤ byte)
    (hhigh : byte < 0xf0) :
    utf8DecodeFrom none (byte :: rest) =
      utf8DecodeFrom (some ⟨byte - 0xe0, 2, if byte = 0xe0 then 0xa0 else 0x80,
        if byte = 0xed then 0x9f else 0xbf⟩) rest := by
  rw [utf8DecodeFrom_start]
  unfold utf8Start
  rw [if_neg (by omega), if_neg (by omega), if_pos ⟨hlow, hhigh⟩]
  rfl

theorem utf8DecodeFrom_four {byte : Nat} {rest : List Nat} (hlow : 0xf0 ≤ byte)
    (hhigh : byte < 0xf5) :
    utf8DecodeFrom none (byte :: rest) =
      utf8DecodeFrom (some ⟨byte - 0xf0, 3, if byte = 0xf0 then 0x90 else 0x80,
        if byte = 0xf4 then 0x8f else 0xbf⟩) rest := by
  rw [utf8DecodeFrom_start]
  unfold utf8Start
  rw [if_neg (by omega), if_neg (by omega), if_neg (by omega), if_pos ⟨hlow, hhigh⟩]
  rfl

/-- A character is read from its bytes. -/
theorem utf8DecodeFrom_utf8Bytes (c : Char) (rest : List Nat) :
    utf8DecodeFrom none (utf8Bytes c ++ rest) = c :: utf8DecodeFrom none rest := by
  have hvalid : c.toNat < 0xd800 ∨ 0xdfff < c.toNat ∧ c.toNat < 0x110000 := c.valid
  unfold utf8Bytes
  dsimp only
  split
  next hone =>
    rw [List.singleton_append, utf8DecodeFrom_start]
    unfold utf8Start
    rw [if_pos hone, Char.ofNat_toNat]
    rfl
  next hone =>
    split
    next htwo =>
      rw [List.cons_append, List.singleton_append, utf8DecodeFrom_two (by omega) (by omega)]
      exact utf8DecodeFrom_last (by dsimp only; omega) (by dsimp only; omega) rfl
        (by dsimp only; omega)
    next htwo =>
      split
      next hthree =>
        rw [List.cons_append, List.cons_append, List.singleton_append,
          utf8DecodeFrom_three (by omega) (by omega),
          utf8DecodeFrom_continue (by dsimp only; split <;> omega)
            (by dsimp only; split <;> omega) (by dsimp only; omega)]
        exact utf8DecodeFrom_last (by dsimp only; omega) (by dsimp only; omega) rfl
          (by dsimp only; omega)
      next hthree =>
        rw [List.cons_append, List.cons_append, List.cons_append, List.singleton_append,
          utf8DecodeFrom_four (by omega) (by omega),
          utf8DecodeFrom_continue (by dsimp only; split <;> omega)
            (by dsimp only; split <;> omega) (by dsimp only; omega),
          utf8DecodeFrom_continue (by dsimp only; omega) (by dsimp only; omega)
            (by dsimp only; omega)]
        exact utf8DecodeFrom_last (by dsimp only; omega) (by dsimp only; omega) rfl
          (by dsimp only; omega)

theorem utf8Decode_flatMap (text : List Char) : utf8Decode (text.flatMap utf8Bytes) = text := by
  unfold utf8Decode
  induction text with
  | nil => rfl
  | cons c rest ih => rw [List.flatMap_cons, utf8DecodeFrom_utf8Bytes, ih]

/-! ## Texts are read back -/

theorem hexByte_percentByte {byte : Nat} (h : byte < 256) :
    hexByte (hexDigit (byte / 16)) (hexDigit (byte % 16)) = some byte := by
  have hdigit : ∀ n < 16, hexValue (hexDigit n) = some n := by decide
  rw [hexByte, hdigit _ (by omega), hdigit _ (by omega)]
  exact congrArg some (by omega)

theorem formBytes_percentByte {byte : Nat} (h : byte < 256) (rest : List Char) :
    formBytes (percentByte byte ++ rest) = byte :: formBytes rest := by
  change formBytes ('%' :: hexDigit (byte / 16) :: hexDigit (byte % 16) :: rest) = _
  rw [formBytes, hexByte_percentByte h]

theorem formBytes_percentBytes {bytes : List Nat} (h : ∀ byte ∈ bytes, byte < 256)
    (rest : List Char) :
    formBytes (bytes.flatMap percentByte ++ rest) = bytes ++ formBytes rest := by
  induction bytes with
  | nil => rfl
  | cons byte bytes ih =>
      obtain ⟨hbyte, hbytes⟩ := List.forall_mem_cons.mp h
      rw [List.flatMap_cons, List.append_assoc, formBytes_percentByte hbyte, ih hbytes,
        List.cons_append]

theorem formBytes_formChar (c : Char) (rest : List Char) :
    formBytes (formChar c ++ rest) = utf8Bytes c ++ formBytes rest := by
  unfold formChar
  split
  next hspace =>
    subst hspace
    rfl
  next hspace =>
    split
    next hsafe =>
      have hpercent : c ≠ '%' := by
        rintro rfl
        exact absurd hsafe (by decide)
      have hplus : c ≠ '+' := by
        rintro rfl
        exact absurd hsafe (by decide)
      rw [List.singleton_append, formBytes]
      · exact fun _ _ _ heq => absurd heq hpercent
      · exact hplus
    next hsafe => exact formBytes_percentBytes (fun _ => utf8Bytes_lt) rest

theorem formBytes_formText (text : List Char) :
    formBytes (formText text) = text.flatMap utf8Bytes := by
  induction text with
  | nil => rfl
  | cons c rest ih =>
      rw [formText, List.flatMap_cons, formBytes_formChar, List.flatMap_cons]
      exact congrArg _ ih

/-- A text is read back. -/
theorem formDecode_formText (text : String) : formDecode (formText text.toList) = text := by
  rw [formDecode, formBytes_formText, utf8Decode_flatMap, String.ofList_toList]

/-! ## Pairs are read back -/

theorem isFormSafe_hexDigit : ∀ n < 16, isFormSafe (hexDigit n) = true := by decide

/-- Only safe characters, pluses and percent signs are written. -/
theorem mem_formText {text : List Char} {c : Char} (h : c ∈ formText text) :
    c = '+' ∨ c = '%' ∨ isFormSafe c = true := by
  obtain ⟨source, _, hc⟩ := List.mem_flatMap.mp h
  unfold formChar at hc
  split at hc
  next => exact .inl (List.mem_singleton.mp hc)
  next =>
    split at hc
    next hsafe =>
      rw [List.mem_singleton.mp hc]
      exact .inr (.inr hsafe)
    next =>
      obtain ⟨byte, hbyte, hc⟩ := List.mem_flatMap.mp hc
      have hlt := utf8Bytes_lt hbyte
      simp only [percentByte, List.mem_cons, List.not_mem_nil, or_false] at hc
      rcases hc with rfl | rfl | rfl
      · exact .inr (.inl rfl)
      · exact .inr (.inr (isFormSafe_hexDigit _ (by omega)))
      · exact .inr (.inr (isFormSafe_hexDigit _ (by omega)))

theorem not_mem_formText {c : Char} (hplus : c ≠ '+') (hpercent : c ≠ '%')
    (hsafe : isFormSafe c = false) (text : List Char) : c ∉ formText text := by
  intro h
  rcases mem_formText h with rfl | rfl | htrue
  · exact hplus rfl
  · exact hpercent rfl
  · rw [hsafe] at htrue
    cases htrue

/-- What is written are safe characters, and the signs of the format. -/
theorem mem_formSerialize {pairs : List (String × String)} {c : Char}
    (h : c ∈ formSerialize pairs) : c ∈ ['&', '=', '+', '%'] ∨ isFormSafe c = true := by
  have hpair : ∀ pair, c ∈ formPair pair → c ∈ ['&', '=', '+', '%'] ∨ isFormSafe c = true := by
    intro pair hc
    have htext : ∀ text, c ∈ formText text → c ∈ ['&', '=', '+', '%'] ∨ isFormSafe c = true := by
      intro text hc
      rcases mem_formText hc with rfl | rfl | hsafe
      · exact .inl (by decide)
      · exact .inl (by decide)
      · exact .inr hsafe
    rcases List.mem_append.mp hc with hname | hrest
    · exact htext _ hname
    · rcases List.mem_cons.mp hrest with rfl | hvalue
      · exact .inl (by decide)
      · exact htext _ hvalue
  unfold formSerialize at h
  induction pairs with
  | nil => cases h
  | cons pair rest ih =>
      cases rest with
      | nil => exact hpair pair (by simpa using h)
      | cons next rest =>
          rw [List.map_cons, List.map_cons, List.intercalate_cons_cons, List.append_assoc] at h
          rcases List.mem_append.mp h with hfirst | h
          · exact hpair pair hfirst
          · rcases List.mem_append.mp h with hamp | hrest
            · exact .inl (List.mem_singleton.mp hamp ▸ List.mem_cons_self)
            · exact ih hrest

theorem amp_not_mem_formPair (pair : String × String) : '&' ∉ formPair pair := by
  have htext := not_mem_formText (c := '&') (by decide) (by decide) (by decide)
  simp [formPair, htext]

theorem formParsePair_formPair (pair : String × String) : formParsePair (formPair pair) = pair := by
  have hname : ∀ c ∈ formText pair.1.toList, decide (c ≠ '=') = true := by
    intro c hc
    rw [decide_eq_true_eq]
    rintro rfl
    exact not_mem_formText (by decide) (by decide) (by decide) _ hc
  rw [formParsePair, formPair, List.takeWhile_append_of_pos hname,
    List.dropWhile_append_of_pos hname, List.takeWhile_cons_of_neg (by decide),
    List.dropWhile_cons_of_neg (by decide), List.append_nil, List.drop_succ_cons, List.drop_zero,
    formDecode_formText, formDecode_formText]

/-- What has been written is read back. -/
theorem formParse_formSerialize (pairs : List (String × String)) :
    formParse (formSerialize pairs) = pairs := by
  by_cases hempty : pairs = []
  · subst hempty
    rfl
  · have hpieces : ∀ piece ∈ pairs.map formPair, '&' ∉ piece := by
      intro piece hpiece
      obtain ⟨pair, _, rfl⟩ := List.mem_map.mp hpiece
      exact amp_not_mem_formPair pair
    have hkeep : ∀ piece ∈ pairs.map formPair, decide (piece ≠ []) = true := by
      intro piece hpiece
      obtain ⟨pair, _, rfl⟩ := List.mem_map.mp hpiece
      simp [formPair]
    rw [formParse, formSerialize, List.splitOn_intercalate _ hpieces (by simpa using hempty),
      List.filter_eq_self.mpr hkeep, List.map_map]
    exact (List.map_congr_left fun pair _ => formParsePair_formPair pair).trans (List.map_id _)

end Foundation
