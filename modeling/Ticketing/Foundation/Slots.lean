import Mathlib.Data.List.Basic
import Mathlib.Tactic.Common

/-!
# Lists that are filled piece by piece

A long list of keys is read in chunks, and the answers are put behind one another.
An array of slots is filled in two passes: the first one serves what it can and
puts down the places that it has missed, the second one goes through these places.
-/

namespace Foundation

universe u v

/-! ## Chunks -/

section Chunks

variable {Key : Type u} {Value : Type v}

/-- `fetch` of the chunks that begin at 0, `size`, 2 · `size` and so on. -/
def chunked (fetch : List Key → List Value) (size : Nat) (keys : List Key) : List Value :=
  (List.range' 0 ((keys.length + size - 1) / size) size).foldl
    (fun out start => out ++ fetch ((keys.drop start).take size)) []

theorem foldl_chunks (read : Key → Value) (size : Nat) (keys : List Key) (count start : Nat)
    (out : List Value) :
    (List.range' start count size).foldl
        (fun out start => out ++ ((keys.drop start).take size).map read) out =
      out ++ ((keys.drop start).take (size * count)).map read := by
  induction count generalizing start out with
  | zero => simp
  | succ count ih =>
      rw [List.range'_succ, List.foldl_cons, ih, List.append_assoc, ← List.map_append,
        ← List.drop_drop, Nat.mul_succ, Nat.add_comm (size * count), List.take_add]

/-- The chunks cover the keys, each once, whatever their number is. -/
theorem chunked_map (read : Key → Value) {size : Nat} (hsize : 0 < size) (keys : List Key) :
    chunked (List.map read) size keys = keys.map read := by
  have hcover : keys.length ≤ size * ((keys.length + size - 1) / size) := by
    have hlast := Nat.lt_div_mul_add (a := keys.length + size - 1) hsize
    rw [Nat.mul_comm] at hlast
    omega
  rw [chunked, foldl_chunks, List.drop_zero, List.nil_append, List.take_of_length_le hcover]

end Chunks

/-! ## Two passes over an array of slots -/

section Slots

variable {Row : Type u} {Entry : Type v}

/-- The places that are missed among the rows, of which the first has the place
`start`. -/
def missedFrom (served : Row → Option Entry) : Nat → List Row → List (Nat × Row)
  | _, [] => []
  | start, row :: rest =>
      match served row with
      | some _ => missedFrom served (start + 1) rest
      | none => (start, row) :: missedFrom served (start + 1) rest

@[simp] theorem missedFrom_nil (served : Row → Option Entry) (start : Nat) :
    missedFrom served start [] = [] := rfl

theorem missedFrom_served {served : Row → Option Entry} {start : Nat} {row : Row} {entry : Entry}
    {rest : List Row} (h : served row = some entry) :
    missedFrom served start (row :: rest) = missedFrom served (start + 1) rest := by
  rw [missedFrom, h]

theorem missedFrom_missed {served : Row → Option Entry} {start : Nat} {row : Row}
    {rest : List Row} (h : served row = none) :
    missedFrom served start (row :: rest) = (start, row) :: missedFrom served (start + 1) rest := by
  rw [missedFrom, h]

/-- Only the rows of the missed places count for what is fetched for them. -/
theorem missedFrom_rows (served : Row → Option Entry) (start : Nat) (rows : List Row) :
    (missedFrom served start rows).map Prod.snd = rows.filter fun row => (served row).isNone := by
  induction rows generalizing start with
  | nil => rfl
  | cons row rest ih =>
      cases h : served row with
      | some entry => rw [missedFrom_served h, ih, List.filter_cons_of_neg (by simp [h])]
      | none =>
          rw [missedFrom_missed h, List.map_cons, ih, List.filter_cons_of_pos (by simp [h])]

/-- The next slot of an array of which `front` is filled. -/
theorem set_front (front rest : List (Option Entry)) (old new : Option Entry) :
    (front ++ old :: rest).set front.length new = (front ++ [new]) ++ rest := by
  rw [List.set_append_right _ _ (Nat.le_refl _), Nat.sub_self, List.set_cons_zero,
    List.append_assoc, List.singleton_append]

end Slots

end Foundation
