import Mathlib.Data.List.Sort
import Mathlib.Order.Lattice
import Mathlib.Tactic.Common

/-!
# Sorting by a key

A comparison looks at a key first, and where the keys are the same at something else, which
need not be an order. The result is sorted by the key all the same.
-/

namespace Foundation

universe u v

variable {Row : Type u} {Key : Type v} [Preorder Key]

/-- A comparison that puts no row before one with a lower key. -/
structure ByKey (key : Row → Key) (before : Row → Row → Prop) : Prop where
  le : ∀ left right, before left right → key left ≤ key right
  ge : ∀ left right, ¬ before left right → key right ≤ key left

namespace ByKey

variable {key : Row → Key} {before : Row → Row → Prop} [DecidableRel before]

theorem pairwise_orderedInsert (h : ByKey key before) (row : Row) {rows : List Row}
    (hrows : rows.Pairwise fun left right => key left ≤ key right) :
    (rows.orderedInsert before row).Pairwise fun left right => key left ≤ key right := by
  induction rows with
  | nil => exact List.pairwise_singleton _ _
  | cons first rest ih =>
      obtain ⟨hfirst, hrest⟩ := List.pairwise_cons.mp hrows
      rw [List.orderedInsert_cons]
      split
      next hbefore =>
        refine List.pairwise_cons.mpr ⟨fun other hother => ?_, hrows⟩
        rcases List.mem_cons.mp hother with rfl | hother
        · exact h.le row other hbefore
        · exact (h.le row first hbefore).trans (hfirst other hother)
      next hafter =>
        refine List.pairwise_cons.mpr ⟨fun other hother => ?_, ih hrest⟩
        rcases (List.mem_orderedInsert before).mp hother with rfl | hother
        · exact h.ge other first hafter
        · exact hfirst other hother

theorem pairwise_insertionSort (h : ByKey key before) (rows : List Row) :
    (rows.insertionSort before).Pairwise fun left right => key left ≤ key right := by
  induction rows with
  | nil => exact .nil
  | cons row rest ih => exact h.pairwise_orderedInsert row ih

end ByKey

end Foundation
