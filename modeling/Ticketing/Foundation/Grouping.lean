import Mathlib.Data.List.Dedup
import Mathlib.Tactic.Common

/-!
# Grouping a join

GROUP BY the row of the left table, over a join that lists the left rows one after the
other with what each of them is joined to.
-/

namespace Foundation

universe u v

variable {Left : Type u} {Right : Type v} [DecidableEq Left]

/-- The rows with the same left row, each left row once. -/
def groupByLeft (rows : List (Left × Right)) : List (Left × List Right) :=
  (rows.map Prod.fst).dedup.map fun left =>
    (left, (rows.filter fun row => row.1 = left).map Prod.snd)

/-- Each row of the left table with its block. -/
def blocks (table : List Left) (block : Left → List Right) : List (Left × Right) :=
  table.flatMap fun left => (block left).map fun right => (left, right)

theorem dedup_block {left : Left} {rest : List Left} (hleft : left ∉ rest) :
    ∀ {block : List Right}, block ≠ [] →
      ((block.map fun _ => left) ++ rest).dedup = left :: rest.dedup
  | [_], _ => List.dedup_cons_of_notMem hleft
  | _ :: second :: block, _ => by
      rw [List.map_cons, List.cons_append, List.dedup_cons_of_mem (by simp)]
      exact dedup_block hleft (List.cons_ne_nil second block)

theorem dedup_blocks {table : List Left} {block : Left → List Right} (hnodup : table.Nodup)
    (hblock : ∀ left, block left ≠ []) :
    ((blocks table block).map Prod.fst).dedup = table := by
  induction table with
  | nil => rfl
  | cons left rest ih =>
      obtain ⟨hleft, hrest⟩ := List.nodup_cons.mp hnodup
      have hsplit : (blocks (left :: rest) block).map Prod.fst =
          ((block left).map fun _ => left) ++ (blocks rest block).map Prod.fst := by
        simp [blocks, Function.comp_def]
      have hnew : left ∉ (blocks rest block).map Prod.fst := by
        rintro hmem
        obtain ⟨row, hrow, rfl⟩ := List.mem_map.mp hmem
        obtain ⟨other, hother, hpair⟩ := List.mem_flatMap.mp hrow
        obtain ⟨_, _, rfl⟩ := List.mem_map.mp hpair
        exact hleft hother
      rw [hsplit, dedup_block hnew (hblock left), ih hrest]

theorem filter_blocks {table : List Left} {block : Left → List Right} (hnodup : table.Nodup)
    {left : Left} (hleft : left ∈ table) :
    ((blocks table block).filter fun row => row.1 = left).map Prod.snd = block left := by
  induction table with
  | nil => cases hleft
  | cons first rest ih =>
      obtain ⟨hfirst, hrest⟩ := List.nodup_cons.mp hnodup
      have hsplit : blocks (first :: rest) block =
          ((block first).map fun right => (first, right)) ++ blocks rest block := by
        simp [blocks]
      rw [hsplit, List.filter_append, List.map_append]
      by_cases hsame : first = left
      · subst hsame
        have hnone : (blocks rest block).filter (fun row => row.1 = first) = [] := by
          rw [List.filter_eq_nil_iff]
          rintro row hrow
          obtain ⟨other, hother, hpair⟩ := List.mem_flatMap.mp hrow
          obtain ⟨_, _, rfl⟩ := List.mem_map.mp hpair
          simpa using fun h : other = first => hfirst (h ▸ hother)
        rw [hnone, List.map_nil, List.append_nil]
        simp [List.filter_map, Function.comp_def]
      · have hmem : left ∈ rest := (List.mem_cons.mp hleft).resolve_left (Ne.symm hsame)
        rw [ih hrest hmem]
        simp [List.filter_map, Function.comp_def, hsame]

/-- Grouping undoes the join. -/
theorem groupByLeft_blocks {table : List Left} {block : Left → List Right}
    (hnodup : table.Nodup) (hblock : ∀ left, block left ≠ []) :
    groupByLeft (blocks table block) = table.map fun left => (left, block left) := by
  rw [groupByLeft, dedup_blocks hnodup hblock]
  apply List.map_congr_left
  intro left hleft
  rw [filter_blocks hnodup hleft]

end Foundation
