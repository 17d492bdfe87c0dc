import Mathlib.Data.List.Nodup

/-!
# Patching keyed rows

A patch goes to the first row with its key. Where the keys of the rows are distinct,
and those of the patches too, a list of patches may be applied in any order: every row
gets the patch with its key, if there is one.
-/

namespace Foundation

universe u v w

section Patches

variable {Row : Type u} {Patch : Type v} {Key : Type w} [DecidableEq Key]
variable (rowKey : Row → Key) (patchKey : Patch → Key) (apply : Patch → Row → Row)

/-- The first row with the key of the patch is patched. -/
def patchFirst (patch : Patch) : List Row → List Row
  | [] => []
  | row :: rest =>
      if rowKey row = patchKey patch then apply patch row :: rest
      else row :: patchFirst patch rest

/-- One patch after the other. -/
def patchAll (patches : List Patch) (rows : List Row) : List Row :=
  patches.foldl (fun rows patch => patchFirst rowKey patchKey apply patch rows) rows

/-- What a row is after the patch with its key. -/
def patched (patches : List Patch) (row : Row) : Row :=
  match patches.find? fun patch => patchKey patch = rowKey row with
  | none => row
  | some patch => apply patch row

variable {rowKey patchKey apply} {patch : Patch} {patches : List Patch} {row : Row}
  {rows : List Row}

/-! ## One row -/

theorem patched_of_mem (hpatches : (patches.map patchKey).Nodup) (hmem : patch ∈ patches)
    (hkey : patchKey patch = rowKey row) :
    patched rowKey patchKey apply patches row = apply patch row := by
  unfold patched
  split
  next hnone =>
    have hother := List.find?_eq_none.mp hnone patch hmem
    exact absurd (decide_eq_true hkey) hother
  next other hsome =>
    have hsame : patchKey other = rowKey row := by simpa using List.find?_some hsome
    rw [List.inj_on_of_nodup_map hpatches (List.mem_of_find?_eq_some hsome) hmem
      (hsame.trans hkey.symm)]

theorem patched_of_not_mem (h : rowKey row ∉ patches.map patchKey) :
    patched rowKey patchKey apply patches row = row := by
  unfold patched
  split
  next => rfl
  next patch hsome =>
    have hkey : patchKey patch = rowKey row := by simpa using List.find?_some hsome
    rw [← hkey] at h
    exact absurd (List.mem_map_of_mem (List.mem_of_find?_eq_some hsome)) h

theorem patched_cons_of_ne (hkey : rowKey row ≠ patchKey patch) :
    patched rowKey patchKey apply (patch :: patches) row =
      patched rowKey patchKey apply patches row := by
  unfold patched
  rw [List.find?_cons_of_neg]
  simpa using Ne.symm hkey

/-! ## All rows -/

theorem map_patchFirst (hkeep : ∀ patch row, rowKey (apply patch row) = rowKey row) :
    (patchFirst rowKey patchKey apply patch rows).map rowKey = rows.map rowKey := by
  induction rows with
  | nil => rfl
  | cons row rest ih =>
      rw [patchFirst]
      split
      next => rw [List.map_cons, hkeep, List.map_cons]
      next => rw [List.map_cons, ih, List.map_cons]

/-- The first row with the key is the only one. -/
theorem patchFirst_eq_map (hrows : (rows.map rowKey).Nodup) :
    patchFirst rowKey patchKey apply patch rows = rows.map fun row =>
      if rowKey row = patchKey patch then apply patch row else row := by
  induction rows with
  | nil => rfl
  | cons row rest ih =>
      rw [List.map_cons] at hrows
      obtain ⟨hfresh, hrest⟩ := List.nodup_cons.mp hrows
      rw [patchFirst, List.map_cons]
      split
      next hkey =>
        congr 1
        symm
        refine (List.map_congr_left fun other hother => if_neg fun hsame => hfresh ?_).trans
          (List.map_id rest)
        rw [hkey, ← hsame]
        exact List.mem_map_of_mem hother
      next => rw [ih hrest]

theorem patchAll_eq_map (hkeep : ∀ patch row, rowKey (apply patch row) = rowKey row)
    (hrows : (rows.map rowKey).Nodup) (hpatches : (patches.map patchKey).Nodup) :
    patchAll rowKey patchKey apply patches rows =
      rows.map (patched rowKey patchKey apply patches) := by
  induction patches generalizing rows with
  | nil => exact (List.map_id rows).symm
  | cons patch rest ih =>
      obtain ⟨hfresh, hrest⟩ := List.nodup_cons.mp hpatches
      have hkeys : ((patchFirst rowKey patchKey apply patch rows).map rowKey).Nodup := by
        rw [map_patchFirst hkeep]
        exact hrows
      rw [patchAll, List.foldl_cons]
      refine (ih hkeys hrest).trans ?_
      rw [patchFirst_eq_map hrows, List.map_map]
      refine List.map_congr_left fun row _ => ?_
      rw [Function.comp_apply]
      split
      next hkey =>
        rw [patched_of_mem hpatches List.mem_cons_self hkey.symm]
        refine patched_of_not_mem ?_
        rw [hkeep, hkey]
        exact hfresh
      next hkey => rw [patched_cons_of_ne hkey]

end Patches

end Foundation
