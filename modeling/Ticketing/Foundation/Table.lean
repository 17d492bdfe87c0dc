import Mathlib.Data.List.Nodup
import Mathlib.Order.Lattice
import Mathlib.Tactic.Common

/-!
# Tables with a primary key and a unique index

A table carries its two uniqueness guarantees as fields: no two rows share a
primary key, and no two rows share a key of the secondary unique index. A row
whose secondary key is NULL takes no part in that index, which is how a unique
index over nullable columns behaves.
-/

namespace Foundation

universe u v

/-- Of two lists that are related row by row, the second has no row without a partner. -/
theorem exists_mem_of_forall₂ {α : Type u} {β : Type v} {rel : α → β → Prop} {left : List α}
    {right : List β} (h : List.Forall₂ rel left right) {b : β} (hmem : b ∈ right) :
    ∃ a ∈ left, rel a b := by
  induction h with
  | nil => cases hmem
  | cons hfirst _ ih =>
      rcases List.mem_cons.mp hmem with rfl | hrest
      · exact ⟨_, List.mem_cons_self, hfirst⟩
      · obtain ⟨a, ha, hrel⟩ := ih hrest
        exact ⟨a, List.mem_cons_of_mem _ ha, hrel⟩

/-- The indexes of a table with rows in `Row`. -/
structure Indexes (Row : Type u) (Key : Type v) where
  pk : Row → Int
  unique : Row → Option Key

/-- The rows of a table, in insertion order. -/
structure Table {Row : Type u} {Key : Type v} (ix : Indexes Row Key) where
  rows : List Row
  pk_nodup : (rows.map ix.pk).Nodup
  unique_nodup : (rows.filterMap ix.unique).Nodup

namespace Table

variable {Row : Type u} {Key : Type v} {ix : Indexes Row Key}

def empty : Table ix := ⟨[], List.nodup_nil, List.nodup_nil⟩

/-- Two rows with the same primary key are the same row. -/
theorem eq_of_pk_eq (t : Table ix) {left right : Row} (hleft : left ∈ t.rows)
    (hright : right ∈ t.rows) (h : ix.pk left = ix.pk right) : left = right :=
  List.inj_on_of_nodup_map t.pk_nodup hleft hright h

/-- Two rows with the same non-NULL secondary key are the same row. -/
theorem eq_of_unique_eq (t : Table ix) {left right : Row} {key : Key}
    (hleft : left ∈ t.rows) (hright : right ∈ t.rows)
    (hkey : ix.unique left = some key) (hkey' : ix.unique right = some key) : left = right := by
  -- the induction is on the rows alone: their keys stay different in every tail
  have hnodup := t.unique_nodup
  revert hleft hright hnodup
  induction t.rows with
  | nil => intro hleft; simp at hleft
  | cons row rest ih =>
      intro hleft hright hnodup
      rcases List.mem_cons.mp hleft with hrow | hleft'
      · rw [← hrow, List.filterMap_cons_some hkey, List.nodup_cons] at hnodup
        rcases List.mem_cons.mp hright with hrow' | hright'
        · exact hrow.trans hrow'.symm
        · exact absurd (List.mem_filterMap.mpr ⟨right, hright', hkey'⟩) hnodup.1
      · rcases List.mem_cons.mp hright with hrow' | hright'
        · rw [← hrow', List.filterMap_cons_some hkey', List.nodup_cons] at hnodup
          exact absurd (List.mem_filterMap.mpr ⟨left, hleft', hkey⟩) hnodup.1
        · refine ih hleft' hright' ?_
          exact hnodup.sublist ((List.sublist_cons_self row rest).filterMap ix.unique)

/-- A condition that fixes the primary key holds of one row or of none. -/
theorem countP_eq_one (t : Table ix) (id : Int) {p : Row → Prop} [DecidablePred p]
    (hpk : ∀ row, p row → ix.pk row = id) :
    (t.rows.countP fun row => p row) = 1 ↔ ∃ row ∈ t.rows, p row := by
  constructor
  · intro hcount
    obtain ⟨row, hrow, hp⟩ := List.countP_pos_iff.mp (hcount.symm ▸ Nat.one_pos)
    exact ⟨row, hrow, of_decide_eq_true hp⟩
  · rintro ⟨row, hrow, hp⟩
    have hpos : 0 < t.rows.countP fun row => p row :=
      List.countP_pos_iff.mpr ⟨row, hrow, decide_eq_true hp⟩
    have hsub : ((t.rows.filter fun row => p row).map ix.pk).Sublist (t.rows.map ix.pk) :=
      List.filter_sublist.map ix.pk
    -- all selected rows have the key `id`, and no key occurs twice
    have hsame : (t.rows.filter fun row => p row).map ix.pk =
        List.replicate (t.rows.countP fun row => p row) id := by
      rw [List.countP_eq_length_filter, List.eq_replicate_iff]
      refine ⟨List.length_map _, fun other hother => ?_⟩
      obtain ⟨row', hrow', rfl⟩ := List.mem_map.mp hother
      exact hpk row' (of_decide_eq_true (List.mem_filter.mp hrow').2)
    have hle := t.pk_nodup.sublist hsub
    rw [hsame, List.nodup_replicate] at hle
    omega

/-! ## Lookup -/

/-- The row with a given primary key. -/
def find (t : Table ix) (id : Int) : Option Row :=
  t.rows.find? fun row => ix.pk row == id

theorem find_eq_some {t : Table ix} {id : Int} {row : Row} :
    t.find id = some row ↔ row ∈ t.rows ∧ ix.pk row = id := by
  constructor
  · intro h
    exact ⟨List.mem_of_find?_eq_some h, by simpa using List.find?_some h⟩
  · rintro ⟨hmem, hid⟩
    cases hfind : t.find id with
    | none =>
        have hnone := List.find?_eq_none.mp hfind row hmem
        simp [hid] at hnone
    | some other =>
        have hother : other ∈ t.rows := List.mem_of_find?_eq_some hfind
        have hpk : ix.pk other = id := by simpa using List.find?_some hfind
        rw [t.eq_of_pk_eq hmem hother (hid.trans hpk.symm)]

/-! ## Insertion -/

/-- A value of the AUTO_INCREMENT column that no row has. `gap` stands for the
values that rolled back insertions have used up. -/
def nextId (t : Table ix) (gap : Nat) : Int :=
  (t.rows.map ix.pk).foldr max 0 + 1 + gap

theorem pk_lt_nextId (t : Table ix) (gap : Nat) {row : Row} (hrow : row ∈ t.rows) :
    ix.pk row < t.nextId gap := by
  have hle : ∀ ids : List Int, ∀ id ∈ ids, id ≤ ids.foldr max 0 := by
    intro ids
    induction ids with
    | nil => simp
    | cons head rest ih =>
        intro id hid
        rcases List.mem_cons.mp hid with rfl | hid
        · exact le_max_left _ _
        · exact (ih id hid).trans (le_max_right _ _)
  have := hle _ _ (List.mem_map_of_mem (f := ix.pk) hrow)
  unfold nextId
  omega

variable [DecidableEq Key]

/-- INSERT of one row, built from its generated primary key. `none` is the
duplicate-key error of the secondary index. -/
def insert (t : Table ix) (gap : Nat) (build : Int → Row) (hpk : ∀ id, ix.pk (build id) = id) :
    Option (Int × Table ix) :=
  let id := t.nextId gap
  if hnodup : ((t.rows ++ [build id]).filterMap ix.unique).Nodup then
    some (id, {
      rows := t.rows ++ [build id]
      pk_nodup := by
        rw [List.map_append, List.nodup_append]
        refine ⟨t.pk_nodup, by simp, ?_⟩
        intro old hold new hnew
        obtain ⟨row, hrow, rfl⟩ := List.mem_map.mp hold
        have hlt := t.pk_lt_nextId gap hrow
        have hnew' : new = id := by simpa [hpk] using hnew
        rw [hnew']
        exact ne_of_lt hlt
      unique_nodup := hnodup })
  else none

theorem insert_eq_some {t next : Table ix} {gap : Nat} {build : Int → Row}
    {hpk : ∀ id, ix.pk (build id) = id} {id : Int}
    (h : t.insert gap build hpk = some (id, next)) :
    id = t.nextId gap ∧ next.rows = t.rows ++ [build id] := by
  unfold insert at h
  dsimp only at h
  split at h
  · simp only [Option.some.injEq, Prod.mk.injEq] at h
    obtain ⟨rfl, rfl⟩ := h
    exact ⟨rfl, rfl⟩
  · cases h

/-- A row whose secondary key is NULL or unused is always inserted. -/
theorem insert_ne_none {t : Table ix} {gap : Nat} {build : Int → Row}
    {hpk : ∀ id, ix.pk (build id) = id}
    (h : ∀ key, ix.unique (build (t.nextId gap)) = some key →
      ∀ row ∈ t.rows, ix.unique row ≠ some key) :
    t.insert gap build hpk ≠ none := by
  have hnodup : ((t.rows ++ [build (t.nextId gap)]).filterMap ix.unique).Nodup := by
    rw [List.filterMap_append, List.nodup_append]
    refine ⟨t.unique_nodup, ?_, ?_⟩
    · cases hkey : ix.unique (build (t.nextId gap)) <;> simp [hkey]
    · intro old hold new hnew heq
      subst heq
      obtain ⟨row, hrow, hold⟩ := List.mem_filterMap.mp hold
      obtain ⟨row', hrow', hnew⟩ := List.mem_filterMap.mp hnew
      rw [List.mem_singleton] at hrow'
      subst hrow'
      exact h _ hnew row hrow hold
  unfold insert
  dsimp only
  rw [dif_pos hnodup]
  exact Option.some_ne_none _

/-- INSERT of several rows in one statement: all of them or none. -/
def insertAll (t : Table ix) (gap : Nat) :
    (builds : List (Int → Row)) → (∀ build ∈ builds, ∀ id, ix.pk (build id) = id) →
      Option (Table ix)
  | [], _ => some t
  | build :: rest, hpk =>
      match t.insert gap build (hpk build List.mem_cons_self) with
      | none => none
      | some (_, next) =>
          -- the rows of one statement get consecutive identifiers
          next.insertAll 0 rest fun other hother => hpk other (List.mem_cons_of_mem build hother)

theorem insertAll_eq_some {t next : Table ix} {gap : Nat} {builds : List (Int → Row)}
    {hpk : ∀ build ∈ builds, ∀ id, ix.pk (build id) = id}
    (h : t.insertAll gap builds hpk = some next) :
    ∃ new, next.rows = t.rows ++ new ∧
      List.Forall₂ (fun build row => ∃ id, row = build id) builds new := by
  induction builds generalizing t gap with
  | nil =>
      simp only [insertAll, Option.some.injEq] at h
      exact ⟨[], by simp [h], .nil⟩
  | cons build rest ih =>
      unfold insertAll at h
      split at h
      next => cases h
      next id middle hinsert =>
        obtain ⟨_, hmiddle⟩ := insert_eq_some hinsert
        obtain ⟨new, hnext, hnew⟩ := ih h
        refine ⟨build id :: new, ?_, .cons ⟨id, rfl⟩ hnew⟩
        rw [hnext, hmiddle, List.append_assoc]
        rfl

/-- Rows with different, unused secondary keys are always inserted. -/
theorem insertAll_ne_none {t : Table ix} {gap : Nat} {builds : List (Int → Row)}
    {hpk : ∀ build ∈ builds, ∀ id, ix.pk (build id) = id} {keys : List Key}
    (hkeys : List.Forall₂ (fun build key => ∀ id, ix.unique (build id) = some key) builds keys)
    (hnodup : keys.Nodup)
    (hunused : ∀ key ∈ keys, ∀ row ∈ t.rows, ix.unique row ≠ some key) :
    t.insertAll gap builds hpk ≠ none := by
  induction hkeys generalizing t gap with
  | nil => exact Option.some_ne_none t
  | @cons build key rest others hkey hrest ih =>
      obtain ⟨hnew, hothers⟩ := List.nodup_cons.mp hnodup
      have hfirst : t.insert gap build (hpk build List.mem_cons_self) ≠ none := by
        apply insert_ne_none
        intro used hused row hrow
        rw [hkey] at hused
        rw [← Option.some.inj hused]
        exact hunused key List.mem_cons_self row hrow
      obtain ⟨⟨id, next⟩, hinsert⟩ := Option.ne_none_iff_exists'.mp hfirst
      rw [insertAll, hinsert]
      apply ih hothers
      intro other hother row hrow
      rw [(insert_eq_some hinsert).2] at hrow
      rcases List.mem_append.mp hrow with hold | hlast
      · exact hunused other (List.mem_cons_of_mem key hother) row hold
      · rw [List.mem_singleton.mp hlast, hkey]
        intro hsame
        exact hnew (Option.some.inj hsame ▸ hother)

/-! ## Update -/

/-- UPDATE of the rows selected by `p`. `none` is the duplicate-key error. -/
def update (t : Table ix) (p : Row → Bool) (f : Row → Row)
    (hpk : ∀ row, ix.pk (f row) = ix.pk row) : Option (Table ix) :=
  let rows := t.rows.map fun row => if p row then f row else row
  if hnodup : (rows.filterMap ix.unique).Nodup then
    some {
      rows := rows
      pk_nodup := by
        have hmap : rows.map ix.pk = t.rows.map ix.pk := by
          rw [List.map_map]
          refine List.map_congr_left fun row _ => ?_
          dsimp only [Function.comp]
          split
          · exact hpk row
          · rfl
        rw [hmap]
        exact t.pk_nodup
      unique_nodup := hnodup }
  else none

theorem update_eq_some {t next : Table ix} {p : Row → Bool} {f : Row → Row}
    {hpk : ∀ row, ix.pk (f row) = ix.pk row} (h : t.update p f hpk = some next) :
    next.rows = t.rows.map fun row => if p row then f row else row := by
  unfold update at h
  dsimp only at h
  split at h
  · simp only [Option.some.injEq] at h
    rw [← h]
  · cases h

omit [DecidableEq Key] in
theorem filterMap_update_sublist (rows : List Row) (p : Row → Bool) (f : Row → Row)
    (key : Row → Option Key) (hkey : ∀ row, key (f row) = none ∨ key (f row) = key row) :
    ((rows.map fun row => if p row then f row else row).filterMap key).Sublist
      (rows.filterMap key) := by
  induction rows with
  | nil => simp
  | cons row rest ih =>
      rw [List.map_cons]
      by_cases hp : p row
      · rw [if_pos hp]
        rcases hkey row with hnone | hsame
        · rw [List.filterMap_cons_none hnone]
          exact ih.trans ((List.sublist_cons_self row rest).filterMap key)
        · cases hrow : key row with
          | none =>
              rw [List.filterMap_cons_none (hsame.trans hrow), List.filterMap_cons_none hrow]
              exact ih
          | some k =>
              rw [List.filterMap_cons_some (hsame.trans hrow), List.filterMap_cons_some hrow]
              exact ih.cons_cons k
      · rw [if_neg hp]
        cases hrow : key row with
        | none =>
            rw [List.filterMap_cons_none hrow, List.filterMap_cons_none hrow]
            exact ih
        | some k =>
            rw [List.filterMap_cons_some hrow, List.filterMap_cons_some hrow]
            exact ih.cons_cons k

/-- An UPDATE that keeps the secondary key of each row, or makes it NULL,
raises no duplicate-key error. -/
theorem update_ne_none {t : Table ix} {p : Row → Bool} {f : Row → Row}
    {hpk : ∀ row, ix.pk (f row) = ix.pk row}
    (h : ∀ row, ix.unique (f row) = none ∨ ix.unique (f row) = ix.unique row) :
    t.update p f hpk ≠ none := by
  have hnodup := t.unique_nodup.sublist (filterMap_update_sublist t.rows p f ix.unique h)
  unfold update
  dsimp only
  rw [dif_pos hnodup]
  exact Option.some_ne_none _

end Table

end Foundation
