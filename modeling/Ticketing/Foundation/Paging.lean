import Mathlib.Data.List.Count
import Mathlib.Data.List.Nodup
import Mathlib.Data.List.Perm.Basic
import Mathlib.Data.List.Sort
import Mathlib.Order.Lattice
import Mathlib.Tactic.Common

/-!
# Pages of a sorted result

Rows are read page by page, each page by a query of its own that sorts by a key
and takes a window of the result. Rows with the same key come in any order, and in
another one for the next page. The pages together are the rows if and only if no
page ends between two rows with the same key.
-/

namespace Foundation

universe u v w

variable {Row : Type u} {Key : Type v} {Id : Type w} [LinearOrder Key]

/-- A result of ORDER BY key DESC. -/
structure SortedBy (key : Row → Key) (rows result : List Row) : Prop where
  perm : result.Perm rows
  sorted : result.Pairwise fun left right => key right ≤ key left

/-- The window of one page; pages are counted from 0. -/
def pageOf (size index : Nat) (result : List Row) : List Row :=
  (result.drop (index * size)).take size

/-- The number of rows that come before the row in every result. -/
def above (key : Row → Key) (rows : List Row) (row : Row) : Nat :=
  rows.countP fun other => key row < key other

/-- The number of rows that come before the row in some result, and the row. -/
def upTo (key : Row → Key) (rows : List Row) (row : Row) : Nat :=
  rows.countP fun other => key row ≤ key other

/-- No page ends between two rows with the same key. -/
def TiesTogether (key : Row → Key) (size : Nat) (rows : List Row) : Prop :=
  ∀ row ∈ rows, ∀ index, index * size ≤ above key rows row ∨ upTo key rows row ≤ index * size

variable {key : Row → Key} {rows result : List Row}

/-! ## Complete pages -/

theorem SortedBy.above_eq (h : SortedBy key rows result) (row : Row) :
    above key result row = above key rows row :=
  h.perm.countP_eq _

theorem SortedBy.upTo_eq (h : SortedBy key rows result) (row : Row) :
    upTo key result row = upTo key rows row :=
  h.perm.countP_eq _

theorem SortedBy.take_drop (h : SortedBy key rows result) (n : Nat) {left right : Row}
    (hleft : left ∈ result.take n) (hright : right ∈ result.drop n) : key right ≤ key left := by
  have hsorted := h.sorted
  rw [← List.take_append_drop n result] at hsorted
  exact (List.pairwise_append.mp hsorted).2.2 left hleft right hright

/-- Of the rows behind a row none comes before it in every result. -/
theorem SortedBy.above_lt (h : SortedBy key rows result) {n : Nat} {row : Row}
    (hrow : row ∈ result.take n) : above key rows row < n := by
  have hbehind : (result.drop n).countP (fun other => key row < key other) = 0 := by
    rw [List.countP_eq_zero]
    intro other hother
    simpa using h.take_drop n hrow hother
  have hfront : (result.take n).countP (fun other => key row < key other) <
      (result.take n).length :=
    List.countP_lt_length_iff.mpr ⟨row, hrow, by simp⟩
  rw [← h.above_eq row, above]
  conv_lhs => rw [← List.take_append_drop n result]
  rw [List.countP_append, hbehind]
  have hlength := List.length_take_le n result
  omega

/-- Behind a place that separates no two rows with the same key, only rows come that
come behind it in every result. -/
theorem SortedBy.le_above (h : SortedBy key rows result) {n : Nat} {row : Row}
    (hties : n ≤ above key rows row ∨ upTo key rows row ≤ n) (hrow : row ∈ result.drop n) :
    n ≤ above key rows row := by
  rcases hties with hties | hties
  · exact hties
  · have hfront : (result.take n).countP (fun other => key row ≤ key other) =
        (result.take n).length := by
      rw [List.countP_eq_length]
      intro other hother
      simpa using h.take_drop n hother hrow
    have hbehind : 0 < (result.drop n).countP (fun other => key row ≤ key other) :=
      List.countP_pos_iff.mpr ⟨row, hrow, by simp⟩
    have hlength : (result.take n).length = n := by
      rw [List.length_take]
      have hdrop := List.length_pos_of_mem hrow
      rw [List.length_drop] at hdrop
      omega
    rw [← h.upTo_eq row, upTo] at hties
    conv_lhs at hties => rw [← List.take_append_drop n result]
    rw [List.countP_append, hfront, hlength] at hties
    omega

/-- What is on a page does not depend on the order of the ties. -/
theorem SortedBy.pageOf_eq (h : SortedBy key rows result) {size : Nat}
    (hties : TiesTogether key size rows) (index : Nat) :
    pageOf size index result =
      result.filter fun row => index * size ≤ above key rows row ∧
        above key rows row < (index + 1) * size := by
  have hmem : ∀ n, ∀ row ∈ result.drop n, row ∈ rows := fun n row hrow =>
    h.perm.mem_iff.mp (List.mem_of_mem_drop hrow)
  have hend : (index + 1) * size = index * size + size := Nat.succ_mul index size
  have hfront : (result.take (index * size)).filter (fun row =>
      index * size ≤ above key rows row ∧ above key rows row < (index + 1) * size) = [] := by
    rw [List.filter_eq_nil_iff]
    intro row hrow
    have := h.above_lt hrow
    simp only [decide_eq_true_eq]
    omega
  have hbehind : (result.drop ((index + 1) * size)).filter (fun row =>
      index * size ≤ above key rows row ∧ above key rows row < (index + 1) * size) = [] := by
    rw [List.filter_eq_nil_iff]
    intro row hrow
    have := h.le_above (hties row (hmem _ row hrow) (index + 1)) hrow
    simp only [decide_eq_true_eq]
    omega
  have hpage : (pageOf size index result).filter (fun row =>
      index * size ≤ above key rows row ∧ above key rows row < (index + 1) * size) =
        pageOf size index result := by
    rw [List.filter_eq_self]
    intro row hrow
    have hdrop : row ∈ result.drop (index * size) := List.mem_of_mem_take hrow
    have htake : row ∈ result.take ((index + 1) * size) := by
      rw [pageOf, List.take_drop, ← hend] at hrow
      exact List.mem_of_mem_drop hrow
    simp only [decide_eq_true_eq]
    exact ⟨h.le_above (hties row (hmem _ row hdrop) index) hdrop, h.above_lt htake⟩
  conv_rhs => rw [← List.take_append_drop (index * size) result]
  rw [List.filter_append, hfront, List.nil_append,
    ← List.take_append_drop size (result.drop (index * size)), List.filter_append,
    List.drop_drop, ← hend, hbehind, List.append_nil]
  exact hpage.symm

/-- Rows that are sorted into classes are still the same rows. -/
theorem flatMap_filter_perm (f : Row → Nat) (rows : List Row) (count : Nat) :
    ((List.range count).flatMap fun index => rows.filter fun row => f row = index).Perm
      (rows.filter fun row => f row < count) := by
  induction count with
  | zero => simp
  | succ count ih =>
      rw [List.range_succ, List.flatMap_append, List.flatMap_singleton]
      refine (ih.append_right _).trans ?_
      have hsplit := List.filter_append_perm (fun row => decide (f row < count))
        (rows.filter fun row => f row < count + 1)
      rw [List.filter_filter, List.filter_filter] at hsplit
      refine (List.Perm.of_eq ?_).trans hsplit
      congr 1
      · apply List.filter_congr
        intro row _
        rw [← Bool.decide_and, decide_eq_decide]
        omega
      · apply List.filter_congr
        intro row _
        rw [← decide_not, ← Bool.decide_and, decide_eq_decide]
        omega

/-! ## A tie on two pages -/

/-- The rows by how their keys compare with the key of one of them. -/
theorem perm_by_key (row : Row) (rows : List Row) :
    (rows.filter (fun other => key row < key other) ++
      (rows.filter (fun other => key other = key row) ++
        rows.filter (fun other => key other < key row))).Perm rows := by
  induction rows with
  | nil => exact .refl _
  | cons head rest ih =>
      rcases lt_trichotomy (key head) (key row) with hlt | heq | hgt
      · simp only [List.filter_cons, hlt, hlt.ne, hlt.not_gt, decide_true, decide_false, if_true,
          Bool.false_eq_true, if_false]
        rw [← List.append_assoc]
        refine List.perm_middle.trans (.cons head ?_)
        rwa [List.append_assoc]
      · simp only [List.filter_cons, heq, lt_irrefl, decide_true, decide_false, if_true,
          Bool.false_eq_true, if_false, List.cons_append]
        exact List.perm_middle.trans (.cons head ih)
      · simp only [List.filter_cons, hgt, hgt.ne', hgt.not_gt, decide_true, decide_false, if_true,
          Bool.false_eq_true, if_false, List.cons_append]
        exact .cons head ih

theorem upTo_eq_above_add (row : Row) :
    upTo key rows row =
      above key rows row + (rows.filter fun other => key other = key row).length := by
  unfold upTo above
  rw [List.countP_eq_length_filter, List.countP_eq_length_filter, ← List.length_append]
  refine List.Perm.length_eq ?_
  have hsplit := List.filter_append_perm (fun other => decide (key row < key other))
    (rows.filter fun other => key row ≤ key other)
  rw [List.filter_filter, List.filter_filter] at hsplit
  refine hsplit.symm.trans (.of_eq ?_)
  congr 1
  · apply List.filter_congr
    intro other _
    rw [← Bool.decide_and, decide_eq_decide]
    exact ⟨And.left, fun h => ⟨h, h.le⟩⟩
  · apply List.filter_congr
    intro other _
    rw [← decide_not, ← Bool.decide_and, decide_eq_decide]
    exact ⟨fun h => le_antisymm (not_lt.mp h.1) h.2, fun h => ⟨h.not_gt, h.ge⟩⟩

theorem exists_sortedBy (key : Row → Key) (rows : List Row) :
    ∃ result, SortedBy key rows result := by
  have htrans : ∀ a b c : Row, decide (key b ≤ key a) = true → decide (key c ≤ key b) = true →
      decide (key c ≤ key a) = true := by
    intro a b c hab hbc
    simp only [decide_eq_true_eq] at hab hbc ⊢
    exact hbc.trans hab
  have htotal : ∀ a b : Row, (decide (key b ≤ key a) || decide (key a ≤ key b)) = true :=
    fun a b => by simpa using le_total (key b) (key a)
  exact ⟨rows.mergeSort fun left right => key right ≤ key left, List.mergeSort_perm rows _,
    by simpa using List.pairwise_mergeSort htrans htotal rows⟩

/-- The tie of a row may come in any order. -/
theorem SortedBy.reorder_tie (h : SortedBy key rows result) (row : Row) {tie : List Row}
    (htie : tie.Perm (result.filter fun other => key other = key row)) :
    SortedBy key rows (result.filter (fun other => key row < key other) ++
      (tie ++ result.filter fun other => key other < key row)) := by
  constructor
  · exact (((htie.append_right _).append_left _).trans (perm_by_key row result)).trans h.perm
  · have hfront : ∀ other ∈ result.filter (fun other => key row < key other),
        key row < key other := fun other hother => by simpa using (List.mem_filter.mp hother).2
    have hbehind : ∀ other ∈ result.filter (fun other => key other < key row),
        key other < key row := fun other hother => by simpa using (List.mem_filter.mp hother).2
    have hmiddle : ∀ other ∈ tie, key other = key row := by
      intro other hother
      simpa using (List.mem_filter.mp (htie.mem_iff.mp hother)).2
    refine List.pairwise_append.mpr ⟨h.sorted.filter _, List.pairwise_append.mpr
      ⟨?_, h.sorted.filter _, fun left hleft right hright => ?_⟩, fun left hleft right hright => ?_⟩
    · exact List.pairwise_of_forall_mem_list fun left hleft right hright =>
        ((hmiddle right hright).trans (hmiddle left hleft).symm).le
    · exact (hbehind right hright).le.trans (hmiddle left hleft).ge
    · rcases List.mem_append.mp hright with htied | hbelow
      · exact (hmiddle right htied).le.trans (hfront left hleft).le
      · exact (hbehind right hbelow).le.trans (hfront left hleft).le

omit [LinearOrder Key] in
/-- A list can be reordered so that one of its elements comes at any place. -/
theorem exists_perm_getElem? {row : Row} {tie : List Row} (hrow : row ∈ tie) {place : Nat}
    (hplace : place < tie.length) : ∃ tie' : List Row, tie'.Perm tie ∧ tie'[place]? = some row := by
  obtain ⟨before, after, rfl⟩ := List.append_of_mem hrow
  have hle : place ≤ (before ++ after).length := by
    rw [List.length_append, List.length_cons] at hplace
    rw [List.length_append]
    omega
  refine ⟨(before ++ after).insertIdx place row, ?_, ?_⟩
  · exact (List.perm_insertIdx row _ hle).trans List.perm_middle.symm
  · rw [List.getElem?_insertIdx_self, if_pos hle]

/-- A row comes in any of the places of its tie in some result. -/
theorem exists_sortedBy_getElem? {row : Row} (hrow : row ∈ rows) {place : Nat}
    (hlow : above key rows row ≤ place) (hhigh : place < upTo key rows row) :
    ∃ result, SortedBy key rows result ∧ result[place]? = some row := by
  obtain ⟨order, horder⟩ := exists_sortedBy key rows
  have hlength : upTo key order row = _ := upTo_eq_above_add row
  rw [horder.upTo_eq, horder.above_eq] at hlength
  have htied : row ∈ order.filter fun other => key other = key row :=
    List.mem_filter.mpr ⟨horder.perm.mem_iff.mpr hrow, by simp⟩
  obtain ⟨tie, htie, hplace⟩ : ∃ tie : List Row,
      tie.Perm (order.filter fun other => key other = key row) ∧
        tie[place - above key rows row]? = some row :=
    exists_perm_getElem? htied (by omega)
  have hfront : (order.filter fun other => key row < key other).length = above key rows row := by
    rw [← horder.above_eq, above, List.countP_eq_length_filter]
  obtain ⟨hbound, _⟩ := List.getElem?_eq_some_iff.mp hplace
  refine ⟨_, horder.reorder_tie row htie, ?_⟩
  rw [List.getElem?_append_right (by omega), hfront, List.getElem?_append_left hbound, hplace]

theorem mem_pageOf {size index place : Nat} {row : Row} (hplace : result[place]? = some row)
    (hlow : index * size ≤ place) (hhigh : place < (index + 1) * size) :
    row ∈ pageOf size index result := by
  rw [Nat.succ_mul] at hhigh
  refine List.mem_of_getElem? (i := place - index * size) ?_
  rw [pageOf, List.getElem?_take_of_lt (by omega), List.getElem?_drop,
    Nat.add_sub_of_le hlow, hplace]

/-- The pages `0, …, count - 1`, each from a result of its own. -/
def pages (size count : Nat) (results : Nat → List Row) : List Row :=
  (List.range count).flatMap fun index => pageOf size index (results index)

/-- The pages are the rows if no page ends between two rows with the same key. -/
theorem TiesTogether.pages_perm {size count : Nat} (hties : TiesTogether key size rows)
    (hsize : 0 < size) (hcount : rows.length ≤ count * size) {results : Nat → List Row}
    (hresults : ∀ index, SortedBy key rows (results index)) :
    (pages size count results).Perm rows := by
  have hclass : pages size count results =
      (List.range count).flatMap fun index =>
        (results index).filter fun row => above key rows row / size = index := by
    unfold pages
    congr 1
    funext index
    rw [(hresults index).pageOf_eq hties]
    apply List.filter_congr
    intro row _
    rw [decide_eq_decide, Nat.div_eq_iff hsize, Nat.succ_mul]
    omega
  have hrows : ((List.range count).flatMap fun index =>
      (results index).filter fun row => above key rows row / size = index).Perm
        ((List.range count).flatMap fun index =>
          rows.filter fun row => above key rows row / size = index) :=
    .flatMap_left _ fun index _ => (hresults index).perm.filter _
  rw [hclass]
  refine hrows.trans ((flatMap_filter_perm _ rows count).trans (.of_eq ?_))
  rw [List.filter_eq_self]
  intro row hrow
  have habove : above key rows row < rows.length :=
    List.countP_lt_length_iff.mpr ⟨row, hrow, by simp⟩
  simpa using Nat.div_lt_of_lt_mul (Nat.mul_comm size count ▸ habove.trans_le hcount)

/-- A row whose tie goes on behind the end of a page can be the last one on this page,
and in another result the first one on the next. -/
theorem exists_pages_not_nodup {size count previous : Nat} {row : Row} (hsize : 0 < size)
    (hcount : rows.length ≤ count * size) (hrow : row ∈ rows)
    (hlow : above key rows row < (previous + 1) * size)
    (hhigh : (previous + 1) * size < upTo key rows row) :
    ∃ results : Nat → List Row, (∀ index, SortedBy key rows (results index)) ∧
      ¬ (pages size count results).Nodup := by
  have hcover : previous + 1 < count := by
    have hlength : upTo key rows row ≤ rows.length := List.countP_le_length
    by_contra hle
    have := Nat.mul_le_mul_right size (not_lt.mp hle)
    omega
  rw [Nat.succ_mul] at hlow hhigh
  obtain ⟨result, hresult, hlast⟩ : ∃ result, SortedBy key rows result ∧
      result[previous * size + size - 1]? = some row :=
    exists_sortedBy_getElem? hrow (by omega) (by omega)
  obtain ⟨result', hresult', hfirst⟩ : ∃ result, SortedBy key rows result ∧
      result[previous * size + size]? = some row :=
    exists_sortedBy_getElem? hrow (by omega) (by omega)
  refine ⟨fun index => if index = previous then result else result', fun index => ?_,
    fun hnodup => ?_⟩
  · by_cases hindex : index = previous
    · simpa only [if_pos hindex] using hresult
    · simpa only [if_neg hindex] using hresult'
  · have hdisjoint := List.pairwise_iff_getElem.mp (List.nodup_flatMap.mp hnodup).2 previous
      (previous + 1) (by simpa using by omega) (by simpa using hcover) (Nat.lt_succ_self _)
    simp only [Function.onFun, List.getElem_range, if_true, Nat.succ_ne_self, if_false]
      at hdisjoint
    have hthis : row ∈ pageOf size previous result :=
      mem_pageOf hlast (by omega) (by rw [Nat.succ_mul]; omega)
    have hnext : row ∈ pageOf size (previous + 1) result' :=
      mem_pageOf hfirst (by rw [Nat.succ_mul]) (by rw [Nat.succ_mul, Nat.succ_mul]; omega)
    exact hdisjoint hthis hnext

/-- The pages are the rows, whatever the order of the ties, exactly if no page ends
between two rows with the same key. -/
theorem pages_perm_iff {size count : Nat} {ident : Row → Id} (hsize : 0 < size)
    (hcount : rows.length ≤ count * size) (hident : (rows.map ident).Nodup) :
    (∀ results : Nat → List Row, (∀ index, SortedBy key rows (results index)) →
      ((pages size count results).map ident).Perm (rows.map ident)) ↔
        TiesTogether key size rows := by
  constructor
  · intro hpages row hrow index
    by_contra hsplit
    obtain ⟨hlow, hhigh⟩ := not_or.mp hsplit
    cases index with
    | zero => simp at hlow
    | succ previous =>
        obtain ⟨results, hresults, hrepeated⟩ := exists_pages_not_nodup hsize hcount hrow
          (not_le.mp hlow) (not_le.mp hhigh)
        exact hrepeated ((hpages results hresults).nodup_iff.mpr hident).of_map
  · intro hties results hresults
    exact (hties.pages_perm hsize hcount hresults).map ident

/-! ## Rows that are left out -/

section Filtered

variable {p : Row → Bool}

theorem SortedBy.filter (h : SortedBy key rows result) (p : Row → Bool) :
    SortedBy key (rows.filter p) (result.filter p) :=
  ⟨h.perm.filter p, h.sorted.filter p⟩

/-- Every order of the rows that are left comes from one of all rows. -/
theorem SortedBy.exists_whole (h : SortedBy key (rows.filter p) result) :
    ∃ whole, SortedBy key rows whole ∧ whole.filter p = result := by
  obtain ⟨le, hle⟩ : ∃ le : Row → Row → Bool, ∀ left right,
      le left right = decide (key right ≤ key left) := ⟨_, fun _ _ => rfl⟩
  have htrans : ∀ a b c, le a b = true → le b c = true → le a c = true := by
    intro a b c hab hbc
    rw [hle, decide_eq_true_eq] at *
    exact hbc.trans hab
  have htotal : ∀ a b, (le a b || le b a) = true := by
    intro a b
    rw [hle, hle, Bool.or_eq_true, decide_eq_true_eq, decide_eq_true_eq]
    exact le_total _ _
  have hpairwise : result.Pairwise fun left right => le left right = true :=
    h.sorted.imp fun hkey => by rwa [hle, decide_eq_true_eq]
  have hkept : result.filter p = result := List.filter_eq_self.mpr fun row hrow =>
    List.of_mem_filter (h.perm.mem_iff.mp hrow)
  refine ⟨(result ++ rows.filter (! p ·)).mergeSort le, ⟨?_, ?_⟩, ?_⟩
  · refine (List.mergeSort_perm _ _).trans ((h.perm.append_right _).trans ?_)
    exact List.filter_append_perm p rows
  · exact (List.pairwise_mergeSort htrans htotal _).imp fun hkey => by
      rwa [hle, decide_eq_true_eq] at hkey
  · -- the sort is stable, so the rows that are left stay in their order
    have hsub := (List.sublist_mergeSort htrans htotal hpairwise
      (List.sublist_append_left result (rows.filter (! p ·)))).filter p
    rw [hkept] at hsub
    refine (hsub.eq_of_length ?_).symm
    rw [((List.mergeSort_perm _ le).filter p).length_eq, List.filter_append, hkept,
      List.filter_filter]
    simp

end Filtered

end Foundation
