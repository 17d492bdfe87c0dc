import Mathlib.Data.List.Nodup
import Mathlib.Tactic.Common
import Mathlib.Tactic.Ring

/-!
# Pages of a numbered range

The items are `1, …, total`, so many to a page, and the last page has what is left.
A page number is moved freely and then clamped. Every page that a clamped number
denotes has items, and the pages one after the other are the range.
-/

namespace Foundation

/-- The quotient rounded up. -/
def ceilDiv (n size : Int) : Int := -(-n / size)

/-- The numbers from `first` up to `last`, none if `last` comes before `first`. -/
def countUp (first last : Int) : List Int :=
  (List.range (last + 1 - first).toNat).map fun index : Nat => first + index

/-- A range that has items, on pages that have room. -/
structure Pager where
  size : Int
  total : Int
  size_pos : 0 < size
  total_pos : 1 ≤ total

/-! ## Arithmetic -/

theorem ceilDiv_le_iff {n size k : Int} (hsize : 0 < size) :
    ceilDiv n size ≤ k ↔ n ≤ k * size := by
  rw [ceilDiv, neg_le, Int.le_ediv_iff_mul_le hsize, Int.neg_mul, neg_le_neg_iff]

theorem lt_ceilDiv_iff {n size k : Int} (hsize : 0 < size) :
    k < ceilDiv n size ↔ k * size < n := by
  rw [← not_le, ceilDiv_le_iff hsize, not_le]

/-- The quotient is the only number that many full pages reach and one fewer do not. -/
theorem ceilDiv_eq_iff {n size k : Int} (hsize : 0 < size) :
    ceilDiv n size = k ↔ (k - 1) * size < n ∧ n ≤ k * size := by
  rw [← lt_ceilDiv_iff hsize, ← ceilDiv_le_iff hsize]
  omega

/-! ## Ranges -/

@[simp] theorem mem_countUp {first last item : Int} :
    item ∈ countUp first last ↔ first ≤ item ∧ item ≤ last := by
  rw [countUp, List.mem_map]
  constructor
  · rintro ⟨index, hindex, rfl⟩
    rw [List.mem_range] at hindex
    omega
  · rintro ⟨hfirst, hlast⟩
    refine ⟨(item - first).toNat, ?_, ?_⟩
    · rw [List.mem_range]
      omega
    · omega

theorem nodup_countUp (first last : Int) : (countUp first last).Nodup := by
  apply List.Nodup.map _ List.nodup_range
  intro left right heq
  simpa using heq

theorem countUp_eq_nil {first last : Int} (h : last < first) : countUp first last = [] := by
  rw [countUp, Int.toNat_of_nonpos (by omega)]
  rfl

theorem countUp_append {first middle last : Int} (hfirst : first ≤ middle + 1)
    (hlast : middle ≤ last) :
    countUp first middle ++ countUp (middle + 1) last = countUp first last := by
  have hlength : (last + 1 - first).toNat =
      (middle + 1 - first).toNat + (last + 1 - (middle + 1)).toNat := by omega
  rw [countUp, countUp, countUp, hlength, List.range_add, List.map_append, List.map_map]
  congr 1
  apply List.map_congr_left
  intro index _
  change middle + 1 + (index : Int) = first + (((middle + 1 - first).toNat + index : Nat) : Int)
  omega

namespace Pager

variable (pager : Pager)

/-! ## Pages -/

def count : Int := max 1 (ceilDiv pager.total pager.size)

def clamp (page : Int) : Int := min (max page 1) pager.count

/-- The first item of a page. -/
def first (page : Int) : Int := (page - 1) * pager.size + 1

/-- The last item of a page. -/
def last (page : Int) : Int := min pager.total (pager.first page + pager.size - 1)

def items (page : Int) : List Int := countUp (pager.first page) (pager.last page)

/-- A page number that is in range. -/
def IsPage (page : Int) : Prop := 1 ≤ page ∧ page ≤ pager.count

theorem one_le_ceilDiv : 1 ≤ ceilDiv pager.total pager.size := by
  have hpos := pager.total_pos
  rw [← Int.zero_add 1, Int.add_one_le_iff, lt_ceilDiv_iff pager.size_pos, Int.zero_mul]
  omega

theorem count_eq : pager.count = ceilDiv pager.total pager.size :=
  max_eq_right pager.one_le_ceilDiv

theorem clamp_isPage (page : Int) : pager.IsPage (pager.clamp page) := by
  have hcount : 1 ≤ pager.count := le_max_left _ _
  exact ⟨le_min (le_max_right _ _) hcount, min_le_right _ _⟩

variable {pager} {page item : Int}

theorem IsPage.clamp_eq (hpage : pager.IsPage page) : pager.clamp page = page := by
  rw [clamp, max_eq_left hpage.1, min_eq_left hpage.2]

/-- A page in range begins inside the items. -/
theorem IsPage.first_le_total (hpage : pager.IsPage page) : pager.first page ≤ pager.total := by
  have hbefore : page - 1 < ceilDiv pager.total pager.size := by
    rw [← pager.count_eq]
    have := hpage.2
    omega
  rw [lt_ceilDiv_iff pager.size_pos] at hbefore
  rw [first]
  omega

theorem IsPage.one_le_first (hpage : pager.IsPage page) : 1 ≤ pager.first page := by
  have hnonneg : 0 ≤ (page - 1) * pager.size :=
    Int.mul_nonneg (Int.sub_nonneg_of_le hpage.1) pager.size_pos.le
  rw [first]
  omega

/-- The items of a page in range are an interval that is not empty. -/
theorem IsPage.interval (hpage : pager.IsPage page) :
    1 ≤ pager.first page ∧ pager.first page ≤ pager.last page ∧
      pager.last page ≤ pager.total := by
  refine ⟨hpage.one_le_first, le_min hpage.first_le_total ?_, min_le_left _ _⟩
  have hsize := pager.size_pos
  omega

/-- An item is on the page that its number divided by the size, rounded up, gives. -/
theorem mem_items_iff (hpage : pager.IsPage page) :
    item ∈ pager.items page ↔
      1 ≤ item ∧ item ≤ pager.total ∧ ceilDiv item pager.size = page := by
  have hfirst := hpage.one_le_first
  have hnext : page * pager.size = (page - 1) * pager.size + pager.size := by ring
  rw [ceilDiv_eq_iff pager.size_pos, items, mem_countUp, last, le_min_iff, hnext]
  rw [first] at hfirst ⊢
  omega

/-- The page of an item is in range. -/
theorem isPage_ceilDiv (hone : 1 ≤ item) (htotal : item ≤ pager.total) :
    pager.IsPage (ceilDiv item pager.size) := by
  constructor
  · rw [← Int.zero_add 1, Int.add_one_le_iff, lt_ceilDiv_iff pager.size_pos, Int.zero_mul]
    omega
  · rw [count_eq, ceilDiv_le_iff pager.size_pos]
    exact htotal.trans ((ceilDiv_le_iff pager.size_pos).mp le_rfl)

/-! ## All pages -/

variable (pager) in
/-- The first pages one after the other end where the last of them ends. -/
theorem flatMap_items (n : Nat) :
    ((countUp 1 n).flatMap pager.items) = countUp 1 (min pager.total (n * pager.size)) := by
  induction n with
  | zero =>
      have hpos := pager.total_pos
      rw [countUp_eq_nil (by decide), countUp_eq_nil (by simp)]
      rfl
  | succ n ih =>
      have hsize := pager.size_pos
      have hpos := pager.total_pos
      have hnonneg : 0 ≤ (n : Int) * pager.size := Int.mul_nonneg (Int.natCast_nonneg n) hsize.le
      have hnext : ((n : Int) + 1) * pager.size = n * pager.size + pager.size := by ring
      have hlast : countUp ((n : Int) + 1) ((n : Int) + 1) = [(n : Int) + 1] := by
        rw [countUp]
        simp
      rw [Nat.cast_succ, ← countUp_append (by omega : (1 : Int) ≤ (n : Int) + 1) (by omega),
        hlast, List.flatMap_append, ih, List.flatMap_singleton, items, last, first,
        Int.add_sub_cancel, hnext]
      by_cases hfull : (n : Int) * pager.size ≤ pager.total
      · rw [min_eq_right hfull, countUp_append (by omega) (by omega)]
        congr 2
        omega
      · rw [@countUp_eq_nil (_ + 1) _ (by omega), List.append_nil, min_eq_left (by omega),
          min_eq_left (by omega)]

/-- All pages one after the other are the range, so each item is on one page, once. -/
theorem flatMap_pages (pager : Pager) :
    (countUp 1 pager.count).flatMap pager.items = countUp 1 pager.total := by
  have hcount : ((pager.count.toNat : Nat) : Int) = pager.count :=
    Int.toNat_of_nonneg (le_trans (by decide) (le_max_left 1 (ceilDiv pager.total pager.size)))
  have hall := pager.flatMap_items pager.count.toNat
  rw [hcount] at hall
  rw [hall, min_eq_left]
  rw [← ceilDiv_le_iff pager.size_pos, ← pager.count_eq]

end Pager

end Foundation
