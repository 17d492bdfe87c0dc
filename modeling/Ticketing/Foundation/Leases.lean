import Mathlib.Data.List.Nodup
import Mathlib.Data.List.TakeWhile
import Mathlib.Tactic.Common

/-!
# Leases

A store that gives each key to at most one owner, as far as SET NX, GET and DEL
see it. A pipeline runs as one step, but it does not stop at a refusal: the
commands behind a refused one are executed too.
-/

namespace Foundation

universe u v

/-- Which keys are leased, and to whom. -/
@[ext] structure Leases (Key : Type u) (Owner : Type v) where
  owner : Key → Option Owner

namespace Leases

variable {Key : Type u} {Owner : Type v}

def empty : Leases Key Owner := ⟨fun _ => none⟩

/-- The key can be leased. -/
def free (leases : Leases Key Owner) (key : Key) : Bool := (leases.owner key).isNone

variable [DecidableEq Key]

/-- SET NX: whether it took effect, and the store after it. -/
def setNx (leases : Leases Key Owner) (owner : Owner) (key : Key) : Bool × Leases Key Owner :=
  if leases.free key then
    (true, ⟨fun other => if other = key then some owner else leases.owner other⟩)
  else (false, leases)

/-- A pipeline of SET NX. -/
def setNxAll (owner : Owner) : List Key → Leases Key Owner → List Bool × Leases Key Owner
  | [], leases => ([], leases)
  | key :: rest, leases =>
      let (ok, next) := leases.setNx owner key
      let (results, final) := setNxAll owner rest next
      (ok :: results, final)

/-- DEL, also the expiry of a key. -/
def del (leases : Leases Key Owner) (keys : List Key) : Leases Key Owner :=
  ⟨fun key => if key ∈ keys then none else leases.owner key⟩

/-- The keys in front of the first refusal, and whether nothing was refused. -/
def acquired : List Key → List Bool → List Key × Bool
  | key :: keys, ok :: results =>
      if ok then
        let (held, complete) := acquired keys results
        (key :: held, complete)
      else ([], false)
  | _, _ => ([], true)

variable {leases : Leases Key Owner} {owner : Owner} {key : Key} {keys : List Key}

omit [DecidableEq Key] in
theorem free_iff : leases.free key = true ↔ leases.owner key = none := by
  simp [free]

omit [DecidableEq Key] in
theorem free_eq_false_iff : leases.free key = false ↔ ∃ other, leases.owner key = some other := by
  cases h : leases.owner key with
  | none => simp [free, h]
  | some other => simp [free, h]

theorem setNx_owner (other : Key) :
    (leases.setNx owner key).2.owner other =
      if other = key ∧ leases.free key then some owner else leases.owner other := by
  unfold setNx
  by_cases hfree : leases.free key = true
  · simp [hfree]
  · simp [hfree]

theorem setNx_free (other : Key) :
    (leases.setNx owner key).2.free other = (leases.free other && decide (other ≠ key)) := by
  rw [Bool.eq_iff_iff, Bool.and_eq_true, decide_eq_true_eq, free_iff, free_iff, setNx_owner]
  by_cases hsame : other = key
  · subst hsame
    cases howner : leases.owner other with
    | none => simp [free, howner]
    | some holder => simp [free, howner]
  · simp [hsame]

/-- A pipeline leases exactly the free ones of its keys. -/
theorem setNxAll_owner (other : Key) :
    (setNxAll owner keys leases).2.owner other =
      if other ∈ keys ∧ leases.free other then some owner else leases.owner other := by
  induction keys generalizing leases with
  | nil => simp [setNxAll]
  | cons key rest ih =>
      rw [setNxAll, ih, setNx_owner, setNx_free]
      by_cases hsame : other = key
      · subst hsame
        simp
      · simp [hsame]

/-- Each of different keys is answered by whether it was free. -/
theorem setNxAll_results (hnodup : keys.Nodup) :
    (setNxAll owner keys leases).1 = keys.map leases.free := by
  induction keys generalizing leases with
  | nil => rfl
  | cons key rest ih =>
      obtain ⟨hkey, hrest⟩ := List.nodup_cons.mp hnodup
      change (leases.setNx owner key).1 :: (setNxAll owner rest (leases.setNx owner key).2).1 = _
      rw [List.map_cons, ih hrest]
      congr 1
      · unfold setNx
        split
        next hfree => exact hfree.symm
        next hfree => simpa using hfree
      · apply List.map_congr_left
        intro other hother
        have hne : other ≠ key := by
          intro hsame
          exact hkey (hsame ▸ hother)
        simp [setNx_free, hne]

omit [DecidableEq Key] in
theorem acquired_map (f : Key → Bool) :
    acquired keys (keys.map f) = (keys.takeWhile f, keys.all f) := by
  induction keys with
  | nil => rfl
  | cons key rest ih =>
      rw [List.map_cons, acquired]
      cases hkey : f key with
      | false => simp [hkey]
      | true => simp [hkey, ih]

theorem del_owner (other : Key) :
    (leases.del keys).owner other = if other ∈ keys then none else leases.owner other := rfl

theorem del_owner_eq_some {other : Key} {holder : Owner} :
    (leases.del keys).owner other = some holder ↔
      leases.owner other = some holder ∧ other ∉ keys := by
  rw [del_owner]
  by_cases hmem : other ∈ keys
  · simp [hmem]
  · simp [hmem]

/-- Deleting a key that is not leased changes nothing. -/
theorem del_eq_self_iff : leases.del [key] = leases ↔ leases.free key = true := by
  rw [free_iff]
  constructor
  · intro hsame
    rw [← congrArg (fun leases => leases.owner key) hsame, del_owner,
      if_pos (List.mem_singleton_self key)]
  · intro hnone
    ext1
    funext other
    rw [del_owner]
    split
    next hkey => rw [List.mem_singleton.mp hkey, hnone]
    next => rfl

/-- A lease that was granted can be given back. -/
theorem del_setNx (hfree : leases.free key = true) :
    (leases.setNx owner key).2.del [key] = leases := by
  ext1
  funext other
  rw [del_owner, setNx_owner]
  split
  next hkey => rw [List.mem_singleton.mp hkey, free_iff.mp hfree]
  next hkey => rw [if_neg fun h => hkey (List.mem_singleton.mpr h.1)]

theorem setNx_ne_self (hfree : leases.free key = true) : (leases.setNx owner key).2 ≠ leases := by
  intro hsame
  have howner := congrArg (fun leases => leases.owner key) hsame
  rw [setNx_owner, if_pos ⟨rfl, hfree⟩, free_iff.mp hfree] at howner
  cases howner

/-- Giving back the keys in front of the first refusal undoes the pipeline exactly
if nothing behind that refusal could be leased. -/
theorem del_acquired_eq_iff (hnodup : keys.Nodup) :
    (setNxAll owner keys leases).2.del (keys.takeWhile leases.free) = leases ↔
      ∀ key ∈ keys.dropWhile leases.free, leases.free key = false := by
  have hsplit : keys.takeWhile leases.free ++ keys.dropWhile leases.free = keys :=
    List.takeWhile_append_dropWhile
  have hdisjoint := List.disjoint_of_nodup_append (hsplit.symm ▸ hnodup)
  constructor
  · intro hsame key hkey
    rw [Bool.eq_false_iff]
    intro hfree
    have howner := congrArg (fun leases => leases.owner key) hsame
    have hmem : key ∈ keys := hsplit ▸ List.mem_append_right _ hkey
    simp only [del_owner, if_neg fun h => hdisjoint h hkey, setNxAll_owner,
      if_pos (And.intro hmem hfree), free_iff.mp hfree] at howner
    cases howner
  · intro hrefused
    ext1
    funext key
    rw [del_owner, setNxAll_owner]
    split
    next hfront => exact (free_iff.mp (List.mem_takeWhile_imp hfront)).symm
    next hbehind =>
      rw [if_neg]
      rintro ⟨hkey, hfree⟩
      rw [← hsplit] at hkey
      have hlast := (List.mem_append.mp hkey).resolve_left hbehind
      rw [hrefused key hlast] at hfree
      cases hfree

end Leases

end Foundation
