import Mathlib.Data.List.Basic
import Mathlib.Logic.Function.Basic
import Ticketing.Foundation.Remote

/-!
# Key-value stores

A store maps keys to texts and to sets. The two are kept apart, as if no key was
ever used for both. Each command is a function on stores, and a program has a
footprint: the keys that its calls may change, however they end.
-/

namespace Foundation

universe u v w

structure KeyStore (Key : Type u) (Text : Type v) (Member : Type w) where
  texts : Key → Option Text
  sets : Key → List Member

namespace KeyStore

variable {Key : Type u} {Text : Type v} {Member : Type w} [DecidableEq Key]

/-- A store without keys. Flushing leaves this. -/
def empty : KeyStore Key Text Member := ⟨fun _ => none, fun _ => []⟩

/-- The store holds the same under the key, be it a text or a set. -/
def Same (key : Key) (s next : KeyStore Key Text Member) : Prop :=
  next.texts key = s.texts key ∧ next.sets key = s.sets key

def set (key : Key) (text : Text) (s : KeyStore Key Text Member) : KeyStore Key Text Member :=
  { s with texts := Function.update s.texts key (some text) }

/-- Set the keys that hold no text yet, one after the other, and tell which of them
have been set. -/
def setNxAll (text : Text) : List Key → KeyStore Key Text Member →
    List Bool × KeyStore Key Text Member
  | [], s => ([], s)
  | key :: rest, s =>
      let free := (s.texts key).isNone
      let (results, s) := setNxAll text rest (if free then s.set key text else s)
      (free :: results, s)

def delete (keys : List Key) (s : KeyStore Key Text Member) : KeyStore Key Text Member where
  texts key := if key ∈ keys then none else s.texts key
  sets key := if key ∈ keys then [] else s.sets key

variable [DecidableEq Member]

def addMembers (key : Key) (members : List Member) (s : KeyStore Key Text Member) :
    KeyStore Key Text Member :=
  { s with sets := Function.update s.sets key (members ∪ s.sets key) }

def removeMembers (key : Key) (members : List Member) (s : KeyStore Key Text Member) :
    KeyStore Key Text Member :=
  { s with sets := Function.update s.sets key ((s.sets key).filter (· ∉ members)) }

/-! ## Footprints -/

omit [DecidableEq Key] [DecidableEq Member] in
theorem same_refl (key : Key) (s : KeyStore Key Text Member) : Same key s s := ⟨rfl, rfl⟩

omit [DecidableEq Key] [DecidableEq Member] in
theorem Same.trans {key : Key} {r s t : KeyStore Key Text Member} (h : Same key r s)
    (h' : Same key s t) : Same key r t := ⟨h'.1.trans h.1, h'.2.trans h.2⟩

/-- Only keys of the footprint change. -/
def writesOnly (footprint : Key → Prop) : Remote.Frame (KeyStore Key Text Member) where
  rel s next := ∀ key, ¬ footprint key → Same key s next
  refl s key _ := same_refl key s
  trans h h' key hkey := (h key hkey).trans (h' key hkey)

section Commands

variable {footprint : Key → Prop} {key : Key} {s : KeyStore Key Text Member}

omit [DecidableEq Member] in
theorem set_writesOnly (hkey : footprint key) (text : Text) :
    (writesOnly footprint).rel s (s.set key text) := by
  intro other hother
  refine ⟨?_, rfl⟩
  apply Function.update_of_ne
  rintro rfl
  exact hother hkey

omit [DecidableEq Member] in
theorem setNxAll_writesOnly {keys : List Key} (hkeys : ∀ key ∈ keys, footprint key) (text : Text) :
    (writesOnly footprint).rel s (s.setNxAll text keys).2 := by
  induction keys generalizing s with
  | nil => exact (writesOnly footprint).refl s
  | cons key rest ih =>
      obtain ⟨hkey, hrest⟩ := List.forall_mem_cons.mp hkeys
      rw [setNxAll]
      refine (writesOnly footprint).trans ?_ (ih hrest)
      split
      next => exact set_writesOnly hkey text
      next => exact (writesOnly footprint).refl s

omit [DecidableEq Member] in
theorem delete_writesOnly {keys : List Key} (hkeys : ∀ key ∈ keys, footprint key) :
    (writesOnly footprint).rel s (s.delete keys) := by
  intro other hother
  have hnew : other ∉ keys := fun hmem => hother (hkeys other hmem)
  exact ⟨if_neg hnew, if_neg hnew⟩

theorem addMembers_writesOnly (hkey : footprint key) (members : List Member) :
    (writesOnly footprint).rel s (s.addMembers key members) := by
  intro other hother
  refine ⟨rfl, ?_⟩
  apply Function.update_of_ne
  rintro rfl
  exact hother hkey

theorem removeMembers_writesOnly (hkey : footprint key) (members : List Member) :
    (writesOnly footprint).rel s (s.removeMembers key members) := by
  intro other hother
  refine ⟨rfl, ?_⟩
  apply Function.update_of_ne
  rintro rfl
  exact hother hkey

end Commands

end KeyStore

end Foundation
