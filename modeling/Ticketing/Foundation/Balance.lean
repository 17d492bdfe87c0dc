import Mathlib.Algebra.BigOperators.Group.Finset.Basic
import Mathlib.Algebra.Order.BigOperators.Group.Finset
import Mathlib.Algebra.Order.Ring.Int
import Mathlib.Tactic.Common

/-!
# A pot and what is out of it

Parties take from a common pot and put back. What a group has out changes only by
what the party that moves takes or puts back.
-/

namespace Foundation

universe u

section Balance

variable {Party : Type u} [DecidableEq Party] {group : Finset Party} {party : Party}

/-- What the parties of a group have out. -/
def outstanding (group : Finset Party) (amount : Party → Int) : Int := ∑ p ∈ group, amount p

omit [DecidableEq Party] in
theorem outstanding_le {amount bound : Party → Int} (hle : ∀ p, amount p ≤ bound p) :
    outstanding group amount ≤ outstanding group bound :=
  Finset.sum_le_sum fun p _ => hle p

omit [DecidableEq Party] in
@[simp] theorem outstanding_zero : outstanding group (fun _ => 0) = 0 := by
  simp [outstanding]

omit [DecidableEq Party] in
theorem outstanding_congr {amount amount' : Party → Int}
    (heq : ∀ p ∈ group, amount p = amount' p) :
    outstanding group amount = outstanding group amount' :=
  Finset.sum_congr rfl heq

/-- One party moves, the others keep what they have out. -/
theorem outstanding_move (amount next : Party → Int) (hmem : party ∈ group)
    (hothers : ∀ p, p ≠ party → next p = amount p) :
    outstanding group next = outstanding group amount - amount party + next party := by
  have hrest : ∑ p ∈ group.erase party, next p = ∑ p ∈ group.erase party, amount p := by
    apply Finset.sum_congr rfl
    intro p hp
    exact hothers p (Finset.ne_of_mem_erase hp)
  unfold outstanding
  rw [← Finset.add_sum_erase group next hmem, ← Finset.add_sum_erase group amount hmem, hrest]
  omega

end Balance

end Foundation
