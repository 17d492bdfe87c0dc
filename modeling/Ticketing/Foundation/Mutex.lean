import Mathlib.Logic.Function.Basic
import Mathlib.Tactic.Common

/-!
# Sharded locks

Threads that move through stages, some of which lie inside a critical section. The
lock of a thread is that of its shard, and a shard may serve several purposes. If
the sections are only entered with a free lock and left together with the lock, two
threads of one shard are never inside at the same time.
-/

namespace Foundation

universe u v w

variable {Thread : Type u} {Shard : Type v} {Stage : Type w}

/-- Who is inside has the lock of its shard, and who has a lock is inside. -/
structure Guarded (shard : Thread → Shard) (inside : Stage → Prop) (stage : Thread → Stage)
    (lock : Shard → Option Thread) : Prop where
  held : ∀ t, inside (stage t) → lock (shard t) = some t
  holder : ∀ k t, lock k = some t → inside (stage t) ∧ shard t = k

namespace Guarded

variable {shard : Thread → Shard} {inside : Stage → Prop} {stage : Thread → Stage}
  {lock : Shard → Option Thread} {t : Thread} {next : Stage}

/-- All locks are free, and nobody is inside. -/
theorem free (houtside : ∀ t, ¬ inside (stage t)) :
    Guarded shard inside stage (fun _ => none) :=
  ⟨fun t ht => absurd ht (houtside t), fun _ _ h => by cases h⟩

/-- Two threads of one shard are not inside together. -/
theorem eq_of_inside (h : Guarded shard inside stage lock) {t other : Thread}
    (ht : inside (stage t)) (hother : inside (stage other)) (hshard : shard t = shard other) :
    t = other := by
  have hheld := h.held t ht
  rw [hshard, h.held other hother] at hheld
  exact (Option.some.inj hheld).symm

variable [DecidableEq Thread]

/-- A move that neither enters nor leaves the section. -/
theorem stay (h : Guarded shard inside stage lock) (hsame : inside next ↔ inside (stage t)) :
    Guarded shard inside (Function.update stage t next) lock := by
  have hall : ∀ other, inside (Function.update stage t next other) ↔ inside (stage other) := by
    intro other
    by_cases hother : other = t
    · subst hother
      rwa [Function.update_self]
    · rw [Function.update_of_ne hother]
  exact ⟨fun other hother => h.held other ((hall other).mp hother), fun k other hlock =>
    ⟨(hall other).mpr (h.holder k other hlock).1, (h.holder k other hlock).2⟩⟩

/-- The thread that moves has no lock but its own one. -/
theorem holder_of_ne (h : Guarded shard inside stage lock) {k : Shard} (hk : k ≠ shard t)
    {other : Thread} (hlock : lock k = some other) :
    inside (Function.update stage t next other) ∧ shard other = k := by
  obtain ⟨hother, hshard⟩ := h.holder k other hlock
  rw [Function.update_of_ne]
  · exact ⟨hother, hshard⟩
  · rintro rfl
    exact hk hshard.symm

variable [DecidableEq Shard]

theorem enter (h : Guarded shard inside stage lock) (hfree : lock (shard t) = none)
    (hinside : inside next) :
    Guarded shard inside (Function.update stage t next)
      (Function.update lock (shard t) (some t)) := by
  constructor
  · intro other hother
    by_cases hsame : other = t
    · subst hsame
      rw [Function.update_self]
    · rw [Function.update_of_ne hsame] at hother
      have hheld := h.held other hother
      rw [Function.update_of_ne, hheld]
      -- the lock of the shard was free
      intro hshard
      rw [hshard, hfree] at hheld
      cases hheld
  · intro k other hlock
    by_cases hk : k = shard t
    · subst hk
      rw [Function.update_self] at hlock
      obtain rfl := Option.some.inj hlock
      exact ⟨by rwa [Function.update_self], rfl⟩
    · rw [Function.update_of_ne hk] at hlock
      exact h.holder_of_ne hk hlock

theorem leave (h : Guarded shard inside stage lock) (hinside : inside (stage t))
    (houtside : ¬ inside next) :
    Guarded shard inside (Function.update stage t next)
      (Function.update lock (shard t) none) := by
  constructor
  · intro other hother
    by_cases hsame : other = t
    · subst hsame
      rw [Function.update_self] at hother
      exact absurd hother houtside
    · rw [Function.update_of_ne hsame] at hother
      rw [Function.update_of_ne, h.held other hother]
      intro hshard
      exact hsame (h.eq_of_inside hother hinside hshard)
  · intro k other hlock
    by_cases hk : k = shard t
    · subst hk
      rw [Function.update_self] at hlock
      cases hlock
    · rw [Function.update_of_ne hk] at hlock
      exact h.holder_of_ne hk hlock

end Guarded

end Foundation
