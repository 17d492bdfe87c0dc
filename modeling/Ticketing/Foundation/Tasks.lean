import Mathlib.Tactic.Common

/-!
# Tasks in progress

Several tasks run at once, each under a number of its own. What a task has still
to do may cover for something that is wrong at the moment. A task that moves on
keeps the cover if it still covers as much as before.
-/

namespace Foundation

universe u

/-- The tasks in progress. -/
def Tasks (Task : Type u) : Type u := Nat → Option Task

namespace Tasks

variable {Task : Type u} {tasks : Tasks Task} {covers later : Task → Prop} {id : Nat}

/-- No task is in progress. -/
def empty : Tasks Task := fun _ => none

/-- Start a task, move it on, or end it. -/
def set (tasks : Tasks Task) (id : Nat) (next : Option Task) : Tasks Task := fun other =>
  if other = id then next else tasks other

@[simp] theorem set_same (tasks : Tasks Task) (id : Nat) (next : Option Task) :
    tasks.set id next id = next := by
  simp [set]

theorem set_other {other : Nat} (h : other ≠ id) (next : Option Task) :
    tasks.set id next other = tasks other := by
  simp [set, h]

/-- Nothing is in progress. -/
def Idle (tasks : Tasks Task) : Prop := ∀ id, tasks id = none

/-- A property of all tasks in progress. -/
def All (tasks : Tasks Task) (p : Task → Prop) : Prop := ∀ id task, tasks id = some task → p task

/-- Some task in progress covers. -/
def Covered (tasks : Tasks Task) (covers : Task → Prop) : Prop :=
  ∃ id task, tasks id = some task ∧ covers task

/-- Some task other than `id` covers. -/
def CoveredBut (tasks : Tasks Task) (id : Nat) (covers : Task → Prop) : Prop :=
  ∃ other task, other ≠ id ∧ tasks other = some task ∧ covers task

theorem Idle.not_covered (h : tasks.Idle) : ¬ tasks.Covered covers := by
  rintro ⟨id, task, htask, _⟩
  rw [h id] at htask
  cases htask

theorem All.set {p : Task → Prop} (h : tasks.All p) {next : Option Task}
    (hnext : ∀ task, next = some task → p task) : (tasks.set id next).All p := by
  intro other task htask
  by_cases hsame : other = id
  · subst hsame
    rw [set_same] at htask
    exact hnext task htask
  · rw [set_other hsame] at htask
    exact h other task htask

theorem Covered.mono (h : tasks.Covered covers)
    (hcovers : ∀ id task, tasks id = some task → covers task → later task) :
    tasks.Covered later := by
  obtain ⟨id, task, htask, hcover⟩ := h
  exact ⟨id, task, htask, hcovers id task htask hcover⟩

theorem covered_set_same {task : Task} (h : covers task) :
    (tasks.set id (some task)).Covered covers :=
  ⟨id, task, set_same tasks id (some task), h⟩

theorem CoveredBut.set (h : tasks.CoveredBut id covers) (next : Option Task) :
    (tasks.set id next).Covered covers := by
  obtain ⟨other, task, hother, htask, hcover⟩ := h
  exact ⟨other, task, by rw [set_other hother, htask], hcover⟩

/-- The cover is by another task, or by this one. -/
theorem Covered.cases (h : tasks.Covered covers) (id : Nat) :
    tasks.CoveredBut id covers ∨ ∃ task, tasks id = some task ∧ covers task := by
  obtain ⟨other, task, htask, hcover⟩ := h
  by_cases hsame : other = id
  · subst hsame
    exact .inr ⟨task, htask, hcover⟩
  · exact .inl ⟨other, task, hsame, htask, hcover⟩

/-- A task that moves on and covers as before. -/
theorem Covered.set (h : tasks.Covered covers) {next : Option Task}
    (hkeep : ∀ task, tasks id = some task → covers task →
      ∃ after, next = some after ∧ covers after) : (tasks.set id next).Covered covers := by
  rcases h.cases id with hother | ⟨task, htask, hcover⟩
  · exact hother.set next
  · obtain ⟨after, rfl, hafter⟩ := hkeep task htask hcover
    exact covered_set_same hafter

end Tasks

end Foundation
