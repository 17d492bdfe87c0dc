import Mathlib.Data.List.Basic
import Mathlib.Tactic.Common

/-!
# Machines and their runs

A machine is a partial step function over labelled actions. Interleavings are
lists of actions, and an action that is not enabled ends the run. Invariants of
whole runs follow from one-step preservation, also when the step lemma needs a
condition on the steps that are taken.
-/

namespace Foundation

universe u v

/-- A labelled transition system. `step s a = none` says that `a` cannot
happen in `s`. -/
structure Machine (State : Type u) (Action : Type v) where
  step : State → Action → Option State

namespace Machine

variable {State : Type u} {Action : Type v}

/-- The state after a list of actions, if each of them can happen in turn. -/
def run (m : Machine State Action) : State → List Action → Option State
  | s, [] => some s
  | s, a :: rest => (m.step s a).bind fun next => m.run next rest

/-- `Along cond s actions`: every action of the run is taken in a state in
which `cond` allows it. -/
def Along (m : Machine State Action) (cond : State → Action → Prop) :
    State → List Action → Prop
  | _, [] => True
  | s, a :: rest => cond s a ∧ ∀ next, m.step s a = some next → m.Along cond next rest

/-- Whether a run meets a decidable condition can be computed. -/
instance decidableAlong (m : Machine State Action) (cond : State → Action → Prop)
    [∀ s a, Decidable (cond s a)] : ∀ s actions, Decidable (m.Along cond s actions)
  | _, [] => isTrue trivial
  | s, a :: rest =>
      match h : m.step s a with
      | none => decidable_of_iff (cond s a) (by simp [Along, h])
      | some next =>
          have := decidableAlong m cond next rest
          decidable_of_iff (cond s a ∧ m.Along cond next rest) (by simp [Along, h])

variable (m : Machine State Action)

@[simp] theorem run_nil (s : State) : m.run s [] = some s := rfl

theorem run_cons_eq_some {s final : State} {a : Action} {rest : List Action} :
    m.run s (a :: rest) = some final ↔
      ∃ next, m.step s a = some next ∧ m.run next rest = some final := by
  simp [run, Option.bind_eq_some_iff]

theorem run_append_eq_some {s final : State} {first second : List Action} :
    m.run s (first ++ second) = some final ↔
      ∃ middle, m.run s first = some middle ∧ m.run middle second = some final := by
  induction first generalizing s with
  | nil => simp
  | cons a rest ih =>
      rw [List.cons_append, run_cons_eq_some]
      constructor
      · rintro ⟨next, hstep, hrun⟩
        obtain ⟨middle, hfirst, hsecond⟩ := ih.mp hrun
        exact ⟨middle, m.run_cons_eq_some.mpr ⟨next, hstep, hfirst⟩, hsecond⟩
      · rintro ⟨middle, hfirst, hsecond⟩
        obtain ⟨next, hstep, hrun⟩ := m.run_cons_eq_some.mp hfirst
        exact ⟨next, hstep, ih.mpr ⟨middle, hrun, hsecond⟩⟩

theorem run_concat_eq_some {s final : State} {first : List Action} {a : Action} :
    m.run s (first ++ [a]) = some final ↔
      ∃ middle, m.run s first = some middle ∧ m.step middle a = some final := by
  simp [run_append_eq_some, run_cons_eq_some]

variable {m}

/-- A machine in which every action is always enabled runs through. -/
theorem run_total (htotal : ∀ s a, ∃ next, m.step s a = some next) (s : State)
    (actions : List Action) : ∃ final, m.run s actions = some final := by
  induction actions generalizing s with
  | nil => exact ⟨s, rfl⟩
  | cons a rest ih =>
      obtain ⟨next, hstep⟩ := htotal s a
      obtain ⟨final, hrun⟩ := ih next
      exact ⟨final, m.run_cons_eq_some.mpr ⟨next, hstep, hrun⟩⟩

theorem Along.cons {cond : State → Action → Prop} {s next : State} {a : Action}
    {rest : List Action} (hstep : m.step s a = some next) (ha : cond s a)
    (hrest : m.Along cond next rest) : m.Along cond s (a :: rest) := by
  refine ⟨ha, fun other hother => ?_⟩
  obtain rfl : next = other := Option.some.inj (hstep.symm.trans hother)
  exact hrest

theorem along_append {cond : State → Action → Prop} {s middle : State}
    {first second : List Action} (hrun : m.run s first = some middle) :
    m.Along cond s (first ++ second) ↔
      m.Along cond s first ∧ m.Along cond middle second := by
  induction first generalizing s with
  | nil =>
      obtain rfl : s = middle := by simpa using hrun
      simp [Along]
  | cons a rest ih =>
      obtain ⟨next, hstep, hrest⟩ := m.run_cons_eq_some.mp hrun
      simp only [List.cons_append, Along, hstep, Option.some.injEq, forall_eq', ih hrest]
      tauto

/-- A condition on the actions alone. -/
theorem along_of_forall {p : Action → Prop} {s : State} {actions : List Action}
    (hp : ∀ a ∈ actions, p a) : m.Along (fun _ a => p a) s actions := by
  induction actions generalizing s with
  | nil => trivial
  | cons a rest ih =>
      obtain ⟨ha, hrest⟩ := List.forall_mem_cons.mp hp
      exact ⟨ha, fun next _ => ih hrest⟩

/-- What the condition says of the actions alone. -/
theorem forall_of_along {cond : State → Action → Prop} {p : Action → Prop}
    (hcond : ∀ s a, cond s a → p a) {s final : State} {actions : List Action}
    (hrun : m.run s actions = some final) (halong : m.Along cond s actions) :
    ∀ a ∈ actions, p a := by
  induction actions generalizing s with
  | nil => simp
  | cons a rest ih =>
      obtain ⟨next, hnext, hrest⟩ := m.run_cons_eq_some.mp hrun
      exact List.forall_mem_cons.mpr ⟨hcond s a halong.1, ih hrest (halong.2 next hnext)⟩

theorem Along.and_forall {cond : State → Action → Prop} {p : Action → Prop} {s : State}
    {actions : List Action} (h : m.Along cond s actions) (hp : ∀ a ∈ actions, p a) :
    m.Along (fun s a => cond s a ∧ p a) s actions := by
  induction actions generalizing s with
  | nil => trivial
  | cons a rest ih =>
      obtain ⟨ha, hrest⟩ := List.forall_mem_cons.mp hp
      exact ⟨⟨h.1, ha⟩, fun next hstep => ih (h.2 next hstep) hrest⟩

theorem along_and {cond cond' : State → Action → Prop} {s : State} {actions : List Action} :
    m.Along (fun s a => cond s a ∧ cond' s a) s actions ↔
      m.Along cond s actions ∧ m.Along cond' s actions := by
  induction actions generalizing s with
  | nil => exact ⟨fun _ => ⟨trivial, trivial⟩, fun _ => trivial⟩
  | cons a rest ih =>
      simp only [Along, ih]
      constructor
      · rintro ⟨⟨h, h'⟩, hrest⟩
        exact ⟨⟨h, fun next hnext => (hrest next hnext).1⟩, h', fun next hnext =>
          (hrest next hnext).2⟩
      · rintro ⟨⟨h, hrest⟩, h', hrest'⟩
        exact ⟨⟨h, h'⟩, fun next hnext => ⟨hrest next hnext, hrest' next hnext⟩⟩

/-- An invariant that every allowed step keeps holds at the end of every run
whose steps are all allowed. The runs are closed under prefixes, so it holds
in every state on the way. -/
theorem run_invariant_along {cond : State → Action → Prop} {inv : State → Prop}
    (hstep : ∀ s a next, inv s → cond s a → m.step s a = some next → inv next)
    {s final : State} {actions : List Action} (hinit : inv s)
    (halong : m.Along cond s actions) (hrun : m.run s actions = some final) : inv final := by
  induction actions generalizing s with
  | nil =>
      obtain rfl : s = final := by simpa using hrun
      exact hinit
  | cons a rest ih =>
      obtain ⟨next, hnext, hrest⟩ := m.run_cons_eq_some.mp hrun
      exact ih (hstep s a next hinit halong.1 hnext) (halong.2 next hnext) hrest

theorem run_invariant {inv : State → Prop}
    (hstep : ∀ s a next, inv s → m.step s a = some next → inv next)
    {s final : State} {actions : List Action} (hinit : inv s)
    (hrun : m.run s actions = some final) : inv final := by
  have halong : m.Along (fun _ _ => True) s actions := along_of_forall fun _ _ => trivial
  exact run_invariant_along (fun s a next hinv _ h => hstep s a next hinv h) hinit halong hrun

/-- An invariant that also speaks about the actions taken before. -/
theorem run_invariant_history {inv : List Action → State → Prop}
    (hstep : ∀ before s a next, inv before s → m.step s a = some next → inv (before ++ [a]) next)
    {before : List Action} {s final : State} {actions : List Action} (hinit : inv before s)
    (hrun : m.run s actions = some final) : inv (before ++ actions) final := by
  induction actions generalizing before s with
  | nil =>
      obtain rfl : s = final := by simpa using hrun
      rwa [List.append_nil]
  | cons a rest ih =>
      obtain ⟨next, hnext, hrest⟩ := m.run_cons_eq_some.mp hrun
      rw [List.append_cons]
      exact ih (hstep before s a next hinit hnext) hrest

/-- Whoever chooses an action that lowers a rank each time, and is never refused it,
comes to a state in which there is nothing left to choose. -/
theorem exists_run_of_rank {choose : State → Option Action} {rank : State → Nat}
    (hstep : ∀ s a, choose s = some a → ∃ next, m.step s a = some next ∧ rank next < rank s)
    (s : State) : ∃ actions final, m.run s actions = some final ∧
      m.Along (fun s a => choose s = some a) s actions ∧ choose final = none := by
  induction hrank : rank s using Nat.strongRecOn generalizing s with
  | ind n ih =>
      cases hchoose : choose s with
      | none => exact ⟨[], s, rfl, trivial, hchoose⟩
      | some a =>
          obtain ⟨next, hnext, hlower⟩ := hstep s a hchoose
          obtain ⟨actions, final, hrun, halong, hfinal⟩ := ih _ (hrank ▸ hlower) next rfl
          exact ⟨a :: actions, final, m.run_cons_eq_some.mpr ⟨next, hnext, hrun⟩,
            .cons hnext hchoose halong, hfinal⟩

/-- With one action up and one action down, which the ends alone refuse, every position
between the ends can be walked to. -/
theorem exists_run_to (inv : State → Prop) (position : State → Int) (up down : Action)
    {low high : Int}
    (hup : ∀ s, inv s → position s < high → ∃ next, m.step s up = some next ∧ inv next ∧
      position next = position s + 1)
    (hdown : ∀ s, inv s → low < position s → ∃ next, m.step s down = some next ∧ inv next ∧
      position next = position s - 1)
    {s : State} (hinv : inv s) {target : Int} (hlow : low ≤ target) (hhigh : target ≤ high) :
    ∃ actions final, m.run s actions = some final ∧ inv final ∧ position final = target := by
  induction hdistance : (target - position s).natAbs generalizing s with
  | zero => exact ⟨[], s, rfl, hinv, by omega⟩
  | succ distance ih =>
      rcases Int.lt_or_le (position s) target with hbelow | habove
      · obtain ⟨next, hstep, hnext, hposition⟩ := hup s hinv (by omega)
        obtain ⟨actions, final, hrun, hfinal⟩ := ih hnext (by omega)
        exact ⟨up :: actions, final, m.run_cons_eq_some.mpr ⟨next, hstep, hrun⟩, hfinal⟩
      · obtain ⟨next, hstep, hnext, hposition⟩ := hdown s hinv (by omega)
        obtain ⟨actions, final, hrun, hfinal⟩ := ih hnext (by omega)
        exact ⟨down :: actions, final, m.run_cons_eq_some.mpr ⟨next, hstep, hrun⟩, hfinal⟩

/-- If a property survives exactly the steps that meet a condition, it holds all
along a run exactly when all steps of the run meet the condition. -/
theorem along_iff_invariant {cond : State → Action → Prop} {inv : State → Prop}
    (hstep : ∀ s a next, inv s → m.step s a = some next → (inv next ↔ cond s a))
    {s final : State} {actions : List Action} (hinit : inv s)
    (hrun : m.run s actions = some final) :
    m.Along cond s actions ↔
      ∀ before after middle, actions = before ++ after → m.run s before = some middle →
        inv middle := by
  constructor
  · rintro halong before after middle rfl hbefore
    refine run_invariant_along (fun s a next hinv hcond h => (hstep s a next hinv h).mpr hcond)
      hinit ((along_append hbefore).mp halong).1 hbefore
  · intro hall
    induction actions generalizing s with
    | nil => trivial
    | cons a rest ih =>
        obtain ⟨next, hnext, hrest⟩ := m.run_cons_eq_some.mp hrun
        -- the state after the first step is the end of the run `[a]`
        have hinv : inv next :=
          hall [a] rest next rfl (m.run_cons_eq_some.mpr ⟨next, hnext, rfl⟩)
        refine ⟨(hstep s a next hinit hnext).mp hinv, fun other hother => ?_⟩
        obtain rfl : next = other := Option.some.inj (hnext.symm.trans hother)
        refine ih hinv hrest fun before after middle hsplit hbefore => ?_
        exact hall (a :: before) after middle (by rw [hsplit]; rfl)
          (m.run_cons_eq_some.mpr ⟨next, hnext, hbefore⟩)

/-- If the steps that stay within a preorder are exactly those that meet a
condition, any two states of a run are in that order exactly when all steps of the
run meet the condition. -/
theorem along_iff_preorder {cond : State → Action → Prop} {rel : State → State → Prop}
    (hrefl : ∀ s, rel s s) (htrans : ∀ s middle next, rel s middle → rel middle next → rel s next)
    (hstep : ∀ s a next, m.step s a = some next → (rel s next ↔ cond s a))
    {s final : State} {actions : List Action} (hrun : m.run s actions = some final) :
    m.Along cond s actions ↔
      ∀ before between after earlier later, actions = before ++ (between ++ after) →
        m.run s before = some earlier → m.run earlier between = some later →
          rel earlier later := by
  constructor
  · rintro halong before between after earlier later rfl hbefore hbetween
    have hbetweenAlong := ((along_append hbefore).mp halong).2
    -- what is reached from `earlier` is related to it
    exact run_invariant_along
      (fun s a next hrel hcond h => htrans earlier s next hrel ((hstep s a next h).mpr hcond))
      (hrefl earlier) ((along_append hbetween).mp hbetweenAlong).1 hbetween
  · intro hall
    induction actions generalizing s with
    | nil => trivial
    | cons a rest ih =>
        obtain ⟨next, hnext, hrest⟩ := m.run_cons_eq_some.mp hrun
        have hfirst : rel s next :=
          hall [] [a] rest s next rfl rfl (m.run_cons_eq_some.mpr ⟨next, hnext, rfl⟩)
        refine ⟨(hstep s a next hnext).mp hfirst, fun other hother => ?_⟩
        obtain rfl : next = other := Option.some.inj (hnext.symm.trans hother)
        refine ih hrest fun before between after earlier later hsplit hbefore hbetween => ?_
        exact hall (a :: before) between after earlier later (by rw [hsplit]; rfl)
          (m.run_cons_eq_some.mpr ⟨next, hnext, hbefore⟩) hbetween

end Machine

end Foundation
