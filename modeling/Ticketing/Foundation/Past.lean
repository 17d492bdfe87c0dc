import Ticketing.Foundation.Machine

/-!
# What has been the case

A past-time operator for runs: a property held in some state on the way. It is how a
copy is compared with what it was taken from, when the original goes on changing.
-/

namespace Foundation

universe u v

namespace Machine

variable {State : Type u} {Action : Type v}

/-- The property held in some state of the run. -/
def Once (m : Machine State Action) (start : State) (actions : List Action)
    (p : State → Prop) : Prop :=
  ∃ before after middle, actions = before ++ after ∧ m.run start before = some middle ∧ p middle

variable {m : Machine State Action} {start s final : State} {actions : List Action}
  {p q : State → Prop}

theorem once_of_run (hrun : m.run start actions = some s) (h : p s) : m.Once start actions p :=
  ⟨actions, [], s, (List.append_nil actions).symm, hrun, h⟩

theorem Once.append (h : m.Once start actions p) (more : List Action) :
    m.Once start (actions ++ more) p := by
  obtain ⟨before, after, middle, rfl, hrun, hmiddle⟩ := h
  exact ⟨before, after ++ more, middle, List.append_assoc _ _ _, hrun, hmiddle⟩

theorem Once.imp (h : m.Once start actions p) (himp : ∀ s, p s → q s) :
    m.Once start actions q := by
  obtain ⟨before, after, middle, hsplit, hrun, hmiddle⟩ := h
  exact ⟨before, after, middle, hsplit, hrun, himp middle hmiddle⟩

/-- An invariant that speaks about what has been the case. Each step may use how its state
has been reached, and that the step itself is allowed. -/
theorem run_invariant_past {cond : State → Action → Prop} {inv : List Action → State → Prop}
    (hstep : ∀ before s a next, m.run start before = some s → inv before s → cond s a →
      m.step s a = some next → inv (before ++ [a]) next)
    (hinit : inv [] start) (halong : m.Along cond start actions)
    (hrun : m.run start actions = some final) : inv actions final := by
  have hall : ∀ before s rest, m.run start before = some s → inv before s →
      m.Along cond s rest → m.run s rest = some final → inv (before ++ rest) final := by
    intro before s rest
    induction rest generalizing before s with
    | nil =>
        intro _ hinv _ hend
        obtain rfl : s = final := by simpa using hend
        rwa [List.append_nil]
    | cons a rest ih =>
        intro hbefore hinv hcond hrest
        obtain ⟨next, hnext, hend⟩ := m.run_cons_eq_some.mp hrest
        rw [List.append_cons]
        exact ih _ _ (m.run_concat_eq_some.mpr ⟨s, hbefore, hnext⟩)
          (hstep before s a next hbefore hinv hcond.1 hnext) (hcond.2 next hnext) hend
  exact hall [] start actions rfl hinit halong hrun

end Machine

end Foundation
