import Ticketing.Foundation.Machine

/-!
# Serial histories

A machine serves requests in several steps, and logs a request with the step that
answers it. The log is serial if the requests can be served one at a time, in the order
of the log, with the same answers and the same end. It is so in every state of a run
exactly if every answering step does to the store what its whole request would do then.
-/

namespace Foundation

universe u v w x

section Replay

variable {Store : Type u} {Event : Type v}

/-- The events lead from one store to the other, one at a time. -/
def Replays (serves : Store → Event → Store → Prop) : Store → List Event → Store → Prop
  | store, [], final => store = final
  | store, event :: rest, final =>
      ∃ middle, serves store event middle ∧ Replays serves middle rest final

variable {serves : Store → Event → Store → Prop} {store middle final other : Store}
  {log : List Event} {event : Event}

theorem replays_concat :
    Replays serves store (log ++ [event]) final ↔
      ∃ middle, Replays serves store log middle ∧ serves middle event final := by
  induction log generalizing store with
  | nil => simp [Replays]
  | cons first rest ih =>
      simp only [List.cons_append, Replays, ih]
      constructor
      · rintro ⟨next, hfirst, middle, hrest, hlast⟩
        exact ⟨middle, ⟨next, hfirst, hrest⟩, hlast⟩
      · rintro ⟨middle, ⟨next, hfirst, hrest⟩, hlast⟩
        exact ⟨next, hfirst, middle, hrest, hlast⟩

/-- If an event has one outcome, so has a log. -/
theorem Replays.unique (hserves : ∀ s e next next', serves s e next → serves s e next' →
    next = next') (h : Replays serves store log final) (h' : Replays serves store log other) :
    final = other := by
  induction log generalizing store with
  | nil => exact h.symm.trans h'
  | cons first rest ih =>
      obtain ⟨middle, hfirst, hrest⟩ := h
      obtain ⟨middle', hfirst', hrest'⟩ := h'
      rw [hserves _ _ _ _ hfirst hfirst'] at hrest
      exact ih hrest hrest'

theorem Replays.concat_iff (hserves : ∀ s e next next', serves s e next → serves s e next' →
    next = next') (h : Replays serves store log middle) :
    Replays serves store (log ++ [event]) final ↔ serves middle event final := by
  rw [replays_concat]
  constructor
  · rintro ⟨other, hother, hlast⟩
    rwa [h.unique hserves hother]
  · exact fun hlast => ⟨middle, h, hlast⟩

end Replay

namespace Machine

variable {State : Type u} {Action : Type v} {Store : Type w} {Event : Type x}
  {m : Machine State Action}

/-- What a step does to a store and a log: nothing, or it logs one event. -/
def Logs (store : State → Store) (log : State → List Event)
    (serves : Store → Event → Store → Prop) (cond : State → Action → Prop) (s : State)
    (a : Action) (next : State) : Prop :=
  (store next = store s ∧ log next = log s ∧ cond s a) ∨
    ∃ event, log next = log s ++ [event] ∧ (serves (store s) event (store next) ↔ cond s a)

/-- A log that starts empty is serial all along a run exactly if all steps of the run
meet the condition under which they serve what they log. -/
theorem along_iff_serial {store : State → Store} {log : State → List Event}
    {serves : Store → Event → Store → Prop} {cond : State → Action → Prop}
    (hserves : ∀ s e next next', serves s e next → serves s e next' → next = next')
    (hstep : ∀ s a next, m.step s a = some next → Logs store log serves cond s a next)
    {s final : State} {actions : List Action} (hlog : log s = [])
    (hrun : m.run s actions = some final) :
    m.Along cond s actions ↔
      ∀ before after middle, actions = before ++ after → m.run s before = some middle →
        Replays serves (store s) (log middle) (store middle) := by
  apply along_iff_invariant _ _ hrun
  · intro middle a next hserial h
    rcases hstep middle a next h with ⟨hstore, hsame, hcond⟩ | ⟨event, hevent, hiff⟩
    · rw [hstore, hsame]
      exact iff_of_true hserial hcond
    · rw [hevent, hserial.concat_iff hserves]
      exact hiff
  · rw [hlog]
    rfl

end Machine

end Foundation
