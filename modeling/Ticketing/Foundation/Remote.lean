import Mathlib.Tactic.Common

/-!
# Programs over a remote store

A program calls a store, and each call may raise. A call that raises may have
taken effect or not, and what a program has done before an exception stays
done. `try` and `finally` are those of Python, for exceptions that carry a
text.
-/

namespace Foundation

universe u v

/-- How a call raises: the text of the exception, and whether the store has
executed the call nevertheless. -/
structure Fault where
  text : String
  executed : Bool
deriving DecidableEq, Repr

/-- The store as the program finds it, and the number of calls made. -/
structure Session (State : Type u) where
  state : State
  calls : Nat

/-- A program; the environment says which of its calls raise. -/
def Remote (State : Type u) (α : Type v) : Type (max u v) :=
  (Nat → Option Fault) → Session State → Except String α × Session State

namespace Remote

variable {State : Type u} {α β : Type v}

def pure (a : α) : Remote State α := fun _ s => (.ok a, s)

def bind (x : Remote State α) (f : α → Remote State β) : Remote State β := fun faults s =>
  match x faults s with
  | (.ok a, next) => f a faults next
  | (.error text, next) => (.error text, next)

instance : Monad (Remote State) where
  pure := Remote.pure
  bind := Remote.bind

/-- An exception that no call causes. -/
def raise (text : String) : Remote State α := fun _ s => (.error text, s)

/-- One call. -/
def call (query : State → α × State) : Remote State α := fun faults s =>
  let (a, next) := query s.state
  match faults s.calls with
  | none => (.ok a, ⟨next, s.calls + 1⟩)
  | some fault => (.error fault.text, ⟨if fault.executed then next else s.state, s.calls + 1⟩)

/-- A step that is no call and does not raise. -/
def perform (query : State → α × State) : Remote State α := fun _ s =>
  (.ok (query s.state).1, { s with state := (query s.state).2 })

/-- `try: x` with `except Exception as e: handler(e)`. -/
def tryCatch (x : Remote State α) (handler : String → Remote State α) : Remote State α :=
  fun faults s =>
    match x faults s with
    | (.ok a, next) => (.ok a, next)
    | (.error text, next) => handler text faults next

/-- `try: x` with `finally: last`. An exception of `last` replaces the outcome. -/
def andFinally (x : Remote State α) (last : Remote State Unit) : Remote State α :=
  fun faults s =>
    let (outcome, next) := x faults s
    match last faults next with
    | (.ok _, final) => (outcome, final)
    | (.error text, final) => (.error text, final)

/-! ## What a program that returns has done -/

section Returns

variable {faults : Nat → Option Fault} {s final : Session State}

theorem pure_ok {a b : α} :
    (Pure.pure a : Remote State α) faults s = (.ok b, final) ↔ b = a ∧ final = s := by
  change (Except.ok a, s) = (.ok b, final) ↔ _
  simp only [Prod.mk.injEq, Except.ok.injEq, eq_comm]

theorem raise_ne_ok {text : String} {a : α} :
    (raise text : Remote State α) faults s ≠ (.ok a, final) := by
  simp [raise]

theorem bind_ok {x : Remote State α} {f : α → Remote State β} {b : β} :
    (x >>= f) faults s = (.ok b, final) ↔
      ∃ a middle, x faults s = (.ok a, middle) ∧ f a faults middle = (.ok b, final) := by
  change Remote.bind x f faults s = _ ↔ _
  unfold Remote.bind
  cases hx : x faults s with
  | mk outcome next => cases outcome <;> simp

theorem call_ok {query : State → α × State} {a : α} :
    call query faults s = (.ok a, final) ↔
      faults s.calls = none ∧ a = (query s.state).1 ∧
        final = ⟨(query s.state).2, s.calls + 1⟩ := by
  unfold call
  cases hfault : faults s.calls with
  | none => simp [eq_comm]
  | some fault => simp

theorem tryCatch_ok {x : Remote State α} {handler : String → Remote State α} {a : α} :
    tryCatch x handler faults s = (.ok a, final) ↔
      x faults s = (.ok a, final) ∨
        ∃ text middle, x faults s = (.error text, middle) ∧
          handler text faults middle = (.ok a, final) := by
  unfold tryCatch
  cases hx : x faults s with
  | mk outcome next => cases outcome <;> simp

theorem andFinally_ok {x : Remote State α} {last : Remote State Unit} {a : α} :
    andFinally x last faults s = (.ok a, final) ↔
      ∃ middle value, x faults s = (.ok a, middle) ∧
        last faults middle = (.ok value, final) := by
  unfold andFinally
  cases hx : x faults s with
  | mk outcome next =>
      cases hlast : last faults next with
      | mk result last => cases result <;> simp [hlast, eq_comm, and_comm]

/-! A sequence whose first program has been run. -/

theorem bind_of_ok {x : Remote State α} {f : α → Remote State β} {a : α}
    (h : x faults s = (.ok a, final)) : (x >>= f) faults s = f a faults final := by
  change Remote.bind x f faults s = _
  rw [Remote.bind, h]

theorem bind_of_error {x : Remote State α} {f : α → Remote State β} {text : String}
    (h : x faults s = (.error text, final)) : (x >>= f) faults s = (.error text, final) := by
  change Remote.bind x f faults s = _
  rw [Remote.bind, h]

/-- An exception that is only turned into a value. -/
theorem tryCatch_pure_session {x : Remote State α} {value : String → α} :
    (tryCatch x (fun text => Pure.pure (value text)) faults s).2 = (x faults s).2 := by
  unfold tryCatch
  cases hx : x faults s with
  | mk outcome next => cases outcome <;> rfl

/-- Behind a handler that cannot raise there is no exception left. -/
theorem tryCatch_pure_returns {x : Remote State α} {value : String → α} :
    ∃ a, (tryCatch x (fun text => Pure.pure (value text)) faults s).1 = .ok a := by
  unfold tryCatch
  cases hx : x faults s with
  | mk outcome next =>
      cases outcome with
      | ok a => exact ⟨a, rfl⟩
      | error text => exact ⟨value text, rfl⟩

end Returns

/-! ## What a program does to the store, however it ends -/

/-- A relation between stores that holds of doing nothing, and of one thing
after another. -/
structure Frame (State : Type u) where
  rel : State → State → Prop
  refl : ∀ s, rel s s
  trans : ∀ {r s t}, rel r s → rel s t → rel r t

/-- The stores before and after the program are related. -/
def Keeps (frame : Frame State) (x : Remote State α) : Prop :=
  ∀ faults s, frame.rel s.state (x faults s).2.state

section Keeps

variable {frame : Frame State} {x : Remote State α}

theorem keeps_pure (a : α) : Keeps frame (Pure.pure a : Remote State α) :=
  fun _ s => frame.refl s.state

theorem keeps_raise (text : String) : Keeps frame (raise text : Remote State α) :=
  fun _ s => frame.refl s.state

theorem keeps_call {query : State → α × State} (hquery : ∀ s, frame.rel s (query s).2) :
    Keeps frame (call query) := by
  intro faults s
  unfold call
  cases faults s.calls with
  | none => exact hquery s.state
  | some fault =>
      dsimp only
      split
      next => exact hquery s.state
      next => exact frame.refl s.state

theorem keeps_perform {query : State → α × State} (hquery : ∀ s, frame.rel s (query s).2) :
    Keeps frame (perform query) :=
  fun _ s => hquery s.state

/-- A sequence, from one given session: the second program may rely on how the
first one has ended. -/
theorem rel_bind {f : α → Remote State β} {faults : Nat → Option Fault} {s : Session State}
    (hx : frame.rel s.state (x faults s).2.state)
    (hf : ∀ a next, x faults s = (.ok a, next) →
      frame.rel next.state (f a faults next).2.state) :
    frame.rel s.state ((x >>= f) faults s).2.state := by
  change frame.rel s.state (Remote.bind x f faults s).2.state
  unfold Remote.bind
  split
  next a next hrun =>
    rw [hrun] at hx
    exact frame.trans hx (hf a next hrun)
  next text next hrun =>
    rw [hrun] at hx
    exact hx

theorem Keeps.bind {f : α → Remote State β} (hx : Keeps frame x)
    (hf : ∀ a, Keeps frame (f a)) : Keeps frame (x >>= f) :=
  fun faults s => rel_bind (hx faults s) fun a next _ => hf a faults next

theorem Keeps.tryCatch {handler : String → Remote State α} (hx : Keeps frame x)
    (hhandler : ∀ text, Keeps frame (handler text)) : Keeps frame (tryCatch x handler) := by
  intro faults s
  have hfirst := hx faults s
  unfold Remote.tryCatch
  split
  next a next hrun =>
    rw [hrun] at hfirst
    exact hfirst
  next text next hrun =>
    rw [hrun] at hfirst
    exact frame.trans hfirst (hhandler text faults next)

theorem Keeps.andFinally {last : Remote State Unit} (hx : Keeps frame x)
    (hlast : Keeps frame last) : Keeps frame (andFinally x last) := by
  intro faults s
  have hfirst := hx faults s
  have hsecond := hlast faults (x faults s).2
  unfold Remote.andFinally
  dsimp only
  split
  next value final hrun =>
    rw [hrun] at hsecond
    exact frame.trans hfirst hsecond
  next text final hrun =>
    rw [hrun] at hsecond
    exact frame.trans hfirst hsecond

/-- A loop over a list. -/
theorem Keeps.forM {Item : Type*} {f : Item → Remote State PUnit} {items : List Item}
    (hf : ∀ item ∈ items, Keeps frame (f item)) : Keeps frame (items.forM f) := by
  induction items with
  | nil => exact keeps_pure _
  | cons item rest ih =>
      obtain ⟨hitem, hrest⟩ := List.forall_mem_cons.mp hf
      exact hitem.bind fun _ => ih hrest

theorem Keeps.mapM' {Item : Type*} {f : Item → Remote State β} {items : List Item}
    (hf : ∀ item, Keeps frame (f item)) : Keeps frame (items.mapM' f) := by
  induction items with
  | nil => exact keeps_pure _
  | cons item rest ih => exact (hf item).bind fun _ => ih.bind fun _ => keeps_pure _

end Keeps

end Remote

end Foundation
