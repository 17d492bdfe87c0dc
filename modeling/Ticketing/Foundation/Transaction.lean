import Mathlib.Data.List.Basic
import Mathlib.Tactic.Common

/-!
# Statements and transactions

A transaction is a sequence of database calls on one connection. Each call may
raise, because a constraint is violated or because the environment makes it
fail; a raised error leaves the transaction, and what it had written is then
not part of the database. Only `attempt` catches an error inside the
transaction, and it undoes the one failed call.
-/

namespace Foundation

universe u v w

/-- An error raised by the database driver, with the text of the exception. -/
inductive SqlError where
  | integrity (text : String)
  | other (text : String)
deriving DecidableEq, Repr

def SqlError.text : SqlError → String
  | .integrity text => text
  | .other text => text

/-- What the environment decides about one transaction: whether the connection
opens, which calls fail, whether the ROLLBACK after an error fails, and how
many identifiers other, rolled back insertions have used up before each call. -/
structure Env where
  connect : Option SqlError
  fault : Nat → Option SqlError
  rollback : Option SqlError
  idGap : Nat → Nat

/-- The environment in which no call fails. -/
def Env.quiet : Env := ⟨none, fun _ => none, none, fun _ => 0⟩

/-- Nothing fails; identifiers may still have gaps. -/
def Env.Unfailing (env : Env) : Prop := env.connect = none ∧ ∀ k, env.fault k = none

/-- The database as the open transaction sees it, and the number of calls made. -/
structure Cursor (Db : Type u) where
  db : Db
  calls : Nat

/-- A computation inside a transaction over databases in `Db`. -/
def Tx (Db : Type u) (α : Type v) : Type (max u v) :=
  Env → Cursor Db → Except SqlError (α × Cursor Db)

namespace Tx

variable {Db : Type u} {α β : Type v}

def pure (a : α) : Tx Db α := fun _ cursor => .ok (a, cursor)

def bind (x : Tx Db α) (f : α → Tx Db β) : Tx Db β := fun env cursor =>
  match x env cursor with
  | .error error => .error error
  | .ok (a, next) => f a env next

instance : Monad (Tx Db) where
  pure := Tx.pure
  bind := Tx.bind

/-- One database call: it fails if the environment says so, and otherwise does
what `query` does to the database. -/
def exec (query : Nat → Db → Except SqlError (α × Db)) : Tx Db α := fun env cursor =>
  match env.fault cursor.calls with
  | some error => .error error
  | none =>
      match query (env.idGap cursor.calls) cursor.db with
      | .error error => .error error
      | .ok (a, db) => .ok (a, ⟨db, cursor.calls + 1⟩)

/-- A call that only reads. -/
def select (query : Db → α) : Tx Db α := exec fun _ db => .ok (query db, db)

/-- A call without effect on the rows: COMMIT and ROLLBACK, whose effect is
where the transaction ends. -/
def call : Tx Db PUnit := exec fun _ db => .ok (⟨⟩, db)

/-- `try: x except IntegrityError` around one statement: the failed statement
is undone and the transaction goes on. -/
def attempt (x : Tx Db α) : Tx Db (Option α) := fun env cursor =>
  match x env cursor with
  | .ok (a, next) => .ok (some a, next)
  -- a violated constraint undoes the statement, not the transaction
  | .error (.integrity _) => .ok (none, ⟨cursor.db, cursor.calls + 1⟩)
  | .error (.other text) => .error (.other text)

section Inversion

variable {env : Env} {cursor final : Cursor Db}

theorem pure_ok {a b : α} :
    (Pure.pure a : Tx Db α) env cursor = .ok (b, final) ↔ b = a ∧ final = cursor := by
  change Except.ok (a, cursor) = .ok (b, final) ↔ _
  simp only [Except.ok.injEq, Prod.mk.injEq]
  constructor
  · rintro ⟨rfl, rfl⟩
    exact ⟨rfl, rfl⟩
  · rintro ⟨rfl, rfl⟩
    exact ⟨rfl, rfl⟩

/-- A sequence that ends without an error consists of two parts that do. -/
theorem bind_ok {x : Tx Db α} {f : α → Tx Db β} {b : β} :
    (x >>= f) env cursor = .ok (b, final) ↔
      ∃ a middle, x env cursor = .ok (a, middle) ∧ f a env middle = .ok (b, final) := by
  change Tx.bind x f env cursor = _ ↔ _
  unfold Tx.bind
  cases hx : x env cursor with
  | error error => simp
  | ok pair =>
      obtain ⟨a, middle⟩ := pair
      simp

theorem exec_ok {query : Nat → Db → Except SqlError (α × Db)} {a : α} :
    exec query env cursor = .ok (a, final) ↔
      env.fault cursor.calls = none ∧ final.calls = cursor.calls + 1 ∧
        query (env.idGap cursor.calls) cursor.db = .ok (a, final.db) := by
  unfold exec
  cases hfault : env.fault cursor.calls with
  | some error => simp
  | none =>
      cases hquery : query (env.idGap cursor.calls) cursor.db with
      | error error => simp
      | ok pair =>
          obtain ⟨b, db⟩ := pair
          obtain ⟨finalDb, finalCalls⟩ := final
          simp only [Except.ok.injEq, Prod.mk.injEq, Cursor.mk.injEq, true_and]
          constructor
          · rintro ⟨rfl, rfl, rfl⟩
            exact ⟨rfl, rfl, rfl⟩
          · rintro ⟨rfl, rfl, rfl⟩
            exact ⟨rfl, rfl, rfl⟩

theorem select_ok {query : Db → α} {a : α} :
    select query env cursor = .ok (a, final) ↔
      env.fault cursor.calls = none ∧ a = query cursor.db ∧
        final = ⟨cursor.db, cursor.calls + 1⟩ := by
  obtain ⟨finalDb, finalCalls⟩ := final
  rw [select, exec_ok]
  simp only [Except.ok.injEq, Prod.mk.injEq, Cursor.mk.injEq]
  constructor
  · rintro ⟨hfault, hcalls, ha, hdb⟩
    exact ⟨hfault, ha.symm, hdb.symm, hcalls⟩
  · rintro ⟨hfault, ha, hdb, hcalls⟩
    exact ⟨hfault, hcalls, ha.symm, hdb.symm⟩

theorem call_ok {a : PUnit} :
    (call : Tx Db PUnit) env cursor = .ok (a, final) ↔
      env.fault cursor.calls = none ∧ final = ⟨cursor.db, cursor.calls + 1⟩ := by
  obtain ⟨finalDb, finalCalls⟩ := final
  rw [call, exec_ok]
  simp only [Except.ok.injEq, Prod.mk.injEq, Cursor.mk.injEq, true_and]
  constructor
  · rintro ⟨hfault, hcalls, hdb⟩
    exact ⟨hfault, hdb.symm, hcalls⟩
  · rintro ⟨hfault, hdb, hcalls⟩
    exact ⟨hfault, hcalls, hdb.symm⟩

theorem attempt_ok {x : Tx Db α} {a : Option α} (h : attempt x env cursor = .ok (a, final)) :
    (∃ value, a = some value ∧ x env cursor = .ok (value, final)) ∨
      (a = none ∧ final.db = cursor.db) := by
  unfold attempt at h
  split at h
  next value next hx =>
    simp only [Except.ok.injEq, Prod.mk.injEq] at h
    obtain ⟨rfl, rfl⟩ := h
    exact .inl ⟨value, rfl, hx⟩
  next =>
    simp only [Except.ok.injEq, Prod.mk.injEq] at h
    obtain ⟨rfl, rfl⟩ := h
    exact .inr ⟨rfl, rfl⟩
  next => cases h

end Inversion

/-! ## Progress -/

section Progress

variable {env : Env} {cursor : Cursor Db}

/-- The computation ends without an error, with a result in `Q`. -/
def Yields (x : Tx Db α) (env : Env) (cursor : Cursor Db) (Q : α → Prop) : Prop :=
  ∃ a final, x env cursor = .ok (a, final) ∧ Q a

/-- The computation ends without an error. -/
def Succeeds (x : Tx Db α) (env : Env) (cursor : Cursor Db) : Prop :=
  x.Yields env cursor fun _ => True

theorem pure_yields {a : α} {Q : α → Prop} (h : Q a) :
    Yields (Pure.pure a : Tx Db α) env cursor Q :=
  ⟨a, cursor, rfl, h⟩

theorem bind_yields {x : Tx Db α} {f : α → Tx Db β} {Q : β → Prop} (hx : Succeeds x env cursor)
    (hf : ∀ a middle, x env cursor = .ok (a, middle) → Yields (f a) env middle Q) :
    Yields (x >>= f) env cursor Q := by
  obtain ⟨a, middle, hrun, _⟩ := hx
  obtain ⟨b, final, hrest, hb⟩ := hf a middle hrun
  exact ⟨b, final, bind_ok.mpr ⟨a, middle, hrun, hrest⟩, hb⟩

theorem exec_succeeds {query : Nat → Db → Except SqlError (α × Db)}
    (hfault : env.fault cursor.calls = none)
    (hquery : ∃ a db, query (env.idGap cursor.calls) cursor.db = .ok (a, db)) :
    Succeeds (exec query) env cursor := by
  obtain ⟨a, db, hrun⟩ := hquery
  exact ⟨a, ⟨db, cursor.calls + 1⟩, exec_ok.mpr ⟨hfault, rfl, hrun⟩, trivial⟩

theorem select_succeeds {query : Db → α} (hfault : env.fault cursor.calls = none) :
    Succeeds (select query) env cursor :=
  ⟨query cursor.db, _, select_ok.mpr ⟨hfault, rfl, rfl⟩, trivial⟩

theorem call_succeeds (hfault : env.fault cursor.calls = none) :
    Succeeds (call : Tx Db PUnit) env cursor :=
  ⟨⟨⟩, _, call_ok.mpr ⟨hfault, rfl⟩, trivial⟩

/-- An integrity error inside `attempt` is no error. -/
theorem attempt_succeeds {x : Tx Db α} (h : ∀ text, x env cursor ≠ .error (.other text)) :
    Succeeds (attempt x) env cursor := by
  unfold Succeeds Yields attempt
  cases hx : x env cursor with
  | ok pair => exact ⟨some pair.1, pair.2, rfl, trivial⟩
  | error error =>
      cases error with
      | integrity text => exact ⟨none, ⟨cursor.db, cursor.calls + 1⟩, rfl, trivial⟩
      | other text => exact absurd hx (h text)

end Progress

/-! ## Errors -/

section Errors

variable {env : Env} {cursor : Cursor Db} {P : SqlError → Prop}

/-- The computation ends with an error in `P`. -/
def Raises (x : Tx Db α) (env : Env) (cursor : Cursor Db) (P : SqlError → Prop) : Prop :=
  ∃ error, x env cursor = .error error ∧ P error

theorem bind_raises {x : Tx Db α} {f : α → Tx Db β} (hx : x.Raises env cursor P) :
    (x >>= f).Raises env cursor P := by
  obtain ⟨error, hrun, herror⟩ := hx
  refine ⟨error, ?_, herror⟩
  change Tx.bind x f env cursor = _
  rw [Tx.bind, hrun]

/-- The error of the second part, after a first part that goes through. -/
theorem bind_raises_of_succeeds {x : Tx Db α} {f : α → Tx Db β} (hx : Succeeds x env cursor)
    (hf : ∀ a middle, x env cursor = .ok (a, middle) → (f a).Raises env middle P) :
    (x >>= f).Raises env cursor P := by
  obtain ⟨a, middle, hrun, _⟩ := hx
  obtain ⟨error, hrest, herror⟩ := hf a middle hrun
  refine ⟨error, ?_, herror⟩
  change Tx.bind x f env cursor = _
  rw [Tx.bind, hrun]
  exact hrest

/-- A computation that can only violate constraints does so if it does not end
without an error. -/
theorem raises_integrity {x : Tx Db α} (hother : ∀ text, x env cursor ≠ .error (.other text))
    (hno : ∀ a final, x env cursor ≠ .ok (a, final)) :
    x.Raises env cursor fun error => ∃ text, error = .integrity text := by
  cases hx : x env cursor with
  | ok pair => exact absurd hx (hno pair.1 pair.2)
  | error error =>
      cases error with
      | integrity text => exact ⟨_, hx, text, rfl⟩
      | other text => exact absurd hx (hother text)

theorem exec_raises {query : Nat → Db → Except SqlError (α × Db)}
    (hfault : env.fault cursor.calls = none)
    (hquery : ∃ error, query (env.idGap cursor.calls) cursor.db = .error error ∧ P error) :
    (exec query).Raises env cursor P := by
  obtain ⟨error, hrun, herror⟩ := hquery
  exact ⟨error, by simp only [exec, hfault, hrun], herror⟩

/-- A call that does not fail raises no error but those of its query. -/
theorem exec_ne_error {query : Nat → Db → Except SqlError (α × Db)} {error : SqlError}
    (hfault : env.fault cursor.calls = none)
    (hquery : query (env.idGap cursor.calls) cursor.db ≠ .error error) :
    exec query env cursor ≠ .error error := by
  unfold exec
  rw [hfault]
  dsimp only
  split
  next other hother =>
    intro h
    cases h
    exact hquery hother
  next => simp

/-- A sequence raises no error of its own. -/
theorem bind_ne_error {x : Tx Db α} {f : α → Tx Db β} {error : SqlError}
    (hx : x env cursor ≠ .error error)
    (hf : ∀ a middle, x env cursor = .ok (a, middle) → f a env middle ≠ .error error) :
    (x >>= f) env cursor ≠ .error error := by
  intro h
  change Tx.bind x f env cursor = _ at h
  unfold Tx.bind at h
  split at h
  next other hother =>
    cases h
    exact hx hother
  next a middle hrun => exact hf a middle hrun h

end Errors

end Tx

/-- How the code inside `try` leaves it: after COMMIT, or early. -/
inductive Exit (α β : Type v) where
  | commit (value : α)
  | leave (value : β)

/-- How a transaction ends for its caller. `lost` is an exception that leaves
the function: no connection, or an error while rolling back. -/
inductive Outcome (α β : Type v) where
  | commit (value : α)
  | leave (value : β)
  | failed (error : SqlError)
  | lost

namespace Tx

variable {Db : Type u} {α β : Type v}

/-- `connect`, `try: x`, `except: rollback`: only a transaction that reached
COMMIT changes the database. -/
def settle (x : Tx Db (Exit α β)) (env : Env) (db : Db) : Outcome α β × Db :=
  match env.connect with
  -- the connection is opened in front of `try`
  | some _ => (.lost, db)
  | none =>
      match x env ⟨db, 0⟩ with
      | .ok (.commit value, cursor) => (.commit value, cursor.db)
      | .ok (.leave value, _) => (.leave value, db)
      | .error error =>
          match env.rollback with
          -- the exception of a ROLLBACK in an `except` branch is caught by nobody
          | some _ => (.lost, db)
          | none => (.failed error, db)

/-- A transaction without COMMIT leaves the database as it was. -/
theorem settle_db (x : Tx Db (Exit α β)) (env : Env) (db : Db) :
    (∃ value cursor, x env ⟨db, 0⟩ = .ok (.commit value, cursor) ∧
        settle x env db = (.commit value, cursor.db) ∧ env.connect = none) ∨
      ((settle x env db).2 = db ∧ ∀ value, (settle x env db).1 ≠ .commit value) := by
  unfold settle
  cases env.connect with
  | some error => exact .inr ⟨rfl, by simp⟩
  | none =>
      dsimp only
      split
      next value cursor h => exact .inl ⟨value, cursor, h, rfl, rfl⟩
      next => exact .inr ⟨rfl, by simp⟩
      next =>
        cases env.rollback with
        | some _ => exact .inr ⟨rfl, by simp⟩
        | none => exact .inr ⟨rfl, by simp⟩

/-- When the connection opens, a transaction that reaches COMMIT commits. -/
theorem settle_commit {x : Tx Db (Exit α β)} {env : Env} {db : Db}
    (hconnect : env.connect = none)
    (hx : x.Yields env ⟨db, 0⟩ fun exit => ∃ value, exit = .commit value) :
    ∃ value, (settle x env db).1 = .commit value := by
  obtain ⟨_, cursor, hrun, value, rfl⟩ := hx
  exact ⟨value, by simp only [settle, hconnect, hrun]⟩

/-- The caller is left without an answer if the connection does not open, or the
ROLLBACK after an error raises. -/
theorem settle_lost_iff {x : Tx Db (Exit α β)} {env : Env} {db : Db} :
    (settle x env db).1 = .lost ↔
      env.connect ≠ none ∨ env.rollback ≠ none ∧ ∃ error, x env ⟨db, 0⟩ = .error error := by
  unfold settle
  cases env.connect with
  | some error => simp
  | none =>
      cases x env ⟨db, 0⟩ with
      | ok pair =>
          obtain ⟨exit, cursor⟩ := pair
          cases exit with
          | commit value => simp
          | leave value => simp
      | error error =>
          cases env.rollback with
          | some _ => simp
          | none => simp

theorem settle_of_leave {x : Tx Db (Exit α β)} {env : Env} {db : Db} {P : β → Prop}
    (hconnect : env.connect = none)
    (hx : x.Yields env ⟨db, 0⟩ fun exit => ∃ value, exit = .leave value ∧ P value) :
    ∃ value, (settle x env db).1 = .leave value ∧ P value := by
  obtain ⟨_, cursor, hrun, value, rfl, hvalue⟩ := hx
  exact ⟨value, by simp only [settle, hconnect, hrun], hvalue⟩

theorem settle_of_raises {x : Tx Db (Exit α β)} {env : Env} {db : Db} {P : SqlError → Prop}
    (hconnect : env.connect = none) (hrollback : env.rollback = none)
    (hx : x.Raises env ⟨db, 0⟩ P) : ∃ error, (settle x env db).1 = .failed error ∧ P error := by
  obtain ⟨error, hrun, herror⟩ := hx
  exact ⟨error, by simp only [settle, hconnect, hrollback, hrun], herror⟩

theorem settle_leave {x : Tx Db (Exit α β)} {env : Env} {db : Db} {value : β}
    (h : (settle x env db).1 = .leave value) :
    ∃ cursor, x env ⟨db, 0⟩ = .ok (.leave value, cursor) := by
  unfold settle at h
  split at h
  next => cases h
  next =>
    split at h
    next => cases h
    next other cursor hx =>
      obtain rfl : other = value := by simpa using h
      exact ⟨cursor, hx⟩
    next => split at h <;> cases h

end Tx

end Foundation
