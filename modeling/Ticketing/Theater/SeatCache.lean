import Ticketing.Foundation.Tasks
import Ticketing.Theater.Consistency

/-!
# Who writes the theater keys of the read cache

Readers that find a key missing, warmups and refunds read the database and then
write keys one by one; a worker that has committed a booking deletes keys. The
keys do not expire. The steps of different operations interleave, and the SELECT
of the counts, the SELECT of the reserved seats and each Redis command is a step
of its own. Redis answers every command.
-/

namespace Ticketing

open Foundation Python

/-- `theaters:booking:bootstrap:v6` and `theaters:booking:detail:{id}:v6`. -/
inductive TheaterKey where
  | bootstrap
  | detail (theaterId : Int)
deriving DecidableEq

/-- What is stored under a key. -/
inductive TheaterValue where
  | bootstrap (payload : Bootstrap)
  | detail (payload : TheaterDetail)

def TheaterValue.schedules : TheaterValue → List SchedulePayload
  | .bootstrap payload => payload.schedules
  | .detail payload => payload.schedules

def TheaterValue.reservedSeats : TheaterValue → ReservedSeats
  | .bootstrap payload => payload.reservedSeats
  | .detail payload => payload.reservedSeats

/-- What a key gets from a payload. -/
def Bootstrap.valueAt (payload : Bootstrap) : TheaterKey → Option TheaterValue
  | .bootstrap => some (.bootstrap payload)
  | .detail theaterId => (theaterDetailFromBootstrap payload theaterId).map .detail

/-- Who reads the database in order to write keys: `get_theaters_bootstrap`,
`get_theater_detail`, or `warmup_theaters_booking_caches`. -/
inductive Refill where
  | bootstrap
  | detail (theaterId : Int)
  | all

/-- The keys in the order of their writes. A theater that is not found is
answered with 404, and nothing is written. -/
def Refill.keys (refill : Refill) (payload : Bootstrap) : List TheaterKey :=
  match refill with
  | .bootstrap => [.bootstrap]
  | .detail theaterId =>
      if (theaterDetailFromBootstrap payload theaterId).isSome then
        [.bootstrap, .detail theaterId]
      else []
  | .all => .bootstrap :: payload.theaters.map fun theater => .detail theater.theaterId

/-- What a reader refills when its key is missing. -/
def TheaterKey.refill : TheaterKey → Refill
  | .bootstrap => .bootstrap
  | .detail theaterId => .detail theaterId

/-- The place of an operation in its code: before its GET, before the SELECT of
the schedules, before the SELECT of the reserved seats, before a SET with others
to follow, before its DEL. -/
inductive TheaterTask where
  | look (key : TheaterKey)
  | load (refill : Refill)
  | schedules (refill : Refill) (movieMap : MovieMap) (third : Db)
  | write (payload : Bootstrap) (key : TheaterKey) (rest : List TheaterKey)
  | delete (keys : List TheaterKey)

structure TheaterState where
  db : Db
  cache : TheaterKey → Option TheaterValue
  tasks : Tasks TheaterTask

/-- Nothing is cached and nothing is in progress. -/
def TheaterState.initial (db : Db) : TheaterState := ⟨db, fun _ => none, .empty⟩

/-- An operation begins, or goes on with its next command. -/
inductive CacheStep where
  | read (id : Nat) (key : TheaterKey)
  | warmup (id : Nat)
  | book (id : Nat) (env : Env) (codes : Nat → String) (body : Json)
  | refund (id : Nat) (env : Env) (userId bookingId : Int)
  | advance (id : Nat) (movieMap : MovieMap)

/-- `h.theater_id` of a schedule, joined with its hall; 0 without one. -/
def theaterOf (db : Db) (scheduleId : Int) : Int :=
  ((db.schedules.find scheduleId).bind fun row => db.halls.find row.hallId).elim 0 Hall.theaterId

/-- `theater_id_for_cache`. -/
def theaterIdForCache (db : Db) (body : Json) : Int :=
  (decodeRequest "schedule_id" body).elim 0 fun request => theaterOf db request.showingId

/-- The keys that the worker deletes after a booking. -/
def deletedKeys (theaterId : Int) : List TheaterKey :=
  .bootstrap :: if 0 < theaterId then [.detail theaterId] else []

/-- Before the writes of the keys; without keys the operation is over. -/
def TheaterTask.writing (payload : Bootstrap) : List TheaterKey → Option TheaterTask
  | [] => none
  | key :: rest => some (.write payload key rest)

/-- A worker that has committed goes on to delete keys. -/
def TheaterTask.afterBooking (db : Db) (body : Json) (verdict : Verdict) : Option TheaterTask :=
  if verdict.isCommitted then some (.delete (deletedKeys (theaterIdForCache db body))) else none

/-- A refund that has committed goes on with a warmup. -/
def TheaterTask.afterRefund (reply : RefundReply) : Option TheaterTask :=
  if reply = .done then some (.load .all) else none

/-- The next command of an operation. The first two SELECTs read tables that no
operation changes and are taken together with the third. -/
def TheaterState.advance (s : TheaterState) (catalog : Catalog) (id : Nat) (movieMap : MovieMap) :
    TheaterTask → TheaterState
  | .look key =>
      let task := if (s.cache key).isSome then none else some (.load key.refill)
      { s with tasks := s.tasks.set id task }
  | .load refill => { s with tasks := s.tasks.set id (some (.schedules refill movieMap s.db)) }
  | .schedules refill movieMap third =>
      let payload := fetchBootstrapFromDb catalog movieMap third third s.db
      { s with tasks := s.tasks.set id (TheaterTask.writing payload (refill.keys payload)) }
  | .write payload key rest =>
      { s with
        cache := fun other => if other = key then payload.valueAt key else s.cache other
        tasks := s.tasks.set id (TheaterTask.writing payload rest) }
  | .delete keys =>
      { s with
        cache := fun key => if key ∈ keys then none else s.cache key
        tasks := s.tasks.set id none }

/-- A new operation has made its first step, which leaves the database `db`; the
number must be free. -/
def TheaterState.start (s : TheaterState) (id : Nat) (db : Db) (task : Option TheaterTask) :
    Option TheaterState :=
  if (s.tasks id).isNone then some { s with db := db, tasks := s.tasks.set id task } else none

/-- The database and the cache under all operations. -/
def theaterCacheMachine (catalog : Catalog) : Machine TheaterState CacheStep where
  step s
    | .read id key => s.start id s.db (some (.look key))
    | .warmup id => s.start id s.db (some (.load .all))
    | .book id env codes body =>
        let (verdict, db) := processTheaterBooking env codes body s.db
        s.start id db (TheaterTask.afterBooking s.db body verdict)
    | .refund id env userId bookingId =>
        let (reply, db) := refundMovieBooking env userId bookingId s.db
        s.start id db (TheaterTask.afterRefund reply)
    | .advance id movieMap => (s.tasks id).map (s.advance catalog id movieMap)

theorem TheaterState.start_eq_some {s next : TheaterState} {id : Nat} {db : Db}
    {task : Option TheaterTask} :
    s.start id db task = some next ↔
      s.tasks id = none ∧ { s with db := db, tasks := s.tasks.set id task } = next := by
  simp [start]

/-! ## Which operations are in progress -/

/-- The operation that a step belongs to. -/
def CacheStep.id : CacheStep → Nat
  | .read id _ | .warmup id | .book id _ _ _ | .refund id _ _ _ | .advance id _ => id

theorem step_tasks_other {catalog : Catalog} {s next : TheaterState} {a : CacheStep}
    (h : (theaterCacheMachine catalog).step s a = some next) {other : Nat} (hother : other ≠ a.id) :
    next.tasks other = s.tasks other := by
  cases a with
  | read id key =>
      obtain ⟨_, rfl⟩ := TheaterState.start_eq_some.mp h
      exact Tasks.set_other hother _
  | warmup id =>
      obtain ⟨_, rfl⟩ := TheaterState.start_eq_some.mp h
      exact Tasks.set_other hother _
  | book id env codes body =>
      obtain ⟨_, rfl⟩ := TheaterState.start_eq_some.mp h
      exact Tasks.set_other hother _
  | refund id env userId bookingId =>
      obtain ⟨_, rfl⟩ := TheaterState.start_eq_some.mp h
      exact Tasks.set_other hother _
  | advance id movieMap =>
      obtain ⟨task, _, rfl⟩ := Option.map_eq_some_iff.mp h
      cases task with
      | look _ => exact Tasks.set_other hother _
      | load _ => exact Tasks.set_other hother _
      | schedules _ _ _ => exact Tasks.set_other hother _
      | write _ _ _ => exact Tasks.set_other hother _
      | delete _ => exact Tasks.set_other hother _

/-- A run of a few operations is over when all of them are. -/
theorem run_idle {catalog : Catalog} {db : Db} {steps : List CacheStep} {final : TheaterState}
    {n : Nat} (hrun : (theaterCacheMachine catalog).run (.initial db) steps = some final)
    (hsteps : ∀ a ∈ steps, a.id < n) (hover : ∀ id < n, (final.tasks id).isNone = true) :
    final.tasks.Idle := by
  intro id
  by_cases hlt : id < n
  · simpa using hover id hlt
  · have hstep : ∀ s a next, (s : TheaterState).tasks id = none → a.id < n →
        (theaterCacheMachine catalog).step s a = some next → next.tasks id = none := by
      intro s a next hs ha h
      rw [step_tasks_other h (by omega), hs]
    exact Machine.run_invariant_along hstep rfl (Machine.along_of_forall hsteps) hrun

/-! ## What the steps do to the database -/

/-- Halls and their seats, and the schedules without their counters. -/
def Db.SameLayout (db next : Db) : Prop :=
  next.plan = db.plan ∧ next.halls = db.halls ∧ next.hallSeats = db.hallSeats

theorem theaterOf_of_mem {db : Db} {row : Schedule} {hall : Hall} (hrow : row ∈ db.schedules.rows)
    (hhall : hall ∈ db.halls.rows) (hid : hall.hallId = row.hallId) :
    theaterOf db row.scheduleId = hall.theaterId := by
  have hfind : db.schedules.find row.scheduleId = some row := Table.find_eq_some.mpr ⟨hrow, rfl⟩
  have hfind' : db.halls.find row.hallId = some hall := Table.find_eq_some.mpr ⟨hhall, hid⟩
  rw [theaterOf, hfind, Option.bind_some, hfind']
  rfl

theorem theaterOf_eq {db next : Db} (h : db.SameLayout next) (scheduleId : Int) :
    theaterOf next scheduleId = theaterOf db scheduleId := by
  -- the hall of a schedule is in the plan
  have hplan : ∀ db : Db, theaterOf db scheduleId =
      (((db.plan.find? fun entry => entry.1 == scheduleId).bind fun entry =>
        db.halls.find entry.2.1).elim 0 Hall.theaterId) := by
    intro db
    rw [theaterOf, Db.plan, List.find?_map, Option.bind_map]
    rfl
  rw [hplan, hplan, h.1, h.2.1]

theorem TheaterBooked.sameLayout {db next : Db} {request : Request} {schedule : Schedule}
    {seatIds : List Int} {bookingId : Int}
    (h : TheaterBooked db next request schedule seatIds bookingId) : db.SameLayout next :=
  ⟨h.plan_eq, by rw [h.frame], h.hallSeats_eq⟩

/-- A step that changes the database is a booking or a refund that goes on to
repair the cache. -/
theorem refundMovieBooking_done (env : Env) (userId bookingId : Int) (db : Db) :
    (refundMovieBooking env userId bookingId db).1 = .done ∨
      (refundMovieBooking env userId bookingId db).2 = db := by
  unfold refundMovieBooking
  rcases Tx.settle_db (refundTx movieBook (fun _ => return ()) userId bookingId) env db with
    ⟨value, cursor, _, hsettle, _⟩ | ⟨hsame, _⟩
  · rw [hsettle]
    exact .inl rfl
  · exact .inr hsame

theorem book_cases {db : Db} (env : Env) (codes : Nat → String) (body : Json) :
    (∃ request schedule seatIds bookingId, decodeRequest "schedule_id" body = some request ∧
      TheaterBooked db (processTheaterBooking env codes body db).2 request schedule seatIds
        bookingId ∧
      theaterIdForCache db body = theaterOf db request.showingId ∧
      (processTheaterBooking env codes body db).1.isCommitted = true) ∨
    ((processTheaterBooking env codes body db).2 = db ∧
      (processTheaterBooking env codes body db).1.isCommitted = false) := by
  rcases processTheaterBooking_cases env codes body db with
    ⟨request, schedule, seatIds, receipt, remain, next, hdecode, hprocess, hbooked⟩ | hsame
  · refine .inl ⟨request, schedule, seatIds, receipt.bookingId, hdecode, ?_, ?_, ?_⟩
    · rw [hprocess]
      exact hbooked
    · rw [theaterIdForCache, hdecode]
      rfl
    · rw [hprocess]
      rfl
  · exact .inr hsame

end Ticketing
