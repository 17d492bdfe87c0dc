import Ticketing.User.Accounts
import Ticketing.User.Bookings
import Ticketing.User.Refund

/-!
# The refund endpoint

`refund_booking` reads who refunds what, and leaves it to one of the two variants. What it
answers is decided by the booking as it is found, and by the calls to the database.
-/

namespace Ticketing

open Foundation Python

/-- What `refund_booking` answers. -/
inductive RefundAnswer where
  | invalid
  | refund (reply : RefundReply)
deriving DecidableEq, Repr

def RefundAnswer.statusCode : RefundAnswer → Nat
  | .invalid => 400
  | .refund reply => reply.statusCode

def RefundAnswer.message : RefundAnswer → String
  | .invalid => "요청값이 올바르지 않습니다."
  | .refund reply => reply.message

/-- The field `ok` is true. -/
def RefundAnswer.ok (answer : RefundAnswer) : Bool := answer = .refund .done

/-- `(data.get("booking_kind") or "movie").strip().lower()`; `none` is the AttributeError.
Only Latin letters can be those of the word that it is compared with. -/
def bookingKindOf (data : Json) : Option BookingKind :=
  match (data.get "booking_kind").orElse (.str "movie") with
  | .str text =>
      some (if (stripStr text.toList).map Char.toLower = "concert".toList then .concert
        else .movie)
  | _ => none

/-- The refund of a booking of either kind. -/
def refundOf (kind : BookingKind) (env : Env) (userId bookingId : Int) (db : Db) :
    RefundReply × Db :=
  match kind with
  | .concert => refundConcertBooking env userId bookingId db
  | .movie => refundMovieBooking env userId bookingId db

def refundBooking (env : Env) (payload : Json) (db : Db) : RefundAnswer × Db :=
  let data := payloadData payload
  match (data.get "user_id").toInt 0, (data.get "booking_id").toInt 0, bookingKindOf data with
  | some userId, some bookingId, some kind =>
      if userId ≤ 0 ∨ bookingId ≤ 0 then (.invalid, db)
      else
        let (reply, next) := refundOf kind env userId bookingId db
        (.refund reply, next)
  | _, _, _ => (.refund .raised, db)

/-! ## What a refund answers -/

section Variant

variable {Cell : Type} [DecidableEq Cell] {α : Type} {book : Book Cell} {env : Env}
variable {prepare : Booking → Tx Db α} {calls : Booking → Nat} {userId bookingId : Int} {db : Db}

/-- `prepare` goes through if its calls do. -/
def Prepares (prepare : Booking → Tx Db α) (calls : Booking → Nat) : Prop :=
  ∀ booking env cursor, (∀ k < calls booking, env.fault (cursor.calls + k) = none) →
    (prepare booking).Succeeds env cursor

omit [DecidableEq Cell] in
theorem cancelBooking_succeeds {cursor : Cursor Db} (hfault : env.fault cursor.calls = none) :
    (cancelBooking book bookingId).Succeeds env cursor := by
  refine Tx.exec_succeeds hfault ?_
  cases hupdate : (book.get cursor.db).bookings.update (fun row => row.bookingId = bookingId)
      Booking.cancelled (fun _ => rfl) with
  | none => exact absurd hupdate (Table.update_ne_none fun row => .inr rfl)
  | some bookings => exact ⟨_, _, rfl⟩

omit [DecidableEq Cell] in
theorem cancelPayment_succeeds {cursor : Cursor Db} (hfault : env.fault cursor.calls = none) :
    (cancelPayment book bookingId).Succeeds env cursor := by
  refine Tx.exec_succeeds hfault ?_
  cases hupdate : (book.get cursor.db).payments.update (fun row => row.bookingId = bookingId)
      Payment.cancelled (fun _ => rfl) with
  | none => exact absurd hupdate (Table.update_ne_none fun row => .inr rfl)
  | some payments => exact ⟨_, _, rfl⟩

theorem cancelSeats_succeeds {cursor : Cursor Db} (hfault : env.fault cursor.calls = none) :
    (cancelSeats book bookingId).Succeeds env cursor := by
  refine Tx.exec_succeeds hfault ?_
  cases hupdate : (book.get cursor.db).seats.update
      (fun row => row.bookingId = bookingId ∧ row.status = .active) BookingSeat.cancelled
      (fun _ => rfl) with
  | none => exact absurd hupdate (Table.update_ne_none fun row => .inl rfl)
  | some seats => exact ⟨_, _, rfl⟩

theorem refundTx_yields {cursor : Cursor Db} {booking : Booking} (hreads : ReadsOnly prepare calls)
    (hprepare : Prepares prepare calls) (h : Refundable book userId bookingId cursor.db booking)
    (hcalls : ∀ k < 5 + calls booking, env.fault (cursor.calls + k) = none) :
    (refundTx book prepare userId bookingId).Yields env cursor
      fun exit => ∃ value, exit = .commit value := by
  have hfault : ∀ k, k < 5 + calls booking → ∀ calls', calls' = cursor.calls + k →
      env.fault calls' = none := by
    rintro k hk _ rfl
    exact hcalls k hk
  refine Tx.bind_yields (Tx.select_succeeds (hfault 0 (by omega) _ rfl)) fun found c₁ hselect => ?_
  obtain ⟨_, hfind, rfl⟩ := Tx.select_ok.mp hselect
  rw [hfind, h.1]
  dsimp only
  rw [if_neg (by simp [h.2])]
  have hread : (prepare booking).Succeeds env ⟨cursor.db, cursor.calls + 1⟩ :=
    hprepare _ _ _ fun k hk => hfault (1 + k) (by omega) _ (by simp only; omega)
  refine Tx.bind_yields hread fun prepared c₂ hprepared => ?_
  obtain ⟨rfl, _⟩ := hreads _ _ _ _ _ hprepared
  refine Tx.bind_yields (cancelBooking_succeeds (hfault (1 + calls booking) (by omega) _
    (by simp only; omega))) fun _ c₃ hbooking => ?_
  obtain ⟨⟨_, hcalls₃⟩, _⟩ := cancelBooking_ok hbooking
  refine Tx.bind_yields (cancelPayment_succeeds (hfault (2 + calls booking) (by omega) _
    (by rw [hcalls₃]; simp only; omega))) fun _ c₄ hpayment => ?_
  obtain ⟨⟨_, hcalls₄⟩, _⟩ := cancelPayment_ok hpayment
  refine Tx.bind_yields (cancelSeats_succeeds (hfault (3 + calls booking) (by omega) _
    (by rw [hcalls₄, hcalls₃]; simp only; omega))) fun _ c₅ hseats => ?_
  obtain ⟨⟨_, hcalls₅⟩, _⟩ := cancelSeats_ok hseats
  refine Tx.bind_yields (Tx.call_succeeds (hfault (4 + calls booking) (by omega) _
    (by rw [hcalls₅, hcalls₄, hcalls₃]; simp only; omega))) fun _ c₆ _ => ?_
  exact Tx.pure_yields ⟨prepared, rfl⟩

/-- Who leaves early is told why. -/
theorem refundTx_leave_cases {cursor final : Cursor Db} {reply : RefundReply}
    (h : refundTx book prepare userId bookingId env cursor = .ok (.leave reply, final)) :
    reply = .notFound ∧ findBooking book userId bookingId cursor.db = none ∨
      reply = .alreadyCancelled ∧ ∃ booking,
        findBooking book userId bookingId cursor.db = some booking ∧
          booking.bookStatus.isCancelled = true := by
  obtain ⟨found, c₁, hselect, h⟩ := Tx.bind_ok.mp h
  obtain ⟨_, hfind, rfl⟩ := Tx.select_ok.mp hselect
  cases found with
  | none =>
      obtain ⟨_, _, _, h⟩ := Tx.bind_ok.mp h
      cases (Tx.pure_ok.mp h).1
      exact .inl ⟨rfl, hfind.symm⟩
  | some booking =>
      dsimp only at h
      split at h
      next hstatus =>
        obtain ⟨_, _, _, h⟩ := Tx.bind_ok.mp h
        cases (Tx.pure_ok.mp h).1
        exact .inr ⟨rfl, booking, hfind.symm, hstatus⟩
      next =>
        obtain ⟨_, _, _, h⟩ := Tx.bind_ok.mp h
        obtain ⟨_, _, _, h⟩ := Tx.bind_ok.mp h
        obtain ⟨_, _, _, h⟩ := Tx.bind_ok.mp h
        obtain ⟨_, _, _, h⟩ := Tx.bind_ok.mp h
        obtain ⟨_, _, _, h⟩ := Tx.bind_ok.mp h
        cases (Tx.pure_ok.mp h).1

/-- What is answered, by what is found. -/
structure Refunds (book : Book Cell) (calls : Booking → Nat) (env : Env) (userId bookingId : Int)
    (db : Db) (reply : RefundReply) (next : Db) : Prop where
  done_iff : reply = .done ↔ ∃ booking, Refundable book userId bookingId db booking ∧
    Clear env (5 + calls booking)
  refunded : reply = .done → ∃ ledger, next = book.set db ledger ∧
    (book.get db).Refunded ledger bookingId
  refused : reply ≠ .done → next = db
  notFound : reply = .notFound → findBooking book userId bookingId db = none
  alreadyCancelled : reply = .alreadyCancelled → ∃ booking,
    findBooking book userId bookingId db = some booking ∧ booking.bookStatus.isCancelled = true

theorem settle_refundTx (hreads : ReadsOnly prepare calls) (hprepare : Prepares prepare calls) :
    Refunds book calls env userId bookingId db
      (.ofOutcome (Tx.settle (refundTx book prepare userId bookingId) env db).1)
      (Tx.settle (refundTx book prepare userId bookingId) env db).2 := by
  have hdone : ∀ booking, Refundable book userId bookingId db booking →
      Clear env (5 + calls booking) →
        ∃ value, (Tx.settle (refundTx book prepare userId bookingId) env db).1 = .commit value :=
    fun booking hrefundable hclear => Tx.settle_commit hclear.1
      (refundTx_yields hreads hprepare hrefundable fun k hk => by simpa using hclear.2 k hk)
  rcases Tx.settle_db (refundTx book prepare userId bookingId) env db with
    ⟨value, cursor, hrun, hsettle, hconnect⟩ | ⟨hsame, hnone⟩
  · obtain ⟨booking, hrefundable, hcalls, ledger, hdb, hrefunded⟩ := refundTx_commit hreads hrun
    rw [hsettle]
    exact {
      done_iff := ⟨fun _ => ⟨booking, hrefundable, hconnect, fun k hk => by
        simpa using hcalls k hk⟩, fun _ => rfl⟩
      refunded := fun _ => ⟨ledger, hdb, hrefunded⟩
      refused := fun h => absurd rfl h
      notFound := fun h => by cases h
      alreadyCancelled := fun h => by cases h }
  · have hnot : RefundReply.ofOutcome
        (Tx.settle (refundTx book prepare userId bookingId) env db).1 ≠ .done := by
      cases houtcome : (Tx.settle (refundTx book prepare userId bookingId) env db).1 with
      | commit value => exact absurd houtcome (hnone value)
      | leave reply =>
          obtain ⟨_, hleave⟩ := Tx.settle_leave houtcome
          exact refundTx_leave hleave
      | failed error => simp [RefundReply.ofOutcome]
      | lost => simp [RefundReply.ofOutcome]
    have hleave : ∀ reply, RefundReply.ofOutcome
        (Tx.settle (refundTx book prepare userId bookingId) env db).1 = reply →
          reply = .notFound ∨ reply = .alreadyCancelled →
            ∃ cursor, refundTx book prepare userId bookingId env ⟨db, 0⟩ =
              .ok (.leave reply, cursor) := by
      intro reply hreply hcase
      cases houtcome : (Tx.settle (refundTx book prepare userId bookingId) env db).1 with
      | commit value => exact absurd houtcome (hnone value)
      | leave other =>
          rw [houtcome] at hreply
          obtain rfl : other = reply := hreply
          exact Tx.settle_leave houtcome
      | failed error =>
          rw [houtcome] at hreply
          rcases hcase with rfl | rfl <;> cases hreply
      | lost =>
          rw [houtcome] at hreply
          rcases hcase with rfl | rfl <;> cases hreply
    refine ⟨⟨fun h => absurd h hnot, ?_⟩, fun h => absurd h hnot, fun _ => hsame, fun h => ?_,
      fun h => ?_⟩
    · rintro ⟨booking, hrefundable, hclear⟩
      obtain ⟨value, hcommit⟩ := hdone booking hrefundable hclear
      exact absurd hcommit (hnone value)
    · obtain ⟨_, hrun⟩ := hleave _ h (.inl rfl)
      rcases refundTx_leave_cases hrun with ⟨_, hfind⟩ | ⟨hother, _⟩
      · exact hfind
      · cases hother
    · obtain ⟨_, hrun⟩ := hleave _ h (.inr rfl)
      rcases refundTx_leave_cases hrun with ⟨hother, _⟩ | ⟨_, hfound⟩
      · cases hother
      · exact hfound

end Variant

theorem prepares_pure : Prepares (fun _ => (return () : Tx Db Unit)) (fun _ => 0) :=
  fun _ _ _ _ => Tx.pure_yields trivial

theorem prepares_selectConcertId : Prepares selectConcertId concertIdCalls := by
  intro booking env cursor hfault
  unfold selectConcertId
  unfold concertIdCalls at hfault
  split
  next hpos =>
    rw [if_pos hpos] at hfault
    refine Tx.bind_yields (Tx.select_succeeds (hfault 0 Nat.one_pos)) fun found middle _ => ?_
    cases found with
    | some row => exact Tx.pure_yields trivial
    | none => exact Tx.pure_yields trivial
  next => exact Tx.pure_yields trivial

/-! ## Both kinds -/

namespace BookingKind

/-- The bookings of a kind. -/
def bookings (kind : BookingKind) (db : Db) : List Booking :=
  match kind with
  | .movie => db.movies.bookings.rows
  | .concert => db.concerts.bookings.rows

/-- The number of calls that a refund makes. -/
def calls (kind : BookingKind) (booking : Booking) : Nat :=
  match kind with
  | .movie => 5
  | .concert => 5 + concertIdCalls booking

/-- `next` is the database with the booking cancelled. -/
def Cancels (kind : BookingKind) (bookingId : Int) (db next : Db) : Prop :=
  match kind with
  | .movie => ∃ movies, next = { db with movies := movies } ∧ db.movies.Refunded movies bookingId
  | .concert =>
      ∃ concerts, next = { db with concerts := concerts } ∧
        db.concerts.Refunded concerts bookingId

end BookingKind

section Kinds

variable {kind : BookingKind} {env : Env} {userId bookingId : Int} {db : Db} {booking : Booking}

/-- A booking of the user is found by its id. -/
theorem findBooking_of_mem {Cell : Type} {book : Book Cell}
    (hmem : booking ∈ (book.get db).bookings.rows) (huser : booking.userId = userId)
    (hid : booking.bookingId = bookingId) :
    findBooking book userId bookingId db = some booking := by
  cases hfind : findBooking book userId bookingId db with
  | none =>
      have hnone := List.find?_eq_none.mp hfind booking hmem
      simp [huser, hid] at hnone
  | some other =>
      obtain ⟨hother, hotherId, _⟩ := findBooking_eq_some hfind
      exact congrArg some ((book.get db).bookings.eq_of_pk_eq hother hmem (hotherId.trans hid.symm))

/-- The refund of a booking that the user has. -/
theorem refundOf_spec (hmem : booking ∈ kind.bookings db) (huser : booking.userId = userId)
    (hid : booking.bookingId = bookingId) :
    ((refundOf kind env userId bookingId db).1 = .done ↔
      booking.bookStatus.isCancelled = false ∧ Clear env (kind.calls booking)) ∧
    ((refundOf kind env userId bookingId db).1 = .done →
      kind.Cancels bookingId db (refundOf kind env userId bookingId db).2) ∧
    ((refundOf kind env userId bookingId db).1 ≠ .done →
      (refundOf kind env userId bookingId db).2 = db) ∧
    (refundOf kind env userId bookingId db).1 ≠ .notFound ∧
    ((refundOf kind env userId bookingId db).1 = .alreadyCancelled →
      booking.bookStatus.isCancelled = true) := by
  have hspec : ∀ {Cell : Type} [DecidableEq Cell] {book : Book Cell} {calls : Booking → Nat}
      {reply : RefundReply} {next : Db}, booking ∈ (book.get db).bookings.rows →
      Refunds book calls env userId bookingId db reply next →
        (reply = .done ↔ booking.bookStatus.isCancelled = false ∧ Clear env (5 + calls booking)) ∧
          reply ≠ .notFound ∧
            (reply = .alreadyCancelled → booking.bookStatus.isCancelled = true) := by
    intro Cell _ book calls reply next hmem h
    have hfind := findBooking_of_mem hmem huser hid
    refine ⟨h.done_iff.trans ⟨?_, fun hclear => ⟨booking, ⟨hfind, hclear.1⟩, hclear.2⟩⟩,
      fun hreply => ?_, fun hreply => ?_⟩
    · rintro ⟨other, ⟨hother, hstatus⟩, hclear⟩
      obtain rfl := Option.some.inj (hfind.symm.trans hother)
      exact ⟨hstatus, hclear⟩
    · exact absurd (h.notFound hreply) (by simp [hfind])
    · obtain ⟨other, hother, hstatus⟩ := h.alreadyCancelled hreply
      obtain rfl := Option.some.inj (hfind.symm.trans hother)
      exact hstatus
  cases kind with
  | movie =>
      have h : Refunds movieBook (fun _ => 0) env userId bookingId db
          (refundMovieBooking env userId bookingId db).1
          (refundMovieBooking env userId bookingId db).2 :=
        settle_refundTx readsOnly_pure prepares_pure
      obtain ⟨hdone, hfound, hcancelled⟩ := hspec hmem h
      exact ⟨hdone, h.refunded, h.refused, hfound, hcancelled⟩
  | concert =>
      have h : Refunds concertBook concertIdCalls env userId bookingId db
          (refundConcertBooking env userId bookingId db).1
          (refundConcertBooking env userId bookingId db).2 :=
        settle_refundTx readsOnly_selectConcertId prepares_selectConcertId
      obtain ⟨hdone, hfound, hcancelled⟩ := hspec hmem h
      exact ⟨hdone, h.refunded, h.refused, hfound, hcancelled⟩

/-- Nothing else changes the database. -/
theorem refundOf_cases (kind : BookingKind) (env : Env) (userId bookingId : Int) (db : Db) :
    (refundOf kind env userId bookingId db).2 = db ∨
      kind.Cancels bookingId db (refundOf kind env userId bookingId db).2 := by
  cases kind with
  | movie =>
      rcases refundMovieBooking_cases env userId bookingId db with
        hsame | ⟨_, _, _, movies, hnext, hrefunded⟩
      · exact .inl hsame
      · exact .inr ⟨movies, hnext, hrefunded⟩
  | concert =>
      rcases refundConcertBooking_cases env userId bookingId db with
        hsame | ⟨_, _, _, concerts, hnext, hrefunded⟩
      · exact .inl hsame
      · exact .inr ⟨concerts, hnext, hrefunded⟩

theorem refundBooking_cases (env : Env) (payload : Json) (db : Db) :
    (refundBooking env payload db).2 = db ∨
      ∃ kind bookingId, BookingKind.Cancels kind bookingId db (refundBooking env payload db).2 := by
  unfold refundBooking
  dsimp only
  split
  next userId bookingId kind _ _ _ =>
    split
    · exact .inl rfl
    · exact (refundOf_cases kind env userId bookingId db).imp_right
        fun hcancels => ⟨kind, bookingId, hcancels⟩
  next => exact .inl rfl

end Kinds

end Ticketing
