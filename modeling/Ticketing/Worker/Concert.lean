import Ticketing.Occupancy
import Ticketing.Worker.Message

/-!
# The concert handler

`process_concert_booking` up to its writes to Redis. The show row is read
without a lock and never updated: the seat rows of one INSERT compete for the
unique index of the ACTIVE seats, and nothing else decides.
-/

namespace Ticketing

open Foundation Python

/-- `1 <= row <= seat_rows` and `1 <= col <= seat_cols`. -/
def ConcertShow.HasSeat (concertShow : ConcertShow) (seat : Seat) : Prop :=
  (seat.row : Int) ≤ concertShow.seatRows ∧ (seat.col : Int) ≤ concertShow.seatCols

instance (concertShow : ConcertShow) (seat : Seat) : Decidable (concertShow.HasSeat seat) :=
  inferInstanceAs (Decidable (_ ∧ _))

/-- The insertions of a concert booking. -/
def recordConcertBooking (request : Request) (codes : Nat → String) : Tx Db Receipt :=
  recordBooking concertBook
    (fun bookingId => insertAllSeats concertBook bookingId request.showingId request.seats)
    request.userId request.showingId request.seats.length codes

/-- `SELECT remain_count FROM concert_shows WHERE show_id = %s`, 0 if missing. -/
def selectShowRemainCount (showId : Int) (db : Db) : Int :=
  ((db.concertShows.find showId).map ConcertShow.remainCount).getD 0

/-- The statements of `process_concert_booking`. -/
def concertTx (request : Request) (codes : Nat → String) :
    Tx Db (Exit (Receipt × Int) FailCode) := do
  match ← Tx.select fun db => db.concertShows.find request.showingId with
  | none =>
      Tx.call
      return .leave .notFound
  | some concertShow =>
      -- positive coordinates are in the type, so only the upper bounds are left to check
      if ∀ seat ∈ request.seats, concertShow.HasSeat seat then
        let receipt ← recordConcertBooking request codes
        let remain ← Tx.select (selectShowRemainCount request.showingId)
        Tx.call
        return .commit (receipt, remain)
      else
        Tx.call
        return .leave .invalidSeat

/-- `process_concert_booking`: the verdict and the database it leaves. -/
def processConcertBooking (env : Env) (codes : Nat → String) (body : Json) (db : Db) :
    Verdict × Db :=
  match decodeRequest "show_id" body with
  | none => (.raised, db)
  | some request =>
      let (outcome, next) := Tx.settle (concertTx request codes) env db
      (.ofOutcome outcome, next)

/-! ## What it does to the rows -/

/-- `next` is `db` after the request was booked on `concertShow`. -/
structure ConcertBooked (db next : Db) (request : Request) (concertShow : ConcertShow)
    (bookingId : Int) : Prop where
  found : db.concertShows.find request.showingId = some concertShow
  inGrid : ∀ seat ∈ request.seats, concertShow.HasSeat seat
  nonempty : request.seats ≠ []
  concerts : db.concerts.Booked next.concerts request.userId request.showingId request.seats
    bookingId
  frame : next = { db with concerts := next.concerts }

section Effects

variable {env : Env} {cursor final : Cursor Db}

theorem recordConcertBooking_ok {request : Request} {codes : Nat → String} {receipt : Receipt}
    (h : recordConcertBooking request codes env cursor = .ok (receipt, final)) :
    ∃ concerts, final.db = { cursor.db with concerts := concerts } ∧
      cursor.db.concerts.Booked concerts request.userId request.showingId request.seats
        receipt.bookingId := by
  obtain ⟨concerts, hdb, hbooked, _⟩ := recordBooking_ok (insertAllSeats_inserts _ _ _) h
  exact ⟨concerts, hdb, hbooked⟩

/-- A handler that commits has checked every seat against the grid. -/
theorem concertTx_commit {request : Request} {codes : Nat → String} {receipt : Receipt}
    {remain : Int}
    (h : concertTx request codes env cursor = .ok (.commit (receipt, remain), final)) :
    ∃ concertShow, ConcertBooked cursor.db final.db request concertShow receipt.bookingId := by
  obtain ⟨found, c₁, hselect, h⟩ := Tx.bind_ok.mp h
  obtain ⟨_, hfound, rfl⟩ := Tx.select_ok.mp hselect
  cases found with
  | none =>
      obtain ⟨_, _, _, h⟩ := Tx.bind_ok.mp h
      cases (Tx.pure_ok.mp h).1
  | some concertShow =>
      dsimp only at h
      split at h
      next hgrid =>
        obtain ⟨record, c₂, hrecord, h⟩ := Tx.bind_ok.mp h
        obtain ⟨concerts, hdb, hbooked⟩ := recordConcertBooking_ok hrecord
        obtain ⟨left, c₃, hleft, h⟩ := Tx.bind_ok.mp h
        obtain ⟨_, _, rfl⟩ := Tx.select_ok.mp hleft
        obtain ⟨_, c₄, hcommit, h⟩ := Tx.bind_ok.mp h
        obtain ⟨hvalue, rfl⟩ := Tx.pure_ok.mp h
        obtain ⟨_, rfl⟩ := Tx.call_ok.mp hcommit
        cases hvalue
        refine ⟨concertShow, hfound.symm, hgrid, ?_, ?_, ?_⟩
        · intro hnil
          obtain ⟨code, hreg, _⟩ := hbooked.bookings
          simp [hnil] at hreg
        · rw [hdb]
          exact hbooked
        · rw [hdb]
      next =>
        obtain ⟨_, _, _, h⟩ := Tx.bind_ok.mp h
        cases (Tx.pure_ok.mp h).1

end Effects

/-- The handler leaves the database alone unless its verdict is a committed
booking. -/
theorem processConcertBooking_cases (env : Env) (codes : Nat → String) (body : Json) (db : Db) :
    (∃ request concertShow receipt remain next,
      decodeRequest "show_id" body = some request ∧
      processConcertBooking env codes body db = (.committed receipt remain, next) ∧
      ConcertBooked db next request concertShow receipt.bookingId) ∨
    ((processConcertBooking env codes body db).2 = db ∧
      (processConcertBooking env codes body db).1.isCommitted = false) := by
  unfold processConcertBooking
  cases hdecode : decodeRequest "show_id" body with
  | none => exact .inr ⟨rfl, rfl⟩
  | some request =>
      rcases Tx.settle_db (concertTx request codes) env db with
        ⟨⟨receipt, remain⟩, cursor, hrun, hsettle, _⟩ | ⟨hsame, hne⟩
      · obtain ⟨concertShow, hbooked⟩ := concertTx_commit hrun
        refine .inl ⟨request, concertShow, receipt, remain, cursor.db, rfl, ?_, hbooked⟩
        simp only [hsettle]
        rfl
      · exact .inr ⟨hsame, Verdict.isCommitted_ofOutcome hne⟩

/-- The handler commits a booking that covers the seat. -/
def BooksSeat (env : Env) (codes : Nat → String) (body : Json) (db : Db) (showId : Int)
    (seat : Seat) : Prop :=
  (processConcertBooking env codes body db).1.isCommitted = true ∧
    ∃ request ∈ decodeRequest "show_id" body, showId = request.showingId ∧ seat ∈ request.seats

/-- A handled message makes exactly the seats ACTIVE that it books. -/
theorem processConcertBooking_active {env : Env} {codes : Nat → String} {body : Json} {db : Db}
    {showId : Int} {seat : Seat} :
    (processConcertBooking env codes body db).2.concerts.Active showId seat ↔
      db.concerts.Active showId seat ∨ BooksSeat env codes body db showId seat := by
  unfold BooksSeat
  rcases processConcertBooking_cases env codes body db with
    ⟨request, concertShow, receipt, remain, next, hdecode, hprocess, hbooked⟩ | ⟨hsame, hverdict⟩
  · rw [hprocess, hbooked.concerts.active_iff]
    simp [hdecode, Verdict.isCommitted]
  · simp [hsame, hverdict]

end Ticketing
