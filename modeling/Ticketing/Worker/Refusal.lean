import Ticketing.Worker.Concert
import Ticketing.Worker.Theater

/-!
# The handlers' INVALID_SEAT

Both handlers answer INVALID_SEAT to a message with a seat that its showing does not
have, as long as no statement fails, and to no other message.
-/

namespace Ticketing

open Foundation Python

section Refusal

variable {env : Env} {cursor final : Cursor Db} {request : Request} {codes : Nat → String}

theorem concertTx_invalidSeat
    (h : concertTx request codes env cursor = .ok (.leave .invalidSeat, final)) :
    ∃ concertShow, cursor.db.concertShows.find request.showingId = some concertShow ∧
      ∃ seat ∈ request.seats, ¬ concertShow.HasSeat seat := by
  obtain ⟨found, middle, hselect, h⟩ := Tx.bind_ok.mp h
  obtain ⟨_, hfound, rfl⟩ := Tx.select_ok.mp hselect
  cases found with
  | none =>
      obtain ⟨_, _, _, h⟩ := Tx.bind_ok.mp h
      cases (Tx.pure_ok.mp h).1
  | some concertShow =>
      refine ⟨concertShow, hfound.symm, ?_⟩
      dsimp only at h
      split at h
      next =>
        obtain ⟨_, _, _, h⟩ := Tx.bind_ok.mp h
        obtain ⟨_, _, _, h⟩ := Tx.bind_ok.mp h
        obtain ⟨_, _, _, h⟩ := Tx.bind_ok.mp h
        cases (Tx.pure_ok.mp h).1
      next hgrid => simpa using hgrid

theorem concertTx_refuses (hfault : ∀ k, env.fault k = none) {concertShow : ConcertShow}
    (hfind : cursor.db.concertShows.find request.showingId = some concertShow)
    (hseat : ∃ seat ∈ request.seats, ¬ concertShow.HasSeat seat) :
    (concertTx request codes).Yields env cursor fun exit =>
      ∃ code, exit = .leave code ∧ code = .invalidSeat := by
  apply Tx.bind_yields (Tx.select_succeeds (hfault _))
  intro found middle hselect
  obtain ⟨_, hfound, rfl⟩ := Tx.select_ok.mp hselect
  rw [hfind] at hfound
  subst hfound
  dsimp only
  rw [if_neg (by simpa using hseat)]
  apply Tx.bind_yields (Tx.call_succeeds (hfault _))
  intro _ _ _
  exact Tx.pure_yields ⟨_, rfl, rfl⟩

theorem theaterTx_invalidSeat
    (h : theaterTx request codes env cursor = .ok (.leave .invalidSeat, final)) :
    ∃ schedule, selectSchedule request.showingId cursor.db = some schedule ∧
      ∃ seat ∈ request.seats, ∀ seatId, ¬ SeatAt cursor.db schedule.hallId seat seatId := by
  obtain ⟨found, middle, hselect, h⟩ := Tx.bind_ok.mp h
  obtain ⟨_, hfound, rfl⟩ := Tx.select_ok.mp hselect
  cases found with
  | none => cases (Tx.pure_ok.mp h).1
  | some schedule =>
      refine ⟨schedule, hfound.symm, ?_⟩
      obtain ⟨places, last, hplaces, h⟩ := Tx.bind_ok.mp h
      cases places with
      | none =>
          have hmissing := selectSeatIds_none hplaces
          exact hmissing
      | some seatIds =>
          obtain ⟨taken, _, _, h⟩ := Tx.bind_ok.mp h
          cases taken with
          | false =>
              obtain ⟨_, _, _, h⟩ := Tx.bind_ok.mp h
              cases (Tx.pure_ok.mp h).1
          | true =>
              obtain ⟨_, _, _, h⟩ := Tx.bind_ok.mp h
              obtain ⟨_, _, _, h⟩ := Tx.bind_ok.mp h
              obtain ⟨_, _, _, h⟩ := Tx.bind_ok.mp h
              cases (Tx.pure_ok.mp h).1

theorem selectSeatIds_misses (hfault : ∀ k, env.fault k = none) {hallId : Int}
    {seats : List Seat}
    (hseat : ∃ seat ∈ seats, ∀ seatId, ¬ SeatAt cursor.db hallId seat seatId) :
    (selectSeatIds hallId seats).Yields env cursor (· = none) := by
  induction seats generalizing cursor with
  | nil =>
      obtain ⟨seat, hmem, _⟩ := hseat
      cases hmem
  | cons first rest ih =>
      apply Tx.bind_yields (Tx.select_succeeds (hfault _))
      intro found middle hselect
      obtain ⟨_, hfound, rfl⟩ := Tx.select_ok.mp hselect
      cases found with
      | none => exact Tx.pure_yields rfl
      | some seatId =>
          obtain ⟨seat, hmem, hmissing⟩ := hseat
          rcases List.mem_cons.mp hmem with rfl | hrest
          · exact absurd (selectSeatId_eq_some.mp hfound.symm) (hmissing seatId)
          · obtain ⟨found, last, hrun, hnone⟩ := @ih ⟨cursor.db, cursor.calls + 1⟩
              ⟨seat, hrest, hmissing⟩
            subst hnone
            exact ⟨none, last, Tx.bind_ok.mpr ⟨none, last, hrun, rfl⟩, rfl⟩

theorem theaterTx_refuses (hfault : ∀ k, env.fault k = none) {schedule : Schedule}
    (hfind : selectSchedule request.showingId cursor.db = some schedule)
    (hseat : ∃ seat ∈ request.seats, ∀ seatId, ¬ SeatAt cursor.db schedule.hallId seat seatId) :
    (theaterTx request codes).Yields env cursor fun exit =>
      ∃ code, exit = .leave code ∧ code = .invalidSeat := by
  apply Tx.bind_yields (Tx.select_succeeds (hfault _))
  intro found middle hselect
  obtain ⟨_, hfound, rfl⟩ := Tx.select_ok.mp hselect
  rw [hfind] at hfound
  subst hfound
  dsimp only
  obtain ⟨places, last, hplaces, hnone⟩ :=
    @selectSeatIds_misses env ⟨cursor.db, cursor.calls + 1⟩ hfault schedule.hallId request.seats
      hseat
  subst hnone
  apply Tx.bind_yields ⟨none, last, hplaces, trivial⟩
  intro found next hfound
  rw [hplaces] at hfound
  cases hfound
  apply Tx.bind_yields (Tx.call_succeeds (hfault _))
  intro _ _ _
  exact Tx.pure_yields ⟨_, rfl, rfl⟩

end Refusal

/-! ## Verdicts -/

section Verdicts

variable {env : Env} {codes : Nat → String} {body : Json} {db : Db} {request : Request}

/-- INVALID_SEAT comes from a show that does not have one of the seats. -/
theorem processConcertBooking_invalidSeat
    (hdecode : decodeRequest "show_id" body = some request)
    (h : (processConcertBooking env codes body db).1 = .refused .invalidSeat) :
    ∃ concertShow, db.concertShows.find request.showingId = some concertShow ∧
      ∃ seat ∈ request.seats, ¬ concertShow.HasSeat seat := by
  simp only [processConcertBooking, hdecode] at h
  obtain ⟨cursor, hrun⟩ := Tx.settle_leave (Verdict.ofOutcome_refused h)
  exact concertTx_invalidSeat hrun

theorem processConcertBooking_refuses (hconnect : env.connect = none)
    (hfault : ∀ k, env.fault k = none) (hdecode : decodeRequest "show_id" body = some request)
    {concertShow : ConcertShow}
    (hfind : db.concertShows.find request.showingId = some concertShow)
    (hseat : ∃ seat ∈ request.seats, ¬ concertShow.HasSeat seat) :
    (processConcertBooking env codes body db).1 = .refused .invalidSeat := by
  have hrefuses : (concertTx request codes).Yields env ⟨db, 0⟩ fun exit =>
      ∃ code, exit = .leave code ∧ code = .invalidSeat := concertTx_refuses hfault hfind hseat
  obtain ⟨code, houtcome, rfl⟩ := Tx.settle_of_leave hconnect hrefuses
  simp only [processConcertBooking, hdecode]
  exact congrArg Verdict.ofOutcome houtcome

/-- INVALID_SEAT comes from a hall that does not have one of the seats. -/
theorem processTheaterBooking_invalidSeat
    (hdecode : decodeRequest "schedule_id" body = some request)
    (h : (processTheaterBooking env codes body db).1 = .refused .invalidSeat) :
    ∃ schedule, selectSchedule request.showingId db = some schedule ∧
      ∃ seat ∈ request.seats, ∀ seatId, ¬ SeatAt db schedule.hallId seat seatId := by
  simp only [processTheaterBooking, hdecode] at h
  obtain ⟨cursor, hrun⟩ := Tx.settle_leave (Verdict.ofOutcome_refused h)
  exact theaterTx_invalidSeat hrun

theorem processTheaterBooking_refuses (hconnect : env.connect = none)
    (hfault : ∀ k, env.fault k = none) (hdecode : decodeRequest "schedule_id" body = some request)
    {schedule : Schedule} (hfind : selectSchedule request.showingId db = some schedule)
    (hseat : ∃ seat ∈ request.seats, ∀ seatId, ¬ SeatAt db schedule.hallId seat seatId) :
    (processTheaterBooking env codes body db).1 = .refused .invalidSeat := by
  have hrefuses : (theaterTx request codes).Yields env ⟨db, 0⟩ fun exit =>
      ∃ code, exit = .leave code ∧ code = .invalidSeat := theaterTx_refuses hfault hfind hseat
  obtain ⟨code, houtcome, rfl⟩ := Tx.settle_of_leave hconnect hrefuses
  simp only [processTheaterBooking, hdecode]
  exact congrArg Verdict.ofOutcome houtcome

end Verdicts

end Ticketing
