import Ticketing.Worker.Atomic
import Ticketing.Worker.Bookable

/-!
# Which requests are told DUPLICATE_SEAT

The result DUPLICATE_SEAT stands for any integrity error of the transaction. For
the request of an existing user the seat rows are the only insertion that can
raise one, and the early returns come first: a request whose seats do not exist,
or exceed what remains of a schedule, is told so even if a seat is taken.
-/

namespace Ticketing

open Foundation Python

/-! ## Seats that cannot be inserted -/

section Conflicts

variable {Cell : Type} [DecidableEq Cell] {book : Book Cell} {env : Env} {cursor final : Cursor Db}
  {bookingId showingId : Int} {cells : List Cell}

/-- A seat is ACTIVE, or is asked for twice. -/
def Ledger.Conflicts (ledger : Ledger Cell) (showingId : Int) (cells : List Cell) : Prop :=
  (∃ cell ∈ cells, ledger.Active showingId cell) ∨ ¬ cells.Nodup

omit [DecidableEq Cell] in
theorem Ledger.SeatRows.activeKeys {rows : List (BookingSeat Cell)}
    (h : SeatRows bookingId showingId cells rows) :
    rows.filterMap BookingSeat.activeKey = cells.map (Prod.mk showingId) := by
  induction h with
  | nil => rfl
  | cons hrow _ ih =>
      obtain ⟨id, rfl⟩ := hrow
      rw [List.filterMap_cons_some (newSeat_activeKey bookingId showingId _ id), List.map_cons, ih]

/-- Seats that go into the table are different and were not ACTIVE: the table
keeps its unique index. -/
theorem not_conflicts_of_inserts {insertSeats : Int → Tx Db PUnit} {value : PUnit}
    (hinserts : InsertsSeats book insertSeats showingId cells)
    (h : insertSeats bookingId env cursor = .ok (value, final)) :
    ¬ (book.get cursor.db).Conflicts showingId cells := by
  obtain ⟨seats, rows, _, hrows, hnew⟩ := hinserts _ _ _ _ _ h
  have hunique : (seats.rows.filterMap BookingSeat.activeKey).Nodup := seats.unique_nodup
  rw [hrows, List.filterMap_append, hnew.activeKeys, List.nodup_append'] at hunique
  obtain ⟨_, hcells, hdisjoint⟩ := hunique
  rintro (⟨cell, hcell, hactive⟩ | hrepeated)
  · obtain ⟨row, hrow, hkey⟩ := Ledger.active_iff_key.mp hactive
    exact hdisjoint (List.mem_filterMap.mpr ⟨row, hrow, hkey⟩) (List.mem_map_of_mem hcell)
  · exact hrepeated (List.Nodup.of_map _ hcells)

/-- The statements that insert seats raise integrity errors and no others. -/
def InsertsOrCollides (insertSeats : Int → Tx Db PUnit) : Prop :=
  ∀ bookingId env cursor text, (∀ k, env.fault k = none) →
    insertSeats bookingId env cursor ≠ .error (.other text)

theorem insertEachSeat_collides (book : Book Cell) (showingId : Int) (cells : List Cell) :
    InsertsOrCollides fun bookingId => insertEachSeat book bookingId showingId cells := by
  intro bookingId env cursor text hfault
  induction cells generalizing cursor with
  | nil =>
      rintro ⟨⟩
  | cons cell rest ih =>
      refine Tx.bind_ne_error (Tx.exec_ne_error (hfault _) ?_) fun _ middle _ => ih middle
      split <;> simp

theorem insertAllSeats_collides (book : Book Cell) (showingId : Int) {cells : List Cell}
    (hne : cells ≠ []) :
    InsertsOrCollides fun bookingId => insertAllSeats book bookingId showingId cells := by
  intro bookingId env cursor text hfault
  apply Tx.exec_ne_error (hfault _)
  rw [if_neg hne]
  split <;> simp

omit [DecidableEq Cell] in
/-- A booking without seats is refused by the CHECK on `reg_count`, or by the range
of a column before that. -/
theorem insertBooking_raises_of_empty {userId regCount : Int} (hfault : ∀ k, env.fault k = none)
    (hreg : ¬ 0 < regCount) :
    (insertBooking book userId showingId regCount).Raises env cursor
      fun error => ∃ text, error = .other text := by
  apply Tx.exec_raises (hfault _)
  split
  next => exact ⟨_, rfl, _, rfl⟩
  next => exact ⟨_, rfl, _, rfl⟩

/-- The insertions of a booking of an existing user, if a seat is in conflict. -/
theorem recordBooking_raises {insertSeats : Int → Tx Db PUnit} {userId : Int}
    {codes : Nat → String} (hinserts : InsertsSeats book insertSeats showingId cells)
    (hcollides : InsertsOrCollides insertSeats) (hfault : ∀ k, env.fault k = none)
    (huser : userId ∈ cursor.db.users)
    (hfits : fitsBigint userId = true ∧ fitsInt cells.length = true) (hne : cells ≠ [])
    (hconflicts : (book.get cursor.db).Conflicts showingId cells) :
    (recordBooking book insertSeats userId showingId cells.length codes).Raises env cursor
      fun error => ∃ text, error = .integrity text := by
  have hreg : (0 : Int) < cells.length := by
    have := List.length_pos_iff.mpr hne
    omega
  apply Tx.bind_raises_of_succeeds (insertBooking_succeeds hfault huser hfits hreg)
  intro bookingId c₁ hbooking
  obtain ⟨bookings, _, hdb₁, hrows, hfresh, _⟩ := insertBooking_ok hbooking
  apply Tx.bind_raises_of_succeeds (assignBookingCode_succeeds hfault)
  intro code c₂ hcode
  obtain ⟨bookings₂, _, hdb₂, _⟩ :=
    assignBookingCode_ok hfresh (by rw [hdb₁, book.get_set]; exact hrows) hcode
  rw [hdb₁, book.get_set, book.set_set] at hdb₂
  apply Tx.bind_raises
  apply Tx.raises_integrity fun text => hcollides bookingId env c₂ text hfault
  intro value c₃ hseats
  -- the statements before have left the seat rows alone
  have hno := not_conflicts_of_inserts hinserts hseats
  rw [hdb₂, book.get_set] at hno
  exact hno hconflicts

end Conflicts

/-! ## Requests that get as far as their seats -/

namespace Handler

/-- The request passes the checks in front of the insertions: the schedule has its
hall, the hall has the seats and the counter covers them, or the show has the
seats in its grid. -/
def Reaches (db : Db) (request : Request) : Handler → Prop
  | theater => ∃ schedule, selectSchedule request.showingId db = some schedule ∧
      (∀ seat ∈ request.seats, ∃ seatId, SeatAt db schedule.hallId seat seatId) ∧
      request.seats ≠ [] ∧ (request.seats.length : Int) ≤ schedule.remainCount
  | concert => ∃ concertShow, db.concertShows.find request.showingId = some concertShow ∧
      (∀ seat ∈ request.seats, concertShow.HasSeat seat) ∧ request.seats ≠ []

/-- The seat is ACTIVE for the schedule or show of the request. -/
def SeatTaken (db : Db) (request : Request) (seat : Seat) : Handler → Prop
  | theater => ∃ schedule seatId, selectSchedule request.showingId db = some schedule ∧
      SeatAt db schedule.hallId seat seatId ∧ db.movies.Active request.showingId seatId
  | concert => db.concerts.Active request.showingId seat

/-- A seat of the request is taken, or is asked for twice. -/
def Duplicates (handler : Handler) (db : Db) (request : Request) : Prop :=
  (∃ seat ∈ request.seats, handler.SeatTaken db request seat) ∨ ¬ request.seats.Nodup

end Handler

section Theater

variable {env : Env} {cursor : Cursor Db} {request : Request}

/-- Seats of a hall conflict as their ids do. -/
theorem conflicts_of_duplicates {schedule : Schedule} {seatIds : List Int} {db : Db}
    (hfound : selectSchedule request.showingId db = some schedule)
    (hplaces : List.Forall₂ (SeatAt db schedule.hallId) request.seats seatIds)
    (h : Handler.theater.Duplicates db request) :
    db.movies.Conflicts request.showingId seatIds := by
  rcases h with ⟨seat, hseat, other, seatId, hother, hat, hactive⟩ | hrepeated
  · left
    obtain rfl : other = schedule := Option.some.inj (hother.symm.trans hfound)
    obtain ⟨found, hmem, hfoundAt⟩ := places_seat hplaces hseat
    obtain rfl : seatId = found := hat.seatId_eq hfoundAt
    exact ⟨seatId, hmem, hactive⟩
  · exact .inr fun hnodup => hrepeated (places_nodup_seats hplaces hnodup)

/-- A request that gets as far as a conflicting seat fails on it. -/
theorem theaterTx_raises (codes : Nat → String) (hfault : ∀ k, env.fault k = none)
    (huser : request.userId ∈ cursor.db.users)
    (hfits : fitsBigint request.userId = true ∧ fitsInt request.seats.length = true)
    (hreaches : Handler.theater.Reaches cursor.db request)
    (hduplicates : Handler.theater.Duplicates cursor.db request) :
    (theaterTx request codes).Raises env cursor fun error => ∃ text, error = .integrity text := by
  obtain ⟨schedule, hfound, hplacesAll, hne, hcapacity⟩ := hreaches
  apply Tx.bind_raises_of_succeeds (Tx.select_succeeds (hfault _))
  intro found c₁ hselect
  obtain ⟨_, rfl, rfl⟩ := Tx.select_ok.mp hselect
  rw [hfound]
  apply Tx.bind_raises_of_succeeds (selectSeatIds_succeeds hfault)
  intro places c₂ hplaces
  obtain ⟨hdb₂, hforall⟩ := selectSeatIds_ok hplaces
  dsimp only at hdb₂ hforall
  cases places with
  | none =>
      obtain ⟨seat, hseat, hmissing⟩ := selectSeatIds_none hplaces
      obtain ⟨seatId, hat⟩ := hplacesAll seat hseat
      exact absurd hat (hmissing seatId)
  | some seatIds =>
      have hseats := hforall seatIds rfl
      have hlength := hseats.length_eq
      apply Tx.bind_raises_of_succeeds (takeCapacity_succeeds hfault)
      intro taken c₃ htake
      obtain ⟨htaken, schedules, hdb₃, _⟩ :=
        takeCapacity_ok (hdb₂ ▸ selectSchedule_eq_some hfound) htake
      rw [hdb₂] at hdb₃
      obtain rfl := htaken.mpr ⟨hcapacity, List.length_pos_iff.mpr hne⟩
      apply Tx.bind_raises
      unfold recordTheaterBooking
      rw [hlength] at hfits ⊢
      refine recordBooking_raises (insertEachSeat_inserts movieBook _ _)
        (insertEachSeat_collides movieBook _ _) hfault ?_ hfits ?_ ?_
      · rw [hdb₃]
        exact huser
      · rintro rfl
        exact hne (List.length_eq_zero_iff.mp hlength)
      · rw [hdb₃]
        exact conflicts_of_duplicates hfound hseats hduplicates

/-- A request that does not get that far is told another code. -/
theorem theaterTx_leaves (codes : Nat → String) (hfault : ∀ k, env.fault k = none)
    (hreaches : ¬ Handler.theater.Reaches cursor.db request) :
    (theaterTx request codes).Yields env cursor fun exit =>
      ∃ code, exit = .leave code ∧ code ≠ .duplicateSeat := by
  apply Tx.bind_yields (Tx.select_succeeds (hfault _))
  intro found c₁ hselect
  obtain ⟨_, hfound, rfl⟩ := Tx.select_ok.mp hselect
  cases found with
  | none => exact Tx.pure_yields ⟨.notFound, rfl, by simp⟩
  | some schedule =>
      apply Tx.bind_yields (selectSeatIds_succeeds hfault)
      intro places c₂ hplaces
      obtain ⟨hdb₂, hforall⟩ := selectSeatIds_ok hplaces
      dsimp only at hdb₂ hforall
      cases places with
      | none =>
          apply Tx.bind_yields (Tx.call_succeeds (hfault _))
          intro _ c₃ _
          exact Tx.pure_yields ⟨.invalidSeat, rfl, by simp⟩
      | some seatIds =>
          apply Tx.bind_yields (takeCapacity_succeeds hfault)
          intro taken c₃ htake
          have htaken := (takeCapacity_ok (hdb₂ ▸ selectSchedule_eq_some hfound.symm) htake).1
          cases taken with
          | false =>
              apply Tx.bind_yields (Tx.call_succeeds (hfault _))
              intro _ c₄ _
              exact Tx.pure_yields ⟨.soldOut, rfl, by simp⟩
          | true =>
              obtain ⟨hcapacity, hpos⟩ := htaken.mp rfl
              refine absurd ⟨schedule, hfound.symm, fun seat hseat => ?_,
                List.length_pos_iff.mp hpos, hcapacity⟩ hreaches
              obtain ⟨seatId, _, hat⟩ := places_seat (hforall seatIds rfl) hseat
              exact ⟨seatId, hat⟩

end Theater

section Concert

variable {env : Env} {cursor : Cursor Db} {request : Request}

/-- For seats of the grid, the handler raises what its insertions raise. -/
theorem concertTx_raises_of_record (codes : Nat → String) {concertShow : ConcertShow}
    {P : SqlError → Prop} (hfault : env.fault cursor.calls = none)
    (hfound : cursor.db.concertShows.find request.showingId = some concertShow)
    (hgrid : ∀ seat ∈ request.seats, concertShow.HasSeat seat)
    (hrecord : (recordConcertBooking request codes).Raises env
      ⟨cursor.db, cursor.calls + 1⟩ P) : (concertTx request codes).Raises env cursor P := by
  apply Tx.bind_raises_of_succeeds (Tx.select_succeeds hfault)
  intro found c₁ hselect
  obtain ⟨_, rfl, rfl⟩ := Tx.select_ok.mp hselect
  rw [hfound]
  dsimp only
  rw [if_pos hgrid]
  exact Tx.bind_raises hrecord

theorem concertTx_raises (codes : Nat → String) (hfault : ∀ k, env.fault k = none)
    (huser : request.userId ∈ cursor.db.users)
    (hfits : fitsBigint request.userId = true ∧ fitsInt request.seats.length = true)
    (hreaches : Handler.concert.Reaches cursor.db request)
    (hduplicates : Handler.concert.Duplicates cursor.db request) :
    (concertTx request codes).Raises env cursor fun error => ∃ text, error = .integrity text := by
  obtain ⟨concertShow, hfound, hgrid, hne⟩ := hreaches
  apply concertTx_raises_of_record codes (hfault _) hfound hgrid
  exact recordBooking_raises (insertAllSeats_inserts concertBook _ _)
    (insertAllSeats_collides concertBook _ hne) hfault huser hfits hne hduplicates

/-- A show that is missing or too small for the seats is told, and a request
without seats violates the CHECK on their number. -/
theorem concertTx_leaves (codes : Nat → String) (hfault : ∀ k, env.fault k = none)
    (hreaches : ¬ Handler.concert.Reaches cursor.db request) :
    ((concertTx request codes).Yields env cursor fun exit =>
      ∃ code, exit = .leave code ∧ code ≠ .duplicateSeat) ∨
    (concertTx request codes).Raises env cursor fun error => ∃ text, error = .other text := by
  cases hfound : cursor.db.concertShows.find request.showingId with
  | none =>
      left
      apply Tx.bind_yields (Tx.select_succeeds (hfault _))
      intro found c₁ hselect
      obtain ⟨_, rfl, rfl⟩ := Tx.select_ok.mp hselect
      rw [hfound]
      apply Tx.bind_yields (Tx.call_succeeds (hfault _))
      intro _ c₂ _
      exact Tx.pure_yields ⟨.notFound, rfl, by simp⟩
  | some concertShow =>
      by_cases hgrid : ∀ seat ∈ request.seats, concertShow.HasSeat seat
      · right
        have hempty : request.seats = [] := by
          by_contra hne
          exact hreaches ⟨concertShow, hfound, hgrid, hne⟩
        apply concertTx_raises_of_record codes (hfault _) hfound hgrid
        apply Tx.bind_raises
        exact insertBooking_raises_of_empty hfault (by simp [hempty])
      · left
        apply Tx.bind_yields (Tx.select_succeeds (hfault _))
        intro found c₁ hselect
        obtain ⟨_, rfl, rfl⟩ := Tx.select_ok.mp hselect
        rw [hfound]
        dsimp only
        rw [if_neg hgrid]
        apply Tx.bind_yields (Tx.call_succeeds (hfault _))
        intro _ c₂ _
        exact Tx.pure_yields ⟨.invalidSeat, rfl, by simp⟩

end Concert

/-! ## The code that is stored -/

namespace Handler

variable {handler : Handler} {env : Env} {codes : Nat → String} {body : Json} {db : Db}
  {request : Request}

/-- A request that gets to its seats and finds them free is booked. -/
theorem tx_commits (hfault : ∀ k, env.fault k = none) (hknown : PaymentsKnown db)
    (huser : request.userId ∈ db.users)
    (hfits : fitsBigint request.userId = true ∧ fitsInt request.seats.length = true)
    (hreaches : handler.Reaches db request) (hfree : ¬ handler.Duplicates db request) :
    (handler.tx request codes).Yields env ⟨db, 0⟩ fun exit => ∃ value, exit = .commit value := by
  unfold Duplicates at hfree
  push Not at hfree
  obtain ⟨huntaken, hnodup⟩ := hfree
  cases handler with
  | theater =>
      obtain ⟨schedule, hfound, hplaces, hne, hcapacity⟩ := hreaches
      refine @theaterTx_commits env ⟨db, 0⟩ request codes schedule hfault hknown.movies
        ⟨⟨huser, hfits, hne, hnodup⟩, hfound, hplaces, ?_, hcapacity⟩
      intro seat hseat seatId hat hactive
      exact huntaken seat hseat ⟨schedule, seatId, hfound, hat, hactive⟩
  | concert =>
      obtain ⟨concertShow, hfound, hgrid, hne⟩ := hreaches
      exact @concertTx_commits env ⟨db, 0⟩ request codes concertShow hfault hknown.concerts
        ⟨⟨huser, hfits, hne, hnodup⟩, hfound, hgrid, huntaken⟩

theorem tx_raises (hfault : ∀ k, env.fault k = none) (huser : request.userId ∈ db.users)
    (hfits : fitsBigint request.userId = true ∧ fitsInt request.seats.length = true)
    (hreaches : handler.Reaches db request) (hduplicates : handler.Duplicates db request) :
    (handler.tx request codes).Raises env ⟨db, 0⟩ fun error => ∃ text, error = .integrity text := by
  cases handler with
  | theater => exact theaterTx_raises codes hfault huser hfits hreaches hduplicates
  | concert => exact concertTx_raises codes hfault huser hfits hreaches hduplicates

theorem tx_leaves (hfault : ∀ k, env.fault k = none) (hreaches : ¬ handler.Reaches db request) :
    ((handler.tx request codes).Yields env ⟨db, 0⟩ fun exit =>
      ∃ code, exit = .leave code ∧ code ≠ .duplicateSeat) ∨
    (handler.tx request codes).Raises env ⟨db, 0⟩ fun error => ∃ text, error = .other text := by
  cases handler with
  | theater => exact .inl (theaterTx_leaves codes hfault hreaches)
  | concert => exact concertTx_leaves codes hfault hreaches

/-- If nothing fails, the message of an existing user is told DUPLICATE_SEAT exactly
if it gets as far as its seats, and one of them is ACTIVE or asked for twice. -/
theorem duplicateSeat_stored_iff (hquiet : env.Unfailing) (hrollback : env.rollback = none)
    (hknown : PaymentsKnown db) (hdecode : decodeRequest handler.showingField body = some request)
    (huser : request.userId ∈ db.users)
    (hfits : fitsBigint request.userId = true ∧ fitsInt request.seats.length = true) :
    (handler.process env codes body db).1.result = some (.failure .duplicateSeat none) ↔
      handler.Reaches db request ∧ handler.Duplicates db request := by
  rw [process_eq, hdecode]
  dsimp only
  by_cases hreaches : handler.Reaches db request
  · by_cases hduplicates : handler.Duplicates db request
    · obtain ⟨error, hfailed, text, rfl⟩ := Tx.settle_of_raises hquiet.1 hrollback
        (@tx_raises handler env codes db request hquiet.2 huser hfits hreaches hduplicates)
      rw [hfailed]
      exact iff_of_true rfl ⟨hreaches, hduplicates⟩
    · obtain ⟨⟨receipt, remain⟩, hcommit⟩ := Tx.settle_commit hquiet.1
        (@tx_commits handler env codes db request hquiet.2 hknown huser hfits hreaches hduplicates)
      rw [hcommit]
      exact iff_of_false (by simp [Verdict.ofOutcome, Verdict.result])
        fun h => hduplicates h.2
  · refine iff_of_false ?_ fun h => hreaches h.1
    rcases @tx_leaves handler env codes db request hquiet.2 hreaches with hleaves | hraises
    · obtain ⟨code, hleave, hcode⟩ := Tx.settle_of_leave hquiet.1 hleaves
      rw [hleave]
      simpa [Verdict.ofOutcome, Verdict.result] using hcode
    · obtain ⟨error, hfailed, text, rfl⟩ := Tx.settle_of_raises hquiet.1 hrollback hraises
      rw [hfailed]
      simp [Verdict.ofOutcome, Verdict.result]

end Handler

/-! ## A repeated seat, and a seat of a full schedule -/

theorem duplicateSeat_stored_repeated :
    (Handler.concert.process .quiet (fun _ => "CAA000001")
      (concertBody "first" 1 [.str "1-1", .str "1-1"]) twoSeatDb).1.result =
        some (.failure .duplicateSeat none) := by
  have hknown : PaymentsKnown twoSeatDb := ⟨by rintro _ ⟨⟩, by rintro _ ⟨⟩⟩
  have hdecode : decodeRequest Handler.concert.showingField
      (concertBody "first" 1 [.str "1-1", .str "1-1"]) =
        some ⟨.str "first", 1, 1, [firstSeat, firstSeat]⟩ := rfl
  refine (Handler.duplicateSeat_stored_iff ⟨rfl, fun _ => rfl⟩ rfl hknown hdecode (by decide)
    (by decide)).mpr ⟨⟨twoSeatShow, rfl, by decide, by simp⟩, .inr (by decide)⟩

/-- The only seat of the schedule is booked. -/
def bookedSeatDb : Db :=
  (processTheaterBooking .quiet (fun _ => "AA000001") (theaterBody "first" [.str "1-1"])
    oneSeatDb).2

/-- The second request is for an ACTIVE seat, and is told SOLD_OUT. -/
theorem active_seat_sold_out :
    decodeRequest Handler.theater.showingField (theaterBody "second" [.str "1-1"]) =
        some ⟨.str "second", 1, 1, [firstSeat]⟩ ∧
      Handler.theater.Duplicates bookedSeatDb ⟨.str "second", 1, 1, [firstSeat]⟩ ∧
      (Handler.theater.process .quiet (fun _ => "AA000002") (theaterBody "second" [.str "1-1"])
        bookedSeatDb).1.result = some (.failure .soldOut none) := by
  refine ⟨rfl, .inl ⟨firstSeat, List.mem_cons_self, _, 1, rfl, ?_, ?_⟩, by decide +kernel⟩
  · rw [← selectSeatId_eq_some]
    decide +kernel
  · decide +kernel

end Ticketing
