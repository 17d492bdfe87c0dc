import Ticketing.Worker.Message

/-!
# The theater handler

`process_theater_booking` up to its writes to Redis. The capacity of a schedule
is taken with a conditional UPDATE before the rows of the booking are inserted,
and the schedule row is locked from the first statement on.
-/

namespace Ticketing

open Foundation Python

/-! ## The statements -/

/-- `SELECT .. FROM schedules s INNER JOIN halls h .. FOR UPDATE`. -/
def selectSchedule (scheduleId : Int) (db : Db) : Option Schedule :=
  match db.schedules.find scheduleId with
  | some schedule => if (db.halls.find schedule.hallId).isSome then some schedule else none
  | none => none

/-- `SELECT seat_id FROM hall_seats WHERE hall_id = %s AND seat_row_no = %s AND
seat_col_no = %s`. -/
def selectSeatId (hallId : Int) (seat : Seat) (db : Db) : Option Int :=
  (db.hallSeats.rows.find? fun row => row.hallId = hallId ∧ row.position = seat).map
    HallSeat.seatId

/-- The loop over the requested seats; `none` at the first one that the hall
does not have. -/
def selectSeatIds (hallId : Int) : List Seat → Tx Db (Option (List Int))
  | [] => return some []
  | seat :: rest => do
      match ← Tx.select (selectSeatId hallId seat) with
      | none => return none
      | some seatId => return (← selectSeatIds hallId rest).map (seatId :: ·)

/-- `remain_count - n` where `remain_count >= n`. -/
def Schedule.take (n : Nat) (row : Schedule) : Schedule :=
  if h : (n : Int) ≤ row.remainCount then
    { row with
      remainCount := row.remainCount - n
      chk_remain_count := by omega
      chk_valid_count := by have := row.chk_valid_count; omega }
  else row

/-- `UPDATE schedules SET remain_count = remain_count - n WHERE schedule_id = %s
AND remain_count >= n`, and whether `cur.rowcount` is 1. The driver counts the
rows that changed, so taking nothing counts none. -/
def takeCapacity (scheduleId : Int) (n : Nat) : Tx Db Bool :=
  Tx.exec fun _ db =>
    match db.schedules.update (fun row => row.scheduleId = scheduleId) (Schedule.take n)
        (fun row => by unfold Schedule.take; split <;> rfl) with
    | none => .error (.integrity "Duplicate entry")
    | some schedules =>
        -- an UPDATE that writes the old values back changes no row
        let changed := db.schedules.rows.countP fun row =>
          row.scheduleId = scheduleId ∧ (n : Int) ≤ row.remainCount ∧ 0 < n
        .ok (changed = 1, { db with schedules := schedules })

/-- `SELECT remain_count FROM schedules WHERE schedule_id = %s`, 0 if missing. -/
def selectRemainCount (scheduleId : Int) (db : Db) : Int :=
  ((db.schedules.find scheduleId).map Schedule.remainCount).getD 0

def Schedule.close (row : Schedule) : Schedule := { row with status := .closed }

/-- `UPDATE schedules SET status = 'CLOSED' WHERE schedule_id = %s`. -/
def closeSchedule (scheduleId : Int) : Tx Db PUnit :=
  Tx.exec fun _ db =>
    match db.schedules.update (fun row => row.scheduleId = scheduleId) Schedule.close
        (fun _ => rfl) with
    | none => .error (.integrity "Duplicate entry")
    | some schedules => .ok (⟨⟩, { db with schedules := schedules })

/-- Read the remaining capacity, and close the schedule if there is none. -/
def closeIfFull (scheduleId : Int) : Tx Db Int := do
  let remain ← Tx.select (selectRemainCount scheduleId)
  if remain ≤ 0 then
    closeSchedule scheduleId
    return remain
  else return remain

/-- The insertions of a theater booking. -/
def recordTheaterBooking (request : Request) (seatIds : List Int) (codes : Nat → String) :
    Tx Db Receipt :=
  recordBooking movieBook
    (fun bookingId => insertEachSeat movieBook bookingId request.showingId seatIds)
    request.userId request.showingId request.seats.length codes

/-- The statements of `process_theater_booking`. -/
def theaterTx (request : Request) (codes : Nat → String) :
    Tx Db (Exit (Receipt × Int) FailCode) := do
  match ← Tx.select (selectSchedule request.showingId) with
  -- the only early return without a ROLLBACK
  | none => return .leave .notFound
  | some schedule =>
      match ← selectSeatIds schedule.hallId request.seats with
      | none =>
          Tx.call
          return .leave .invalidSeat
      | some seatIds =>
          match ← takeCapacity request.showingId request.seats.length with
          | false =>
              Tx.call
              return .leave .soldOut
          | true =>
              let receipt ← recordTheaterBooking request seatIds codes
              let remain ← closeIfFull request.showingId
              Tx.call
              return .commit (receipt, remain)

/-- `process_theater_booking`: the verdict and the database it leaves. `codes`
are the random booking codes it draws. -/
def processTheaterBooking (env : Env) (codes : Nat → String) (body : Json) (db : Db) :
    Verdict × Db :=
  match decodeRequest "schedule_id" body with
  | none => (.raised, db)
  | some request =>
      let (outcome, next) := Tx.settle (theaterTx request codes) env db
      (.ofOutcome outcome, next)

/-! ## What they do to the rows -/

/-- The hall has a seat `seatId` at this position. -/
def SeatAt (db : Db) (hallId : Int) (seat : Seat) (seatId : Int) : Prop :=
  ∃ row ∈ db.hallSeats.rows, row.hallId = hallId ∧ row.position = seat ∧ row.seatId = seatId

theorem selectSchedule_eq_some {scheduleId : Int} {db : Db} {schedule : Schedule}
    (h : selectSchedule scheduleId db = some schedule) :
    db.schedules.find scheduleId = some schedule := by
  unfold selectSchedule at h
  split at h
  next found hfind =>
    split at h
    next => rw [hfind, ← h]
    next => cases h
  next => cases h

theorem selectSeatId_eq_some {hallId seatId : Int} {seat : Seat} {db : Db} :
    selectSeatId hallId seat db = some seatId ↔ SeatAt db hallId seat seatId := by
  unfold selectSeatId
  rw [Option.map_eq_some_iff]
  constructor
  · rintro ⟨row, hfind, hid⟩
    have hrow := List.find?_some hfind
    simp only [decide_eq_true_eq] at hrow
    exact ⟨row, List.mem_of_find?_eq_some hfind, hrow.1, hrow.2, hid⟩
  · rintro ⟨row, hmem, hhall, hseat, hid⟩
    cases hfind : db.hallSeats.rows.find? fun row => row.hallId = hallId ∧ row.position = seat with
    | none =>
        have := List.find?_eq_none.mp hfind row hmem
        simp [hhall, hseat] at this
    | some other =>
        have hother := List.find?_some hfind
        simp only [decide_eq_true_eq] at hother
        have hkey : hallSeatIx.unique other = some (hallId, seat) := by simp [hallSeatIx, hother]
        have hkey' : hallSeatIx.unique row = some (hallId, seat) := by
          simp [hallSeatIx, hhall, hseat]
        obtain rfl : other = row :=
          db.hallSeats.eq_of_unique_eq (List.mem_of_find?_eq_some hfind) hmem hkey hkey'
        exact ⟨other, rfl, hid⟩

section Places

variable {db : Db} {hallId : Int}

theorem SeatAt.seatId_eq {seat : Seat} {left right : Int} (hleft : SeatAt db hallId seat left)
    (hright : SeatAt db hallId seat right) : left = right := by
  rw [← selectSeatId_eq_some] at hleft hright
  exact Option.some.inj (hleft.symm.trans hright)

theorem SeatAt.seat_eq {left right : Seat} {seatId : Int} (hleft : SeatAt db hallId left seatId)
    (hright : SeatAt db hallId right seatId) : left = right := by
  obtain ⟨row, hrow, _, hseat, hid⟩ := hleft
  obtain ⟨row', hrow', _, hseat', hid'⟩ := hright
  obtain rfl : row = row' := db.hallSeats.eq_of_pk_eq hrow hrow' (hid.trans hid'.symm)
  exact hseat.symm.trans hseat'

theorem seatAt_biUnique : Relator.BiUnique (SeatAt db hallId) :=
  ⟨fun _ _ _ => SeatAt.seat_eq, fun _ _ _ => SeatAt.seatId_eq⟩

variable {seats : List Seat} {seatIds : List Int}

theorem places_mem (h : List.Forall₂ (SeatAt db hallId) seats seatIds) {seatId : Int}
    (hmem : seatId ∈ seatIds) : ∃ seat ∈ seats, SeatAt db hallId seat seatId :=
  exists_mem_of_forall₂ h hmem

theorem places_seat (h : List.Forall₂ (SeatAt db hallId) seats seatIds) {seat : Seat}
    (hmem : seat ∈ seats) : ∃ seatId ∈ seatIds, SeatAt db hallId seat seatId :=
  exists_mem_of_forall₂ h.flip hmem

/-- Different positions have different seat ids. -/
theorem places_nodup (h : List.Forall₂ (SeatAt db hallId) seats seatIds) (hseats : seats.Nodup) :
    seatIds.Nodup :=
  (List.rel_nodup seatAt_biUnique h).mp hseats

/-- Different seat ids are those of different positions. -/
theorem places_nodup_seats (h : List.Forall₂ (SeatAt db hallId) seats seatIds)
    (hids : seatIds.Nodup) : seats.Nodup :=
  (List.rel_nodup seatAt_biUnique h).mpr hids

end Places

def Schedule.closedIfFull (row : Schedule) : Schedule :=
  if row.remainCount ≤ 0 then row.close else row

/-- What a booking of `n` seats makes of the schedule row. -/
def Schedule.booked (n : Nat) (row : Schedule) : Schedule := (row.take n).closedIfFull

/-- `next` is `db` after the request was booked on `schedule` for the seats
`seatIds` of its hall. -/
structure TheaterBooked (db next : Db) (request : Request) (schedule : Schedule)
    (seatIds : List Int) (bookingId : Int) : Prop where
  found : db.schedules.find request.showingId = some schedule
  places : List.Forall₂ (SeatAt db schedule.hallId) request.seats seatIds
  nonempty : 0 < request.seats.length
  capacity : (request.seats.length : Int) ≤ schedule.remainCount
  schedules : next.schedules.rows = db.schedules.rows.map fun row =>
    if row.scheduleId = request.showingId then row.booked request.seats.length else row
  movies : db.movies.Booked next.movies request.userId request.showingId seatIds bookingId
  frame : next = { db with schedules := next.schedules, movies := next.movies }

@[simp] theorem Schedule.scheduleId_take (n : Nat) (row : Schedule) :
    (row.take n).scheduleId = row.scheduleId := by
  unfold Schedule.take
  split <;> rfl

theorem Schedule.remainCount_take {n : Nat} {row : Schedule} (h : (n : Int) ≤ row.remainCount) :
    (row.take n).remainCount = row.remainCount - n := by
  rw [Schedule.take, dif_pos h]

section Effects

variable {env : Env} {cursor final : Cursor Db}

theorem selectSeatIds_ok {hallId : Int} {seats : List Seat} {found : Option (List Int)}
    (h : selectSeatIds hallId seats env cursor = .ok (found, final)) :
    final.db = cursor.db ∧
      ∀ seatIds, found = some seatIds →
        List.Forall₂ (SeatAt cursor.db hallId) seats seatIds := by
  induction seats generalizing cursor found with
  | nil =>
      obtain ⟨rfl, rfl⟩ := Tx.pure_ok.mp h
      exact ⟨rfl, by rintro _ ⟨⟩; exact .nil⟩
  | cons seat rest ih =>
      obtain ⟨first, middle, hselect, h⟩ := Tx.bind_ok.mp h
      obtain ⟨_, hfirst, rfl⟩ := Tx.select_ok.mp hselect
      cases first with
      | none =>
          obtain ⟨rfl, rfl⟩ := Tx.pure_ok.mp h
          exact ⟨rfl, by rintro _ ⟨⟩⟩
      | some seatId =>
          obtain ⟨others, last, hothers, h⟩ := Tx.bind_ok.mp h
          obtain ⟨rfl, rfl⟩ := Tx.pure_ok.mp h
          obtain ⟨hdb, hforall⟩ := ih hothers
          refine ⟨hdb, fun seatIds hids => ?_⟩
          obtain ⟨tail, htail, rfl⟩ := Option.map_eq_some_iff.mp hids
          exact .cons (selectSeatId_eq_some.mp hfirst.symm) (hforall tail htail)

/-- A seat that is missing from the hall is the only reason to find none. -/
theorem selectSeatIds_none {hallId : Int} {seats : List Seat}
    (h : selectSeatIds hallId seats env cursor = .ok (none, final)) :
    ∃ seat ∈ seats, ∀ seatId, ¬ SeatAt cursor.db hallId seat seatId := by
  induction seats generalizing cursor final with
  | nil => cases (Tx.pure_ok.mp h).1
  | cons seat rest ih =>
      obtain ⟨first, middle, hselect, h⟩ := Tx.bind_ok.mp h
      obtain ⟨_, hfirst, rfl⟩ := Tx.select_ok.mp hselect
      cases first with
      | none =>
          refine ⟨seat, List.mem_cons_self, fun seatId hseat => ?_⟩
          rw [selectSeatId_eq_some.mpr hseat] at hfirst
          cases hfirst
      | some seatId =>
          obtain ⟨others, last, hothers, h⟩ := Tx.bind_ok.mp h
          cases others with
          | none =>
              obtain ⟨missing, hmem, hmissing⟩ := ih hothers
              exact ⟨missing, List.mem_cons_of_mem seat hmem, hmissing⟩
          | some tail => cases (Tx.pure_ok.mp h).1

theorem takeCapacity_ok {scheduleId : Int} {n : Nat} {taken : Bool} {schedule : Schedule}
    (hfind : cursor.db.schedules.find scheduleId = some schedule)
    (h : takeCapacity scheduleId n env cursor = .ok (taken, final)) :
    (taken = true ↔ (n : Int) ≤ schedule.remainCount ∧ 0 < n) ∧
      ∃ schedules, final.db = { cursor.db with schedules := schedules } ∧
        schedules.rows = cursor.db.schedules.rows.map fun row =>
          if row.scheduleId = scheduleId then row.take n else row := by
  obtain ⟨_, _, hquery⟩ := Tx.exec_ok.mp h
  split at hquery
  next => cases hquery
  next schedules hupdate =>
    simp only [Except.ok.injEq, Prod.mk.injEq] at hquery
    obtain ⟨rfl, hdb⟩ := hquery
    refine ⟨?_, schedules, hdb.symm, by simpa using Table.update_eq_some hupdate⟩
    obtain ⟨hmem, hid⟩ := Table.find_eq_some.mp hfind
    rw [decide_eq_true_iff, cursor.db.schedules.countP_eq_one scheduleId fun row hrow => hrow.1]
    constructor
    · rintro ⟨row, hrow, hsame, hcount⟩
      rwa [cursor.db.schedules.eq_of_pk_eq hmem hrow (hid.trans hsame.symm)]
    · intro hcount
      exact ⟨schedule, hmem, hid, hcount⟩

theorem closeSchedule_ok {scheduleId : Int} {value : PUnit}
    (h : closeSchedule scheduleId env cursor = .ok (value, final)) :
    ∃ schedules, final.db = { cursor.db with schedules := schedules } ∧
      schedules.rows = cursor.db.schedules.rows.map fun row =>
        if row.scheduleId = scheduleId then row.close else row := by
  obtain ⟨_, _, hquery⟩ := Tx.exec_ok.mp h
  split at hquery
  next => cases hquery
  next schedules hupdate =>
    simp only [Except.ok.injEq, Prod.mk.injEq, true_and] at hquery
    exact ⟨schedules, hquery.symm, by simpa using Table.update_eq_some hupdate⟩

theorem recordTheaterBooking_ok {request : Request} {seatIds : List Int} {codes : Nat → String}
    {receipt : Receipt} (hlength : request.seats.length = seatIds.length)
    (h : recordTheaterBooking request seatIds codes env cursor = .ok (receipt, final)) :
    ∃ movies, final.db = { cursor.db with movies := movies } ∧
      cursor.db.movies.Booked movies request.userId request.showingId seatIds
        receipt.bookingId := by
  unfold recordTheaterBooking at h
  rw [hlength] at h
  obtain ⟨movies, hdb, hbooked, _⟩ := recordBooking_ok (insertEachSeat_inserts _ _ _) h
  exact ⟨movies, hdb, hbooked⟩

theorem closeIfFull_ok {scheduleId : Int} {schedule : Schedule} {remain : Int}
    (hfind : cursor.db.schedules.find scheduleId = some schedule)
    (h : closeIfFull scheduleId env cursor = .ok (remain, final)) :
    ∃ schedules, final.db = { cursor.db with schedules := schedules } ∧
      schedules.rows = cursor.db.schedules.rows.map fun row =>
        if row.scheduleId = scheduleId then row.closedIfFull else row := by
  obtain ⟨left, middle, hselect, h⟩ := Tx.bind_ok.mp h
  obtain ⟨_, hleft, rfl⟩ := Tx.select_ok.mp hselect
  rw [selectRemainCount, hfind, Option.map_some, Option.getD_some] at hleft
  obtain ⟨hmem, hid⟩ := Table.find_eq_some.mp hfind
  -- the row whose counter was read is the only one that the UPDATE can meet
  have hsame : ∀ row ∈ cursor.db.schedules.rows, row.scheduleId = scheduleId → row = schedule :=
    fun row hrow hrowId => cursor.db.schedules.eq_of_pk_eq hrow hmem (hrowId.trans hid.symm)
  split at h
  next hfull =>
    obtain ⟨_, closed, hclose, h⟩ := Tx.bind_ok.mp h
    obtain ⟨_, rfl⟩ := Tx.pure_ok.mp h
    obtain ⟨schedules, hdb, hrows⟩ := closeSchedule_ok hclose
    refine ⟨schedules, hdb, hrows.trans (List.map_congr_left fun row hrow => ?_)⟩
    by_cases hrowId : row.scheduleId = scheduleId
    · rw [if_pos hrowId, if_pos hrowId, hsame row hrow hrowId, Schedule.closedIfFull,
        if_pos (hleft ▸ hfull)]
    · rw [if_neg hrowId, if_neg hrowId]
  next hfree =>
    obtain ⟨_, rfl⟩ := Tx.pure_ok.mp h
    refine ⟨cursor.db.schedules, rfl, ?_⟩
    conv_lhs => rw [← List.map_id cursor.db.schedules.rows]
    refine List.map_congr_left fun row hrow => ?_
    by_cases hrowId : row.scheduleId = scheduleId
    · rw [if_pos hrowId, hsame row hrow hrowId, Schedule.closedIfFull, if_neg (hleft ▸ hfree),
        id_eq]
    · rw [if_neg hrowId, id_eq]

/-- A handler that commits has done all of its work on one schedule. -/
theorem theaterTx_commit {request : Request} {codes : Nat → String} {receipt : Receipt}
    {remain : Int}
    (h : theaterTx request codes env cursor = .ok (.commit (receipt, remain), final)) :
    ∃ schedule seatIds,
      TheaterBooked cursor.db final.db request schedule seatIds receipt.bookingId := by
  obtain ⟨found, c₁, hselect, h⟩ := Tx.bind_ok.mp h
  obtain ⟨_, hfound, rfl⟩ := Tx.select_ok.mp hselect
  cases found with
  | none => cases (Tx.pure_ok.mp h).1
  | some schedule =>
      have hfind := selectSchedule_eq_some hfound.symm
      obtain ⟨places, c₂, hplaces, h⟩ := Tx.bind_ok.mp h
      obtain ⟨hdb₂, hforall⟩ := selectSeatIds_ok hplaces
      dsimp only at hdb₂ hforall
      cases places with
      | none =>
          obtain ⟨_, _, _, h⟩ := Tx.bind_ok.mp h
          cases (Tx.pure_ok.mp h).1
      | some seatIds =>
          have hseats := hforall seatIds rfl
          obtain ⟨taken, c₃, htake, h⟩ := Tx.bind_ok.mp h
          obtain ⟨htaken, schedules₃, hdb₃, hrows₃⟩ := takeCapacity_ok (hdb₂ ▸ hfind) htake
          rw [hdb₂] at hdb₃ hrows₃
          cases taken with
          | false =>
              obtain ⟨_, _, _, h⟩ := Tx.bind_ok.mp h
              cases (Tx.pure_ok.mp h).1
          | true =>
              obtain ⟨hcapacity, hpos⟩ := htaken.mp rfl
              obtain ⟨record, c₄, hrecord, h⟩ := Tx.bind_ok.mp h
              obtain ⟨movies, hdb₄, hbooked⟩ := recordTheaterBooking_ok hseats.length_eq hrecord
              rw [hdb₃] at hdb₄ hbooked
              obtain ⟨hmem, hid⟩ := Table.find_eq_some.mp hfind
              -- the insertions leave the schedule with what `takeCapacity` has left of it
              have hfind₄ : c₄.db.schedules.find request.showingId =
                  some (schedule.take request.seats.length) := by
                rw [hdb₄, Table.find_eq_some]
                refine ⟨?_, (schedule.scheduleId_take _).trans hid⟩
                exact hrows₃ ▸ List.mem_map.mpr ⟨schedule, hmem, if_pos hid⟩
              obtain ⟨left, c₅, hclose, h⟩ := Tx.bind_ok.mp h
              obtain ⟨schedules₅, hdb₅, hrows₅⟩ := closeIfFull_ok hfind₄ hclose
              rw [hdb₄] at hdb₅ hrows₅
              obtain ⟨_, c₆, hcommit, h⟩ := Tx.bind_ok.mp h
              obtain ⟨hvalue, rfl⟩ := Tx.pure_ok.mp h
              obtain ⟨_, rfl⟩ := Tx.call_ok.mp hcommit
              cases hvalue
              refine ⟨schedule, seatIds, hfind, hseats, hpos, hcapacity, ?_, ?_, ?_⟩
              · rw [hdb₅, hrows₅, hrows₃, List.map_map]
                refine List.map_congr_left fun row _ => ?_
                by_cases hrow : row.scheduleId = request.showingId
                · simp [hrow, Schedule.booked]
                · simp [hrow]
              · rw [hdb₅]
                exact hbooked
              · rw [hdb₅]

/-- SOLD_OUT means that all seats of the request exist and that they are more
than the counter says remain, or none at all. -/
theorem theaterTx_soldOut {request : Request} {codes : Nat → String}
    (h : theaterTx request codes env cursor = .ok (.leave .soldOut, final)) :
    ∃ schedule seatIds, cursor.db.schedules.find request.showingId = some schedule ∧
      List.Forall₂ (SeatAt cursor.db schedule.hallId) request.seats seatIds ∧
      (schedule.remainCount < request.seats.length ∨ request.seats = []) := by
  obtain ⟨found, c₁, hselect, h⟩ := Tx.bind_ok.mp h
  obtain ⟨_, hfound, rfl⟩ := Tx.select_ok.mp hselect
  cases found with
  | none => cases (Tx.pure_ok.mp h).1
  | some schedule =>
      have hfind := selectSchedule_eq_some hfound.symm
      obtain ⟨places, c₂, hplaces, h⟩ := Tx.bind_ok.mp h
      obtain ⟨hdb₂, hforall⟩ := selectSeatIds_ok hplaces
      dsimp only at hdb₂ hforall
      cases places with
      | none =>
          obtain ⟨_, _, _, h⟩ := Tx.bind_ok.mp h
          cases (Tx.pure_ok.mp h).1
      | some seatIds =>
          obtain ⟨taken, c₃, htake, h⟩ := Tx.bind_ok.mp h
          obtain ⟨htaken, _⟩ := takeCapacity_ok (hdb₂ ▸ hfind) htake
          refine ⟨schedule, seatIds, hfind, hforall seatIds rfl, ?_⟩
          cases taken with
          | false =>
              by_contra! hfits
              have := htaken.mpr ⟨hfits.1, List.length_pos_iff.mpr hfits.2⟩
              cases this
          | true =>
              obtain ⟨record, c₄, _, h⟩ := Tx.bind_ok.mp h
              obtain ⟨left, c₅, _, h⟩ := Tx.bind_ok.mp h
              obtain ⟨_, c₆, _, h⟩ := Tx.bind_ok.mp h
              cases (Tx.pure_ok.mp h).1

end Effects

/-- The handler leaves the database alone unless its verdict is a committed
booking. -/
theorem processTheaterBooking_cases (env : Env) (codes : Nat → String) (body : Json) (db : Db) :
    (∃ request schedule seatIds receipt remain next,
      decodeRequest "schedule_id" body = some request ∧
      processTheaterBooking env codes body db = (.committed receipt remain, next) ∧
      TheaterBooked db next request schedule seatIds receipt.bookingId) ∨
    ((processTheaterBooking env codes body db).2 = db ∧
      (processTheaterBooking env codes body db).1.isCommitted = false) := by
  unfold processTheaterBooking
  cases hdecode : decodeRequest "schedule_id" body with
  | none => exact .inr ⟨rfl, rfl⟩
  | some request =>
      rcases Tx.settle_db (theaterTx request codes) env db with
        ⟨⟨receipt, remain⟩, cursor, hrun, hsettle, _⟩ | ⟨hsame, hne⟩
      · obtain ⟨schedule, seatIds, hbooked⟩ := theaterTx_commit hrun
        refine .inl ⟨request, schedule, seatIds, receipt, remain, cursor.db, rfl, ?_, hbooked⟩
        simp only [hsettle]
        rfl
      · refine .inr ⟨hsame, ?_⟩
        exact Verdict.isCommitted_ofOutcome hne

theorem processTheaterBooking_soldOut {env : Env} {codes : Nat → String} {body : Json} {db : Db}
    (h : (processTheaterBooking env codes body db).1 = .refused .soldOut) :
    ∃ request schedule seatIds, decodeRequest "schedule_id" body = some request ∧
      db.schedules.find request.showingId = some schedule ∧
      List.Forall₂ (SeatAt db schedule.hallId) request.seats seatIds ∧
      (schedule.remainCount < request.seats.length ∨ request.seats = []) := by
  unfold processTheaterBooking at h
  split at h
  next => cases h
  next request hdecode =>
    obtain ⟨cursor, hrun⟩ := Tx.settle_leave (Verdict.ofOutcome_refused h)
    obtain ⟨schedule, seatIds, hsold⟩ := theaterTx_soldOut hrun
    exact ⟨request, schedule, seatIds, hdecode, hsold⟩

end Ticketing
