import Ticketing.Coupling
import Ticketing.Theater.Bootstrap

/-!
# Counts and seat lists of the bootstrap payload

`remain_count` comes from the third SELECT and the list of reserved seats from
the fourth. Both describe the ACTIVE rows of a schedule in a database that
bookings and refunds lead to, but not in the same database.
-/

namespace Ticketing

open Foundation Python

/-! ## The theater tables under transactions -/

/-- ACTIVE rows belong to paid bookings, seat rows name seats that exist, and no
schedule has more seat rows than places. -/
structure Db.TheaterInv (db : Db) : Prop where
  owned : ∀ scheduleId, db.movies.Owned scheduleId
  placed : ∀ row ∈ db.movies.seats.rows, ∃ seat, db.hallSeats.find row.cell = some seat
  capacity : ∀ row ∈ db.schedules.rows,
    row.remainCount + db.movies.seatCount row.scheduleId ≤ row.totalCount

/-- What bookings leave of a schedule. -/
def Schedule.fixed (row : Schedule) : Int × Int × Int :=
  (row.scheduleId, row.hallId, row.totalCount)

/-- The schedules, without their counters. -/
def Db.plan (db : Db) : List (Int × Int × Int) := db.schedules.rows.map Schedule.fixed

theorem Db.NoBookings.theaterInv {db : Db} (h : db.NoBookings) : db.TheaterInv := by
  constructor
  · intro scheduleId row hrow
    rw [h.1] at hrow
    cases hrow
  · intro row hrow
    rw [h.1] at hrow
    cases hrow
  · intro row _
    rw [h.1]
    simpa [Ledger.seatCount, Ledger.empty, Table.empty] using row.chk_valid_count

/-- Seats that were found in a hall exist. -/
theorem placed_of_seatAt {db : Db} {hallId : Int} {seats : List Seat} {seatIds : List Int}
    (h : List.Forall₂ (SeatAt db hallId) seats seatIds) :
    ∀ seatId ∈ seatIds, ∃ seat, db.hallSeats.find seatId = some seat := by
  intro seatId hmem
  obtain ⟨_, _, row, hrow, _, _, hid⟩ := places_mem h hmem
  exact ⟨row, Table.find_eq_some.mpr ⟨hrow, hid⟩⟩

namespace TheaterBooked

variable {db next : Db} {request : Request} {schedule : Schedule} {seatIds : List Int}
  {bookingId : Int}

theorem plan_eq (h : TheaterBooked db next request schedule seatIds bookingId) :
    next.plan = db.plan := by
  rw [Db.plan, h.schedules, List.map_map, Db.plan]
  refine List.map_congr_left fun row _ => ?_
  simp only [Function.comp, Schedule.fixed]
  split
  next => rw [Schedule.scheduleId_booked, Schedule.hallId_booked, Schedule.totalCount_booked]
  next => rfl

theorem theaterInv (h : TheaterBooked db next request schedule seatIds bookingId)
    (hinv : db.TheaterInv) : next.TheaterInv := by
  constructor
  · intro scheduleId
    exact h.movies.owned (hinv.owned scheduleId)
  · obtain ⟨rows, hseats, hrows⟩ := h.movies.seats
    intro row hrow
    rw [hseats] at hrow
    rw [h.hallSeats_eq]
    rcases List.mem_append.mp hrow with hold | hnew
    · exact hinv.placed row hold
    · apply placed_of_seatAt h.places
      rw [← hrows.map_cell]
      exact List.mem_map_of_mem hnew
  · intro row hrow
    rw [h.schedules] at hrow
    obtain ⟨old, hold, rfl⟩ := List.mem_map.mp hrow
    have hcapacity := hinv.capacity old hold
    split
    next hid =>
      obtain ⟨hmem, hid'⟩ := Table.find_eq_some.mp h.found
      obtain rfl := db.schedules.eq_of_pk_eq hmem hold (hid'.trans hid.symm)
      rw [Schedule.remainCount_booked h.capacity, Schedule.scheduleId_booked,
        Schedule.totalCount_booked, hid, h.movies.seatCount_same, ← h.places.length_eq, ← hid]
      omega
    next hid =>
      rw [h.movies.seatCount_other hid]
      exact hcapacity

end TheaterBooked

theorem Transacted.theaterInv {db next : Db} (h : Transacted db next) (hinv : db.TheaterInv) :
    next.TheaterInv ∧ next.plan = db.plan := by
  cases h with
  | same => exact ⟨hinv, rfl⟩
  | theater hbooked => exact ⟨hbooked.theaterInv hinv, hbooked.plan_eq⟩
  | concert hbooked =>
      rw [hbooked.frame]
      exact ⟨⟨hinv.owned, hinv.placed, hinv.capacity⟩, rfl⟩
  | refundConcert hrefunded => exact ⟨⟨hinv.owned, hinv.placed, hinv.capacity⟩, rfl⟩
  | refundMovie hrefunded =>
      refine ⟨⟨fun scheduleId => hrefunded.owned (hinv.owned scheduleId), ?_, ?_⟩, rfl⟩
      · intro row hrow
        rw [hrefunded.seats] at hrow
        obtain ⟨old, hold, rfl⟩ := List.mem_map.mp hrow
        have hplaced := hinv.placed old hold
        split
        next => exact hplaced
        next => exact hplaced
      · intro row hrow
        rw [hrefunded.seatCount_eq]
        exact hinv.capacity row hrow

theorem dbMachine_theaterInv {db final : Db} {steps : List DbStep} (hinv : db.TheaterInv)
    (hrun : dbMachine.run db steps = some final) : final.TheaterInv ∧ final.plan = db.plan := by
  have hstep : ∀ s a next, (Db.TheaterInv s ∧ s.plan = db.plan) →
      dbMachine.step s a = some next → Db.TheaterInv next ∧ next.plan = db.plan := by
    rintro s a next ⟨hs, hplan⟩ h
    obtain rfl := Option.some.inj h
    obtain ⟨hnext, hsame⟩ := (a.transacted s).theaterInv hs
    exact ⟨hnext, hsame.trans hplan⟩
  exact Machine.run_invariant hstep ⟨hinv, rfl⟩ hrun

/-- A schedule has no more ACTIVE seats than places. -/
theorem Db.TheaterInv.length_activeSeats_le {db : Db} (hinv : db.TheaterInv) {row : Schedule}
    (hrow : row ∈ db.schedules.rows) :
    ((db.movies.activeSeats row.scheduleId).length : Int) ≤ row.totalCount := by
  have hcapacity := hinv.capacity row hrow
  have hremain := row.chk_remain_count
  have hactive := db.movies.length_activeSeats_le row.scheduleId
  omega

/-! ## What the SELECTs return -/

instance : IsTrans ReservedRow ReservedRow.Precedes where
  trans _ _ _ := by
    unfold ReservedRow.Precedes Seat.Precedes
    omega

instance : Std.Total ReservedRow.Precedes where
  total _ _ := by
    unfold ReservedRow.Precedes Seat.Precedes
    omega

/-- The keys that the fourth SELECT and the loop over its rows give a schedule. -/
def reservedKeys (db : Db) (scheduleId : Int) : List String :=
  ((selectReserved db).filter fun row =>
    row.scheduleId = scheduleId ∧ row.bookStatus.isExcluded = false).map fun row => row.position.key

/-- The positions of the ACTIVE seats of a schedule. -/
def activePositions (db : Db) (scheduleId : Int) : List Seat :=
  (db.movies.activeSeats scheduleId).filterMap fun row =>
    (db.hallSeats.find row.cell).map HallSeat.position

/-- A join that drops no row, followed by a test of the columns it has added. -/
theorem map_filter_filterMap {α β γ : Type} {f : α → Option β} {p : β → Bool} {g : β → γ}
    {q : α → Bool} {k : α → Option γ} (items : List α)
    (h : ∀ item ∈ items, ∃ value, f item = some value ∧ p value = q item ∧
      k item = some (g value)) :
    ((items.filterMap f).filter p).map g = (items.filter q).filterMap k := by
  induction items with
  | nil => rfl
  | cons item rest ih =>
      obtain ⟨⟨value, hvalue, hsame, hcolumn⟩, hrest⟩ := List.forall_mem_cons.mp h
      rw [List.filterMap_cons_some hvalue, List.filter_cons, List.filter_cons, hsame]
      split
      next => rw [List.map_cons, List.filterMap_cons_some hcolumn, ih hrest]
      next => exact ih hrest

/-- The joins and the filters drop no ACTIVE row. -/
theorem Db.TheaterInv.map_reservedRow {db : Db} (hinv : db.TheaterInv) (scheduleId : Int) :
    (((db.movies.seats.rows.filter fun row => row.status = .active).filterMap
      (reservedRow db)).filter fun row =>
        row.scheduleId = scheduleId ∧ row.bookStatus.isExcluded = false).map
          ReservedRow.position = activePositions db scheduleId := by
  have hactive : db.movies.activeSeats scheduleId = (db.movies.seats.rows.filter fun row =>
      row.status = .active).filter fun row => row.showingId = scheduleId := by
    rw [Ledger.activeSeats, List.filter_filter]
    simp only [Bool.decide_and]
  rw [activePositions, hactive]
  apply map_filter_filterMap
  intro row hrow
  obtain ⟨hmem, hstatus⟩ := List.mem_filter.mp hrow
  obtain ⟨seat, hseat⟩ := hinv.placed row hmem
  obtain ⟨booking, hbooking, hpaid, _⟩ := hinv.owned row.showingId row
    (Ledger.mem_activeSeats.mpr ⟨hmem, rfl, of_decide_eq_true hstatus⟩)
  refine ⟨⟨row.showingId, seat.position, booking.bookStatus⟩, ?_, ?_, ?_⟩
  · rw [reservedRow, hseat, hbooking]
    rfl
  · simp [hpaid, BookStatus.isExcluded]
  · rw [hseat]
    rfl

/-- The listed keys are those of the ACTIVE seats, in their order. -/
theorem Db.TheaterInv.reservedKeys_eq {db : Db} (hinv : db.TheaterInv) (scheduleId : Int) :
    reservedKeys db scheduleId = sortedKeys (activePositions db scheduleId) := by
  have hsorted : ((selectReserved db).filter fun row =>
      row.scheduleId = scheduleId ∧ row.bookStatus.isExcluded = false).map ReservedRow.position =
        (activePositions db scheduleId).insertionSort Seat.Precedes := by
    apply List.Perm.eq_of_pairwise' (r := Seat.Precedes)
    · rw [List.pairwise_map]
      refine ((List.pairwise_insertionSort ReservedRow.Precedes _).filter _).imp_of_mem
        fun hleft hright hprecedes => ?_
      have hleft' := of_decide_eq_true (List.mem_filter.mp hleft).2
      have hright' := of_decide_eq_true (List.mem_filter.mp hright).2
      rcases hprecedes with hlt | ⟨_, hposition⟩
      · omega
      · exact hposition
    · exact List.pairwise_insertionSort Seat.Precedes _
    · refine List.Perm.trans ?_ (List.perm_insertionSort _ _).symm
      rw [← hinv.map_reservedRow]
      exact ((List.perm_insertionSort _ _).filter _).map _
  rw [sortedKeys, ← hsorted, List.map_map]
  rfl

theorem Db.TheaterInv.length_reservedKeys {db : Db} (hinv : db.TheaterInv) (scheduleId : Int) :
    (reservedKeys db scheduleId).length = (db.movies.activeSeats scheduleId).length := by
  rw [hinv.reservedKeys_eq, sortedKeys_length, activePositions, List.filterMap_length_eq_length]
  intro row hrow
  obtain ⟨seat, hseat⟩ := hinv.placed row (Ledger.mem_activeSeats.mp hrow).1
  rw [hseat]
  rfl

theorem appendReserved_ofSchedule {valid : List Int} (rows : List ReservedRow)
    (reserved : ReservedSeats) {scheduleId : Int} (hvalid : scheduleId ∈ valid) :
    (appendReserved valid rows reserved).ofSchedule scheduleId =
      reserved.ofSchedule scheduleId ++ (rows.filter fun row =>
        row.scheduleId = scheduleId ∧ row.bookStatus.isExcluded = false).map
          fun row => row.position.key := by
  induction rows generalizing reserved with
  | nil => simp [appendReserved]
  | cons row rest ih =>
      rw [appendReserved, ih]
      by_cases hskip : row.scheduleId ∉ valid ∨ row.bookStatus.isExcluded = true
      · have hdrop : ¬ (row.scheduleId = scheduleId ∧ row.bookStatus.isExcluded = false) := by
          rintro ⟨rfl, hkept⟩
          rcases hskip with hinvalid | hexcluded
          · exact hinvalid hvalid
          · rw [hkept] at hexcluded
            cases hexcluded
        rw [if_pos hskip, List.filter_cons_of_neg (by simpa using hdrop)]
      · rw [if_neg hskip]
        have hkept : row.bookStatus.isExcluded = false := by simpa using fun h => hskip (.inr h)
        by_cases hsame : row.scheduleId = scheduleId
        · subst hsame
          rw [List.filter_cons_of_pos (by simp [hkept]), List.map_cons, ReservedSeats.ofSchedule,
            AList.lookup_insert, Option.getD_some, List.append_assoc]
          rfl
        · rw [List.filter_cons_of_neg (by simp [hsame]), ReservedSeats.ofSchedule,
            AList.lookup_insert_ne (Ne.symm hsame), ReservedSeats.ofSchedule]

section Fetch

variable {catalog : Catalog} {movieMap : MovieMap} {second third fourth : Db}

/-- The schedules of the payload: open or closed ones, of movies in the map. -/
theorem mem_schedules {payload : SchedulePayload} :
    payload ∈ (fetchBootstrapFromDb catalog movieMap second third fourth).schedules ↔
      ∃ row ∈ third.schedules.rows, row.status ≠ .other ∧
        catalog.movieId row.scheduleId ∈ movieMap ∧
          schedulePayload catalog third row = payload := by
  unfold fetchBootstrapFromDb selectSchedules
  simp only [List.mem_filter, List.mem_insertionSort, List.mem_map, decide_eq_true_eq]
  constructor
  · rintro ⟨⟨row, ⟨hrow, hstatus⟩, rfl⟩, hmovie⟩
    exact ⟨row, hrow, hstatus, hmovie, rfl⟩
  · rintro ⟨row, hrow, hstatus, hmovie, rfl⟩
    exact ⟨⟨row, ⟨hrow, hstatus⟩, rfl⟩, hmovie⟩

/-- The seats that the payload lists for one of its schedules. -/
theorem fetch_ofSchedule {payload : SchedulePayload}
    (hmem : payload ∈ (fetchBootstrapFromDb catalog movieMap second third fourth).schedules) :
    (fetchBootstrapFromDb catalog movieMap second third fourth).reservedSeats.ofSchedule
      payload.scheduleId = reservedKeys fourth payload.scheduleId := by
  have hvalid : payload.scheduleId ∈ (fetchBootstrapFromDb catalog movieMap second third
      fourth).schedules.map SchedulePayload.scheduleId := List.mem_map_of_mem hmem
  exact (appendReserved_ofSchedule (selectReserved fourth) ∅ hvalid).trans (List.nil_append _)

end Fetch

theorem ReservedSeats.restrict_ofSchedule {reserved : ReservedSeats} {keep : Int → Bool}
    {scheduleId : Int} (hkeep : keep scheduleId = true) :
    (reserved.restrict keep).ofSchedule scheduleId = reserved.ofSchedule scheduleId := by
  have hlookup : (reserved.restrict keep).lookup scheduleId = reserved.lookup scheduleId := by
    refine Option.ext fun keys => ?_
    rw [← Option.mem_def, ← Option.mem_def, AList.mem_lookup_iff, AList.mem_lookup_iff]
    simp [restrict, hkeep]
  rw [ofSchedule, hlookup, ofSchedule]

/-! ## Agreement -/

/-- For each schedule, the count is what the listed seats leave of the total. -/
def SeatsAgree (schedules : List SchedulePayload) (reserved : ReservedSeats) : Prop :=
  ∀ row ∈ schedules,
    row.remainCount = max 0 (row.totalCount - (reserved.ofSchedule row.scheduleId).length)

/-- The payload is consistent, and so is the detail of every theater. -/
def BootstrapAgrees (bootstrap : Bootstrap) : Prop :=
  SeatsAgree bootstrap.schedules bootstrap.reservedSeats ∧
    ∀ theaterId detail, theaterDetailFromBootstrap bootstrap theaterId = some detail →
      SeatsAgree detail.schedules detail.reservedSeats

/-- A detail has its schedules, with their seats, from the bootstrap payload. -/
theorem theaterDetail_sub {bootstrap : Bootstrap} {theaterId : Int} {detail : TheaterDetail}
    (h : theaterDetailFromBootstrap bootstrap theaterId = some detail) :
    ∀ row ∈ detail.schedules, row ∈ bootstrap.schedules ∧
      detail.reservedSeats.ofSchedule row.scheduleId =
        bootstrap.reservedSeats.ofSchedule row.scheduleId := by
  obtain ⟨theater, _, rfl⟩ := Option.map_eq_some_iff.mp h
  intro row hrow
  refine ⟨(List.mem_filter.mp hrow).1, ReservedSeats.restrict_ofSchedule ?_⟩
  exact decide_eq_true (List.mem_map_of_mem hrow)

theorem SeatsAgree.bootstrapAgrees {bootstrap : Bootstrap}
    (h : SeatsAgree bootstrap.schedules bootstrap.reservedSeats) : BootstrapAgrees bootstrap := by
  refine ⟨h, fun theaterId detail hdetail row hrow => ?_⟩
  obtain ⟨hmem, hsame⟩ := theaterDetail_sub hdetail row hrow
  rw [hsame]
  exact h row hmem

/-- The payload of a fetch, in terms of the databases it was read from. -/
theorem fetch_seatsAgree_iff {catalog : Catalog} {movieMap : MovieMap} {second third fourth : Db} :
    BootstrapAgrees (fetchBootstrapFromDb catalog movieMap second third fourth) ↔
      ∀ row ∈ third.schedules.rows, row.status ≠ .other →
        catalog.movieId row.scheduleId ∈ movieMap →
          remaining third row =
            max 0 (row.totalCount - (reservedKeys fourth row.scheduleId).length) := by
  constructor
  · rintro ⟨hagrees, _⟩ row hrow hstatus hmovie
    have hmem : schedulePayload catalog third row ∈
        (fetchBootstrapFromDb catalog movieMap second third fourth).schedules :=
      mem_schedules.mpr ⟨row, hrow, hstatus, hmovie, rfl⟩
    have hcount := hagrees _ hmem
    rw [fetch_ofSchedule hmem] at hcount
    exact hcount
  · intro hall
    apply SeatsAgree.bootstrapAgrees
    intro payload hpayload
    obtain ⟨row, hrow, hstatus, hmovie, rfl⟩ := mem_schedules.mp hpayload
    rw [fetch_ofSchedule hpayload]
    exact hall row hrow hstatus hmovie

/-- A payload that is fetched while transactions commit between the SELECTs is
consistent exactly if no schedule in it has gained or lost ACTIVE seats from the
third SELECT to the fourth. -/
theorem bootstrapAgrees_iff {catalog : Catalog} {movieMap : MovieMap}
    {db second third fourth : Db} {before between after : List DbStep} (hempty : db.NoBookings)
    (hsecond : dbMachine.run db before = some second)
    (hthird : dbMachine.run second between = some third)
    (hfourth : dbMachine.run third after = some fourth) :
    BootstrapAgrees (fetchBootstrapFromDb catalog movieMap second third fourth) ↔
      ∀ row ∈ third.schedules.rows, row.status ≠ .other →
        catalog.movieId row.scheduleId ∈ movieMap →
          (third.movies.activeSeats row.scheduleId).length =
            (fourth.movies.activeSeats row.scheduleId).length := by
  obtain ⟨hinv₂, _⟩ := dbMachine_theaterInv hempty.theaterInv hsecond
  obtain ⟨hinv₃, _⟩ := dbMachine_theaterInv hinv₂ hthird
  obtain ⟨hinv₄, hplan⟩ := dbMachine_theaterInv hinv₃ hfourth
  rw [fetch_seatsAgree_iff]
  refine forall₄_congr fun row hrow _ _ => ?_
  -- neither count exceeds the total, so the maxima hide nothing
  have hle := hinv₃.length_activeSeats_le hrow
  have hle' : ((fourth.movies.activeSeats row.scheduleId).length : Int) ≤ row.totalCount := by
    have hfixed : row.fixed ∈ fourth.plan := by
      rw [hplan]
      exact List.mem_map_of_mem hrow
    obtain ⟨other, hother, hsame⟩ := List.mem_map.mp hfixed
    simp only [Schedule.fixed, Prod.mk.injEq] at hsame
    obtain ⟨hid, _, htotal⟩ := hsame
    rw [← hid, ← htotal]
    exact hinv₄.length_activeSeats_le hother
  rw [remaining, hinv₄.length_reservedKeys]
  omega

/-! ## A booking between two SELECTs -/

def openingMovie : Movie where
  movieId := 1
  title := "Opening"
  genre := none
  director := none
  runtimeMinutes := 90
  posterUrl := none
  mainPosterUrl := none
  videoUrl := none
  audienceCount := 0
  releaseDate := some ⟨2025, 1, 31⟩
  synopsis := none
  synopsisLine := none
  status := "ACTIVE"
  hide := "N"

/-- One theater for the hall of `oneSeatDb`, and a movie for its schedule. -/
def oneSeatCatalog : Catalog where
  collation := ⟨fun left right => left == right, fun text start => start.isPrefixOf text⟩
  movies := ⟨[openingMovie], by decide, by decide⟩
  theaters := ⟨[⟨1, "서울 강남"⟩], by decide, by decide⟩
  hallName _ := "A관"
  totalSeats _ := 1
  seatActive _ := true
  movieId _ := 1
  showDate _ := ⟨⟨2025, 2, 1⟩, 19, 30, 0⟩

def oneSeatMovies : MovieMap := (loadMovieCacheRows oneSeatCatalog oneSeatDb none).1

theorem seat_sold_between_selects :
    oneSeatDb.NoBookings ∧ ∃ final,
      dbMachine.run oneSeatDb
          [.book .quiet (fun _ => "AA000001") (theaterBody "first" [.str "1-1"])] = some final ∧
        ¬ BootstrapAgrees
          (fetchBootstrapFromDb oneSeatCatalog oneSeatMovies oneSeatDb oneSeatDb final) := by
  have hfinal : (dbMachine.run oneSeatDb [.book .quiet (fun _ => "AA000001")
      (theaterBody "first" [.str "1-1"])]).map (fun final => reservedKeys final 1) =
        some ["1-1"] := by decide +kernel
  obtain ⟨final, hrun, hkeys⟩ := Option.map_eq_some_iff.mp hfinal
  refine ⟨⟨rfl, rfl⟩, final, hrun, fun hagrees => ?_⟩
  have hcount := fetch_seatsAgree_iff.mp hagrees oneSeatSchedule (by decide) (by decide)
    (by decide +kernel)
  rw [show oneSeatSchedule.scheduleId = 1 from rfl, hkeys] at hcount
  exact absurd hcount (by decide)

theorem bootstrapAgrees_iff_soldOut :
    ∃ final, dbMachine.run oneSeatDb
        [.book .quiet (fun _ => "AA000001") (theaterBody "first" [.str "1-1"])] = some final ∧
      BootstrapAgrees (fetchBootstrapFromDb oneSeatCatalog oneSeatMovies final final final) := by
  obtain ⟨final, hrun⟩ := dbMachine_total oneSeatDb
    [.book .quiet (fun _ => "AA000001") (theaterBody "first" [.str "1-1"])]
  refine ⟨final, hrun, ?_⟩
  have hnil := Machine.run_nil dbMachine final
  exact (bootstrapAgrees_iff ⟨rfl, rfl⟩ hrun hnil hnil).mpr fun _ _ _ _ => rfl

end Ticketing
