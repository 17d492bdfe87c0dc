import Ticketing.Movie.Pages
import Ticketing.Theater.Freshness

/-!
# Do the movie page and the theater pages agree on the seats left?

A booking and a refund both renew the theater keys and leave the keys of the
movie details alone. So the two pages agree as long as nothing is sold, and
nothing is given back, of a schedule that the theater pages show.
-/

namespace Ticketing

open Foundation Python

/-! ## The invariant -/

/-- A schedule that was full while it was neither OPEN nor CLOSED can sell no
more seats. -/
def MovieSchedule.Spent (db : Db) (item : MovieSchedule) : Prop :=
  item.status = .closed → ∀ row ∈ db.schedules.rows, row.scheduleId = item.scheduleId →
    row.status = .other → row.remainCount = 0

/-- The tables are in order, the theater keys are up to date, and only listed
movies have a key. -/
structure ReadInv (catalog : Catalog) (s : ReadState) : Prop where
  theater : s.db.TheaterInv
  coupling : s.db.CouplingInv
  pages : PagesOk catalog s
  listed : ∀ movieId detail, s.details movieId = some detail →
    (selectListedMovie catalog movieId).isSome = true
  spent : ∀ movieId detail, s.details movieId = some detail → ∀ item ∈ detail.schedules,
    item.Spent s.db

/-- Every listed movie has a key, with all of its schedules. -/
def Warmed (catalog : Catalog) (s : ReadState) : Prop :=
  ∀ movieId, (selectListedMovie catalog movieId).isSome = true →
    ∃ detail, s.details movieId = some detail ∧
      ∀ row ∈ s.db.schedules.rows, catalog.movieId row.scheduleId = movieId →
        ∃ item ∈ detail.schedules, item.scheduleId = row.scheduleId

theorem readInv_initial {catalog : Catalog} {db : Db} (hempty : db.NoBookings) :
    ReadInv catalog (.initial db) where
  theater := hempty.theaterInv
  coupling := hempty.couplingInv
  pages := ⟨.inl rfl, fun _ h => by cases h⟩
  listed := fun _ _ h => by cases h
  spent := fun _ _ h => by cases h

section Steps

variable {catalog : Catalog} {s next : ReadState}

theorem fetchMovieDetail_isSome {db : Db} {movieId : Int} :
    (fetchMovieDetailFromDb catalog db movieId).isSome =
      (selectListedMovie catalog movieId).isSome := Option.isSome_map

theorem fetchMovieDetail_spent {db : Db} (hinv : db.TheaterInv) {movieId : Int}
    {detail : MovieDetail} (h : fetchMovieDetailFromDb catalog db movieId = some detail)
    {item : MovieSchedule} (hitem : item ∈ detail.schedules) : item.Spent db := by
  obtain ⟨row, hrow, _, rfl⟩ := (mem_fetchMovieDetail h).mp hitem
  intro hclosed other hother hid hstatus
  obtain rfl := db.schedules.eq_of_pk_eq hother hrow hid
  change reportedStatus db other = .closed at hclosed
  have hfull : remaining db other ≤ 0 := by
    by_contra hleft
    rw [reportedStatus, if_neg hleft, hstatus] at hclosed
    cases hclosed
  -- all places are taken by ACTIVE rows, so nothing is left to count
  have hcapacity := hinv.capacity other hother
  have hremain := other.chk_remain_count
  have hactive := db.movies.length_activeSeats_le other.scheduleId
  rw [remaining] at hfull
  omega

theorem ReadInv.refreshed (hinv : ReadInv catalog s) (h : Refreshes catalog s next) :
    ReadInv catalog next where
  theater := h.db_eq ▸ hinv.theater
  coupling := h.db_eq ▸ hinv.coupling
  pages := h.pages
  listed := by
    intro movieId detail hdetail
    rcases h.details movieId with hkept | hfetched
    · exact hinv.listed movieId detail (hkept.symm.trans hdetail)
    · rw [← @fetchMovieDetail_isSome catalog s.db, ← hfetched, hdetail]
      rfl
  spent := by
    rw [h.db_eq]
    intro movieId detail hdetail item hitem
    rcases h.details movieId with hkept | hfetched
    · exact hinv.spent movieId detail (hkept.symm.trans hdetail) item hitem
    · exact fetchMovieDetail_spent hinv.theater (hfetched.symm.trans hdetail) hitem

theorem Warmed.refreshed (hwarm : Warmed catalog s) (h : Refreshes catalog s next) :
    Warmed catalog next := by
  intro movieId hlisted
  rw [h.db_eq]
  rcases h.details movieId with hkept | hfetched
  · rw [hkept]
    exact hwarm movieId hlisted
  · rw [← @fetchMovieDetail_isSome catalog s.db] at hlisted
    obtain ⟨detail, hdetail⟩ := Option.isSome_iff_exists.mp hlisted
    refine ⟨detail, hfetched.trans hdetail, fun row hrow hmovie => ?_⟩
    exact ⟨_, (mem_fetchMovieDetail hdetail).mpr ⟨row, hrow, hmovie, rfl⟩, rfl⟩

/-- After a warmup every listed movie has its key, and the keys agree. -/
theorem warmupAll_warmed : Warmed catalog (s.warmupAll catalog) := by
  intro movieId hlisted
  have hdetails := @warmupAll_details catalog s movieId
  rw [if_pos hlisted] at hdetails
  rw [← @fetchMovieDetail_isSome catalog s.db] at hlisted
  obtain ⟨detail, hdetail⟩ := Option.isSome_iff_exists.mp hlisted
  refine ⟨detail, hdetails.trans hdetail, fun row hrow hmovie => ?_⟩
  exact ⟨_, (mem_fetchMovieDetail hdetail).mpr ⟨row, hrow, hmovie, rfl⟩, rfl⟩

theorem ReadInv.warmupAll_agree (hinv : ReadInv catalog s) :
    DetailsAgree catalog (s.warmupAll catalog).db (s.warmupAll catalog).details := by
  intro movieId detail hdetail item hitem
  rw [warmupAll_details] at hdetail
  split at hdetail
  next => exact fetchMovieDetail_agrees hdetail hitem
  next hunlisted => exact absurd (hinv.listed movieId detail hdetail) hunlisted

end Steps

/-! ## What a transaction does to the reports -/

theorem reportedStatus_congr {db next : Db} {row : Schedule}
    (h : remaining next row = remaining db row) :
    reportedStatus next row = reportedStatus db row := by
  rw [reportedStatus, h, reportedStatus]

/-- A booking closes the schedule or keeps its status. -/
theorem Schedule.status_booked_cases (n : Nat) (row : Schedule) :
    (row.booked n).status = .closed ∨ (row.booked n).status = row.status := by
  unfold booked closedIfFull
  split
  next => exact .inl rfl
  next =>
    right
    unfold take
    split
    next => rfl
    next => rfl

namespace TheaterBooked

variable {db next : Db} {request : Request} {schedule : Schedule} {seatIds : List Int}
  {bookingId : Int}

/-- A booking takes at least one of the remaining seats. -/
theorem remaining_lt (h : TheaterBooked db next request schedule seatIds bookingId)
    (hinv : db.TheaterInv) :
    remaining next (schedule.booked request.seats.length) < remaining db schedule := by
  obtain ⟨hmem, hid⟩ := Table.find_eq_some.mp h.found
  have hid : schedule.scheduleId = request.showingId := hid
  have hcapacity := hinv.capacity schedule hmem
  have hactive := db.movies.length_activeSeats_le schedule.scheduleId
  obtain ⟨rows, hrows, hcells, _⟩ := h.movies.activeSeats_same
  have hlength : rows.length = request.seats.length := by
    rw [← List.length_map (f := BookingSeat.cell), hcells, h.places.length_eq]
  have hfew := h.capacity
  have hsome := h.nonempty
  rw [remaining, Schedule.totalCount_booked, Schedule.scheduleId_booked, hid, hrows,
    List.length_append, hlength, remaining]
  rw [hid] at hcapacity hactive ⊢
  omega

theorem mem_booked (h : TheaterBooked db next request schedule seatIds bookingId) :
    schedule.booked request.seats.length ∈ next.schedules.rows :=
  (Table.find_eq_some.mp h.find_same).1

/-- The rows afterwards: the booked schedule, and the others as they were. -/
theorem mem_cases (h : TheaterBooked db next request schedule seatIds bookingId)
    {row : Schedule} (hrow : row ∈ next.schedules.rows) :
    row = schedule.booked request.seats.length ∨
      row ∈ db.schedules.rows ∧ row.scheduleId ≠ request.showingId := by
  by_cases hid : row.scheduleId = request.showingId
  · have hfind := h.find_same
    rw [Table.find_eq_some.mpr ⟨hrow, hid⟩] at hfind
    exact .inl (Option.some.inj hfind)
  · exact .inr ⟨h.mem_other hrow hid, hid⟩

end TheaterBooked

/-- A refund gives back at least one seat of the schedule, and none of another. -/
structure GivesBack (db : Db) (movies : Ledger Int) (scheduleId : Int) : Prop where
  same : (movies.activeSeats scheduleId).length < (db.movies.activeSeats scheduleId).length
  other : ∀ other, other ≠ scheduleId → movies.activeSeats other = db.movies.activeSeats other

/-- The ACTIVE seats of a booking are seats of its schedule. -/
theorem Db.TheaterInv.showingId_eq {db : Db} (hinv : db.TheaterInv) {booking : Booking}
    (hmem : booking ∈ db.movies.bookings.rows) {scheduleId : Int} {seat : BookingSeat Int}
    (hseat : seat ∈ db.movies.activeSeats scheduleId) (hown : seat.bookingId = booking.bookingId) :
    booking.showingId = scheduleId := by
  have hfind : db.movies.bookings.find booking.bookingId = some booking :=
    Table.find_eq_some.mpr ⟨hmem, rfl⟩
  obtain ⟨owner, howner, _, hshowing⟩ := hinv.owned scheduleId seat hseat
  rw [hown, hfind] at howner
  obtain rfl := Option.some.inj howner
  exact hshowing

/-- A booking that is not cancelled is paid, and a paid one has an ACTIVE seat. -/
theorem Refundable.exists_active {db : Db} {userId bookingId : Int} {booking : Booking}
    (hrefundable : Refundable movieBook userId bookingId db booking)
    (hcoupling : db.movies.CouplingInv) :
    ∃ seat ∈ db.movies.seats.rows, seat.bookingId = bookingId ∧ seat.status = .active := by
  obtain ⟨hmem, rfl, _⟩ := findBooking_eq_some hrefundable.1
  have hpaid : booking.bookStatus = .paid := by
    refine (hcoupling.status booking hmem).resolve_right fun hcancel => ?_
    have hstatus := hrefundable.2
    rw [hcancel] at hstatus
    cases hstatus
  have hcoupled := hcoupling.coupled booking hmem
  have hseats : 0 < (db.movies.seatsOf booking.bookingId).length := by
    have := hcoupled.seatCount
    have := booking.chk_reg_count
    omega
  obtain ⟨seat, hseat⟩ := List.exists_mem_of_length_pos hseats
  obtain ⟨hrow, hown⟩ := List.mem_filter.mp hseat
  exact ⟨seat, hrow, of_decide_eq_true hown, hcoupled.paid hpaid seat hseat⟩

theorem Refundable.givesBack {db : Db} {userId bookingId : Int} {booking : Booking}
    {movies : Ledger Int} (hrefundable : Refundable movieBook userId bookingId db booking)
    (hrefunded : db.movies.Refunded movies bookingId) (htheater : db.TheaterInv)
    (hcoupling : db.movies.CouplingInv) : GivesBack db movies booking.showingId := by
  obtain ⟨seat, hrow, hown, hactive⟩ := hrefundable.exists_active hcoupling
  obtain ⟨hmem, hid, _⟩ := findBooking_eq_some hrefundable.1
  constructor
  · have hseat : seat ∈ db.movies.activeSeats seat.showingId :=
      Ledger.mem_activeSeats.mpr ⟨hrow, rfl, hactive⟩
    have hshowing := htheater.showingId_eq hmem hseat (hown.trans hid.symm)
    rw [hrefunded.activeSeats_eq, List.length_filter_lt_length_iff_exists]
    exact ⟨seat, hshowing ▸ hseat, by simp [hown]⟩
  · intro other hother
    rw [hrefunded.activeSeats_eq, List.filter_eq_self]
    intro seat hseat
    rw [decide_eq_true_iff]
    intro hown
    exact hother (htheater.showingId_eq hmem hseat (hown.trans hid.symm)).symm

/-! ## Transactions under the keys -/

theorem Transacted.spent {db next : Db} (h : Transacted db next) {item : MovieSchedule}
    (hspent : item.Spent db) : item.Spent next := by
  cases h with
  | same => exact hspent
  | concert hbooked =>
      rw [hbooked.frame]
      exact hspent
  | refundMovie _ => exact hspent
  | refundConcert _ => exact hspent
  | theater hbooked =>
      intro hclosed row hrow hid hstatus
      rcases hbooked.mem_cases hrow with rfl | ⟨hold, _⟩
      · obtain ⟨hmem, _⟩ := Table.find_eq_some.mp hbooked.found
        rw [Schedule.scheduleId_booked] at hid
        have hother : _ = SaleStatus.other :=
          ((Schedule.status_booked_cases _ _).resolve_left (by simp [hstatus])).symm.trans hstatus
        have hzero := hspent hclosed _ hmem hid hother
        -- there was nothing to book
        have hfew := hbooked.capacity
        have hsome := hbooked.nonempty
        omega
      · exact hspent hclosed row hold hid hstatus

/-- The same schedules, whatever has become of their counters. -/
theorem Transacted.mem_schedules {db next : Db} (h : Transacted db next) (hinv : db.TheaterInv)
    {row : Schedule} (hrow : row ∈ next.schedules.rows) :
    ∃ old ∈ db.schedules.rows, old.scheduleId = row.scheduleId := by
  have hfixed : row.fixed ∈ next.plan := List.mem_map_of_mem hrow
  rw [(h.theaterInv hinv).2] at hfixed
  obtain ⟨old, hold, hsame⟩ := List.mem_map.mp hfixed
  exact ⟨old, hold, congrArg Prod.fst hsame⟩

section Transactions

variable {catalog : Catalog} {s next : ReadState}

theorem ReadInv.transacted (hinv : ReadInv catalog s) (h : Transacted s.db next.db)
    (hpages : PagesOk catalog next) (hdetails : next.details = s.details) :
    ReadInv catalog next where
  theater := (h.theaterInv hinv.theater).1
  coupling := h.couplingInv hinv.coupling
  pages := hpages
  listed := hdetails ▸ hinv.listed
  spent := by
    rw [hdetails]
    exact fun movieId detail hdetail item hitem =>
      h.spent (hinv.spent movieId detail hdetail item hitem)

theorem Warmed.transacted (hwarm : Warmed catalog s) (hinv : ReadInv catalog s)
    (h : Transacted s.db next.db) (hdetails : next.details = s.details) :
    Warmed catalog next := by
  intro movieId hlisted
  obtain ⟨detail, hdetail, hitems⟩ := hwarm movieId hlisted
  refine ⟨detail, by rw [hdetails, hdetail], fun row hrow hmovie => ?_⟩
  obtain ⟨old, hold, hid⟩ := h.mem_schedules hinv.theater hrow
  rw [← hid] at hmovie ⊢
  exact hitems old hold hmovie

/-- A shown schedule is in the cached detail of its movie. -/
theorem Warmed.item (hwarm : Warmed catalog s) {row : Schedule} (hrow : row ∈ s.db.schedules.rows)
    (hbookable : catalog.BookableMovie (catalog.movieId row.scheduleId)) :
    ∃ detail, s.details (catalog.movieId row.scheduleId) = some detail ∧
      ∃ item ∈ detail.schedules, item.scheduleId = row.scheduleId := by
  obtain ⟨movie, hmovie, hlisted, _, hid⟩ := hbookable
  have hfound : (selectListedMovie catalog (catalog.movieId row.scheduleId)).isSome = true :=
    List.find?_isSome.mpr ⟨movie, hmovie, by simp [hid, hlisted]⟩
  obtain ⟨detail, hdetail, hitems⟩ := hwarm _ hfound
  exact ⟨detail, hdetail, hitems row hrow rfl⟩

/-- After a booking the cached details agree exactly if the theater pages do not
show the schedule then. -/
theorem TheaterBooked.detailsAgree_iff {db : Db} {request : Request} {schedule : Schedule}
    {seatIds : List Int} {bookingId : Int} (hinv : ReadInv catalog s) (hwarm : Warmed catalog s)
    (hagree : DetailsAgree catalog s.db s.details)
    (h : TheaterBooked s.db db request schedule seatIds bookingId) :
    DetailsAgree catalog db s.details ↔
      ¬ Shown catalog (schedule.booked request.seats.length) := by
  obtain ⟨hmem, hid⟩ := Table.find_eq_some.mp h.found
  constructor
  · intro hnext hshown
    obtain ⟨hstatus, hbookable⟩ := hshown
    have hmovie := hbookable
    rw [Schedule.scheduleId_booked] at hmovie
    obtain ⟨detail, hdetail, item, hitem, hsame⟩ := hwarm.item hmem hmovie
    obtain ⟨hcount, hreport⟩ := hnext _ detail hdetail item hitem _ h.mem_booked
      ⟨hstatus, hbookable⟩ ((Schedule.scheduleId_booked _ _).trans hsame.symm)
    by_cases hother : schedule.status = .other
    · -- the booking has closed it, and the item cannot have known
      have hfull : (schedule.booked request.seats.length).status = .closed :=
        (schedule.status_booked_cases _).resolve_right fun hsame => hstatus (hsame.trans hother)
      have hclosed : item.status = .closed := by
        rw [hreport, reportedStatus, hfull]
        simp
      have hzero := hinv.spent _ detail hdetail item hitem hclosed schedule hmem hsame.symm hother
      have hfew := h.capacity
      have hsome := h.nonempty
      omega
    · have hbefore := (hagree _ detail hdetail item hitem schedule hmem ⟨hother, hmovie⟩
        hsame.symm).1
      have hless := h.remaining_lt hinv.theater
      omega
  · intro hhidden movieId detail hdetail item hitem row hrow hshown hsame
    rcases h.mem_cases hrow with rfl | ⟨hold, hother⟩
    · exact absurd hshown hhidden
    · have hkept := h.remaining_other hother
      rw [hkept, reportedStatus_congr hkept]
      exact hagree movieId detail hdetail item hitem row hold hshown hsame

/-- After a refund they agree exactly if the theater pages do not show the
schedule. -/
theorem GivesBack.detailsAgree_iff {movies : Ledger Int} {scheduleId : Int}
    (hinv : ReadInv catalog s) (hwarm : Warmed catalog s)
    (hagree : DetailsAgree catalog s.db s.details) (h : GivesBack s.db movies scheduleId) :
    DetailsAgree catalog { s.db with movies := movies } s.details ↔
      ∀ row ∈ s.db.schedules.rows, row.scheduleId = scheduleId → ¬ Shown catalog row := by
  constructor
  · rintro hnext row hrow rfl hshown
    obtain ⟨detail, hdetail, item, hitem, hsame⟩ := hwarm.item hrow hshown.2
    have hbefore := (hagree _ detail hdetail item hitem row hrow hshown hsame.symm).1
    have hafter := (hnext _ detail hdetail item hitem row hrow hshown hsame.symm).1
    have hless := h.same
    have htotal := hinv.theater.length_activeSeats_le hrow
    rw [hbefore, remaining, remaining] at hafter
    dsimp only at hafter
    omega
  · intro hhidden movieId detail hdetail item hitem row hrow hshown hsame
    by_cases hother : row.scheduleId = scheduleId
    · exact absurd hshown (hhidden row hrow hother)
    · have hkept : remaining { s.db with movies := movies } row = remaining s.db row := by
        rw [remaining, h.other _ hother, remaining]
      rw [hkept, reportedStatus_congr hkept]
      exact hagree movieId detail hdetail item hitem row hrow hshown hsame

end Transactions

/-! ## Steps -/

/-- The step sells no seat, and gives none back, of a schedule that the theater
pages show. A booking counts if they show the schedule after it. -/
def ReadStep.Harmless (catalog : Catalog) (s : ReadState) : ReadStep → Prop
  | .book env codes body =>
      (processTheaterBooking env codes body s.db).1.isCommitted = true →
        ∀ request, decodeRequest "schedule_id" body = some request →
          ∀ row ∈ s.db.schedules.rows, row.scheduleId = request.showingId →
            ¬ Shown catalog (row.booked request.seats.length)
  | .refundMovie env userId bookingId =>
      (refundMovieBooking env userId bookingId s.db).1 = .done →
        ∀ booking ∈ s.db.movies.bookings.rows, booking.bookingId = bookingId →
          ∀ row ∈ s.db.schedules.rows, row.scheduleId = booking.showingId → ¬ Shown catalog row
  | _ => True

/-- What a step does: it fills keys, it sells seats of a schedule, it gives seats
back, or it gives back seats of a concert. -/
inductive ReadEffect (catalog : Catalog) (s : ReadState) (a : ReadStep) (next : ReadState) :
    Prop where
  | refreshed (refreshes : Refreshes catalog s next) (harmless : a.Harmless catalog s)
  | booked {request : Request} {schedule : Schedule} {seatIds : List Int} {bookingId : Int}
      (booked : TheaterBooked s.db next.db request schedule seatIds bookingId)
      (pages : PagesOk catalog next) (details_eq : next.details = s.details)
      (harmless_iff : a.Harmless catalog s ↔
        ¬ Shown catalog (schedule.booked request.seats.length))
  | refunded {userId bookingId : Int} {booking : Booking} {movies : Ledger Int}
      (refundable : Refundable movieBook userId bookingId s.db booking)
      (refunded : s.db.movies.Refunded movies bookingId)
      (db_eq : next.db = { s.db with movies := movies })
      (pages : PagesOk catalog next) (details_eq : next.details = s.details)
      (harmless_iff : a.Harmless catalog s ↔
        ∀ row ∈ s.db.schedules.rows, row.scheduleId = booking.showingId → ¬ Shown catalog row)
  | concert {concerts : Ledger Seat}
      (transacted : Transacted s.db { s.db with concerts := concerts })
      (next_eq : next = { s with db := { s.db with concerts := concerts } })
      (harmless : a.Harmless catalog s)

section Run

variable {catalog : Catalog} {s next : ReadState}

theorem ReadState.deleteKeys_nil (s : ReadState) : s.deleteKeys [] = s := rfl

theorem Refreshes.refl (hok : PagesOk catalog s) : Refreshes catalog s s :=
  ⟨rfl, hok, fun _ => .inl rfl⟩

/-- A booking commits and deletes the theater keys, or changes nothing. -/
theorem book_effect (hok : PagesOk catalog s) (env : Env) (codes : Nat → String) (body : Json) :
    ReadEffect catalog s (.book env codes body) (s.book env codes body).2 := by
  rcases book_cases env codes body with
    ⟨request, schedule, seatIds, bookingId, hdecode, hbooked, _, hcommitted⟩ | ⟨hsame, hnot⟩
  · have hdeleted : (s.book env codes body).2.bootstrap = none := by
      unfold ReadState.book
      dsimp only
      rw [if_pos hcommitted]
      rfl
    refine .booked hbooked ⟨hok.moviesList, fun payload hpayload => ?_⟩ rfl ?_
    · rw [hdeleted] at hpayload
      cases hpayload
    · obtain ⟨hmem, hid⟩ := Table.find_eq_some.mp hbooked.found
      constructor
      · intro hharmless
        exact hharmless hcommitted request hdecode schedule hmem hid
      · intro hhidden _ other hother row hrow hsame
        rw [hdecode] at hother
        obtain rfl := Option.some.inj hother
        obtain rfl := s.db.schedules.eq_of_pk_eq hrow hmem (hsame.trans hid.symm)
        exact hhidden
  · have hnext : (s.book env codes body).2 = s := by
      unfold ReadState.book
      dsimp only
      rw [if_neg (by simp [hnot]), ReadState.deleteKeys_nil, hsame]
    rw [hnext]
    refine .refreshed (.refl hok) fun hcommitted => ?_
    rw [hnot] at hcommitted
    cases hcommitted

/-- A refund cancels a booking and warms up the theater keys, or changes nothing. -/
theorem refundMovie_effect (hok : PagesOk catalog s) (env : Env) (userId bookingId : Int) :
    ReadEffect catalog s (.refundMovie env userId bookingId)
      (s.refundMovie catalog env userId bookingId).2 := by
  rcases refundMovieBooking_reply env userId bookingId s.db with
    ⟨hdone, booking, movies, hrefundable, hdb, hrefunded⟩ | ⟨hnot, hsame⟩
  · have hnext : (s.refundMovie catalog env userId bookingId).2 =
        { s with db := { s.db with movies := movies } }.warmupTheatersBookingCaches catalog := by
      unfold ReadState.refundMovie
      dsimp only
      rw [if_pos hdone, hdb]
    rw [hnext]
    refine .refunded hrefundable hrefunded rfl (warmupTheaters_pagesOk hok.moviesList) rfl ?_
    obtain ⟨hmem, hid, _⟩ := findBooking_eq_some hrefundable.1
    constructor
    · intro hharmless
      exact hharmless hdone booking hmem hid
    · intro hhidden _ other hother hsame
      obtain rfl : other = booking :=
        s.db.movies.bookings.eq_of_pk_eq hother hmem (hsame.trans hid.symm)
      exact hhidden
  · have hnext : (s.refundMovie catalog env userId bookingId).2 = s := by
      unfold ReadState.refundMovie
      dsimp only
      rw [if_neg hnot, hsame]
    rw [hnext]
    exact .refreshed (.refl hok) fun hdone => absurd hdone hnot

theorem refundConcert_effect (env : Env) (userId bookingId : Int) :
    ReadEffect catalog s (.refundConcert env userId bookingId)
      (s.refundConcert env userId bookingId).2 := by
  have hnext : (s.refundConcert env userId bookingId).2 =
      { s with db := (refundConcertBooking env userId bookingId s.db).2 } := rfl
  rcases refundConcertBooking_cases env userId bookingId s.db with
    hsame | ⟨_, _, _, concerts, hdb, hrefunded⟩
  · rw [hsame] at hnext
    exact @ReadEffect.concert _ _ _ _ s.db.concerts .same hnext trivial
  · rw [hdb] at hnext
    exact .concert (.refundConcert hrefunded) hnext trivial

theorem readMachine_effect (hok : PagesOk catalog s) {a : ReadStep}
    (h : (readMachine catalog).step s a = some next) : ReadEffect catalog s a next := by
  cases a with
  | warmup =>
      obtain rfl := Option.some.inj h
      exact .refreshed warmupAll_refreshes trivial
  | book env codes body =>
      obtain rfl := Option.some.inj h
      exact book_effect hok env codes body
  | refundMovie env userId bookingId =>
      obtain rfl := Option.some.inj h
      exact refundMovie_effect hok env userId bookingId
  | refundConcert env userId bookingId =>
      obtain rfl := Option.some.inj h
      exact refundConcert_effect env userId bookingId
  | getMovies =>
      obtain rfl := Option.some.inj h
      exact .refreshed (getMovies_refreshes hok) trivial
  | getMovieDetail movieId =>
      obtain rfl := Option.some.inj h
      exact .refreshed (getMovieDetail_refreshes hok movieId) trivial
  | getTheatersBootstrap =>
      obtain rfl := Option.some.inj h
      exact .refreshed (getTheatersBootstrap_refreshes hok) trivial
  | getTheaterDetail theaterId =>
      obtain rfl := Option.some.inj h
      exact .refreshed (getTheaterDetail_refreshes hok theaterId) trivial

theorem ReadInv.step (hinv : ReadInv catalog s) {a : ReadStep}
    (h : (readMachine catalog).step s a = some next) :
    ReadInv catalog next ∧ (Warmed catalog s → Warmed catalog next) := by
  have htransacted : Transacted s.db next.db → PagesOk catalog next → next.details = s.details →
      ReadInv catalog next ∧ (Warmed catalog s → Warmed catalog next) :=
    fun hdb hpages hdetails =>
      ⟨hinv.transacted hdb hpages hdetails, fun hwarm => hwarm.transacted hinv hdb hdetails⟩
  cases readMachine_effect hinv.pages h with
  | refreshed hrefreshes _ =>
      exact ⟨hinv.refreshed hrefreshes, fun hwarm => hwarm.refreshed hrefreshes⟩
  | booked hbooked hpages hdetails _ => exact htransacted (.theater hbooked) hpages hdetails
  | refunded _ hrefunded hdb hpages hdetails _ =>
      exact htransacted (hdb ▸ .refundMovie hrefunded) hpages hdetails
  | concert hdb hnext _ =>
      subst hnext
      exact htransacted hdb ⟨hinv.pages.moviesList, hinv.pages.bootstrap⟩ rfl

/-- The cached details stay right exactly if the step is harmless. -/
theorem detailsAgree_step (hinv : ReadInv catalog s) (hwarm : Warmed catalog s)
    (hagree : DetailsAgree catalog s.db s.details) {a : ReadStep}
    (h : (readMachine catalog).step s a = some next) :
    DetailsAgree catalog next.db next.details ↔ a.Harmless catalog s := by
  cases readMachine_effect hinv.pages h with
  | refreshed hrefreshes hharmless => exact iff_of_true (hrefreshes.agree hagree) hharmless
  | booked hbooked _ hdetails hharmless =>
      rw [hharmless, hdetails]
      exact hbooked.detailsAgree_iff hinv hwarm hagree
  | refunded hrefundable hrefunded hdb _ hdetails hharmless =>
      rw [hharmless, hdetails, hdb]
      have hback := hrefundable.givesBack hrefunded hinv.theater hinv.coupling.1
      exact hback.detailsAgree_iff hinv hwarm hagree
  | concert _ hnext hharmless =>
      subst hnext
      exact iff_of_true hagree hharmless

/-- Whatever has happened before, after a warmup everything is in order. -/
theorem run_warmup {db : Db} {history : List ReadStep} {warm : ReadState}
    (hempty : db.NoBookings)
    (hwarm : (readMachine catalog).run (.initial db) (history ++ [.warmup]) = some warm) :
    ReadInv catalog warm ∧ Warmed catalog warm ∧ DetailsAgree catalog warm.db warm.details := by
  obtain ⟨before, hbefore, hlast⟩ := (readMachine catalog).run_concat_eq_some.mp hwarm
  have hinv : ReadInv catalog before :=
    Machine.run_invariant (fun _ _ _ hs hstep => (ReadInv.step hs hstep).1)
      (readInv_initial hempty) hbefore
  obtain rfl := Option.some.inj hlast
  exact ⟨hinv.refreshed warmupAll_refreshes, warmupAll_warmed, hinv.warmupAll_agree⟩

/-- In a run of operations that do not overlap, the movie page and the theater
pages agree at all times after a warmup exactly if nothing is sold, and nothing
given back, of a schedule that the theater pages show. -/
theorem reports_agree_iff {db : Db} {history steps : List ReadStep} {warm final : ReadState}
    (hempty : db.NoBookings)
    (hwarm : (readMachine catalog).run (.initial db) (history ++ [.warmup]) = some warm)
    (hrun : (readMachine catalog).run warm steps = some final) :
    (∀ before after middle, steps = before ++ after →
        (readMachine catalog).run warm before = some middle → ReportsAgree catalog middle) ↔
      (readMachine catalog).Along (fun s a => a.Harmless catalog s) warm steps := by
  have hstep : ∀ s a next,
      (ReadInv catalog s ∧ Warmed catalog s ∧ DetailsAgree catalog s.db s.details) →
        (readMachine catalog).step s a = some next →
          ((ReadInv catalog next ∧ Warmed catalog next ∧
            DetailsAgree catalog next.db next.details) ↔ a.Harmless catalog s) := by
    rintro s a next ⟨hinv, hwarmed, hagree⟩ h
    rw [← detailsAgree_step hinv hwarmed hagree h]
    obtain ⟨hinvNext, hwarmedNext⟩ := hinv.step h
    exact ⟨fun hall => hall.2.2, fun hnext => ⟨hinvNext, hwarmedNext hwarmed, hnext⟩⟩
  rw [Machine.along_iff_invariant hstep (run_warmup hempty hwarm) hrun]
  refine forall₅_congr fun before after middle _ hmiddle => ?_
  -- the rest of the invariant holds in any case
  obtain ⟨hinvWarm, hwarmedWarm, _⟩ := run_warmup hempty hwarm
  have hinv : ReadInv catalog middle ∧ Warmed catalog middle := by
    have hkept : ∀ s a next, (ReadInv catalog s ∧ Warmed catalog s) →
        (readMachine catalog).step s a = some next →
          ReadInv catalog next ∧ Warmed catalog next := by
      rintro s a next ⟨hs, hwarmed⟩ h
      exact (hs.step h).imp_right fun hnext => hnext hwarmed
    exact Machine.run_invariant hkept ⟨hinvWarm, hwarmedWarm⟩ hmiddle
  rw [reportsAgree_iff hinv.1.pages]
  exact ⟨fun hagree => ⟨hinv.1, hinv.2, hagree⟩, fun hall => hall.2.2⟩

end Run

/-! ## One seat -/

/-- The only seat is sold after a warmup. The movie page goes on reporting it as
left, and the theater pages report the schedule as CLOSED. -/
theorem sold_seat_reported_left :
    oneSeatDb.NoBookings ∧ ∃ warm final,
      (readMachine oneSeatCatalog).run (.initial oneSeatDb) ([] ++ [.warmup]) = some warm ∧
      (readMachine oneSeatCatalog).run warm
        [.book .quiet (fun _ => "AA000001") (theaterBody "first" [.str "1-1"])] = some final ∧
      (∃ detail, (final.getMovieDetail oneSeatCatalog 1).1 = some detail ∧
        ∃ item ∈ detail.schedules,
          item.scheduleId = 1 ∧ item.remainCount = 1 ∧ item.status = .opened) ∧
      (∃ payload ∈ (final.getTheatersBootstrap oneSeatCatalog).1.schedules,
        payload.scheduleId = 1 ∧ payload.remainCount = 0 ∧ payload.status = .closed) ∧
      ¬ ReportsAgree oneSeatCatalog final := by
  obtain ⟨warm, hwarm⟩ :=
    readMachine_total oneSeatCatalog (.initial oneSeatDb) ([] ++ [.warmup])
  obtain ⟨final, hrun⟩ := readMachine_total oneSeatCatalog warm
    [.book .quiet (fun _ => "AA000001") (theaterBody "first" [.str "1-1"])]
  have hreports : ((readMachine oneSeatCatalog).run (.initial oneSeatDb) (([] ++ [.warmup]) ++
      [.book .quiet (fun _ => "AA000001") (theaterBody "first" [.str "1-1"])])).map (fun s =>
        ((s.getMovieDetail oneSeatCatalog 1).1.map fun detail => detail.schedules.map fun item =>
          (item.scheduleId, item.remainCount, item.status),
        (s.getTheatersBootstrap oneSeatCatalog).1.schedules.map fun payload =>
          (payload.scheduleId, payload.remainCount, payload.status))) =
      some (some [(1, 1, .opened)], [(1, 0, .closed)]) := by decide +kernel
  rw [((readMachine oneSeatCatalog).run_append_eq_some).mpr ⟨warm, hwarm, hrun⟩,
    Option.map_some, Option.some.injEq, Prod.mk.injEq] at hreports
  obtain ⟨hdetail, hbootstrap⟩ := hreports
  obtain ⟨detail, hdetail, hitems⟩ := Option.map_eq_some_iff.mp hdetail
  obtain ⟨item, hitem, hreport⟩ := List.mem_map.mp (hitems ▸ List.mem_singleton_self _)
  obtain ⟨payload, hpayload, hreport'⟩ :=
    List.mem_map.mp (hbootstrap ▸ List.mem_singleton_self _)
  simp only [Prod.mk.injEq] at hreport hreport'
  refine ⟨⟨rfl, rfl⟩, warm, final, hwarm, hrun, ⟨detail, hdetail, item, hitem, hreport⟩,
    ⟨payload, hpayload, hreport'⟩, fun hagree => ?_⟩
  have hsame := (hagree 1 detail hdetail item hitem payload hpayload
    (hreport'.1.trans hreport.1.symm)).1
  omega

/-- As long as the pages are only read, they agree. -/
theorem reports_agree_reads :
    ∃ warm, (readMachine oneSeatCatalog).run (.initial oneSeatDb) ([] ++ [.warmup]) = some warm ∧
      ∀ before after middle,
        [.getMovieDetail 1, .getTheatersBootstrap, .getTheaterDetail 1] = before ++ after →
          (readMachine oneSeatCatalog).run warm before = some middle →
            ReportsAgree oneSeatCatalog middle := by
  obtain ⟨warm, hwarm⟩ :=
    readMachine_total oneSeatCatalog (.initial oneSeatDb) ([] ++ [.warmup])
  obtain ⟨final, hrun⟩ := readMachine_total oneSeatCatalog warm
    [.getMovieDetail 1, .getTheatersBootstrap, .getTheaterDetail 1]
  refine ⟨warm, hwarm, (reports_agree_iff ⟨rfl, rfl⟩ hwarm hrun).mpr ?_⟩
  exact ⟨trivial, fun _ _ => ⟨trivial, fun _ _ => ⟨trivial, fun _ _ => trivial⟩⟩⟩

end Ticketing
