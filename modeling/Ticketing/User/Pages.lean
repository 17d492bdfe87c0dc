import Ticketing.User.Bookings

/-!
# Paging through the bookings

Foreign keys and the unique key of the payments make the list a permutation of the
user's bookings. What the pages lose or repeat is up to the payments of the same
second.
-/

namespace Ticketing

open Foundation Python

section Rows

variable {tables : BookingTables} {user : Int}

def BookingRow.ident (row : BookingRow) : BookingKind × Int := (row.kind, row.bookingId)

def BookingEntry.ident (entry : BookingEntry) : BookingKind × Int := (entry.kind, entry.bookingId)

/-- The bookings of the user. -/
def BookingTables.bookingsOf (tables : BookingTables) (user : Int) : List (BookingKind × Int) :=
  (tables.movieBookings user).map (fun b => (.movie, b.bookingId)) ++
    (tables.concertBookings user).map fun cb => (.concert, cb.bookingId)

/-- A booking has one payment or none, so the LEFT JOIN finds one row for it. -/
theorem leftJoin_payment (payments : Table paymentIx) (bookingId : Int) :
    ∃ payment, leftJoin (payments.rows.filter (·.bookingId = bookingId)) = [payment] := by
  cases hmatching : payments.rows.filter (·.bookingId = bookingId) with
  | nil => exact ⟨none, rfl⟩
  | cons first rest =>
      have hnodup : (first :: rest).Nodup :=
        hmatching ▸ (payments.pk_nodup.of_map _).filter _
      have hkey : ∀ row ∈ first :: rest, row ∈ payments.rows ∧ row.bookingId = bookingId := by
        intro row hrow
        rw [← hmatching, List.mem_filter, decide_eq_true_eq] at hrow
        exact hrow
      cases rest with
      | nil => exact ⟨some first, rfl⟩
      | cons second rest =>
          obtain ⟨hfirst, hfirstId⟩ := hkey first (by simp)
          obtain ⟨hsecond, hsecondId⟩ := hkey second (by simp)
          have hsame : first = second := payments.eq_of_unique_eq hfirst hsecond
            (congrArg some hfirstId) (congrArg some hsecondId)
          simp [hsame] at hnodup

theorem movieRows_ident {b : Booking} (hb : b ∈ tables.movies.bookings.rows) :
    (tables.movieRows b).map BookingRow.ident = [(.movie, b.bookingId)] := by
  obtain ⟨s, hs⟩ := Option.isSome_iff_exists.mp (tables.fk_booking_schedule b hb)
  obtain ⟨title, htitle⟩ := Option.isSome_iff_exists.mp (tables.fk_schedules_movie _ s hs)
  obtain ⟨h, hh⟩ := Option.isSome_iff_exists.mp (tables.fk_schedules_hall _ s hs)
  obtain ⟨address, haddress⟩ := Option.isSome_iff_exists.mp (tables.fk_halls_theater _ h hh)
  obtain ⟨payment, hpayment⟩ := leftJoin_payment tables.movies.payments b.bookingId
  simp [BookingTables.movieRows, hs, htitle, hh, haddress, hpayment, BookingRow.ident]

theorem concertRows_ident {cb : Booking} (hcb : cb ∈ tables.concerts.bookings.rows) :
    (tables.concertRows cb).map BookingRow.ident = [(.concert, cb.bookingId)] := by
  obtain ⟨cs, hcs⟩ := Option.isSome_iff_exists.mp (tables.fk_concert_booking_show cb hcb)
  obtain ⟨title, htitle⟩ := Option.isSome_iff_exists.mp (tables.fk_concert_shows_concert _ cs hcs)
  obtain ⟨payment, hpayment⟩ := leftJoin_payment tables.concerts.payments cb.bookingId
  simp [BookingTables.concertRows, hcs, htitle, hpayment, BookingRow.ident]

theorem mem_movieRows {row : BookingRow} {b : Booking} (h : row ∈ tables.movieRows b) :
    row.kind = .movie ∧ row.bookingId = b.bookingId ∧ row.bookStatus = b.bookStatus := by
  obtain ⟨joined, hjoined, hrow⟩ := List.mem_flatMap.mp h
  obtain ⟨_, _, rfl⟩ := List.mem_map.mp hrow
  simp only [Option.mem_toList, Option.bind_eq_bind, Option.bind_eq_some_iff] at hjoined
  obtain ⟨_, _, _, _, _, _, _, _, hjoined⟩ := hjoined
  obtain rfl := Option.some.inj hjoined
  exact ⟨rfl, rfl, rfl⟩

theorem mem_concertRows {row : BookingRow} {b : Booking} (h : row ∈ tables.concertRows b) :
    row.kind = .concert ∧ row.bookingId = b.bookingId ∧ row.bookStatus = b.bookStatus := by
  obtain ⟨joined, hjoined, hrow⟩ := List.mem_flatMap.mp h
  obtain ⟨_, _, rfl⟩ := List.mem_map.mp hrow
  simp only [Option.mem_toList, Option.bind_eq_bind, Option.bind_eq_some_iff] at hjoined
  obtain ⟨_, _, _, _, hjoined⟩ := hjoined
  obtain rfl := Option.some.inj hjoined
  exact ⟨rfl, rfl, rfl⟩

/-- The UNION has one row for each booking of the user. -/
theorem unionRows_ident :
    (tables.unionRows user).map BookingRow.ident = tables.bookingsOf user := by
  have hsingle : ∀ {bookings : List Booking} {rows : Booking → List BookingRow}
      {ident : Booking → BookingKind × Int},
      (∀ b ∈ bookings, (rows b).map BookingRow.ident = [ident b]) →
        (bookings.flatMap rows).map BookingRow.ident = bookings.map ident := by
    intro bookings rows ident h
    rw [List.map_flatMap, List.flatMap_congr h, List.map_eq_flatMap]
  rw [BookingTables.unionRows, List.map_append, BookingTables.bookingsOf]
  congr 1
  · exact hsingle fun b hb => movieRows_ident (List.mem_of_mem_filter hb)
  · exact hsingle fun cb hcb => concertRows_ident (List.mem_of_mem_filter hcb)

theorem bookingsOf_nodup : (tables.bookingsOf user).Nodup := by
  have hkind : ∀ (bookings : Table bookingIx) (kind : BookingKind),
      ((bookings.rows.filter fun b => b.userId = user).map fun b => (kind, b.bookingId)).Nodup := by
    intro bookings kind
    have hids : ((bookings.rows.filter fun b => b.userId = user).map Booking.bookingId).Nodup :=
      bookings.pk_nodup.sublist (List.filter_sublist.map _)
    have hpairs := hids.map (f := fun id => (kind, id)) fun _ _ h => (Prod.ext_iff.mp h).2
    rwa [List.map_map] at hpairs
  refine List.nodup_append'.mpr ⟨hkind _ _, hkind _ _, ?_⟩
  intro ident hmovie hconcert
  obtain ⟨_, _, rfl⟩ := List.mem_map.mp hmovie
  obtain ⟨_, _, h⟩ := List.mem_map.mp hconcert
  cases h

theorem unionRows_length : (tables.unionRows user).length = tables.totalCount user := by
  have h : ((tables.unionRows user).map BookingRow.ident).length =
      (tables.bookingsOf user).length := by rw [unionRows_ident]
  simpa [BookingTables.bookingsOf, BookingTables.totalCount] using h

end Rows

/-! ## Pages -/

theorem pageSizeOf_pos (pageSize : Option String) : 0 < pageSizeOf pageSize := by
  unfold pageSizeOf
  split
  next n _ => omega
  next => decide

theorem pageSizeOf_le (pageSize : Option String) : pageSizeOf pageSize ≤ 50 := by
  unfold pageSizeOf
  split
  next n _ => omega
  next => decide

/-- The pages hold the whole list. -/
theorem le_totalPages_mul (total : Nat) {size : Nat} (hsize : 0 < size) :
    total ≤ totalPages total size * size := by
  unfold totalPages
  split
  next =>
    have := Nat.lt_div_mul_add (a := total + size - 1) hsize
    omega
  next hzero => omega

def BookingsReply.bookings : BookingsReply → List BookingEntry
  | invalid => []
  | page content => content.bookings

/-- The request for the page `index + 1`. -/
theorem getBookings_listed {tables : BookingTables} {sorted : List BookingRow} {user : Int}
    {userId page pageSize : Option String} {index : Nat} (huser : userIdOf userId = some user)
    (hpage : pageNumber page = index + 1) :
    (getBookings tables sorted userId page pageSize).bookings.map BookingEntry.ident =
      (pageOf (pageSizeOf pageSize) index sorted).map BookingRow.ident := by
  simp only [getBookings, huser, hpage, BookingsReply.bookings, Nat.add_sub_cancel, List.map_map]
  rfl

theorem pageNumber_of_int {text : String} {page : Nat} (hpos : 1 ≤ page)
    (htext : intOfStr text.toList = some (page : Int)) : pageNumber (some text) = page := by
  simp only [pageNumber, Option.getD_some, htext]
  omega

/-- The pages from the first to the last, requested one by one, list every booking of
the user once, whatever the order of payments of one second in each request, exactly
if no page ends between two of them. -/
theorem bookings_paged_iff {tables : BookingTables} {userId : String} {user : Int}
    (huser : userIdOf (some userId) = some user) (pageSize : Option String) {page : Nat → String}
    (hpage : ∀ n, 1 ≤ n → n ≤ totalPages (tables.totalCount user) (pageSizeOf pageSize) →
      intOfStr (page n).toList = some (n : Int)) :
    (∀ sorted : Nat → List BookingRow,
      (∀ n, SortedBy BookingRow.sortKey (tables.unionRows user) (sorted n)) →
        ((List.range' 1 (totalPages (tables.totalCount user) (pageSizeOf pageSize))).flatMap
          fun n => (getBookings tables (sorted n) (some userId) (some (page n))
            pageSize).bookings.map BookingEntry.ident).Perm (tables.bookingsOf user)) ↔
      TiesTogether BookingRow.sortKey (pageSizeOf pageSize) (tables.unionRows user) := by
  have hsize := pageSizeOf_pos pageSize
  have hcover := le_totalPages_mul (tables.totalCount user) hsize
  generalize hcount : totalPages (tables.totalCount user) (pageSizeOf pageSize) = count
    at hpage hcover
  have hlist : ∀ sorted : Nat → List BookingRow,
      ((List.range' 1 count).flatMap fun n =>
        (getBookings tables (sorted n) (some userId) (some (page n)) pageSize).bookings.map
          BookingEntry.ident) =
        (pages (pageSizeOf pageSize) count fun index => sorted (index + 1)).map
          BookingRow.ident := by
    intro sorted
    rw [List.range'_eq_map_range, List.flatMap_map, pages, List.map_flatMap]
    refine List.flatMap_congr fun index hindex => ?_
    rw [Nat.add_comm 1 index]
    refine getBookings_listed huser (pageNumber_of_int (Nat.le_add_left 1 index) ?_)
    exact hpage (index + 1) (Nat.le_add_left 1 index) (List.mem_range.mp hindex)
  rw [← pages_perm_iff hsize (by rw [unionRows_length]; exact hcover)
    (by rw [unionRows_ident]; exact bookingsOf_nodup), unionRows_ident]
  constructor
  · intro hall results hresults
    have h := hall (fun n => results (n - 1)) fun n => hresults (n - 1)
    rw [hlist] at h
    simpa using h
  · intro hall sorted hsorted
    rw [hlist]
    exact hall _ fun index => hsorted (index + 1)

/-! ## Two payments in one second -/

/-- User 7 has two bookings of one show, and both are paid at the same time. -/
def samePaymentTime : BookingTables where
  movies := .empty
  concerts :=
    { bookings := ⟨[⟨1, some "CAA000001", 7, 3, 1, .paid, Int.one_pos⟩,
        ⟨2, some "CAA000002", 7, 3, 1, .paid, Int.one_pos⟩], by decide, by decide⟩
      seats := .empty
      payments := ⟨[⟨1, 1, .y⟩, ⟨2, 2, .y⟩], by decide, by decide⟩ }
  moviePaidAt := fun _ => none
  concertPaidAt := fun _ => some 1000
  hallSeats := .empty
  schedules := fun _ => none
  movieTitles := fun _ => none
  halls := fun _ => none
  theaterAddresses := fun _ => none
  concertShows := fun _ => some ⟨1, ⟨⟨2026, 1, 1⟩, 20, 0, 0⟩, "홀", "서울 송파구"⟩
  concertTitles := fun _ => some "콘서트"
  fk_booking_schedule := nofun
  fk_schedules_movie := nofun
  fk_schedules_hall := nofun
  fk_halls_theater := nofun
  fk_concert_booking_show := fun _ _ => rfl
  fk_concert_shows_concert := fun _ _ _ => rfl

/-- With two bookings on a page, both are listed in either order. -/
theorem bookings_paged_together :
    TiesTogether BookingRow.sortKey (pageSizeOf (some "2")) (samePaymentTime.unionRows 7) ∧
    ∀ sorted : Nat → List BookingRow,
      (∀ n, SortedBy BookingRow.sortKey (samePaymentTime.unionRows 7) (sorted n)) →
        ((List.range' 1 (totalPages (samePaymentTime.totalCount 7) (pageSizeOf (some "2")))).flatMap
          fun n => (getBookings samePaymentTime (sorted n) (some "7") (some "1")
            (some "2")).bookings.map BookingEntry.ident).Perm (samePaymentTime.bookingsOf 7) := by
  have hties : TiesTogether BookingRow.sortKey (pageSizeOf (some "2"))
      (samePaymentTime.unionRows 7) := by
    intro row hrow index
    have hsize : pageSizeOf (some "2") = 2 := by decide
    have hlength : upTo BookingRow.sortKey (samePaymentTime.unionRows 7) row ≤ 2 :=
      List.countP_le_length
    rw [hsize]
    omega
  refine ⟨hties, (bookings_paged_iff (by decide) (some "2") fun n hlow hhigh => ?_).mpr hties⟩
  obtain rfl : n = 1 := Nat.le_antisymm hhigh hlow
  decide

/-- With one booking on a page, the second page may repeat the first one. -/
theorem same_payment_time_repeated : ∃ sorted : Nat → List BookingRow,
    (∀ n, SortedBy BookingRow.sortKey (samePaymentTime.unionRows 7) (sorted n)) ∧
    totalPages (samePaymentTime.totalCount 7) (pageSizeOf (some "1")) = 2 ∧
    (List.range' 1 2).flatMap (fun n =>
      (getBookings samePaymentTime (sorted n) (some "7") (some (toString n))
        (some "1")).bookings.map BookingEntry.ident) = [(.concert, 1), (.concert, 1)] ∧
    samePaymentTime.bookingsOf 7 = [(.concert, 1), (.concert, 2)] ∧
    ¬ [(BookingKind.concert, (1 : Int)), (.concert, 1)].Perm [(.concert, 1), (.concert, 2)] := by
  let rows := samePaymentTime.unionRows 7
  have hrows : SortedBy BookingRow.sortKey rows rows := ⟨.refl _, by decide⟩
  have hreverse : SortedBy BookingRow.sortKey rows rows.reverse :=
    ⟨List.reverse_perm rows, by decide⟩
  refine ⟨fun n => if n = 1 then rows else rows.reverse, fun n => ?_, by decide,
    by decide, by decide, by decide⟩
  by_cases hn : n = 1
  · simpa only [if_pos hn] using hrows
  · simpa only [if_neg hn] using hreverse

end Ticketing
