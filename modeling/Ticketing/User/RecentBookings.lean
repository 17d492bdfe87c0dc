import Ticketing.User.Pages
import Ticketing.User.Refund

/-!
# Recent bookings

The box of recent bookings has an endpoint of its own, which leaves out what is cancelled and
cuts after five rows. It shows what the list of all bookings shows, cut in the same way.
-/

namespace Ticketing

open Foundation Python

structure RecentEntry where
  kind : BookingKind
  bookingId : Int
  bookingDate : Option Nat
  movieTitle : String
  regionName : String
deriving DecidableEq

/-- 400 with the message `invalid input`, or the bookings. -/
inductive RecentReply where
  | invalid
  | bookings (entries : List RecentEntry)

/-- The UNION ALL of `get_recent_bookings`. -/
def BookingTables.recentRows (tables : BookingTables) (userId : Int) : List BookingRow :=
  ((tables.movieBookings userId).filter fun b => !b.bookStatus.isCancelled).flatMap
      tables.movieRows ++
    ((tables.concertBookings userId).filter fun cb => !cb.bookStatus.isCancelled).flatMap
      tables.concertRows

def recentEntry (row : BookingRow) : RecentEntry where
  kind := row.kind
  bookingId := row.bookingId
  bookingDate := row.bookingDate
  movieTitle := row.movieTitle
  regionName := deriveRegionName (String.ofList (stripStr row.theaterAddress.toList))

/-- `get_recent_bookings`, where `sorted` are the rows of the UNION in order. -/
def getRecentBookings (sorted : List BookingRow) (userId : Option String) : RecentReply :=
  match userIdOf userId with
  | none => .invalid
  | some _ => .bookings ((sorted.take 5).map recentEntry)

/-- What of an entry of the list of all bookings the box shows. -/
def BookingEntry.recent (entry : BookingEntry) : RecentEntry :=
  ⟨entry.kind, entry.bookingId, entry.bookingDate, entry.movieTitle, entry.regionName⟩

section Recent

variable {tables : BookingTables} {userId : String} {user : Int} {row : BookingRow} {b : Booking}

theorem recentRows_eq_filter :
    tables.recentRows user = (tables.unionRows user).filter fun row =>
      !row.bookStatus.isCancelled := by
  have hsame : ∀ {rows : Booking → List BookingRow},
      (∀ b, ∀ row ∈ rows b, row.bookStatus = b.bookStatus) → ∀ bookings : List Booking,
        (bookings.filter fun b => !b.bookStatus.isCancelled).flatMap rows =
          (bookings.flatMap rows).filter fun row => !row.bookStatus.isCancelled := by
    intro rows hstatus bookings
    induction bookings with
    | nil => rfl
    | cons b rest ih =>
        have hall : (rows b).filter (fun row => !row.bookStatus.isCancelled) =
            if !b.bookStatus.isCancelled then rows b else [] := by
          split
          next hactive =>
            exact List.filter_eq_self.mpr fun row hrow => by rwa [hstatus b row hrow]
          next hcancelled =>
            exact List.filter_eq_nil_iff.mpr fun row hrow => by rwa [hstatus b row hrow]
        rw [List.flatMap_cons, List.filter_append, hall, ← ih, List.filter_cons]
        split
        · rw [List.flatMap_cons]
        · rfl
  rw [BookingTables.recentRows, BookingTables.unionRows, List.filter_append,
    hsame fun b row hrow => (mem_movieRows hrow).2.2,
    hsame fun b row hrow => (mem_concertRows hrow).2.2]

/-- The box shows the first five bookings of the list that are not cancelled: those of every
order that the list may have, and no others. -/
theorem recent_bookings_iff (huser : userIdOf (some userId) = some user)
    (entries : List RecentEntry) :
    (∃ sorted, SortedBy BookingRow.sortKey (tables.recentRows user) sorted ∧
      getRecentBookings sorted (some userId) = .bookings entries) ↔
    ∃ sorted, SortedBy BookingRow.sortKey (tables.unionRows user) sorted ∧
      entries = (((sorted.map (bookingEntry tables)).filter fun entry =>
        !entry.bookStatus.isCancelled).take 5).map BookingEntry.recent := by
  have hshown : ∀ sorted : List BookingRow,
      (((sorted.map (bookingEntry tables)).filter fun entry =>
        !entry.bookStatus.isCancelled).take 5).map BookingEntry.recent =
      ((sorted.filter fun row => !row.bookStatus.isCancelled).take 5).map recentEntry := by
    intro sorted
    have hrecent : BookingEntry.recent ∘ bookingEntry tables = recentEntry := by
      funext row
      simp only [Function.comp_apply, BookingEntry.recent, bookingEntry, recentEntry]
    have hactive : (fun entry : BookingEntry => !entry.bookStatus.isCancelled) ∘
        bookingEntry tables = fun row => !row.bookStatus.isCancelled := by
      funext row
      rfl
    rw [List.filter_map, ← List.map_take, List.map_map, hrecent, hactive]
  rw [recentRows_eq_filter]
  constructor
  · rintro ⟨sorted, hsorted, hreply⟩
    obtain ⟨whole, hwhole, rfl⟩ := hsorted.exists_whole
    refine ⟨whole, hwhole, ?_⟩
    rw [hshown]
    simp only [getRecentBookings, huser] at hreply
    exact (RecentReply.bookings.inj hreply).symm
  · rintro ⟨sorted, hsorted, rfl⟩
    refine ⟨_, hsorted.filter _, ?_⟩
    simp only [getRecentBookings, huser, hshown]

end Recent

theorem recent_bookings_two : ∃ sorted,
    SortedBy BookingRow.sortKey (samePaymentTime.recentRows 7) sorted ∧
      getRecentBookings sorted (some "7") = .bookings
        [⟨.concert, 1, some 1000, "콘서트", "서울"⟩, ⟨.concert, 2, some 1000, "콘서트", "서울"⟩] :=
  (recent_bookings_iff (by decide) _).mpr
    ⟨samePaymentTime.unionRows 7, ⟨.refl _, by decide⟩, by decide⟩

end Ticketing
