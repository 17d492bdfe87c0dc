import Ticketing.User.HistoryPage
import Ticketing.User.Pages

/-!
# What becomes of bookings

The worker adds bookings and refunds cancel them. None is ever removed or given to another
user, and none that is cancelled is paid again; so a list of bookings goes stale in one
direction only.
-/

namespace Ticketing

open Foundation Python

/-! ## Ledgers -/

/-- What a transaction makes of a ledger: nothing, one more booking, or a refund. -/
def Ledger.Written {Cell : Type} [DecidableEq Cell] (ledger next : Ledger Cell) : Prop :=
  next = ledger ∨
    (∃ userId showingId cells bookingId, 0 < bookingId ∧
      ledger.Booked next userId showingId cells bookingId) ∨
    ∃ bookingId, ledger.Refunded next bookingId

/-- A later row of the same booking. -/
structure Booking.Becomes (b later : Booking) : Prop where
  bookingId : later.bookingId = b.bookingId
  userId : later.userId = b.userId
  isCancelled : b.bookStatus.isCancelled = true → later.bookStatus.isCancelled = true

section Ledger

variable {Cell : Type} [DecidableEq Cell] {ledger next : Ledger Cell} {b : Booking}

theorem Booking.becomes_cancelled (b : Booking) : b.Becomes b.cancelled := ⟨rfl, rfl, fun _ => rfl⟩

theorem Booking.Becomes.refl (b : Booking) : b.Becomes b := ⟨rfl, rfl, id⟩

theorem Booking.Becomes.trans {later last : Booking} (h : b.Becomes later)
    (h' : later.Becomes last) : b.Becomes last :=
  ⟨h'.bookingId.trans h.bookingId, h'.userId.trans h.userId,
    fun hcancelled => h'.isCancelled (h.isCancelled hcancelled)⟩

theorem Ledger.Refunded.becomes {bookingId : Int} (h : ledger.Refunded next bookingId)
    (hb : b ∈ ledger.bookings.rows) : ∃ later ∈ next.bookings.rows, b.Becomes later := by
  rw [h.bookings]
  refine ⟨_, List.mem_map.mpr ⟨b, hb, rfl⟩, ?_⟩
  split
  · exact b.becomes_cancelled
  · exact .refl b

theorem Ledger.Written.becomes (h : ledger.Written next) (hb : b ∈ ledger.bookings.rows) :
    ∃ later ∈ next.bookings.rows, b.Becomes later := by
  rcases h with rfl | ⟨_, _, _, _, _, hbooked⟩ | ⟨_, hrefunded⟩
  · exact ⟨b, hb, .refl b⟩
  · obtain ⟨_, _, hrows⟩ := hbooked.bookings
    exact ⟨b, hrows ▸ List.mem_append_left _ hb, .refl b⟩
  · exact hrefunded.becomes hb

theorem Ledger.Written.positive (h : ledger.Written next)
    (hpos : ∀ b ∈ ledger.bookings.rows, 0 < b.bookingId) :
    ∀ b ∈ next.bookings.rows, 0 < b.bookingId := by
  intro b hb
  rcases h with rfl | ⟨_, _, _, _, hnew, hbooked⟩ | ⟨_, hrefunded⟩
  · exact hpos b hb
  · obtain ⟨_, _, hrows⟩ := hbooked.bookings
    rw [hrows] at hb
    rcases List.mem_append.mp hb with hold | hadded
    · exact hpos b hold
    · rw [List.mem_singleton.mp hadded]
      exact hnew
  · rw [hrefunded.bookings] at hb
    obtain ⟨old, hold, rfl⟩ := List.mem_map.mp hb
    have := hpos old hold
    split <;> exact this

end Ledger

/-! ## The database -/

namespace BookingWorld

/-- What the services write in one transaction each. -/
structure Written (world next : BookingWorld) : Prop where
  movies : world.db.movies.Written next.db.movies
  concerts : world.db.concerts.Written next.db.concerts

/-- Every booking is still there. -/
def Kept (world later : BookingWorld) : Prop :=
  ∀ kind : BookingKind, ∀ b ∈ kind.bookings world.db, ∃ b' ∈ kind.bookings later.db, b.Becomes b'

variable {world later last : BookingWorld} {user : Int}

theorem Kept.refl (world : BookingWorld) : world.Kept world := fun _ b hb => ⟨b, hb, .refl b⟩

theorem Kept.trans (h : world.Kept later) (h' : later.Kept last) : world.Kept last := by
  intro kind b hb
  obtain ⟨b', hb', hlater⟩ := h kind b hb
  obtain ⟨b'', hb'', hlast⟩ := h' kind b' hb'
  exact ⟨b'', hb'', hlater.trans hlast⟩

theorem Written.kept (h : world.Written later) : world.Kept later := by
  rintro (_ | _) b hb
  · exact h.movies.becomes hb
  · exact h.concerts.becomes hb

/-- A refund writes what others can see. -/
theorem written_refund (env : Env) (payload : Json) (world : BookingWorld) :
    world.Written (world.refund env payload).2 := by
  rcases refundBooking_cases env payload world.db with hsame | ⟨kind, bookingId, hcancels⟩
  · exact ⟨.inl (congrArg Db.movies hsame), .inl (congrArg Db.concerts hsame)⟩
  · cases kind with
    | movie =>
        obtain ⟨movies, hnext, hrefunded⟩ := hcancels
        have hmovies := congrArg Db.movies hnext
        have hconcerts := congrArg Db.concerts hnext
        exact ⟨.inr (.inr ⟨bookingId, hmovies ▸ hrefunded⟩), .inl hconcerts⟩
    | concert =>
        obtain ⟨concerts, hnext, hrefunded⟩ := hcancels
        have hmovies := congrArg Db.movies hnext
        have hconcerts := congrArg Db.concerts hnext
        exact ⟨.inl hmovies, .inr (.inr ⟨bookingId, hconcerts ▸ hrefunded⟩)⟩

theorem mem_bookingsOf {kind : BookingKind} {bookingId : Int} :
    (kind, bookingId) ∈ world.tables.bookingsOf user ↔
      ∃ b ∈ kind.bookings world.db, b.bookingId = bookingId ∧ b.userId = user := by
  simp only [BookingTables.bookingsOf, BookingTables.movieBookings, BookingTables.concertBookings,
    world.movies, world.concerts, List.mem_append, List.mem_map, List.mem_filter,
    decide_eq_true_eq, Prod.mk.injEq]
  cases kind with
  | movie =>
      simp only [reduceCtorEq, false_and, and_false, exists_false, or_false, true_and]
      exact exists_congr fun b => by tauto
  | concert =>
      simp only [reduceCtorEq, false_and, and_false, exists_false, false_or, true_and]
      exact exists_congr fun b => by tauto

/-- A user never has fewer bookings than before. -/
theorem Kept.totalCount_le (h : world.Kept later) :
    world.tables.totalCount user ≤ later.tables.totalCount user := by
  have hlength : ∀ w : BookingWorld,
      w.tables.totalCount user = (w.tables.bookingsOf user).length := fun w => by
    simp [BookingTables.bookingsOf, BookingTables.totalCount]
  rw [hlength, hlength]
  refine (List.subperm_of_subset bookingsOf_nodup ?_).length_le
  rintro ⟨kind, bookingId⟩ hmem
  obtain ⟨b, hb, rfl, rfl⟩ := mem_bookingsOf.mp hmem
  obtain ⟨b', hb', hbecomes⟩ := h kind b hb
  exact mem_bookingsOf.mpr ⟨b', hb', hbecomes.bookingId, hbecomes.userId⟩

end BookingWorld

end Ticketing
