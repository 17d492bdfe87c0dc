import Ticketing.Foundation.Past
import Ticketing.User.RefundApi

/-!
# The page of all bookings

The list of a user's bookings, with a bar of pages and a button for each refund. Requests
overlap, and the page shows what comes in last; the script lives on when the page is left.
-/

namespace Ticketing

open Foundation Python

/-! ## The database behind the page -/

/-- The database, and the tables that the list joins. -/
structure BookingWorld where
  db : Db
  tables : BookingTables
  movies : tables.movies = db.movies
  concerts : tables.concerts = db.concerts

theorem refundBooking_showings (env : Env) (payload : Json) (db : Db) :
    (∀ row ∈ (refundBooking env payload db).2.movies.bookings.rows,
      ∃ old ∈ db.movies.bookings.rows, old.showingId = row.showingId) ∧
    ∀ row ∈ (refundBooking env payload db).2.concerts.bookings.rows,
      ∃ old ∈ db.concerts.bookings.rows, old.showingId = row.showingId := by
  have hrefunded : ∀ {Cell : Type} [DecidableEq Cell] {ledger next : Ledger Cell} {bookingId : Int},
      ledger.Refunded next bookingId → ∀ row ∈ next.bookings.rows,
        ∃ old ∈ ledger.bookings.rows, old.showingId = row.showingId := by
    intro Cell _ ledger next bookingId h row hrow
    rw [h.bookings] at hrow
    obtain ⟨old, hold, rfl⟩ := List.mem_map.mp hrow
    refine ⟨old, hold, ?_⟩
    split <;> rfl
  rcases refundBooking_cases env payload db with hsame | ⟨kind, bookingId, hcancels⟩
  · rw [hsame]
    exact ⟨fun row hrow => ⟨row, hrow, rfl⟩, fun row hrow => ⟨row, hrow, rfl⟩⟩
  · cases kind with
    | movie =>
        obtain ⟨movies, hnext, h⟩ := hcancels
        rw [hnext]
        exact ⟨hrefunded h, fun row hrow => ⟨row, hrow, rfl⟩⟩
    | concert =>
        obtain ⟨concerts, hnext, h⟩ := hcancels
        rw [hnext]
        exact ⟨fun row hrow => ⟨row, hrow, rfl⟩, hrefunded h⟩

/-- `refund_booking` on the database. -/
def BookingWorld.refund (env : Env) (payload : Json) (world : BookingWorld) :
    RefundAnswer × BookingWorld :=
  ((refundBooking env payload world.db).1, {
    db := (refundBooking env payload world.db).2
    tables := { world.tables with
      movies := (refundBooking env payload world.db).2.movies
      concerts := (refundBooking env payload world.db).2.concerts
      fk_booking_schedule := fun row hrow => by
        obtain ⟨old, hold, hsame⟩ := (refundBooking_showings env payload world.db).1 row hrow
        exact hsame ▸ world.tables.fk_booking_schedule old (world.movies ▸ hold)
      fk_concert_booking_show := fun row hrow => by
        obtain ⟨old, hold, hsame⟩ := (refundBooking_showings env payload world.db).2 row hrow
        exact hsame ▸ world.tables.fk_concert_booking_show old (world.concerts ▸ hold) }
    movies := rfl
    concerts := rfl })

/-! ## What is rendered -/

/-- How an item is rendered: only one that is neither has a refund button. -/
inductive ItemState where
  | cancelled
  | expired
  | refundable
deriving DecidableEq, Repr

structure HistoryItem where
  entry : BookingEntry
  state : ItemState
  payLabel : String

/-- `isExpired`; `timeOf` is `new Date(show_date).getTime()`. -/
def isExpired (timeOf : DateTime → Option Int) (now : Int) (b : BookingEntry) : Bool :=
  (timeOf b.showDate).any fun showTime => showTime < now

def renderBookingItem (timeOf : DateTime → Option Int) (now : Int) (b : BookingEntry) :
    HistoryItem :=
  let payStatus := if b.payYn = some .y then "결제완료" else "미결제"
  if b.bookStatus.isCancelled then ⟨b, .cancelled, "환불완료"⟩
  else if isExpired timeOf now b then ⟨b, .expired, payStatus⟩
  else ⟨b, .refundable, payStatus⟩

/-- The first and the last of the pages with a number of their own. -/
def pageWindow (page totalPages : Int) : Int × Int :=
  let maxVisible := 5
  let startPage := max 1 (page - maxVisible / 2)
  let endPage := startPage + maxVisible - 1
  if endPage > totalPages then (max 1 (totalPages - maxVisible + 1), totalPages)
  else (startPage, endPage)

/-- The pages of the buttons that `renderPagination` puts into the bar. -/
def renderPagination (page totalPages : Int) : List Int :=
  if totalPages ≤ 1 then []
  else
    let (startPage, endPage) := pageWindow page totalPages
    (if page > 1 then [page - 1] else []) ++
      (List.range (endPage + 1 - startPage).toNat).map (fun i : Nat => startPage + i) ++
        if page < totalPages then [page + 1] else []

inductive ListArea where
  | loading
  | failed
  | list (items : List HistoryItem)

/-- The variables of the script, and what is in the document. -/
structure HistoryPage where
  /-- which of the renderings of the page is in the document -/
  mount : Option Nat
  mounts : Nat
  area : ListArea
  pages : List Int
  currentPage : Int
  isRefunding : Bool

/-! ## Requests under way -/

/-- A call of `loadBookings` or `handleRefund`. `refund` says that a call of
`handleRefund` waits for the list. -/
inductive HistoryTask where
  | idle
  | loading (page : Int) (mount : Option Nat) (refund : Bool)
  | loaded (reply : BookingsReply) (mount : Option Nat) (refund : Bool)
  | refunding (kind : BookingKind) (bookingId : Int)
  | refunded (answer : RefundAnswer)
  | finished

/-- A call of `handleRefund` that has not come to its end. -/
def HistoryTask.isRefund : HistoryTask → Bool
  | .loading _ _ refund | .loaded _ _ refund => refund
  | .refunding _ _ | .refunded _ => true
  | .idle | .finished => false

structure HistoryState where
  now : Int
  world : BookingWorld
  page : HistoryPage
  tasks : Nat → HistoryTask

inductive HistoryAction where
  | tick (now : Int)
  /-- other services write to the tables -/
  | write (world : BookingWorld)
  /-- `initBookingHistoryPage` -/
  | openPage (task : Nat)
  | leavePage
  | clickPage (task : Nat) (page : Int)
  | clickRefund (task : Nat) (kind : BookingKind) (bookingId : Int)
  /-- the server answers with the rows in the order `sorted` -/
  | serve (task : Nat) (sorted : List BookingRow)
  /-- the list comes in -/
  | arrive (task : Nat)
  /-- the list does not come in -/
  | dropLoad (task : Nat)
  /-- the server handles a refund -/
  | execute (task : Nat) (env : Env)
  | answer (task : Nat)
  | dropRefund (task : Nat)

namespace HistoryState

def initial (now : Int) (world : BookingWorld) : HistoryState where
  now := now
  world := world
  page := ⟨none, 0, .loading, [], 1, false⟩
  tasks := fun _ => .idle

variable (timeOf : DateTime → Option Int) (userId : String) (s : HistoryState)

def move (task : Nat) (phase : HistoryTask) : HistoryState :=
  { s with tasks := Function.update s.tasks task phase }

/-- The list, if its element is in the document. -/
def renderBookingList (bookings : List BookingEntry) : HistoryState :=
  if s.page.mount.isSome then
    { s with page := { s.page with
      area := .list (bookings.map (renderBookingItem timeOf s.now)) } }
  else s

def showPages (pages : List Int) : HistoryState :=
  if s.page.mount.isSome then { s with page := { s.page with pages := pages } } else s

/-- `finally` of `handleRefund`, if it waits for the list. -/
def finish (task : Nat) (refund : Bool) : HistoryState :=
  { s with
    page := { s.page with isRefunding := if refund then false else s.page.isRefunding }
    tasks := Function.update s.tasks task .finished }

/-- `loadBookings` up to its request. -/
def loadBookings (task : Nat) (page : Int) (refund : Bool) : HistoryState :=
  if userId = "" then ((s.renderBookingList timeOf []).showPages []).finish task refund
  else
    { s with page := { s.page with
      area := if s.page.mount.isSome then .loading else s.page.area } }.move task
        (.loading page s.page.mount refund)

/-- The `try` block of `loadBookings`, when the list has come in. -/
def showReply (content : BookingsPage) : HistoryState :=
  ({ s with page := { s.page with currentPage := content.page } }.renderBookingList timeOf
    content.bookings).showPages (renderPagination content.page content.totalPages)

/-- The `catch` block; `mount` is where the call has found the element of the list. -/
def failLoad (mount : Option Nat) : HistoryState :=
  { s with page := { s.page with
    area := if mount.isSome ∧ mount = s.page.mount then .failed else s.page.area } }.showPages []

end HistoryState

/-- What `handleRefund` posts. -/
def refundPayload (userId : String) (kind : BookingKind) (bookingId : Int) : Json := .obj [
  ("user_id", .str userId), ("booking_id", .int bookingId),
  ("booking_kind", .str (match kind with
    | .movie => "movie"
    | .concert => "concert"))]

section Steps

variable (timeOf : DateTime → Option Int) (userId : String)

def historyStep (s : HistoryState) : HistoryAction → Option HistoryState
  | .tick now => if s.now ≤ now then some { s with now := now } else none
  | .write world => some { s with world := world }
  | .openPage task =>
      match s.tasks task with
      | .idle =>
          some ({ s with page := { s.page with
            mount := some s.page.mounts
            mounts := s.page.mounts + 1
            area := .loading
            pages := [] } }.loadBookings timeOf userId task 1 false)
      | _ => none
  | .leavePage =>
      some { s with page := { s.page with mount := none, area := .loading, pages := [] } }
  | .clickPage task page =>
      match s.tasks task with
      | .idle =>
          if s.page.mount.isSome ∧ page ∈ s.page.pages ∧ page ≠ 0 ∧ page ≠ s.page.currentPage then
            some (s.loadBookings timeOf userId task page false)
          else none
      | _ => none
  | .clickRefund task kind bookingId =>
      match s.tasks task, s.page.area with
      | .idle, .list items =>
          if s.page.mount.isSome ∧ s.page.isRefunding = false ∧ userId ≠ "" ∧
              (items.any fun item => item.state = .refundable ∧ item.entry.kind = kind ∧
                item.entry.bookingId = bookingId) = true then
            some ({ s with page := { s.page with isRefunding := true } }.move task
              (.refunding kind bookingId))
          else none
      | _, _ => none
  | .serve task sorted =>
      match s.tasks task with
      | .loading page mount refund =>
          some (s.move task (.loaded (getBookings s.world.tables sorted (some userId)
            (some (toString page)) (some "10")) mount refund))
      | _ => none
  | .arrive task =>
      match s.tasks task with
      | .loaded (.page content) _ refund => some ((s.showReply timeOf content).finish task refund)
      | .loaded .invalid mount refund => some ((s.failLoad mount).finish task refund)
      | _ => none
  | .dropLoad task =>
      match s.tasks task with
      | .loading _ mount refund => some ((s.failLoad mount).finish task refund)
      | .loaded _ mount refund => some ((s.failLoad mount).finish task refund)
      | _ => none
  | .execute task env =>
      match s.tasks task with
      | .refunding kind bookingId =>
          let (answer, world) := s.world.refund env (refundPayload userId kind bookingId)
          some ({ s with world := world }.move task (.refunded answer))
      | _ => none
  | .answer task =>
      match s.tasks task with
      | .refunded answer =>
          if answer.ok then some (s.loadBookings timeOf userId task s.page.currentPage true)
          else some (s.finish task true)
      | _ => none
  | .dropRefund task =>
      match s.tasks task with
      | .refunding _ _ => some (s.finish task true)
      | .refunded _ => some (s.finish task true)
      | _ => none

def historyMachine : Machine HistoryState HistoryAction := ⟨historyStep timeOf userId⟩

end Steps

end Ticketing
