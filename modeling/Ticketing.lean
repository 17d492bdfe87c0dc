import Ticketing.Foundation.Machine
import Ticketing.Foundation.Table
import Ticketing.Foundation.Transaction
import Ticketing.Python.Integer
import Ticketing.Python.Value
import Ticketing.Seat
import Ticketing.Schema
import Ticketing.Ledger
import Ticketing.User.Refund
import Ticketing.Worker.Message
import Ticketing.Worker.Theater
import Ticketing.Worker.Concert
import Ticketing.Occupancy
import Ticketing.Theater.Capacity
import Ticketing.Theater.Counter
import Ticketing.Concert.Grid
import Ticketing.Queue.Delivery
import Ticketing.Queue.Status
import Ticketing.Queue.Truth
import Ticketing.Queue.Once
import Ticketing.Queue.Batch
import Ticketing.Queue.GroupOrder
import Ticketing.Concert.SeatHold
import Ticketing.Concert.Write
import Ticketing.Concert.Holding
import Ticketing.Concert.ReadCache
import Ticketing.Concert.Snapshot
import Ticketing.Concert.Claims
import Ticketing.Concert.Gate
import Ticketing.Concert.Blocked
import Ticketing.Worker.Bookable
import Ticketing.Coupling
import Ticketing.Foundation.Remote
import Ticketing.Queue.Acknowledge
import Ticketing.Concert.HoldRace
import Ticketing.Concert.BatchFetch
import Ticketing.Concert.Listed
import Ticketing.Python.Row
import Ticketing.Theater.Catalog
import Ticketing.Theater.Bootstrap
import Ticketing.Theater.Consistency
import Ticketing.Theater.Transparent
import Ticketing.Foundation.Tasks
import Ticketing.Theater.SeatCache
import Ticketing.Theater.Freshness
import Ticketing.Concert.Bootstrap
import Ticketing.Concert.Visible
import Ticketing.Cache.Keys
import Ticketing.Foundation.KeyStore
import Ticketing.Cache.Operations
import Ticketing.Cache.Endpoints
import Ticketing.Cache.Rebuild
import Ticketing.Concert.TryHold
import Ticketing.Concert.Commit
import Ticketing.Concert.ReleaseRace
import Ticketing.Worker.Atomic
import Ticketing.Worker.Duplicate
import Ticketing.Reservation.Create
import Ticketing.Reservation.Exclusive
import Ticketing.Reservation.Payment
import Ticketing.Reservation.Terminal
import Ticketing.Foundation.Paging
import Ticketing.User.Bookings
import Ticketing.User.Pages
import Ticketing.Browser.Expiry
import Ticketing.Movie.Agreement
import Ticketing.Reservation.Compensate
import Ticketing.Queue.Isolation
import Ticketing.SeatText
import Ticketing.Concert.SaleField
import Ticketing.Concert.Slots
import Ticketing.Concert.SingleFlight
import Ticketing.Theater.Slices
import Ticketing.Concert.SaleState
import Ticketing.Browser.Merge
import Ticketing.Foundation.Pager
import Ticketing.Browser.SeatGrid
import Ticketing.Foundation.FormData
import Ticketing.Browser.Numeral
import Ticketing.Browser.Router
import Ticketing.Browser.Render
import Ticketing.Foundation.Balance
import Ticketing.Reservation.Stock
import Ticketing.Browser.BookingModal
import Ticketing.Browser.BookingRun
import Ticketing.Browser.LargeGrid
import Ticketing.Browser.BookingOrder
import Ticketing.Worker.Refusal
import Ticketing.Browser.BookingPoll
import Ticketing.Foundation.Serial
import Ticketing.User.AccountRun
import Ticketing.Browser.RouteQueue
import Ticketing.Browser.RouteRun
import Ticketing.Browser.RouteSettle
import Ticketing.Event.Queries
import Ticketing.Foundation.Past
import Ticketing.Event.Service
import Ticketing.Event.Recent
import Ticketing.Browser.DateKey
import Ticketing.Browser.CalendarModal
import Ticketing.Browser.BookingScreen
import Ticketing.Browser.ScreenRun
import Ticketing.Browser.ScreenReach
import Ticketing.Browser.ScreenPrefill
import Ticketing.User.RefundApi
import Ticketing.User.HistoryPage
import Ticketing.User.HistoryWorld
import Ticketing.User.HistoryRun
import Ticketing.User.HistoryShown
import Ticketing.User.HistoryReach
import Ticketing.User.RecentBookings
