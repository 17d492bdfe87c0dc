import Mathlib.Data.List.Lex
import Mathlib.Data.Prod.Lex
import Mathlib.Order.OrderDual
import Ticketing.Foundation.Grouping
import Ticketing.Foundation.Paging
import Ticketing.Python.Row
import Ticketing.Reservation.Payment
import Ticketing.User.Bookings

/-!
# The queries of the events

The two SELECT statements of `event-svc`, and the JSON that is made of their rows: once for
the response, where FastAPI encodes what is no JSON, and once for the copy in Redis, which
`json.dumps(.., default=str)` writes.
-/

namespace Ticketing

open Foundation Python

/-! ## Tables -/

/-- Values of `events.status`. -/
inductive EventStatus where
  | upcoming
  | onSale
  | soldOut
  | finished
  | cancelled
deriving DecidableEq, Repr

def EventStatus.text : EventStatus → String
  | .upcoming => "UPCOMING"
  | .onSale => "ON_SALE"
  | .soldOut => "SOLD_OUT"
  | .finished => "FINISHED"
  | .cancelled => "CANCELLED"

def EventSeatStatus.text : EventSeatStatus → String
  | .available => "AVAILABLE"
  | .reserved => "RESERVED"
  | .sold => "SOLD"
  | .blocked => "BLOCKED"

/-- A row of `events`. -/
structure Event where
  id : String
  title : String
  venue : String
  startAt : DateTime
  totalSeats : Int
  status : EventStatus
  thumbnailUrl : Option String
deriving DecidableEq, Repr

/-- A row of `seats`; the price is in hundredths. -/
structure EventSeat where
  id : String
  eventId : String
  /-- `section` -/
  part : String
  row : String
  number : Int
  grade : String
  price : Int
  status : EventSeatStatus
deriving DecidableEq, Repr

/-- `events` and `seats` with their keys. The collation gives each text a weight, by which
texts are compared. -/
structure EventTables {Weight : Type} (weight : String → Weight) where
  events : List Event
  seats : List EventSeat
  events_pk : (events.map fun e => weight e.id).Nodup
  uq_seat : (seats.map fun s => (weight s.eventId, weight s.part, weight s.row, s.number)).Nodup

/-- The parts of a date and time, the largest first. -/
def sortParts (value : DateTime) : List Nat :=
  [value.date.year, value.date.month, value.date.day, value.hour, value.minute, value.second]

/-! ## The list of events -/

/-- A row of the first query. -/
structure ListedEvent where
  id : String
  title : String
  venue : String
  startAt : DateTime
  totalSeats : Int
  availableSeats : Nat
  minPrice : Option Int
  status : EventStatus
  thumbnailUrl : Option String
deriving DecidableEq, Repr

/-- WHERE e.status IN ('ON_SALE', 'SOLD_OUT') -/
def Event.listed (e : Event) : Bool := e.status = .onSale || e.status = .soldOut

/-- The columns of a group: COUNT(CASE WHEN ..) and MIN pass over the NULLs. -/
def listedEvent (e : Event) (joined : List (Option EventSeat)) : ListedEvent where
  id := e.id
  title := e.title
  venue := e.venue
  startAt := e.startAt
  totalSeats := e.totalSeats
  availableSeats := joined.countP fun s => s.any fun seat => seat.status = .available
  minPrice := (joined.filterMap fun s => s.map EventSeat.price).min?
  status := e.status
  thumbnailUrl := e.thumbnailUrl

section Tables

variable {Weight : Type} [LinearOrder Weight] {weight : String → Weight}

/-- ORDER BY section, row, number -/
def seatOrder (weight : String → Weight) (seat : EventSeat) : Weight ×ₗ Weight ×ₗ Int :=
  toLex (weight seat.part, toLex (weight seat.row, seat.number))

namespace EventTables

variable (db : EventTables weight)

/-- The seats of an event. -/
def seatsOf (eventId : String) : List EventSeat :=
  db.seats.filter fun s => weight s.eventId = weight eventId

/-- FROM events LEFT JOIN seats, WHERE. -/
def joinedRows : List (Event × Option EventSeat) :=
  blocks (db.events.filter Event.listed) fun e => leftJoin (db.seatsOf e.id)

/-- GROUP BY e.id. The id is the primary key, so a group belongs to one row. -/
def listedEvents : List ListedEvent :=
  (groupByLeft db.joinedRows).map fun group => listedEvent group.1 group.2

/-- What the first query may answer: ORDER BY e.start_at ASC LIMIT 50. -/
def ListAnswer (rows : List ListedEvent) : Prop :=
  ∃ result, SortedBy (fun row : ListedEvent => OrderDual.toDual (sortParts row.startAt))
    db.listedEvents result ∧ rows = pageOf 50 0 result

/-- What the second query answers. -/
def SeatsAnswer (eventId : String) (rows : List EventSeat) : Prop :=
  rows.Perm (db.seatsOf eventId) ∧
    rows.Pairwise fun left right => seatOrder weight left < seatOrder weight right

/-- What the list says of an event. -/
def summary (e : Event) : ListedEvent where
  id := e.id
  title := e.title
  venue := e.venue
  startAt := e.startAt
  totalSeats := e.totalSeats
  availableSeats := (db.seatsOf e.id).countP fun s => s.status = .available
  minPrice := ((db.seatsOf e.id).map EventSeat.price).min?
  status := e.status
  thumbnailUrl := e.thumbnailUrl

/-- At most 50 of the events that are on sale or sold out, none of them twice, in the order
in which they start; and if some are missing, they start no earlier. -/
structure Lists (rows : List ListedEvent) : Prop where
  summaries : ∀ row ∈ rows, ∃ e ∈ db.events, e.listed = true ∧ row = db.summary e
  ordered : rows.Pairwise fun left right => sortParts left.startAt ≤ sortParts right.startAt
  distinct : (rows.map fun row => weight row.id).Nodup
  bounded : rows.length ≤ 50
  complete : ∀ e ∈ db.events, e.listed = true → db.summary e ∉ rows →
    rows.length = 50 ∧ ∀ row ∈ rows, sortParts row.startAt ≤ sortParts e.startAt

end EventTables

variable {db : EventTables weight} {rows : List ListedEvent}

theorem leftJoin_ne_nil (matching : List EventSeat) : leftJoin matching ≠ [] := by
  unfold leftJoin
  split
  next => simp
  next h => simpa using h

/-- The NULL of an event without seats is not counted. -/
theorem listedEvent_leftJoin (db : EventTables weight) (e : Event) :
    listedEvent e (leftJoin (db.seatsOf e.id)) = db.summary e := by
  unfold listedEvent EventTables.summary leftJoin
  split
  next hnone =>
    rw [List.isEmpty_iff.mp hnone]
    rfl
  next => simp [List.countP_map, List.filterMap_map, Function.comp_def]

theorem listedEvents_eq (db : EventTables weight) :
    db.listedEvents = (db.events.filter Event.listed).map db.summary := by
  have hnodup : (db.events.filter Event.listed).Nodup := (db.events_pk.of_map _).filter _
  rw [EventTables.listedEvents, EventTables.joinedRows,
    groupByLeft_blocks hnodup fun e => leftJoin_ne_nil _, List.map_map]
  exact List.map_congr_left fun e _ => listedEvent_leftJoin db e

theorem EventTables.ListAnswer.lists (h : db.ListAnswer rows) : db.Lists rows := by
  obtain ⟨result, hsorted, rfl⟩ := h
  have hmem : ∀ row, row ∈ result ↔ ∃ e ∈ db.events, e.listed = true ∧ row = db.summary e := by
    intro row
    rw [hsorted.perm.mem_iff, listedEvents_eq, List.mem_map]
    simp only [List.mem_filter, and_assoc, eq_comm]
  have hnodup : (result.map fun row => weight row.id).Nodup := by
    have hids : ((db.events.filter Event.listed).map fun e => weight e.id).Nodup :=
      db.events_pk.sublist (List.filter_sublist.map _)
    rw [(hsorted.perm.map _).nodup_iff, listedEvents_eq, List.map_map]
    exact hids
  have hpage : pageOf 50 0 result = result.take 50 := by simp [pageOf]
  rw [hpage]
  have hsub : (result.take 50).Sublist result := List.take_sublist _ _
  refine ⟨fun row hrow => (hmem row).mp (hsub.subset hrow), ?_, hnodup.sublist (hsub.map _),
    List.length_take_le _ _, fun e he hlisted hmissing => ?_⟩
  · exact (hsorted.sorted.sublist hsub).imp fun h => h
  · have hresult : db.summary e ∈ result := (hmem _).mpr ⟨e, he, hlisted, rfl⟩
    -- what is not on the page is behind it
    have hdrop : db.summary e ∈ result.drop 50 := by
      rw [← List.take_append_drop 50 result] at hresult
      exact (List.mem_append.mp hresult).resolve_left hmissing
    refine ⟨?_, fun row hrow => hsorted.take_drop 50 hrow hdrop⟩
    have hlength := List.length_pos_of_mem hdrop
    rw [List.length_drop] at hlength
    rw [List.length_take]
    omega

/-! ## The seats of an event -/

/-- The unique key leaves no ties, so there is exactly one answer. -/
theorem existsUnique_seatsAnswer (db : EventTables weight) (eventId : String) :
    ∃! rows, db.SeatsAnswer eventId rows := by
  let le (left right : EventSeat) : Prop := seatOrder weight left ≤ seatOrder weight right
  have : IsTrans EventSeat le := ⟨fun _ _ _ => le_trans⟩
  have : Std.Total le := ⟨fun _ _ => le_total _ _⟩
  have hperm := List.perm_insertionSort le (db.seatsOf eventId)
  have hkeys : ((db.seatsOf eventId).map (seatOrder weight)).Nodup := by
    refine ((db.uq_seat.of_map _).filter _).map_on fun left hleft right hright hsame => ?_
    obtain ⟨hleft, hleftEvent⟩ := List.mem_filter.mp hleft
    obtain ⟨hright, hrightEvent⟩ := List.mem_filter.mp hright
    have hevent : weight left.eventId = weight right.eventId :=
      (of_decide_eq_true hleftEvent).trans (of_decide_eq_true hrightEvent).symm
    obtain ⟨hpart, hrest⟩ := Prod.mk.inj (toLex.injective hsame)
    obtain ⟨hrow, hnumber⟩ := Prod.mk.inj (toLex.injective hrest)
    refine List.inj_on_of_nodup_map db.uq_seat hleft hright ?_
    simp only [hevent, hpart, hrow, hnumber]
  refine ⟨(db.seatsOf eventId).insertionSort le, ⟨hperm, ?_⟩, ?_⟩
  · have hsorted := List.pairwise_insertionSort le (db.seatsOf eventId)
    have hdistinct := List.pairwise_map.mp ((hperm.map (seatOrder weight)).nodup_iff.mpr hkeys)
    exact (hsorted.and hdistinct).imp fun h => lt_of_le_of_ne h.1 h.2
  · rintro rows ⟨hrows, hordered⟩
    have hsorted := List.pairwise_insertionSort le (db.seatsOf eventId)
    refine List.Perm.eq_of_pairwise (fun left right hleft hright hle hge => ?_)
      (hordered.imp le_of_lt) hsorted (hrows.trans hperm.symm)
    exact List.inj_on_of_nodup_map hkeys (hrows.mem_iff.mp hleft) (hperm.mem_iff.mp hright)
      (le_antisymm hle hge)

end Tables

/-! ## The JSON of the rows -/

/-- A column as the driver returns it; a decimal in hundredths. -/
inductive EventColumn where
  | json (value : Json)
  | datetime (value : DateTime)
  | decimal (hundredths : Int)

/-- `str()` of a decimal with two digits after the point. -/
def decimalText (hundredths : Int) : String :=
  (if hundredths < 0 then "-" else "") ++ toString (hundredths.natAbs / 100) ++ "." ++
    zfill 2 (hundredths.natAbs % 100)

namespace EventColumn

/-- The loop over the rows in `list_events`. -/
def plain : EventColumn → EventColumn
  | .json value => .json value
  | .datetime value => .json (.str (value.isoformat "T"))
  | .decimal hundredths => .json (.float (amountFloat hundredths))

/-- In a response, as FastAPI encodes it. -/
def response : EventColumn → Json
  | .json value => value
  | .datetime value => .str (value.isoformat "T")
  | .decimal hundredths => .float (amountFloat hundredths)

/-- In Redis: `json.loads` of what `json.dumps(.., default=str)` has written. -/
def copy : EventColumn → Json
  | .json value => value
  | .datetime value => .str (value.isoformat " ")
  | .decimal hundredths => .str (decimalText hundredths)

end EventColumn

def ListedEvent.columns (row : ListedEvent) : List (String × EventColumn) :=
  [("id", .json (.str row.id)), ("title", .json (.str row.title)),
    ("venue", .json (.str row.venue)), ("start_at", .datetime row.startAt),
    ("total_seats", .json (.int row.totalSeats)),
    ("available_seats", .json (.int row.availableSeats)),
    ("min_price", (row.minPrice.map EventColumn.decimal).getD (.json .null)),
    ("status", .json (.str row.status.text)),
    ("thumbnail_url", .json ((row.thumbnailUrl.map Json.str).getD .null))]

def EventSeat.columns (seat : EventSeat) : List (String × EventColumn) :=
  [("id", .json (.str seat.id)), ("section", .json (.str seat.part)),
    ("row", .json (.str seat.row)), ("number", .json (.int seat.number)),
    ("grade", .json (.str seat.grade)), ("price", .decimal seat.price),
    ("status", .json (.str seat.status.text))]

section Encoding

variable (leaf : EventColumn → Json)

def columnsJson (columns : List (String × EventColumn)) : Json :=
  .obj (columns.map fun column => (column.1, leaf column.2))

/-- `rows`, after the loop. -/
def listJson (rows : List ListedEvent) : Json :=
  .arr (rows.map fun row =>
    columnsJson leaf (row.columns.map fun column => (column.1, column.2.plain)))

/-- `result` -/
def seatsJson (eventId : String) (seats : List EventSeat) (availableCount : Int) : Json :=
  .obj [("eventId", .str eventId),
    ("seats", .arr (seats.map fun seat => columnsJson leaf seat.columns)),
    ("availableCount", .int availableCount)]

end Encoding

theorem EventColumn.copy_plain (column : EventColumn) :
    column.plain.copy = column.plain.response := by
  cases column <;> rfl

/-- The loop leaves nothing for an encoder to decide. -/
theorem listJson_copy (rows : List ListedEvent) :
    listJson EventColumn.copy rows = listJson EventColumn.response rows := by
  simp only [listJson, columnsJson, List.map_map, Function.comp_def, EventColumn.copy_plain]

/-- Without such a loop each price is a number in the response and a text in the copy. -/
theorem columnsJson_seat_ne (seat : EventSeat) :
    columnsJson EventColumn.copy seat.columns ≠ columnsJson EventColumn.response seat.columns := by
  simp [columnsJson, EventSeat.columns, EventColumn.copy, EventColumn.response]

/-- A response that comes out of Redis is the one that was made of the rows, for the list of
events; for the seats of an event it is only if there are none. -/
theorem copies_agree (rows : List ListedEvent) (eventId : String) (seats : List EventSeat)
    (availableCount : Int) :
    listJson EventColumn.copy rows = listJson EventColumn.response rows ∧
      (seatsJson EventColumn.copy eventId seats availableCount =
        seatsJson EventColumn.response eventId seats availableCount ↔ seats = []) := by
  refine ⟨listJson_copy rows, fun h => ?_, ?_⟩
  · cases seats with
    | nil => rfl
    | cons seat rest =>
        simp only [seatsJson, Json.obj.injEq, List.cons.injEq, Prod.mk.injEq, Json.arr.injEq,
          List.map_cons, true_and, and_true] at h
        exact absurd h.1 (columnsJson_seat_ne seat)
  · rintro rfl
    simp only [seatsJson, List.map_nil]

end Ticketing
