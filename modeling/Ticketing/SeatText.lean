import Mathlib.Data.Finset.Card
import Ticketing.Theater.Write
import Ticketing.Worker.Theater
import Ticketing.Worker.Concert

/-!
# Seats from the request to the booking row

Which position an item of a request denotes is said without the parser. The
write API parses, drops repetitions and formats, the worker parses what was
formatted: what arrives are the positions that the items denote, each once, in
the order in which they are first named.
-/

namespace Ticketing

open Foundation Python

/-- The item, as text, is two numbers that `int()` reads with one dash between
them, and these are the row and the column. -/
def Denotes (item : Json) (seat : Seat) : Prop :=
  ∃ row col, stripStr ((item.orElse (.str "")).toStr).toList = row ++ '-' :: col ∧
    '-' ∉ row ∧ '-' ∉ col ∧ intOfStr row = some (seat.row : Int) ∧
      intOfStr col = some (seat.col : Int)

section Parsing

theorem splitOn_eq_pair {text first second : List Char} :
    text.splitOn '-' = [first, second] ↔
      text = first ++ '-' :: second ∧ '-' ∉ first ∧ '-' ∉ second := by
  constructor
  · intro hsplit
    by_cases hmem : '-' ∈ text
    · obtain ⟨front, back, rfl, hfront⟩ := List.eq_append_cons_of_mem hmem
      rw [List.splitOn_append_cons_self_of_not_mem hfront] at hsplit
      obtain ⟨rfl, hback⟩ := List.cons.inj hsplit
      by_cases hagain : '-' ∈ back
      · obtain ⟨middle, last, rfl, hmiddle⟩ := List.eq_append_cons_of_mem hagain
        rw [List.splitOn_append_cons_self_of_not_mem hmiddle] at hback
        -- a second dash gives a third part
        exact absurd (List.cons.inj hback).2 (List.splitOn_ne_nil '-' last)
      · rw [List.splitOn_eq_singleton hagain] at hback
        obtain rfl := (List.cons.inj hback).1
        exact ⟨rfl, hfront, hagain⟩
    · rw [List.splitOn_eq_singleton hmem] at hsplit
      cases hsplit
  · rintro ⟨rfl, hfirst, hsecond⟩
    rw [List.splitOn_append_cons_self_of_not_mem hfirst, List.splitOn_eq_singleton hsecond]

theorem toIntOfStr_of_some {text : List Char} {n : Int} (h : intOfStr text = some n) :
    toIntOfStr text = n := by
  rw [toIntOfStr, h, Option.getD_some]

/-- The parser finds what the item denotes. -/
theorem parseSeatKey_eq_some_iff {item : Json} {seat : Seat} :
    parseSeatKey item = some seat ↔ Denotes item seat := by
  constructor
  · intro hparse
    unfold parseSeatKey at hparse
    dsimp only at hparse
    split at hparse
    next first second hsplit =>
      split at hparse
      next hpos =>
        obtain rfl := Option.some.inj hparse
        obtain ⟨htext, hfirst, hsecond⟩ := splitOn_eq_pair.mp hsplit
        refine ⟨first, second, htext, hfirst, hsecond, ?_, ?_⟩
        · rw [toIntOfStr_of_pos hpos.1]
          exact congrArg some (Int.toNat_of_nonneg hpos.1.le).symm
        · rw [toIntOfStr_of_pos hpos.2]
          exact congrArg some (Int.toNat_of_nonneg hpos.2.le).symm
      next => cases hparse
    next => cases hparse
  · rintro ⟨first, second, htext, hfirst, hsecond, hrow, hcol⟩
    have hsplit := splitOn_eq_pair.mpr ⟨htext, hfirst, hsecond⟩
    have hpos : (0 : Int) < seat.row ∧ (0 : Int) < seat.col :=
      ⟨Int.ofNat_lt.mpr seat.row_pos, Int.ofNat_lt.mpr seat.col_pos⟩
    unfold parseSeatKey
    simp only [hsplit, toIntOfStr_of_some hrow, toIntOfStr_of_some hcol, hpos, and_self,
      ↓reduceDIte, Int.toNat_natCast]

theorem Denotes.unique {item : Json} {left right : Seat} (hleft : Denotes item left)
    (hright : Denotes item right) : left = right := by
  rw [← parseSeatKey_eq_some_iff] at hleft hright
  exact Option.some.inj (hleft.symm.trans hright)

theorem parseSeatKey_eq_none_iff {item : Json} :
    parseSeatKey item = none ↔ ∀ seat, ¬ Denotes item seat := by
  rw [Option.eq_none_iff_forall_ne_some]
  exact forall_congr' fun seat => not_congr parseSeatKey_eq_some_iff

end Parsing

/-! ## The loop over the seats -/

section Collecting

variable {items : List Json} {parsed seats : List Seat}

/-- A seat that is already there makes no difference to what is kept. -/
theorem eraseDups_append_cons (seat : Seat) (named : List Seat) :
    ((if seat ∈ parsed then parsed else parsed ++ [seat]) ++ named).eraseDups =
      (parsed ++ seat :: named).eraseDups := by
  split
  next hold =>
    rw [List.eraseDups_append, List.eraseDups_append, List.cons_removeAll]
    simp [hold]
  next hnew => rw [List.append_assoc, List.singleton_append]

theorem eraseDups_snoc {seat : Seat} (hparsed : parsed.eraseDups = parsed) :
    (if seat ∈ parsed then parsed else parsed ++ [seat]).eraseDups =
      if seat ∈ parsed then parsed else parsed ++ [seat] := by
  split
  next => exact hparsed
  next hnew =>
    simp [List.eraseDups_append, List.cons_removeAll, List.eraseDups_cons, hparsed, hnew]

/-- The loop ends with the positions that the items denote, each once, behind
those it has started with. -/
theorem collectSeats_eq_some_iff (hparsed : parsed.eraseDups = parsed) :
    collectSeats items parsed = some seats ↔
      ∃ named, List.Forall₂ Denotes items named ∧ seats = (parsed ++ named).eraseDups := by
  induction items generalizing parsed with
  | nil => simp [collectSeats, hparsed, eq_comm]
  | cons item rest ih =>
      rw [collectSeats]
      split
      next hbad =>
        simp only [reduceCtorEq, false_iff, not_exists, not_and]
        rintro _ (_ | ⟨hdenotes, _⟩)
        exact absurd hdenotes (parseSeatKey_eq_none_iff.mp hbad _)
      next seat hseat =>
        have hdenotes := parseSeatKey_eq_some_iff.mp hseat
        rw [ih (eraseDups_snoc hparsed)]
        constructor
        · rintro ⟨named, hnamed, rfl⟩
          exact ⟨seat :: named, .cons hdenotes hnamed, eraseDups_append_cons seat named⟩
        · rintro ⟨_, _ | ⟨hother, hnamed⟩, rfl⟩
          obtain rfl := hdenotes.unique hother
          exact ⟨_, hnamed, (eraseDups_append_cons seat _).symm⟩

theorem collectSeats_nil_eq_some_iff :
    collectSeats items [] = some seats ↔
      ∃ named, List.Forall₂ Denotes items named ∧ seats = named.eraseDups :=
  collectSeats_eq_some_iff List.eraseDups_nil

/-- One item that denotes no position stops the loop, wherever it stands. -/
theorem collectSeats_eq_none_iff :
    collectSeats items parsed = none ↔ ∃ item ∈ items, ∀ seat, ¬ Denotes item seat := by
  induction items generalizing parsed with
  | nil => simp [collectSeats]
  | cons item rest ih =>
      rw [collectSeats, List.exists_mem_cons_iff]
      split
      next hbad => exact iff_of_true rfl (.inl (parseSeatKey_eq_none_iff.mp hbad))
      next seat hseat =>
        rw [ih, or_iff_right]
        intro hnone
        exact hnone seat (parseSeatKey_eq_some_iff.mp hseat)

theorem length_eraseDups {named : List Seat} (hnodup : named.eraseDups.Nodup) :
    named.eraseDups.length = named.toFinset.card := by
  rw [← List.toFinset_card_of_nodup hnodup]
  congr 1
  ext seat
  rw [List.mem_toFinset, List.mem_toFinset, List.mem_eraseDups]

end Collecting

/-! ## The checks -/

section Checks

variable {userId showId : Int} {items : List Json}

/-- The checks pass an order exactly for positive ids and a list of items that all
denote a position, and the order has these. -/
theorem checkConcertOrder_ok {order : ConcertOrder}
    (h : checkConcertOrder userId showId (.arr items) = .ok order) :
    ∃ named, List.Forall₂ Denotes items named ∧ order.seats = named.eraseDups := by
  unfold checkConcertOrder at h
  split at h
  next =>
    split at h
    next => cases h
    next _ found _ heq =>
      obtain rfl := Json.arr.inj heq
      split at h
      next => cases h
      next parsed hcollect =>
        split at h
        next => cases h
        next =>
          obtain rfl := Except.ok.inj h
          exact collectSeats_nil_eq_some_iff.mp hcollect
    next hno => exact absurd rfl (hno items)
  next => cases h

/-- How the checks end on a list. -/
theorem checkConcertOrder_cases (userId showId : Int) (items : List Json) :
    (¬ (0 < userId ∧ 0 < showId) ∧
      checkConcertOrder userId showId (.arr items) = .error .badRequest) ∨
    (0 < userId ∧ 0 < showId) ∧
      ((items = [] ∧ checkConcertOrder userId showId (.arr items) = .error .noSeats) ∨
      ((∃ item ∈ items, ∀ seat, ¬ Denotes item seat) ∧
        checkConcertOrder userId showId (.arr items) = .error .badSeatKey) ∨
      ((items ≠ [] ∧ ∀ item ∈ items, ∃ seat, Denotes item seat) ∧
        ∃ order, checkConcertOrder userId showId (.arr items) = .ok order)) := by
  unfold checkConcertOrder
  by_cases hids : 0 < userId ∧ 0 < showId
  · refine .inr ⟨hids, ?_⟩
    rw [dif_pos hids]
    cases items with
    | nil => exact .inl ⟨rfl, rfl⟩
    | cons item rest =>
        refine .inr ?_
        dsimp only
        split
        next hcollect => exact .inl ⟨collectSeats_eq_none_iff.mp hcollect, rfl⟩
        next parsed hcollect =>
          have hgood : ∀ other ∈ item :: rest, ∃ seat, Denotes other seat := by
            by_contra! hbad
            rw [collectSeats_eq_none_iff.mpr hbad] at hcollect
            cases hcollect
          have hparsed : parsed ≠ [] := by
            obtain ⟨named, hnamed, rfl⟩ := collectSeats_nil_eq_some_iff.mp hcollect
            cases hnamed
            simp [List.eraseDups_cons]
          rw [dif_neg hparsed]
          exact .inr ⟨⟨List.cons_ne_nil item rest, hgood⟩, _, rfl⟩
  · exact .inl ⟨hids, dif_neg hids⟩

end Checks

/-! ## Both write APIs and both handlers -/

/-- The request has a positive user id and a positive id in `showingField`. -/
def IdsGiven (payload : Json) (showingField : String) : Prop :=
  ∃ userId showingId, (payload.get "user_id").toInt 0 = some userId ∧
    (payload.get showingField).toInt 0 = some showingId ∧ 0 < userId ∧ 0 < showingId

/-- The body holds the seats as texts, and the handler reads just these from it. -/
def Carries (showingField : String) (seats : List Seat) (body : Json) : Prop :=
  body.item "seats" = some (.arr (seats.map fun seat => .str seat.key)) ∧
    ∃ request, decodeRequest showingField body = some request ∧ request.seats = seats

/-- One booking row has been added, for `n` seats. -/
def Ledger.Records {Cell : Type} (ledger next : Ledger Cell) (bookingId : Int) (n : Nat) : Prop :=
  ∃ row, next.bookings.rows = ledger.bookings.rows ++ [row] ∧ row.bookingId = bookingId ∧
    row.regCount = (n : Int)

/-- Whatever concert booking is committed for the body has `n` seats. -/
def RecordsConcert (body : Json) (n : Nat) : Prop :=
  ∀ env codes db receipt remain next,
    processConcertBooking env codes body db = (.committed receipt remain, next) →
      db.concerts.Records next.concerts receipt.bookingId n

def RecordsTheater (body : Json) (n : Nat) : Prop :=
  ∀ env codes db receipt remain next,
    processTheaterBooking env codes body db = (.committed receipt remain, next) →
      db.movies.Records next.movies receipt.bookingId n

/-- What becomes of the items of a request in a write API, with what its handler
records for a body. -/
structure SeatTrip (payload : Json) (showingField : String) (items : List Json)
    (records : Json → Nat → Prop) (reply : Option CommitReply) (sent : List (String × Json)) :
    Prop where
  arrive : ∀ message ∈ sent, ∃ named, List.Forall₂ Denotes items named ∧
    Carries showingField named.eraseDups message.2 ∧
      named.eraseDups.length = named.toFinset.card ∧ records message.2 named.toFinset.card
  queued : ∀ bookingRef, reply = some (.queued bookingRef) → sent ≠ []
  badSeatKey : reply = some .badSeatKey ↔
    IdsGiven payload showingField ∧ ∃ item ∈ items, ∀ seat, ¬ Denotes item seat
  noSeats : reply = some .noSeats ↔ IdsGiven payload showingField ∧ items = []
  rejected : IdsGiven payload showingField →
    ((∃ code, reply = some code ∧ code.statusCode = 400) ↔
      items = [] ∨ ∃ item ∈ items, ∀ seat, ¬ Denotes item seat)

section Requests

variable {payload : Json} {showingField : String} {items : List Json}
  {records : Json → Nat → Prop} {reply : Option CommitReply} {sent : List (String × Json)}

/-- Both APIs up to their checks. -/
def readChecked (showingField : String) (payload : Json) :
    Option (Except CommitReply ConcertOrder) := do
  let userId ← (payload.get "user_id").toInt 0
  let showingId ← (payload.get showingField).toInt 0
  return checkConcertOrder userId showingId ((payload.get "seats").orElse (.arr []))

theorem readTheaterOrder_eq :
    readTheaterOrder payload =
      (readChecked "schedule_id" payload).map (Except.map TheaterOrder.mk) := by
  unfold readTheaterOrder readChecked
  cases (payload.get "user_id").toInt 0 with
  | none => rfl
  | some userId => cases (payload.get "schedule_id").toInt 0 <;> rfl

theorem orElse_arr : (Json.arr items).orElse (.arr []) = .arr items := by
  cases items <;> rfl

theorem readChecked_cases (hseats : payload.get "seats" = .arr items) :
    (¬ IdsGiven payload showingField ∧
      (readChecked showingField payload = none ∨
        readChecked showingField payload = some (.error .badRequest))) ∨
    IdsGiven payload showingField ∧
      ((items = [] ∧ readChecked showingField payload = some (.error .noSeats)) ∨
      ((∃ item ∈ items, ∀ seat, ¬ Denotes item seat) ∧
        readChecked showingField payload = some (.error .badSeatKey)) ∨
      ((items ≠ [] ∧ ∀ item ∈ items, ∃ seat, Denotes item seat) ∧
        ∃ order named, readChecked showingField payload = some (.ok order) ∧
          List.Forall₂ Denotes items named ∧ order.seats = named.eraseDups)) := by
  unfold readChecked IdsGiven
  rw [hseats, orElse_arr]
  cases (payload.get "user_id").toInt 0 with
  | none => exact .inl ⟨by simp, .inl rfl⟩
  | some userId =>
      cases (payload.get showingField).toInt 0 with
      | none => exact .inl ⟨by simp, .inl rfl⟩
      | some showingId =>
          simp only [Option.bind_eq_bind, Option.bind_some, Option.pure_def, Option.some.injEq,
            exists_and_left, exists_eq_left', reduceCtorEq, false_or]
          rcases checkConcertOrder_cases userId showingId items with
            ⟨hids, hcheck⟩ | ⟨hids, ⟨hnil, hcheck⟩ | ⟨hbad, hcheck⟩ | ⟨hgood, order, hcheck⟩⟩
          · exact .inl ⟨hids, hcheck⟩
          · exact .inr ⟨hids, .inl ⟨hnil, hcheck⟩⟩
          · exact .inr ⟨hids, .inr (.inl ⟨hbad, hcheck⟩)⟩
          · obtain ⟨named, hnamed, hsame⟩ := checkConcertOrder_ok hcheck
            exact .inr ⟨hids, .inr (.inr ⟨hgood, order, hcheck, named, hnamed, hsame⟩)⟩

/-- A request that the checks refuse sends nothing, and its code says why. -/
theorem SeatTrip.of_refused {code : Except CommitReply ConcertOrder}
    (hchecked : readChecked showingField payload = some code)
    (hseats : payload.get "seats" = .arr items) {refusal : CommitReply}
    (hcode : code = .error refusal) :
    SeatTrip payload showingField items records (some refusal) [] := by
  subst hcode
  have hne : ∀ item ∈ items, items ≠ [] := fun item hitem => List.ne_nil_of_mem hitem
  rcases @readChecked_cases payload showingField items hseats with
    ⟨hids, h | h⟩ | ⟨hids, ⟨hnil, h⟩ | ⟨hbad, h⟩ | ⟨_, order, _, h, _⟩⟩
  all_goals rw [hchecked] at h
  · cases h
  · obtain rfl := Except.error.inj (Option.some.inj h)
    constructor <;> simp [hids]
  · obtain rfl := Except.error.inj (Option.some.inj h)
    constructor <;> simp [hids, hnil, CommitReply.statusCode]
  · obtain rfl := Except.error.inj (Option.some.inj h)
    obtain ⟨item, hitem, hnone⟩ := hbad
    have hex : ∃ item ∈ items, ∀ seat, ¬ Denotes item seat := ⟨item, hitem, hnone⟩
    constructor <;> simp [hids, hex, hne item hitem, CommitReply.statusCode]
  · cases h

/-- A request that the checks let pass is not refused for its seats. -/
theorem SeatTrip.of_order {order : ConcertOrder}
    (hchecked : readChecked showingField payload = some (.ok order))
    (hseats : payload.get "seats" = .arr items)
    (hcodes : ∀ code, reply = some code → code.statusCode ≠ 400)
    (hqueued : ∀ bookingRef, reply = some (.queued bookingRef) → sent ≠ [])
    (harrive : ∀ message ∈ sent, Carries showingField order.seats message.2 ∧
      records message.2 order.seats.length) :
    SeatTrip payload showingField items records reply sent := by
  rcases @readChecked_cases payload showingField items hseats with
    ⟨_, h | h⟩ | ⟨hids, ⟨_, h⟩ | ⟨_, h⟩ | ⟨⟨hne, hgood⟩, found, named, h, hnamed, hsame⟩⟩
  all_goals rw [hchecked] at h
  case inr.inr.inr =>
    obtain rfl := Except.ok.inj (Option.some.inj h)
    have hnobad : ¬ ∃ item ∈ items, ∀ seat, ¬ Denotes item seat := by
      push Not
      exact hgood
    have hlength : named.eraseDups.length = named.toFinset.card :=
      length_eraseDups (hsame ▸ order.nodup)
    refine ⟨?_, hqueued, ?_, ?_, ?_⟩
    · intro message hmessage
      obtain ⟨hcarries, hrecords⟩ := harrive message hmessage
      rw [hsame] at hcarries hrecords
      exact ⟨named, hnamed, hcarries, hlength, hlength ▸ hrecords⟩
    · refine iff_of_false ?_ fun h => hnobad h.2
      intro hreply
      exact hcodes _ hreply rfl
    · refine iff_of_false ?_ fun h => hne h.2
      intro hreply
      exact hcodes _ hreply rfl
    · intro _
      refine iff_of_false ?_ (not_or.mpr ⟨hne, hnobad⟩)
      rintro ⟨code, hreply, hcode⟩
      exact hcodes code hreply hcode
  all_goals cases h

theorem SeatTrip.of_raised (hchecked : readChecked showingField payload = none)
    (hseats : payload.get "seats" = .arr items) :
    SeatTrip payload showingField items records none [] := by
  rcases @readChecked_cases payload showingField items hseats with
    ⟨hids, _⟩ | ⟨_, ⟨_, h⟩ | ⟨_, h⟩ | ⟨_, _, _, h, _⟩⟩
  · constructor <;> simp [hids]
  all_goals rw [hchecked] at h; cases h

end Requests

theorem carries_body (order : ConcertOrder) (bookingRef : String) :
    Carries "show_id" order.seats (order.body bookingRef) := by
  refine ⟨?_, _, order.decodeRequest_body bookingRef, rfl⟩
  simp [ConcertOrder.body, Json.item]

theorem carries_theater_body (order : TheaterOrder) (bookingRef : String) :
    Carries "schedule_id" order.seats (order.body bookingRef) := by
  refine ⟨?_, _, order.decodeRequest_body bookingRef, rfl⟩
  simp [TheaterOrder.body, Json.item]

theorem recordsConcert_body (order : ConcertOrder) (bookingRef : String) :
    RecordsConcert (order.body bookingRef) order.seats.length := by
  intro env codes db receipt remain next hcommit
  rcases processConcertBooking_cases env codes (order.body bookingRef) db with
    ⟨request, concertShow, found, left, after, hdecode, hrun, hbooked⟩ | ⟨_, hrefused⟩
  · rw [hcommit] at hrun
    cases hrun
    rw [order.decodeRequest_body] at hdecode
    obtain rfl := Option.some.inj hdecode
    obtain ⟨code, hreg, hrows⟩ := hbooked.concerts.bookings
    exact ⟨_, hrows, rfl, rfl⟩
  · rw [hcommit] at hrefused
    cases hrefused

theorem recordsTheater_body (order : TheaterOrder) (bookingRef : String) :
    RecordsTheater (order.body bookingRef) order.seats.length := by
  intro env codes db receipt remain next hcommit
  rcases processTheaterBooking_cases env codes (order.body bookingRef) db with
    ⟨request, schedule, seatIds, found, left, after, hdecode, hrun, hbooked⟩ | ⟨_, hrefused⟩
  · rw [hcommit] at hrun
    cases hrun
    rw [order.decodeRequest_body] at hdecode
    obtain rfl := Option.some.inj hdecode
    obtain ⟨code, hreg, hrows⟩ := hbooked.movies.bookings
    have hlength : order.seats.length = seatIds.length := hbooked.places.length_eq
    exact ⟨_, hrows, rfl, congrArg Int.ofNat hlength.symm⟩
  · rw [hcommit] at hrefused
    cases hrefused

section Commits

variable {payload : Json} {items : List Json}

theorem seatTrip_concert (hseats : payload.get "seats" = .arr items) (shards : Int)
    (sales : Int → Option Sale) (outcome : SendOutcome) (bookingRef : String) (store : HoldStore) :
    SeatTrip payload "show_id" items RecordsConcert
      (commitConcertBooking shards sales outcome payload bookingRef store).reply
      (commitConcertBooking shards sales outcome payload bookingRef store).sent := by
  unfold commitConcertBooking
  split
  next hread => exact .of_raised hread hseats
  next refusal hread => exact .of_refused hread hseats rfl
  next order hread =>
    have harrive := And.intro (carries_body order bookingRef) (recordsConcert_body order bookingRef)
    split
    next =>
      split
      next =>
        refine .of_order hread hseats ?_ ?_ ?_
        · cases hsent : (sendBookingMessage shards order bookingRef outcome).1 <;>
            simp [CommitReply.statusCode]
        · cases outcome with
          | sent | disabled | noQueueUrl => simp [sendBookingMessage]
          | failed delivered => cases delivered <;> simp [sendBookingMessage]
        · cases outcome with
          | sent => simpa [sendBookingMessage] using harrive
          | disabled | noQueueUrl => simp [sendBookingMessage]
          | failed delivered => cases delivered <;> simp [sendBookingMessage, harrive]
      next => exact .of_order hread hseats (by simp [CommitReply.statusCode]) (by simp) (by simp)
    next => exact .of_order hread hseats (by simp [CommitReply.statusCode]) (by simp) (by simp)

theorem seatTrip_theater (hseats : payload.get "seats" = .arr items) (outcome : SendOutcome)
    (bookingRef : String) :
    SeatTrip payload "schedule_id" items RecordsTheater
      (commitBooking outcome payload bookingRef).reply
      (commitBooking outcome payload bookingRef).sent := by
  unfold commitBooking
  rw [readTheaterOrder_eq]
  cases hread : readChecked "schedule_id" payload with
  | none => exact .of_raised hread hseats
  | some checked =>
      cases checked with
      | error refusal => exact .of_refused hread hseats rfl
      | ok order =>
          have harrive : Carries "schedule_id" order.seats
                ((TheaterOrder.mk order).body bookingRef) ∧
              RecordsTheater ((TheaterOrder.mk order).body bookingRef) order.seats.length :=
            ⟨carries_theater_body ⟨order⟩ bookingRef, recordsTheater_body ⟨order⟩ bookingRef⟩
          dsimp only [Option.map_some, Except.map]
          cases outcome with
          | sent =>
              refine .of_order hread hseats (by simp [CommitReply.statusCode]) (by simp) ?_
              simpa using harrive
          | disabled | noQueueUrl =>
              exact .of_order hread hseats (by simp) (by simp) (by simp)
          | failed delivered =>
              refine .of_order hread hseats (by cases delivered <;> simp)
                (by cases delivered <;> simp) ?_
              cases delivered with
              | false => simp
              | true => simpa using harrive

/-- Whatever list of items a request has, in both APIs: a message that is sent
carries what the items denote, each position once, in the order of the first
mentions, the handler reads just that, and books that number of seats; and apart
from an empty list the seats are a reason to refuse exactly if some item denotes
no position. -/
theorem requested_seats_arrive (hseats : payload.get "seats" = .arr items) :
    (∀ shards sales outcome bookingRef store,
      SeatTrip payload "show_id" items RecordsConcert
        (commitConcertBooking shards sales outcome payload bookingRef store).reply
        (commitConcertBooking shards sales outcome payload bookingRef store).sent) ∧
    ∀ outcome bookingRef, SeatTrip payload "schedule_id" items RecordsTheater
      (commitBooking outcome payload bookingRef).reply
      (commitBooking outcome payload bookingRef).sent :=
  ⟨seatTrip_concert hseats, seatTrip_theater hseats⟩

end Commits

/-- Seat 3-4 in two spellings, and seat 1-1. -/
def spelledPayload : Json := concertPayload 7 [.str " 3-0_4", .str "+3- 4 ", .str "1-1"]

theorem requested_seats_arrive_spelled :
    SeatTrip spelledPayload "show_id" [.str " 3-0_4", .str "+3- 4 ", .str "1-1"] RecordsConcert
        (commitConcertBooking 64 (fun _ => none) .sent spelledPayload "first" .empty).reply
        (commitConcertBooking 64 (fun _ => none) .sent spelledPayload "first" .empty).sent ∧
      ((commitConcertBooking 64 (fun _ => none) .sent spelledPayload "first" .empty).sent.map
        fun message => (decodeRequest "show_id" message.2).map fun request =>
          request.seats.map fun seat => (seat.row, seat.col)) = [some [(3, 4), (1, 1)]] :=
  ⟨(requested_seats_arrive rfl).1 64 _ _ _ _, by decide +kernel⟩

/-- A schedule and no seat at all. -/
def noSeatPayload : Json :=
  .obj [("user_id", .int 7), ("schedule_id", .int 1), ("seats", .arr [])]

/-- An empty list is refused, with no item that could denote a wrong position. -/
theorem empty_list_refused :
    ¬ ((∃ code, (commitBooking .sent noSeatPayload "first").reply = some code ∧
        code.statusCode = 400) ↔ ∃ item ∈ ([] : List Json), ∀ seat, ¬ Denotes item seat) := by
  intro h
  obtain ⟨item, hitem, _⟩ := h.mp ⟨.noSeats, rfl, rfl⟩
  cases hitem

end Ticketing
