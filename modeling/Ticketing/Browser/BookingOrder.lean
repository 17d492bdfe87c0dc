import Mathlib.Algebra.Order.Ring.Int
import Ticketing.Browser.BookingRun
import Ticketing.Concert.Grid
import Ticketing.SeatText
import Ticketing.Worker.Refusal

/-!
# What a modal posts is an order

The commits of the booking modals as the write APIs and the worker read them. The seats
arrive as they were selected. Nothing that a modal posts is refused for its seats, as
long as the hall it shows is the one in the database.
-/

namespace Ticketing

open Foundation JavaScript Python

/-! ## The request -/

/-- The body of the POST. -/
def BookingCommit.payload (options : BookingOptions) (commit : BookingCommit) : Json :=
  let showingField :=
    match options.kind with
    | .concert => "show_id"
    | .theater => "schedule_id"
  .obj [("user_id", .str commit.userId), (showingField, .int options.showingId),
    ("seats", .arr (commit.seats.map .str))]

/-- The order that a write API reads from a request; schedules stand where the checks
have shows. -/
def readPosted (kind : ModalKind) (payload : Json) : Option (Except CommitReply ConcertOrder) :=
  match kind with
  | .concert => readConcertOrder payload
  | .theater => (readTheaterOrder payload).map (Except.map TheaterOrder.checked)

/-- The seats of a hall. -/
def ConcertHall.Covers (hall : ConcertHall) (seat : Seat) : Prop :=
  (seat.row : Int) ≤ hall.seatRows ∧ (seat.col : Int) ≤ hall.seatCols

/-- Rows and columns that Python can write. -/
def ConcertHall.Written (hall : ConcertHall) : Prop :=
  hall.seatRows < 10 ^ maxStrDigits ∧ hall.seatCols < 10 ^ maxStrDigits

/-! ## Ids of digits -/

section Digits

variable {text : List Char}

theorem digitsValue_pos {digits : List Nat} (h : ∃ d ∈ digits, d ≠ 0) : 0 < digitsValue digits := by
  have hkeeps : ∀ digits : List Nat, ∀ acc : Nat, (0 < acc ∨ ∃ d ∈ digits, d ≠ 0) →
      0 < digits.foldl (fun acc d => 10 * acc + d) acc := by
    intro digits
    induction digits with
    | nil =>
        intro acc hacc
        simpa using hacc
    | cons d rest ih =>
        intro acc hacc
        refine ih (10 * acc + d) ?_
        rcases hacc with hacc | ⟨other, hother, hne⟩
        · exact .inl (by omega)
        · rcases List.mem_cons.mp hother with rfl | hrest
          · exact .inl (by omega)
          · exact .inr ⟨other, hrest, hne⟩
  exact hkeeps digits 0 (.inr h)

theorem intOfStr_of_isDigit (hne : text ≠ []) (hdigits : ∀ c ∈ text, c.isDigit = true) :
    intOfStr text = if text.length ≤ maxStrDigits then
      some (digitsValue (text.map fun c => c.toNat - 48) : Int) else none := by
  have hnat : natOfDigits text = if text.length ≤ maxStrDigits then
      some (digitsValue (text.map fun c => c.toNat - 48)) else none := by
    unfold natOfDigits
    rw [digitRun_of_isDigit hne hdigits]
    simp only [List.length_map]
  unfold intOfStr
  rw [trim_eq_self fun c hc => isIntSpace_of_isDigit (hdigits c hc)]
  split
  next digits =>
    have hminus := hdigits '-' List.mem_cons_self
    exact absurd hminus (by decide)
  next digits =>
    have hplus := hdigits '+' List.mem_cons_self
    exact absurd hplus (by decide)
  next =>
    rw [hnat]
    split <;> rfl

/-- The id that the modals send is a positive number to the server, unless it is too
long for `int()`. -/
theorem toInt_modalUserId {browser : Browser} (huser : modalUserId browser ≠ "") :
    ∃ n : Int, (Json.str (modalUserId browser)).toInt 0 = some n ∧
      (0 < n ↔ (modalUserId browser).length ≤ maxStrDigits) := by
  unfold modalUserId at huser ⊢
  dsimp only at huser ⊢
  split at huser
  next hraw =>
    obtain ⟨hne, hdigits, hsome⟩ := hraw
    rw [if_pos ⟨hne, hdigits, hsome⟩]
    simp only [Json.toInt, String.toList_ofList, String.length_ofList,
      intOfStr_of_isDigit hne (List.all_eq_true.mp hdigits)]
    refine ⟨_, rfl, ?_⟩
    split
    next hshort =>
      refine iff_of_true ?_ hshort
      obtain ⟨c, hc, hzero⟩ := List.any_eq_true.mp hsome
      obtain ⟨hlow, _⟩ := (isDigit_iff_toNat c).mp (List.all_eq_true.mp hdigits c hc)
      refine Int.natCast_pos.mpr (digitsValue_pos ⟨_, List.mem_map_of_mem hc, fun hnone => ?_⟩)
      -- a digit that counts nothing is the zero
      have hcode : c.toNat = '0'.toNat := by
        change c.toNat = 48
        omega
      exact of_decide_eq_true hzero (Char.toNat_inj.mp hcode)
    next hlong => exact iff_of_false (by simp) hlong
  next => exact absurd rfl huser

end Digits

/-! ## Seats -/

section Seats

variable {hall : ConcertHall} {selected : List String}

theorem createSeatKey_eq_key (seat : Seat) : createSeatKey seat.row seat.col = seat.key := rfl

/-- A selection is the keys of different seats of the hall. -/
theorem ConcertHall.Selection.exists_seats (h : hall.Selection selected) :
    ∃ seats : List Seat, selected = seats.map Seat.key ∧ seats.Nodup ∧
      ∀ seat ∈ seats, hall.Covers seat := by
  have hseats : ∀ keys : List String, (∀ key ∈ keys, hall.IsSeatKey key) →
      ∃ seats : List Seat, keys = seats.map Seat.key ∧ ∀ seat ∈ seats, hall.Covers seat := by
    intro keys
    induction keys with
    | nil => exact fun _ => ⟨[], rfl, by simp⟩
    | cons key rest ih =>
        intro hkeys
        obtain ⟨hkey, hrest⟩ := List.forall_mem_cons.mp hkeys
        obtain ⟨row, col, hrow, hrows, hcol, hcols, rfl⟩ := hkey
        obtain ⟨seats, hmap, hcovers⟩ := ih hrest
        obtain ⟨r, rfl⟩ := Int.eq_ofNat_of_zero_le (by omega : 0 ≤ row)
        obtain ⟨c, rfl⟩ := Int.eq_ofNat_of_zero_le (by omega : 0 ≤ col)
        refine ⟨⟨r, c, by omega, by omega⟩ :: seats, congrArg (_ :: ·) hmap, ?_⟩
        exact List.forall_mem_cons.mpr ⟨⟨hrows, hcols⟩, hcovers⟩
  obtain ⟨seats, rfl, hcovers⟩ := hseats selected h.isSeatKey
  exact ⟨seats, rfl, h.nodup.of_map _, hcovers⟩

theorem ConcertHall.Covers.writable (hwritten : hall.Written) {seat : Seat}
    (h : hall.Covers seat) : seat.Writable := by
  have hshort : ∀ n : Nat, (n : Int) < 10 ^ maxStrDigits →
      (Nat.toDigits 10 n).length ≤ maxStrDigits := by
    intro n hn
    rw [Nat.length_toDigits_le_iff (by decide) (by decide)]
    exact_mod_cast hn
  exact ⟨hshort _ (h.1.trans_lt hwritten.1), hshort _ (h.2.trans_lt hwritten.2)⟩

/-- The loop of the write APIs keeps the keys of different seats as they are. -/
theorem collectSeats_keys {seats parsed : List Seat} (hnodup : (parsed ++ seats).Nodup)
    (hwritable : ∀ seat ∈ seats, seat.Writable) :
    collectSeats (seats.map fun seat => .str seat.key) parsed = some (parsed ++ seats) := by
  induction seats generalizing parsed with
  | nil => simp [collectSeats]
  | cons seat rest ih =>
      obtain ⟨hseat, hrest⟩ := List.forall_mem_cons.mp hwritable
      have hnew : seat ∉ parsed := by
        intro hmem
        exact (List.nodup_append.mp hnodup).2.2 seat hmem seat List.mem_cons_self rfl
      rw [List.append_cons] at hnodup
      rw [List.map_cons, collectSeats, parseSeatKey_key hseat]
      dsimp only
      rw [if_neg hnew, ih hnodup hrest, ← List.append_cons]

end Seats

/-! ## The write APIs -/

section Orders

variable {options : BookingOptions} {commit : BookingCommit}

theorem checkConcertOrder_fields {userId showId : Int} {items : List Json} {order : ConcertOrder}
    (h : checkConcertOrder userId showId (.arr items) = .ok order) :
    order.showId = showId ∧ collectSeats items [] = some order.seats := by
  unfold checkConcertOrder at h
  split at h
  next =>
    split at h
    next => cases h
    next _ found _ heq =>
      obtain rfl := Json.arr.inj heq
      split at h
      next => cases h
      next parsed hcollect =>
        split at h
        next => cases h
        next =>
          obtain rfl := Except.ok.inj h
          exact ⟨rfl, hcollect⟩
    next hno => exact absurd rfl (hno items)
  next => cases h

theorem checkConcertOrder_of_bad_ids {userId showId : Int} {seats : Json}
    (h : ¬ (0 < userId ∧ 0 < showId)) : checkConcertOrder userId showId seats = .error .badRequest :=
  dif_neg h

theorem readPosted_payload :
    readPosted options.kind (commit.payload options) =
      ((Json.str commit.userId).toInt 0).map fun userId =>
        checkConcertOrder userId options.showingId
          ((Json.arr (commit.seats.map .str)).orElse (.arr [])) := by
  unfold readPosted BookingCommit.payload
  cases options.kind with
  | concert => rfl
  | theater =>
      cases huser : (Json.str commit.userId).toInt 0 with
      | none => simp [readTheaterOrder, Json.get, Json.item, huser]
      | some userId =>
          simp only [readTheaterOrder, Json.get, Json.item]
          simp [huser]
          cases checkConcertOrder userId options.showingId
            ((Json.arr (commit.seats.map .str)).orElse (.arr [])) <;> rfl

/-- What a write API reads from a commit is its seats and its showing. -/
theorem order_of_posted (hwritten : options.hall.Written) (hallowed : commit.Allowed options.hall)
    {order : ConcertOrder}
    (horder : readPosted options.kind (commit.payload options) = some (.ok order)) :
    order.showId = options.showingId ∧ order.seats.map Seat.key = commit.seats ∧
      ∀ seat ∈ order.seats, options.hall.Covers seat ∧ seat.key ∉ options.hall.reservedSeats := by
  obtain ⟨seats, hseats, hnodup, hcovers⟩ := hallowed.selection.exists_seats
  rw [readPosted_payload, orElse_arr] at horder
  obtain ⟨userId, _, hcheck⟩ := Option.map_eq_some_iff.mp horder
  obtain ⟨hshow, hcollect⟩ := checkConcertOrder_fields hcheck
  have hkeys : collectSeats (commit.seats.map Json.str) [] = some seats := by
    rw [hseats, List.map_map]
    exact collectSeats_keys hnodup fun seat hseat => (hcovers seat hseat).writable hwritten
  obtain rfl := Option.some.inj (hcollect.symm.trans hkeys)
  refine ⟨hshow, hseats.symm, fun seat hseat => ⟨hcovers seat hseat, ?_⟩⟩
  apply hallowed.selection.not_reserved
  rw [hseats]
  exact List.mem_map_of_mem hseat

/-- A write API takes a commit for an order, unless the id of its user is too long. -/
theorem exists_order_iff (hwritten : options.hall.Written) (hshowing : 0 < options.showingId)
    (hallowed : commit.Allowed options.hall) :
    (∃ order, readPosted options.kind (commit.payload options) = some (.ok order)) ↔
      commit.userId.length ≤ maxStrDigits := by
  obtain ⟨seats, hseats, hnodup, hcovers⟩ := hallowed.selection.exists_seats
  obtain ⟨browser, huser, hlogged⟩ := hallowed.user
  obtain ⟨userId, hread, hpos⟩ := toInt_modalUserId hlogged
  rw [← huser] at hread hpos
  rw [readPosted_payload, hread, ← hpos, Option.map_some, orElse_arr]
  rcases checkConcertOrder_cases userId options.showingId (commit.seats.map Json.str) with
    ⟨hbad, hcheck⟩ | ⟨hids, ⟨hnil, _⟩ | ⟨⟨item, hitem, hbad⟩, _⟩ | ⟨_, order, horder⟩⟩
  · rw [hcheck]
    exact iff_of_false (by simp) fun hid => hbad ⟨hid, hshowing⟩
  · exact absurd (List.map_eq_nil_iff.mp hnil) hallowed.nonempty
  · rw [hseats, List.map_map] at hitem
    obtain ⟨seat, hseat, rfl⟩ := List.mem_map.mp hitem
    have hparsed := parseSeatKey_key ((hcovers seat hseat).writable hwritten)
    exact absurd (parseSeatKey_eq_some_iff.mp hparsed) (hbad seat)
  · exact iff_of_true ⟨order, congrArg some horder⟩ hids.1

/-- In any run of a modal, a write API takes a commit for an order with just the seats
that were selected, or else the id of the user has more digits than `int()` reads. -/
theorem posted_seats_arrive (hwritten : options.hall.Written) (hshowing : 0 < options.showingId)
    {steps : List ModalStep} {m : BookingModal}
    (hrun : (modalMachine options).run (openBookingModal options) steps = some m)
    (hcommit : commit ∈ m.commits) :
    ((∃ order, readPosted options.kind (commit.payload options) = some (.ok order)) ↔
        commit.userId.length ≤ maxStrDigits) ∧
      ∀ order, readPosted options.kind (commit.payload options) = some (.ok order) →
        order.showId = options.showingId ∧ order.seats.map Seat.key = commit.seats := by
  have hallowed := (modalMachine_sound hrun).allowed commit hcommit
  refine ⟨exists_order_iff hwritten hshowing hallowed, fun order horder => ?_⟩
  obtain ⟨hshow, hseats, _⟩ := order_of_posted hwritten hallowed horder
  exact ⟨hshow, hseats⟩

end Orders

/-! ## The worker -/

/-- The verdict of the handler on the message for an order. -/
def handlePosted (kind : ModalKind) (env : Env) (codes : Nat → String) (order : ConcertOrder)
    (bookingRef : String) (db : Db) : Verdict :=
  match kind with
  | .concert => (processConcertBooking env codes (order.body bookingRef) db).1
  | .theater => (processTheaterBooking env codes ((TheaterOrder.mk order).body bookingRef) db).1

/-- The showing, if there is one, has the seat. -/
def ShowingHas (options : BookingOptions) (db : Db) (seat : Seat) : Prop :=
  match options.kind with
  | .concert => ∀ concertShow, db.concertShows.find options.showingId = some concertShow →
      concertShow.HasSeat seat
  | .theater => ∀ schedule, selectSchedule options.showingId db = some schedule →
      ∃ seatId, SeatAt db schedule.hallId seat seatId

section Handled

variable {options : BookingOptions} {db : Db} {order : ConcertOrder} {bookingRef : String}

theorem handlePosted_invalidSeat {env : Env} {codes : Nat → String}
    (hshow : order.showId = options.showingId)
    (h : handlePosted options.kind env codes order bookingRef db = .refused .invalidSeat) :
    ∃ seat ∈ order.seats, ¬ ShowingHas options db seat := by
  unfold handlePosted at h
  unfold ShowingHas
  cases hkind : options.kind with
  | concert =>
      rw [hkind] at h
      obtain ⟨concertShow, hfind, seat, hseat, hmissing⟩ :=
        processConcertBooking_invalidSeat (order.decodeRequest_body bookingRef) h
      exact ⟨seat, hseat, fun hhas => hmissing (hhas concertShow (hshow ▸ hfind))⟩
  | theater =>
      rw [hkind] at h
      obtain ⟨schedule, hfind, seat, hseat, hmissing⟩ :=
        processTheaterBooking_invalidSeat
          ((TheaterOrder.mk order).decodeRequest_body bookingRef) h
      refine ⟨seat, hseat, fun hhas => ?_⟩
      obtain ⟨seatId, hat⟩ := hhas schedule (hshow ▸ hfind)
      exact hmissing seatId hat

theorem handlePosted_refuses (codes : Nat → String) (hshow : order.showId = options.showingId)
    (h : ∃ seat ∈ order.seats, ¬ ShowingHas options db seat) :
    handlePosted options.kind .quiet codes order bookingRef db = .refused .invalidSeat := by
  obtain ⟨seat, hseat, hmissing⟩ := h
  unfold ShowingHas at hmissing
  unfold handlePosted
  cases hkind : options.kind with
  | concert =>
      rw [hkind] at hmissing
      simp only [not_forall] at hmissing
      obtain ⟨concertShow, hfind, hnot⟩ := hmissing
      exact processConcertBooking_refuses rfl (fun _ => rfl) (order.decodeRequest_body bookingRef)
        (hshow ▸ hfind) ⟨seat, hseat, hnot⟩
  | theater =>
      rw [hkind] at hmissing
      simp only [not_forall, not_exists] at hmissing
      obtain ⟨schedule, hfind, hnot⟩ := hmissing
      rw [← hshow] at hfind
      exact processTheaterBooking_refuses rfl (fun _ => rfl)
        ((TheaterOrder.mk order).decodeRequest_body bookingRef) hfind ⟨seat, hseat, hnot⟩

/-- A seat that is not reserved can be posted by itself. -/
theorem exists_posted {seat : Seat} (hcovers : options.hall.Covers seat)
    (hfree : seat.key ∉ options.hall.reservedSeats) :
    ∃ steps m commit, (modalMachine options).run (openBookingModal options) steps = some m ∧
      commit ∈ m.commits ∧ commit.seats = [seat.key] ∧ commit.userId = "7" := by
  let selecting := select options [seat.key] (openBookingModal options)
  let confirming := setStep options .confirm selecting
  have hrow := Int.natCast_pos.mpr seat.row_pos
  have hcol := Int.natCast_pos.mpr seat.col_pos
  have hclick : modalStep options (openBookingModal options) (.seat seat.row seat.col) =
      some selecting := by
    unfold modalStep
    rw [if_neg (by simp [openBookingModal, setStep])]
    dsimp only
    rw [if_pos ⟨rfl, rfl, by omega, hcovers.1, by omega, hcovers.2⟩, createSeatKey_eq_key,
      clickSeat, if_neg hfree, toggleSeat]
    rw [if_neg (by simp [openBookingModal, setStep]),
      if_neg (by simp [openBookingModal, setStep])]
    rfl
  have hconfirm : modalStep options selecting (.submit someBrowser) = some confirming := rfl
  have hpost : modalStep options confirming (.submit someBrowser) =
      some (clickSubmit options someBrowser confirming) := rfl
  refine ⟨[.seat seat.row seat.col, .submit someBrowser, .submit someBrowser],
    clickSubmit options someBrowser confirming, ⟨"7", [seat.key], .committing⟩, ?_, ?_, rfl, rfl⟩
  · refine Machine.run_cons_eq_some _ |>.mpr ⟨_, hclick, ?_⟩
    refine Machine.run_cons_eq_some _ |>.mpr ⟨_, hconfirm, ?_⟩
    exact Machine.run_cons_eq_some _ |>.mpr ⟨_, hpost, rfl⟩
  · exact List.mem_singleton_self _

/-- No order that comes from a modal, in any run of it, is ever answered INVALID_SEAT:
exactly if the showing has every seat of the grid that the modal lets select. -/
theorem never_invalidSeat_iff (options : BookingOptions) (db : Db)
    (hwritten : options.hall.Written) (hshowing : 0 < options.showingId) :
    (∀ steps m commit order env codes bookingRef,
      (modalMachine options).run (openBookingModal options) steps = some m →
      commit ∈ m.commits → readPosted options.kind (commit.payload options) = some (.ok order) →
        handlePosted options.kind env codes order bookingRef db ≠ .refused .invalidSeat) ↔
      ∀ seat, options.hall.Covers seat → seat.key ∉ options.hall.reservedSeats →
        ShowingHas options db seat := by
  constructor
  · intro hnever seat hcovers hfree
    by_contra hmissing
    obtain ⟨steps, m, commit, hrun, hcommit, hseats, huser⟩ := exists_posted hcovers hfree
    have hallowed := (modalMachine_sound hrun).allowed commit hcommit
    obtain ⟨order, horder⟩ :=
      (exists_order_iff hwritten hshowing hallowed).mpr (by rw [huser]; decide)
    obtain ⟨hshow, hkeys, _⟩ := order_of_posted hwritten hallowed horder
    have hmem : seat.key ∈ order.seats.map Seat.key := by simp [hkeys, hseats]
    obtain ⟨other, hother, hkey⟩ := List.mem_map.mp hmem
    obtain rfl := Seat.key_injective hkey
    exact hnever steps m commit order .quiet (fun _ => "") "ref" hrun hcommit horder
      (handlePosted_refuses _ hshow ⟨other, hother, hmissing⟩)
  · intro hhas steps m commit order env codes bookingRef hrun hcommit horder hrefused
    have hallowed := (modalMachine_sound hrun).allowed commit hcommit
    obtain ⟨hshow, _, hseats⟩ := order_of_posted hwritten hallowed horder
    obtain ⟨seat, hseat, hmissing⟩ := handlePosted_invalidSeat hshow hrefused
    exact hmissing (hhas seat (hseats seat hseat).1 (hseats seat hseat).2)

end Handled

/-! ## A show of two seats -/

/-- The grid of the show in the database. -/
def twoSeatOptions : BookingOptions :=
  ⟨.concert, .ofShow (.object [("seat_rows", .number 1), ("seat_cols", .number 2),
    ("remain_count", .number 2), ("price", .number 1000)]) (.array []), 1⟩

theorem twoSeatOptions_written : twoSeatOptions.hall.Written := by
  have hpow : (10 : Int) ^ 1 ≤ 10 ^ maxStrDigits := pow_le_pow_right₀ (by decide) (by decide)
  exact ⟨lt_of_lt_of_le (by decide) hpow, lt_of_lt_of_le (by decide) hpow⟩

theorem twoSeatOptions_has (seat : Seat) (hcovers : twoSeatOptions.hall.Covers seat) :
    ShowingHas twoSeatOptions twoSeatDb seat := by
  intro concertShow hfind
  obtain rfl : twoSeatShow = concertShow := Option.some.inj hfind
  exact hcovers

/-- The modal posts the first seat. -/
theorem twoSeatOptions_posts : ∃ m commit,
    (modalMachine twoSeatOptions).run (openBookingModal twoSeatOptions) postFirstSeat = some m ∧
      commit ∈ m.commits ∧ commit.userId = "7" ∧ commit.seats = ["1-1"] :=
  ⟨_, _, rfl, List.mem_singleton_self _, rfl, rfl⟩

theorem posted_seats_arrive_first : ∃ m commit order,
    (modalMachine twoSeatOptions).run (openBookingModal twoSeatOptions) postFirstSeat = some m ∧
      commit ∈ m.commits ∧
      readPosted twoSeatOptions.kind (commit.payload twoSeatOptions) = some (.ok order) ∧
      order.showId = 1 ∧ order.seats.map Seat.key = ["1-1"] := by
  obtain ⟨m, commit, hrun, hcommit, huser, hseats⟩ := twoSeatOptions_posts
  obtain ⟨hread, hall⟩ := posted_seats_arrive twoSeatOptions_written (by decide) hrun hcommit
  obtain ⟨order, horder⟩ := hread.mpr (by rw [huser]; decide)
  obtain ⟨hshow, hkeys⟩ := hall order horder
  exact ⟨m, commit, order, hrun, hcommit, horder, hshow, hkeys.trans hseats⟩

theorem never_invalidSeat_iff_first : ∃ m commit order,
    (modalMachine twoSeatOptions).run (openBookingModal twoSeatOptions) postFirstSeat = some m ∧
      commit ∈ m.commits ∧
      readPosted twoSeatOptions.kind (commit.payload twoSeatOptions) = some (.ok order) ∧
      handlePosted .concert .quiet (fun _ => "code") order "ref" twoSeatDb ≠
        .refused .invalidSeat := by
  obtain ⟨m, commit, hrun, hcommit, huser, _⟩ := twoSeatOptions_posts
  have hallowed := (modalMachine_sound hrun).allowed commit hcommit
  obtain ⟨order, horder⟩ :=
    (exists_order_iff twoSeatOptions_written (by decide) hallowed).mpr (by rw [huser]; decide)
  exact ⟨m, commit, order, hrun, hcommit, horder,
    (never_invalidSeat_iff twoSeatOptions twoSeatDb twoSeatOptions_written (by decide)).mpr
      (fun seat hcovers _ => twoSeatOptions_has seat hcovers) postFirstSeat m commit order .quiet
      (fun _ => "code") "ref" hrun hcommit horder⟩

end Ticketing
