import Ticketing.Browser.Dataset
import Ticketing.Foundation.Patches

/-!
# A theater detail merged into the dataset

After a booking the page reads the detail of the theater again. `mergeTheaterDetailSlice`
goes over the schedules of the detail, and then over the keys of its `reservedSeats`.
A schedule without a reserved seat has no key there, so its old seats are kept.
-/

namespace Ticketing

open Foundation JavaScript Python

/-! ## `mergeTheaterDetailSlice` -/

/-- What is written into the schedule that `incoming` belongs to. -/
def followRow (incoming : Value) (existing : DatasetSchedule) : DatasetSchedule :=
  { existing with
    remainCount := max 0 (toInt (incoming.get "remain_count"))
    status := toUpperCase (((incoming.get "status").orElse (.string existing.status)).orElse
      (.string "OPEN")).toText
    totalCount :=
      if (incoming.get "total_count").isNullish then existing.totalCount
      else max 0 (toInt (incoming.get "total_count")) }

theorem scheduleId_followRow (incoming : Value) (existing : DatasetSchedule) :
    (followRow incoming existing).scheduleId = existing.scheduleId := rfl

def rowId (incoming : Value) : Int := toInt (incoming.get "schedule_id")

/-- The loop over the rows. It ends early, with false, at a row that is null. -/
def mergeRows : List Value → List DatasetSchedule → List DatasetSchedule × Bool
  | [], schedules => (schedules, true)
  | incoming :: rest, schedules =>
      if incoming.isNullish then (schedules, false)
      else mergeRows rest
        (patchFirst DatasetSchedule.scheduleId rowId followRow incoming schedules)

/-- The items of an array; nothing otherwise. -/
def arrayItems : Value → List Value
  | .array items => items
  | _ => []

def mergeTheaterDetailSlice (dataset : Dataset) (detail : Value) : Dataset :=
  if detail.isObject then
    let (schedules, finished) := mergeRows (arrayItems (detail.get "schedules")) dataset.schedules
    { dataset with
      schedules := schedules
      reservedSeats :=
        if finished then writeSeatLists (detail.get "reservedSeats") dataset.reservedSeats
        else dataset.reservedSeats }
  else dataset

/-! ## The detail as it is sent -/

def TheaterDetail.toPy (detail : TheaterDetail) : PyValue :=
  .dict [("theater", detail.theater.toPy),
    ("halls", .list (detail.halls.map HallPayload.toPy)),
    ("movies", .list (detail.movies.map Row.toPy)),
    ("schedules", .list (detail.schedules.map SchedulePayload.toPy)),
    ("reservedSeats", detail.reservedSeats.toPy)]

/-- On a cache miss, and on a hit. -/
def TheaterDetail.bodies (detail : TheaterDetail) : List Json :=
  [detail.toPy.jsonable, detail.toPy.dumped]

/-- What every detail has that is cut out of a payload. -/
structure TheaterDetail.Served (detail : TheaterDetail) : Prop where
  scheduleIds : (detail.schedules.map SchedulePayload.scheduleId).Nodup
  counts : ∀ row ∈ detail.schedules, 0 ≤ row.remainCount ∧ 0 ≤ row.totalCount
  reservedSeats : ∀ scheduleId ∈ detail.reservedSeats,
    scheduleId ∈ detail.schedules.map SchedulePayload.scheduleId
  seats_ne_nil : ∀ scheduleId ∈ detail.reservedSeats,
    detail.reservedSeats.ofSchedule scheduleId ≠ []

/-- The merged dataset has the schedules of the old one. Those of the detail are as the
detail has them, with no seats if it has no key for them, and the others are as before. -/
structure Dataset.Follows (merged dataset : Dataset) (detail : TheaterDetail) : Prop where
  scheduleIds : merged.schedules.map DatasetSchedule.scheduleId =
    dataset.schedules.map DatasetSchedule.scheduleId
  listed : ∀ schedule ∈ merged.schedules, ∀ row ∈ detail.schedules,
    row.scheduleId = schedule.scheduleId →
      schedule.remainCount = row.remainCount ∧ schedule.totalCount = row.totalCount ∧
        schedule.status = row.status.text ∧
          merged.seatsOf row.scheduleId = detail.reservedSeats.ofSchedule row.scheduleId
  others : ∀ schedule ∈ dataset.schedules,
    schedule.scheduleId ∉ detail.schedules.map SchedulePayload.scheduleId →
      schedule ∈ merged.schedules ∧
        merged.seatsOf schedule.scheduleId = dataset.seatsOf schedule.scheduleId

/-- The detail has a key for every schedule in both of which the page shows seats. -/
def TheaterDetail.Covers (detail : TheaterDetail) (dataset : Dataset) : Prop :=
  ∀ schedule ∈ dataset.schedules,
    schedule.scheduleId ∈ detail.schedules.map SchedulePayload.scheduleId →
      schedule.scheduleId ∈ detail.reservedSeats ∨ dataset.seatsOf schedule.scheduleId = []

section Served

variable {catalog : Catalog} {movieMap : MovieMap} {second third fourth : Db} {theaterId : Int}
  {detail : TheaterDetail}

theorem fetch_counts {row : SchedulePayload}
    (hrow : row ∈ (fetchBootstrapFromDb catalog movieMap second third fourth).schedules) :
    0 ≤ row.remainCount ∧ 0 ≤ row.totalCount := by
  obtain ⟨schedule, _, _, _, rfl⟩ := mem_schedules.mp hrow
  exact ⟨le_max_left _ _, le_trans schedule.chk_remain_count schedule.chk_valid_count⟩

/-- A list of seats begins with a seat. -/
theorem appendReserved_ne_nil {valid : List Int} {rows : List ReservedRow}
    {reserved : ReservedSeats}
    (hstart : ∀ scheduleId ∈ reserved, reserved.ofSchedule scheduleId ≠ []) :
    ∀ scheduleId ∈ appendReserved valid rows reserved,
      (appendReserved valid rows reserved).ofSchedule scheduleId ≠ [] := by
  induction rows generalizing reserved with
  | nil => exact hstart
  | cons row rest ih =>
      rw [appendReserved]
      apply ih
      split
      next => exact hstart
      next =>
        intro scheduleId hkey
        by_cases hid : scheduleId = row.scheduleId
        · subst hid
          rw [ReservedSeats.ofSchedule, AList.lookup_insert, Option.getD_some]
          exact List.append_ne_nil_of_right_ne_nil _ (List.cons_ne_nil _ _)
        · rw [ReservedSeats.ofSchedule, AList.lookup_insert_ne hid]
          exact hstart scheduleId (((AList.mem_insert _).mp hkey).resolve_left hid)

theorem fetch_seats_ne_nil {scheduleId : Int}
    (hkey : scheduleId ∈
      (fetchBootstrapFromDb catalog movieMap second third fourth).reservedSeats) :
    (fetchBootstrapFromDb catalog movieMap second third fourth).reservedSeats.ofSchedule
      scheduleId ≠ [] :=
  appendReserved_ne_nil (fun _ hnone => by cases hnone) scheduleId hkey

/-- Whatever the four SELECTs have seen. -/
theorem theaterDetail_served
    (h : theaterDetailFromBootstrap (fetchBootstrapFromDb catalog movieMap second third fourth)
      theaterId = some detail) : detail.Served := by
  obtain ⟨theater, _, rfl⟩ := Option.map_eq_some_iff.mp h
  constructor
  · exact fetch_scheduleIds_nodup.sublist (List.filter_sublist.map _)
  · intro row hrow
    exact fetch_counts (List.mem_filter.mp hrow).1
  · intro scheduleId hkey
    exact mem_slice_reservedSeats hkey
  · intro scheduleId hkey
    obtain ⟨seats, hseats⟩ := Option.isSome_iff_exists.mp (AList.lookup_isSome.mpr hkey)
    have hlookup := (ReservedSeats.lookup_restrict.mp hseats).1
    have hpayload := fetch_seats_ne_nil (AList.lookup_isSome.mp (Option.isSome_of_eq_some hlookup))
    rw [ReservedSeats.ofSchedule, hlookup] at hpayload
    rw [ReservedSeats.ofSchedule, hseats]
    exact hpayload

/-- The detail fails to cover just the lists that have become empty. -/
theorem TheaterDetail.Served.covers_iff (h : detail.Served) (dataset : Dataset) :
    detail.Covers dataset ↔ ∀ schedule ∈ dataset.schedules,
      schedule.scheduleId ∈ detail.schedules.map SchedulePayload.scheduleId →
        detail.reservedSeats.ofSchedule schedule.scheduleId = [] →
          dataset.seatsOf schedule.scheduleId = [] := by
  refine forall₃_congr fun schedule _ _ => ?_
  constructor
  · intro hcovers hempty
    exact hcovers.resolve_left fun hkey => h.seats_ne_nil _ hkey hempty
  · intro hkept
    refine or_iff_not_imp_left.mpr fun hkey => hkept ?_
    rw [ReservedSeats.ofSchedule, AList.lookup_eq_none.mpr hkey]
    rfl

end Served

section Merge

variable {leaf : Scalar → Json} {dataset : Dataset} {detail : TheaterDetail}

/-! ## Rows -/

theorem toUpperCase_text (status : SaleStatus) : toUpperCase status.text = status.text := by
  cases status <;> decide +kernel

theorem rowId_wire (hleaf : ∀ value, leaf (.json value) = value) (row : SchedulePayload) :
    rowId (wire leaf row.toPy) = row.scheduleId := by
  obtain ⟨hid, _⟩ := get_schedule hleaf row
  rw [rowId, hid, toInt_number]

theorem followRow_wire (hleaf : ∀ value, leaf (.json value) = value) {row : SchedulePayload}
    (hcounts : 0 ≤ row.remainCount ∧ 0 ≤ row.totalCount) (existing : DatasetSchedule) :
    followRow (wire leaf row.toPy) existing =
      { existing with
        remainCount := row.remainCount
        totalCount := row.totalCount
        status := row.status.text } := by
  obtain ⟨_, _, _, htotal, hremain, hstatus, _⟩ := get_schedule hleaf row
  have htext : ((Value.string row.status.text).orElse (.string existing.status)).orElse
      (.string "OPEN") = .string row.status.text := by
    cases row.status <;> rfl
  rw [followRow, htotal, hremain, hstatus, htext, Value.toText, toUpperCase_text, toInt_number,
    toInt_number, max_eq_right hcounts.1, max_eq_right hcounts.2]
  rfl

/-- A detail has no row that is null. -/
theorem mergeRows_eq {rows : List Value} (hrows : ∀ row ∈ rows, row.isNullish = false)
    (schedules : List DatasetSchedule) :
    mergeRows rows schedules =
      (patchAll DatasetSchedule.scheduleId rowId followRow rows schedules, true) := by
  induction rows generalizing schedules with
  | nil => rfl
  | cons incoming rest ih =>
      rw [mergeRows, hrows incoming List.mem_cons_self]
      exact ih (fun row hrow => hrows row (List.mem_cons_of_mem incoming hrow)) _

/-- The schedules of the detail as the script sees them. -/
def wiredRows (leaf : Scalar → Json) (detail : TheaterDetail) : List Value :=
  detail.schedules.map fun row => wire leaf row.toPy

theorem wiredRows_ids (hleaf : ∀ value, leaf (.json value) = value) (detail : TheaterDetail) :
    (wiredRows leaf detail).map rowId = detail.schedules.map SchedulePayload.scheduleId := by
  rw [wiredRows, List.map_map]
  exact List.map_congr_left fun row _ => rowId_wire hleaf row

theorem wiredRows_ids_nodup (hleaf : ∀ value, leaf (.json value) = value)
    (hdetail : detail.Served) : ((wiredRows leaf detail).map rowId).Nodup := by
  rw [wiredRows_ids hleaf]
  exact hdetail.scheduleIds

/-- A merge in closed form. -/
theorem merge_wire (hleaf : ∀ value, leaf (.json value) = value) (hdetail : detail.Served)
    (hids : (dataset.schedules.map DatasetSchedule.scheduleId).Nodup) :
    mergeTheaterDetailSlice dataset (wire leaf detail.toPy) =
      { dataset with
        schedules := dataset.schedules.map
          (patched DatasetSchedule.scheduleId rowId followRow (wiredRows leaf detail))
        reservedSeats := writeSeatLists (wire leaf detail.reservedSeats.toPy)
          dataset.reservedSeats } := by
  have hobject : (wire leaf detail.toPy).isObject = true := by
    rw [TheaterDetail.toPy, wire_dict]
    rfl
  obtain ⟨hschedules, hreserved⟩ : (wire leaf detail.toPy).get "schedules" =
        wire leaf (.list (detail.schedules.map SchedulePayload.toPy)) ∧
      (wire leaf detail.toPy).get "reservedSeats" = wire leaf detail.reservedSeats.toPy := by
    simp [TheaterDetail.toPy, get_wire_dict]
  have hitems : arrayItems (wire leaf (.list (detail.schedules.map SchedulePayload.toPy))) =
      wiredRows leaf detail := by
    rw [wire_list, List.map_map]
    rfl
  have hrows : ∀ row ∈ wiredRows leaf detail, row.isNullish = false := by
    intro row hrow
    obtain ⟨payload, _, rfl⟩ := List.mem_map.mp hrow
    exact isNullish_wire_dict _
  rw [mergeTheaterDetailSlice, if_pos hobject, hschedules, hreserved, hitems, mergeRows_eq hrows,
    patchAll_eq_map scheduleId_followRow hids (wiredRows_ids_nodup hleaf hdetail)]
  rfl

theorem scheduleId_patched (rows : List Value) (existing : DatasetSchedule) :
    (patched DatasetSchedule.scheduleId rowId followRow rows existing).scheduleId =
      existing.scheduleId := by
  unfold patched
  split <;> rfl

/-- A schedule of the detail is as the detail has it. -/
theorem patched_of_listed (hleaf : ∀ value, leaf (.json value) = value) (hdetail : detail.Served)
    {row : SchedulePayload} (hrow : row ∈ detail.schedules) {existing : DatasetSchedule}
    (hid : row.scheduleId = existing.scheduleId) :
    patched DatasetSchedule.scheduleId rowId followRow (wiredRows leaf detail) existing =
      { existing with
        remainCount := row.remainCount
        totalCount := row.totalCount
        status := row.status.text } := by
  have hmem : wire leaf row.toPy ∈ wiredRows leaf detail := List.mem_map_of_mem hrow
  rw [patched_of_mem (wiredRows_ids_nodup hleaf hdetail) hmem ((rowId_wire hleaf row).trans hid),
    followRow_wire hleaf (hdetail.counts row hrow)]

/-- A key that the detail does not have leaves the old list. -/
theorem seatsOf_merge (hleaf : ∀ value, leaf (.json value) = value) (hdetail : detail.Served)
    (hids : (dataset.schedules.map DatasetSchedule.scheduleId).Nodup) (scheduleId : Int) :
    (mergeTheaterDetailSlice dataset (wire leaf detail.toPy)).seatsOf scheduleId =
      (detail.reservedSeats.lookup scheduleId).getD (dataset.seatsOf scheduleId) := by
  rw [merge_wire hleaf hdetail hids, Dataset.seatsOf, lookup_writeSeatLists hleaf]
  cases detail.reservedSeats.lookup scheduleId with
  | none => rfl
  | some seats => rfl

theorem follows_wire_iff (hleaf : ∀ value, leaf (.json value) = value) (hdetail : detail.Served)
    (hids : (dataset.schedules.map DatasetSchedule.scheduleId).Nodup) :
    (mergeTheaterDetailSlice dataset (wire leaf detail.toPy)).Follows dataset detail ↔
      detail.Covers dataset := by
  have hseats := seatsOf_merge hleaf hdetail hids
  have hmerged : (mergeTheaterDetailSlice dataset (wire leaf detail.toPy)).schedules =
      dataset.schedules.map
        (patched DatasetSchedule.scheduleId rowId followRow (wiredRows leaf detail)) := by
    rw [merge_wire hleaf hdetail hids]
  constructor
  · intro hfollows schedule hschedule hid
    obtain ⟨row, hrow, hid⟩ := List.mem_map.mp hid
    refine or_iff_not_imp_left.mpr fun hkey => ?_
    have hnone : detail.reservedSeats.lookup row.scheduleId = none := by
      rw [hid]
      exact AList.lookup_eq_none.mpr hkey
    have hmem : patched DatasetSchedule.scheduleId rowId followRow (wiredRows leaf detail)
        schedule ∈ (mergeTheaterDetailSlice dataset (wire leaf detail.toPy)).schedules := by
      rw [hmerged]
      exact List.mem_map_of_mem hschedule
    rw [patched_of_listed hleaf hdetail hrow hid] at hmem
    obtain ⟨_, _, _, hlist⟩ := hfollows.listed _ hmem row hrow hid
    rw [hseats, ReservedSeats.ofSchedule, hnone, hid] at hlist
    exact hlist
  · intro hcovers
    constructor
    · rw [hmerged, List.map_map]
      exact List.map_congr_left fun schedule _ => scheduleId_patched _ schedule
    · intro schedule hschedule row hrow hid
      rw [hmerged] at hschedule
      obtain ⟨existing, hexisting, rfl⟩ := List.mem_map.mp hschedule
      rw [scheduleId_patched] at hid
      rw [patched_of_listed hleaf hdetail hrow hid]
      refine ⟨rfl, rfl, rfl, ?_⟩
      rw [hseats, ReservedSeats.ofSchedule, hid]
      rcases hcovers existing hexisting (List.mem_map.mpr ⟨row, hrow, hid⟩) with hkey | hnil
      · obtain ⟨seats, hlookup⟩ := Option.isSome_iff_exists.mp (AList.lookup_isSome.mpr hkey)
        rw [hlookup]
        rfl
      · rw [hnil]
    · intro schedule hschedule hother
      constructor
      · rw [hmerged]
        refine List.mem_map.mpr ⟨schedule, hschedule, patched_of_not_mem ?_⟩
        rw [wiredRows_ids hleaf]
        exact hother
      · have hnone : detail.reservedSeats.lookup schedule.scheduleId = none :=
          AList.lookup_eq_none.mpr fun hkey => hother (hdetail.reservedSeats _ hkey)
        rw [hseats, hnone]
        rfl

end Merge

/-- The page follows the server exactly if the detail has a key for every schedule of which
the page shows seats: a list that has become empty is not sent, and the old one stays. -/
theorem mergeTheaterDetailSlice_follows_iff {catalog : Catalog} {movieMap : MovieMap}
    {second third fourth : Db} {theaterId : Int} {detail : TheaterDetail} {body : Json}
    {dataset : Dataset}
    (hdetail : theaterDetailFromBootstrap
      (fetchBootstrapFromDb catalog movieMap second third fourth) theaterId = some detail)
    (hbody : body ∈ detail.bodies)
    (hids : (dataset.schedules.map DatasetSchedule.scheduleId).Nodup) :
    (mergeTheaterDetailSlice dataset (.ofJson body)).Follows dataset detail ↔
      detail.Covers dataset := by
  have hserved := theaterDetail_served hdetail
  rcases List.mem_pair.mp hbody with rfl | rfl
  · exact follows_wire_iff (fun _ => rfl) hserved hids
  · exact follows_wire_iff (fun _ => rfl) hserved hids

/-! ## The datasets of the page -/

/-- `onBooked`, up to the request for the detail. -/
def onBooked (scheduleId : Int) (selectedSeats : List String) (dataset : Dataset) : Dataset :=
  { dataset with
    schedules := dataset.schedules.map fun schedule =>
      if schedule.scheduleId = scheduleId then
        { schedule with remainCount := max 0 (schedule.remainCount - selectedSeats.length) }
      else schedule
    reservedSeats := dataset.reservedSeats.insert (toString scheduleId)
      (selectedSeats.foldl (fun seatStore seatKey =>
        if seatKey ∈ seatStore then seatStore else seatStore ++ [seatKey])
          (dataset.seatsOf scheduleId)) }

/-- What the page can have after it has been loaded. -/
inductive Dataset.Reached : Dataset → Prop where
  | loaded {payload : Bootstrap} {body : Json} {dataset : Dataset}
      (hvalid : ∀ row ∈ payload.schedules, 0 < row.scheduleId)
      (hids : (payload.schedules.map SchedulePayload.scheduleId).Nodup)
      (hbody : body ∈ payload.bodies) (hsome : normalizeBootstrap (.ofJson body) = some dataset) :
      Reached dataset
  | booked {dataset : Dataset} (scheduleId : Int) (selectedSeats : List String)
      (h : Reached dataset) : Reached (onBooked scheduleId selectedSeats dataset)
  | merged {dataset : Dataset} (detail : Value) (h : Reached dataset) :
      Reached (mergeTheaterDetailSlice dataset detail)

section Reached

variable {leaf : Scalar → Json} {payload : Bootstrap} {dataset : Dataset}

theorem loaded_scheduleIds (hleaf : ∀ value, leaf (.json value) = value)
    (hpos : ∀ row ∈ payload.schedules, 0 < row.scheduleId)
    (hsome : normalizeBootstrap (wire leaf payload.toPy) = some dataset) :
    dataset.schedules.map DatasetSchedule.scheduleId =
      payload.schedules.map SchedulePayload.scheduleId := by
  obtain ⟨other, hother, hschedules, _⟩ := normalizeBootstrap_wire leaf payload
  obtain rfl := Option.some.inj (hother.symm.trans hsome)
  rw [hschedules, ← List.forall₂_eq_eq_eq, List.forall₂_map_left_iff, List.forall₂_map_right_iff]
  refine (@forall₂_mapIdx_iff _ _ _ (fun _ => True) _ _ fun index row hrow => ?_).mpr
    fun _ _ => trivial
  obtain ⟨hid, _⟩ := get_schedule hleaf row
  simp only [normalizeSchedule, hid, toInt_orElse, orInt_of_ne (hpos row hrow).ne']

theorem loaded_seatsOf (hleaf : ∀ value, leaf (.json value) = value)
    (hsome : normalizeBootstrap (wire leaf payload.toPy) = some dataset) (scheduleId : Int) :
    dataset.seatsOf scheduleId = payload.reservedSeats.ofSchedule scheduleId := by
  obtain ⟨other, hother, _, hreserved⟩ := normalizeBootstrap_wire leaf payload
  obtain rfl := Option.some.inj (hother.symm.trans hsome)
  rw [Dataset.seatsOf, hreserved, lookup_writeSeatLists hleaf]
  exact congrArg (Option.getD · []) Option.or_none

theorem mergeRows_scheduleIds (rows : List Value) (schedules : List DatasetSchedule) :
    (mergeRows rows schedules).1.map DatasetSchedule.scheduleId =
      schedules.map DatasetSchedule.scheduleId := by
  induction rows generalizing schedules with
  | nil => rfl
  | cons incoming rest ih =>
      rw [mergeRows]
      split
      next => rfl
      next => rw [ih, map_patchFirst scheduleId_followRow]

theorem merge_scheduleIds (detail : Value) :
    (mergeTheaterDetailSlice dataset detail).schedules.map DatasetSchedule.scheduleId =
      dataset.schedules.map DatasetSchedule.scheduleId := by
  unfold mergeTheaterDetailSlice
  split
  next => exact mergeRows_scheduleIds _ _
  next => rfl

theorem onBooked_scheduleIds (scheduleId : Int) (selectedSeats : List String) :
    (onBooked scheduleId selectedSeats dataset).schedules.map DatasetSchedule.scheduleId =
      dataset.schedules.map DatasetSchedule.scheduleId := by
  rw [onBooked, List.map_map]
  refine List.map_congr_left fun schedule _ => ?_
  rw [Function.comp_apply]
  split <;> rfl

/-- No two schedules of the page have one id, whatever it has booked and read. -/
theorem Dataset.Reached.scheduleIds_nodup (h : dataset.Reached) :
    (dataset.schedules.map DatasetSchedule.scheduleId).Nodup := by
  induction h with
  | loaded hvalid hids hbody hsome =>
      obtain ⟨leaf, hleaf, hwire⟩ := encoder_of_mem_bodies hbody
      rw [hwire] at hsome
      rw [loaded_scheduleIds hleaf hvalid hsome]
      exact hids
  | booked scheduleId selectedSeats _ ih =>
      rw [onBooked_scheduleIds]
      exact ih
  | merged detail _ ih =>
      rw [merge_scheduleIds]
      exact ih

end Reached

/-! ## A seat that is given back -/

theorem loaded_oneSeat {db : Db} {remainCount : Int}
    (hcounts : (oneSeatPayload db).schedules.map SchedulePayload.counts = [(1, remainCount, 1)]) :
    ∃ dataset, normalizeBootstrap (.ofJson (oneSeatPayload db).toPy.jsonable) = some dataset ∧
      dataset.schedules.map DatasetSchedule.scheduleId = [1] ∧
      dataset.seatsOf 1 = (oneSeatPayload db).reservedSeats.ofSchedule 1 := by
  obtain ⟨dataset, hsome, _⟩ := normalizeBootstrap_wire Scalar.jsonable (oneSeatPayload db)
  have hids : (oneSeatPayload db).schedules.map SchedulePayload.scheduleId = [1] := by
    have hmap := congrArg (List.map Prod.fst) hcounts
    rw [List.map_map] at hmap
    exact hmap
  have hpos : ∀ row ∈ (oneSeatPayload db).schedules, 0 < row.scheduleId := by
    intro row hrow
    have hmem : row.scheduleId ∈ (oneSeatPayload db).schedules.map SchedulePayload.scheduleId :=
      List.mem_map_of_mem hrow
    rw [hids, List.mem_singleton] at hmem
    omega
  refine ⟨dataset, hsome, ?_, loaded_seatsOf (fun _ => rfl) hsome 1⟩
  rw [loaded_scheduleIds (fun _ => rfl) hpos hsome, hids]

/-- The page is loaded while the seat is sold, and merges the detail that is read after
the refund. -/
theorem refunded_seat_stays :
    ∃ booked refunded dataset detail,
      dbMachine.run oneSeatDb
          [.book .quiet (fun _ => "AA000001") (theaterBody "first" [.str "1-1"])] = some booked ∧
        dbMachine.run booked [.refundMovie .quiet 1 1] = some refunded ∧
        normalizeBootstrap (.ofJson (oneSeatPayload booked).toPy.jsonable) = some dataset ∧
        theaterDetailFromBootstrap (oneSeatPayload refunded) 1 = some detail ∧
        detail.reservedSeats.ofSchedule 1 = [] ∧
        ∃ body ∈ detail.bodies,
          (mergeTheaterDetailSlice dataset (.ofJson body)).seatsOf 1 = ["1-1"] ∧
            ¬ (mergeTheaterDetailSlice dataset (.ofJson body)).Follows dataset detail := by
  have hsold : (dbMachine.run oneSeatDb [.book .quiet (fun _ => "AA000001")
      (theaterBody "first" [.str "1-1"])]).map (fun booked =>
        ((oneSeatPayload booked).schedules.map SchedulePayload.counts,
          (oneSeatPayload booked).reservedSeats.ofSchedule 1)) =
      some ([(1, 0, 1)], ["1-1"]) := by decide +kernel
  have hlater : ((dbMachine.run oneSeatDb [.book .quiet (fun _ => "AA000001")
      (theaterBody "first" [.str "1-1"])]).bind fun booked =>
        dbMachine.run booked [.refundMovie .quiet 1 1]).map (fun refunded =>
          (theaterDetailFromBootstrap (oneSeatPayload refunded) 1).map fun detail =>
            (detail.schedules.map SchedulePayload.scheduleId, detail.reservedSeats.lookup 1)) =
      some (some ([1], none)) := by decide +kernel
  obtain ⟨booked, hbooked, hfacts⟩ := Option.map_eq_some_iff.mp hsold
  obtain ⟨hcounts, hsold⟩ := Prod.mk.inj hfacts
  rw [hbooked, Option.bind_some] at hlater
  obtain ⟨refunded, hrefunded, hdetail⟩ := Option.map_eq_some_iff.mp hlater
  obtain ⟨detail, hdetail, hfacts⟩ := Option.map_eq_some_iff.mp hdetail
  obtain ⟨hlisted, hnone⟩ := Prod.mk.inj hfacts
  obtain ⟨dataset, hsome, hids, hseats⟩ := loaded_oneSeat hcounts
  have hserved := theaterDetail_served hdetail
  have hnodup : (dataset.schedules.map DatasetSchedule.scheduleId).Nodup := by
    rw [hids]
    exact List.nodup_singleton 1
  rw [hsold] at hseats
  refine ⟨booked, refunded, dataset, detail, hbooked, hrefunded, hsome, hdetail, ?_, _,
    List.mem_cons_self, ?_, fun hfollows => ?_⟩
  · rw [ReservedSeats.ofSchedule, hnone]
    rfl
  · exact (seatsOf_merge (fun _ => rfl) hserved hnodup 1).trans (by rw [hnone, hseats]; rfl)
  · have hcovers := (follows_wire_iff (fun _ => rfl) hserved hnodup).mp hfollows
    obtain ⟨schedule, hschedule, hid⟩ : ∃ schedule ∈ dataset.schedules, schedule.scheduleId = 1 :=
      List.mem_map.mp (by rw [hids]; exact List.mem_cons_self)
    rcases hcovers schedule hschedule (by rw [hlisted, hid]; exact List.mem_cons_self) with
      hkey | hempty
    · rw [hid] at hkey
      exact AList.lookup_eq_none.mp hnone hkey
    · rw [hid, hseats] at hempty
      cases hempty

/-- The page is loaded while the seat is free, and merges the detail that is read after
the booking. -/
theorem mergeTheaterDetailSlice_follows_iff_sold :
    ∃ booked dataset detail,
      dbMachine.run oneSeatDb
          [.book .quiet (fun _ => "AA000001") (theaterBody "first" [.str "1-1"])] = some booked ∧
        normalizeBootstrap (.ofJson (oneSeatPayload oneSeatDb).toPy.jsonable) = some dataset ∧
        theaterDetailFromBootstrap (oneSeatPayload booked) 1 = some detail ∧
        (mergeTheaterDetailSlice dataset (.ofJson detail.toPy.jsonable)).Follows dataset
          detail := by
  have hfree : (oneSeatPayload oneSeatDb).schedules.map SchedulePayload.counts = [(1, 1, 1)] ∧
      (oneSeatPayload oneSeatDb).reservedSeats.ofSchedule 1 = [] := by decide +kernel
  have hrun : (dbMachine.run oneSeatDb [.book .quiet (fun _ => "AA000001")
      (theaterBody "first" [.str "1-1"])]).map (fun booked =>
        (theaterDetailFromBootstrap (oneSeatPayload booked) 1).isSome) = some true := by
    decide +kernel
  obtain ⟨booked, hbooked, hdetail⟩ := Option.map_eq_some_iff.mp hrun
  obtain ⟨detail, hdetail⟩ := Option.isSome_iff_exists.mp hdetail
  obtain ⟨dataset, hsome, hids, hseats⟩ := loaded_oneSeat hfree.1
  refine ⟨booked, dataset, detail, hbooked, hsome, hdetail, ?_⟩
  refine (mergeTheaterDetailSlice_follows_iff hdetail List.mem_cons_self ?_).mpr ?_
  · rw [hids]
    exact List.nodup_singleton 1
  · intro schedule hschedule _
    have hmem : schedule.scheduleId ∈ dataset.schedules.map DatasetSchedule.scheduleId :=
      List.mem_map_of_mem hschedule
    rw [hids, List.mem_singleton] at hmem
    exact .inr (by rw [hmem, hseats, hfree.2])

end Ticketing
