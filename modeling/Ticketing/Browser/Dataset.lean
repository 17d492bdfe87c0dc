import Ticketing.Browser.Value
import Ticketing.Cache.Keys
import Ticketing.Theater.Slices
import Ticketing.Theater.Transparent

/-!
# The dataset of the booking page

`normalizeBootstrap` makes the dataset of the theater page out of a response. Every
field falls back to a default when it is not truthy, and a count of zero is not.
-/

namespace Ticketing

open JavaScript Python

/-! ## The dataset -/

structure DatasetTheater where
  theaterId : Int
  regionName : String
  theaterName : String
  address : String

structure DatasetHall where
  hallId : Int
  theaterId : Int
  hallName : String
  totalSeats : Int
  seatRows : Int
  seatCols : Int
  specialTag : String

structure DatasetMovie where
  movieId : Int
  title : String
  runtimeMinutes : Int
  status : String
  hide : String
  audienceCount : Int
  stat : String

structure DatasetSchedule where
  scheduleId : Int
  movieId : Int
  hallId : Int
  showDate : String
  totalCount : Int
  remainCount : Int
  status : String
  price : Int
  specialTag : String

/-- The object `reservedSeats` of the dataset. -/
abbrev SeatLists := AList fun _ : String => List String

structure Dataset where
  theaters : List DatasetTheater
  halls : List DatasetHall
  movies : List DatasetMovie
  schedules : List DatasetSchedule
  reservedSeats : SeatLists

/-- `dataset.reservedSeats[String(scheduleId)] || []`. -/
def Dataset.seatsOf (dataset : Dataset) (scheduleId : Int) : List String :=
  (dataset.reservedSeats.lookup (toString scheduleId)).getD []

/-! ## `normalizeBootstrap` -/

def defaultSeatRows : Nat := 3

def defaultSeatCols : Nat := 10

/-- A number that is not finite counts as zero. -/
def toInt (value : Value) : Int :=
  match value.toNumber with
  | some number => number.num.tdiv number.den
  | none => 0

/-- `text.toUpperCase()`, as far as it is ASCII. -/
def toUpperCase (text : String) : String := String.ofList (upperStr text)

/-- `String(value).trim() || default`. -/
def trimmedOr (value : Value) (default : String) : String :=
  if trimText value.toText = "" then default else trimText value.toText

def normalizeTheater (index : Nat) (item : Value) : DatasetTheater where
  theaterId := toInt ((item.get "theater_id").orElse (.number (index + 1)))
  regionName := trimmedOr (((item.get "region_name").orElse (item.get "region")).orElse
    (.string "서울")) "서울"
  theaterName :=
    let default := "극장 " ++ toString (index + 1)
    trimmedOr ((((item.get "theater_name").orElse (item.get "name")).orElse
      (item.get "address")).orElse (.string default)) default
  address := trimText ((item.get "address").orElse (.string "")).toText

def normalizeHall (index : Nat) (item : Value) : DatasetHall where
  hallId := toInt ((item.get "hall_id").orElse (.number (index + 1)))
  theaterId := toInt (item.get "theater_id")
  hallName := trimmedOr (((item.get "hall_name").orElse (item.get "name")).orElse
    (.string "A관")) "A관"
  totalSeats := max 1 (toInt ((item.get "total_seats").orElse
    (.number (defaultSeatRows * defaultSeatCols))))
  seatRows := max 1 (toInt ((item.get "seat_rows").orElse (.number defaultSeatRows)))
  seatCols := max 1 (toInt ((item.get "seat_cols").orElse (.number defaultSeatCols)))
  specialTag := toUpperCase (trimText ((item.get "special_tag").orElse (.string "")).toText)

def normalizeMovie (index : Nat) (item : Value) : DatasetMovie where
  movieId := toInt ((item.get "movie_id").orElse (.number (index + 1)))
  title :=
    let default := "영화 " ++ toString (index + 1)
    trimmedOr ((item.get "title").orElse (.string default)) default
  runtimeMinutes := max 1 (toInt ((item.get "runtime_minutes").orElse (.number 120)))
  status := toUpperCase ((item.get "status").orElse (.string "ACTIVE")).toText
  hide := toUpperCase ((item.get "hide").orElse (.string "N")).toText
  audienceCount := toInt (item.get "audience_count")
  stat := if (item.get "stat").isNullish then "" else trimText (item.get "stat").toText

def normalizeSchedule (index : Nat) (item : Value) : DatasetSchedule where
  scheduleId := toInt ((item.get "schedule_id").orElse (.number (index + 1)))
  movieId := toInt (item.get "movie_id")
  hallId := toInt (item.get "hall_id")
  showDate := trimText ((item.get "show_date").orElse (.string "")).toText
  totalCount := max 0 (toInt (((item.get "total_count").orElse (item.get "total_seats")).orElse
    (.number (defaultSeatRows * defaultSeatCols))))
  remainCount := max 0 (toInt ((((item.get "remain_count").orElse
    (item.get "total_count")).orElse (item.get "total_seats")).orElse
      (.number (defaultSeatRows * defaultSeatCols))))
  status := toUpperCase ((item.get "status").orElse (.string "OPEN")).toText
  price := max 0 (toInt ((item.get "price").orElse (.number 14000)))
  specialTag := toUpperCase (trimText ((item.get "special_tag").orElse (.string "")).toText)

/-- The four lists are mapped in the same way; an item that is null raises. -/
def normalizeItems {α : Type} (normalize : Nat → Value → α) : Value → Option (List α)
  | .array items => if items.any Value.isNullish then none else some (items.mapIdx normalize)
  | _ => some []

/-- The texts of a list of seats. -/
def seatTexts : Value → List String
  | .array items => items.map Value.toText
  | _ => []

/-- The loop over the keys of `source`, which overwrites those of `reserved`. -/
def writeSeatLists (source : Value) (reserved : SeatLists) : SeatLists :=
  source.entries.foldl (fun reserved entry => reserved.insert entry.1 (seatTexts entry.2)) reserved

/-- `none` is a TypeError. -/
def normalizeBootstrap (raw : Value) : Option Dataset := do
  let source := if raw.isObject then raw else .object []
  return {
    theaters := ← normalizeItems normalizeTheater (source.get "theaters")
    halls := ← normalizeItems normalizeHall (source.get "halls")
    movies := ← normalizeItems normalizeMovie (source.get "movies")
    schedules := ← normalizeItems normalizeSchedule (source.get "schedules")
    reservedSeats := writeSeatLists (source.get "reservedSeats") ∅ }

/-! ## What is kept of a payload -/

/-- The two bodies of a response with the payload: on a cache miss, and on a hit. -/
def Bootstrap.bodies (payload : Bootstrap) : List Json :=
  [payload.toPy.jsonable, payload.toPy.dumped]

/-- What the tables promise about the schedules of a payload. -/
structure SchedulePayload.Valid (row : SchedulePayload) : Prop where
  scheduleId_pos : 0 < row.scheduleId
  remainCount_nonneg : 0 ≤ row.remainCount
  remainCount_le : row.remainCount ≤ row.totalCount
  totalCount_pos : 0 < row.totalCount

/-- The ids and the counts are those of the payload. -/
structure DatasetSchedule.Keeps (schedule : DatasetSchedule) (row : SchedulePayload) : Prop where
  scheduleId : schedule.scheduleId = row.scheduleId
  hallId : schedule.hallId = row.hallId
  movieId : schedule.movieId = row.movieId
  remainCount : schedule.remainCount = row.remainCount
  totalCount : schedule.totalCount = row.totalCount

/-- No schedule is lost or changed, and no list of seats is. -/
structure Dataset.Keeps (dataset : Dataset) (payload : Bootstrap) : Prop where
  schedules : List.Forall₂ DatasetSchedule.Keeps dataset.schedules payload.schedules
  reservedSeats : ∀ scheduleId,
    dataset.reservedSeats.lookup (toString scheduleId) = payload.reservedSeats.lookup scheduleId
  keys : ∀ key ∈ dataset.reservedSeats, ∃ scheduleId : Int, key = toString scheduleId

/-! ## Reading a dictionary -/

section Wire

variable {leaf : Scalar → Json}

/-- What the script gets of a value that the server sends. -/
def wire (leaf : Scalar → Json) (value : PyValue) : Value := .ofJson (value.encode leaf)

theorem wire_list (items : List PyValue) :
    wire leaf (.list items) = .array (items.map (wire leaf)) := by
  change Value.array (ofItems (encodeItems leaf items)) = _
  rw [ofItems_eq, encodeItems_eq, List.map_map]
  rfl

theorem wire_dict (fields : List (String × PyValue)) :
    wire leaf (.dict fields) = .object (fields.map fun field => (field.1, wire leaf field.2)) := by
  change Value.object (ofFields (encodeFields leaf fields)) = _
  rw [ofFields_eq, encodeFields_eq, List.map_map]
  rfl

theorem get_wire_dict (fields : List (String × PyValue)) (key : String) :
    (wire leaf (.dict fields)).get key =
      ((fields.find? fun field => field.1 == key).map fun field => wire leaf field.2).getD
        .undefined := by
  rw [wire_dict, Value.get, List.find?_map, Option.map_map]
  rfl

@[simp] theorem toInt_number (n : Int) : toInt (.number n) = n := by
  simp [toInt, Value.toNumber]

@[simp] theorem toInt_orElse (n : Int) (other : Value) :
    toInt ((Value.number n).orElse other) = orInt n (toInt other) := by
  by_cases hzero : n = 0
  · simp [Value.orElse, Value.truthy, orInt, hzero]
  · simp [Value.orElse, Value.truthy, orInt, hzero]

theorem orInt_of_ne {n other : Int} (h : n ≠ 0) : orInt n other = n := if_neg h

theorem orInt_zero (other : Int) : orInt 0 other = other := rfl

end Wire

section Normalize

variable {leaf : Scalar → Json} {payload : Bootstrap} {row : SchedulePayload}

theorem wire_intValue (hleaf : ∀ value, leaf (.json value) = value) (n : Int) :
    wire leaf (intValue n) = .number n := by
  change Value.ofJson (leaf (.json (.int n))) = _
  rw [hleaf]
  rfl

theorem wire_strValue (hleaf : ∀ value, leaf (.json value) = value) (text : String) :
    wire leaf (strValue text) = .string text := by
  change Value.ofJson (leaf (.json (.str text))) = _
  rw [hleaf]
  rfl

/-! ## Schedules -/

theorem get_schedule (hleaf : ∀ value, leaf (.json value) = value) (row : SchedulePayload) :
    let item := wire leaf row.toPy
    item.get "schedule_id" = .number row.scheduleId ∧ item.get "movie_id" = .number row.movieId ∧
      item.get "hall_id" = .number row.hallId ∧ item.get "total_count" = .number row.totalCount ∧
      item.get "remain_count" = .number row.remainCount ∧
      item.get "status" = .string row.status.text ∧ item.get "total_seats" = .undefined := by
  simp [SchedulePayload.toPy, get_wire_dict, wire_intValue hleaf, wire_strValue hleaf]

/-- A schedule without free seats gets the number of all its seats. -/
theorem normalizeSchedule_remainCount (hleaf : ∀ value, leaf (.json value) = value)
    (hvalid : row.Valid) (index : Nat) :
    (normalizeSchedule index (wire leaf row.toPy)).remainCount =
      orInt row.remainCount row.totalCount := by
  obtain ⟨_, _, _, htotal, hremain, _, hseats⟩ := get_schedule hleaf row
  unfold normalizeSchedule
  simp only [hremain, htotal, hseats, Value.orElse_assoc, toInt_orElse,
    orInt_of_ne hvalid.totalCount_pos.ne']
  have hnonneg := hvalid.remainCount_nonneg
  have hpos := hvalid.totalCount_pos
  unfold orInt
  split <;> omega

theorem normalizeSchedule_totalCount (hleaf : ∀ value, leaf (.json value) = value)
    (hvalid : row.Valid) (index : Nat) :
    (normalizeSchedule index (wire leaf row.toPy)).totalCount = row.totalCount := by
  obtain ⟨_, _, _, htotal, _, _, _⟩ := get_schedule hleaf row
  have hpos := hvalid.totalCount_pos
  unfold normalizeSchedule
  simp only [htotal, Value.orElse_assoc, toInt_orElse, orInt_of_ne hpos.ne']
  omega

theorem normalizeSchedule_keeps_iff (hleaf : ∀ value, leaf (.json value) = value)
    (hvalid : row.Valid) (index : Nat) :
    (normalizeSchedule index (wire leaf row.toPy)).Keeps row ↔ row.remainCount ≠ 0 := by
  obtain ⟨hid, hmovie, hhall, _, _, _, _⟩ := get_schedule hleaf row
  have hpos := hvalid.totalCount_pos
  have hcount := normalizeSchedule_remainCount hleaf hvalid index
  constructor
  · intro hkeeps hzero
    rw [hkeeps.remainCount, hzero, orInt_zero] at hcount
    omega
  · intro hne
    constructor
    · simp only [normalizeSchedule, hid, toInt_orElse, orInt_of_ne hvalid.scheduleId_pos.ne']
    · simp only [normalizeSchedule, hhall, toInt_number]
    · simp only [normalizeSchedule, hmovie, toInt_number]
    · rw [hcount, orInt_of_ne hne]
    · exact normalizeSchedule_totalCount hleaf hvalid index

/-- The line of `createScheduleCard` with the remaining seats. -/
def DatasetSchedule.remainLabel (schedule : DatasetSchedule) : String :=
  "잔여좌석 " ++ toString schedule.remainCount ++ " / " ++ toString schedule.totalCount

/-- The card of a sold out schedule says that every seat is free. -/
theorem remainLabel_of_soldOut (hleaf : ∀ value, leaf (.json value) = value)
    (hvalid : row.Valid) (hzero : row.remainCount = 0) (index : Nat) :
    (normalizeSchedule index (wire leaf row.toPy)).remainLabel =
      "잔여좌석 " ++ toString row.totalCount ++ " / " ++ toString row.totalCount := by
  change "잔여좌석 " ++ toString _ ++ " / " ++ toString _ = _
  rw [normalizeSchedule_remainCount hleaf hvalid, normalizeSchedule_totalCount hleaf hvalid, hzero,
    orInt_zero]

/-- A list whose items are handled by their index, compared with itself. -/
theorem forall₂_mapIdx_iff {α β : Type} {related : β → α → Prop} {holds : α → Prop}
    {handle : Nat → α → β} {items : List α}
    (h : ∀ index, ∀ item ∈ items, related (handle index item) item ↔ holds item) :
    List.Forall₂ related (items.mapIdx handle) items ↔ ∀ item ∈ items, holds item := by
  induction items generalizing handle with
  | nil => simp
  | cons item rest ih =>
      rw [List.mapIdx_cons, List.forall₂_cons, List.forall_mem_cons, h 0 item List.mem_cons_self,
        ih fun index other hother => h (index + 1) other (List.mem_cons_of_mem item hother)]

/-! ## Lists of seats -/

theorem wire_reserved (hleaf : ∀ value, leaf (.json value) = value) (reserved : ReservedSeats) :
    wire leaf reserved.toPy = .object (reserved.entries.map fun entry =>
      (toString entry.1, .array (entry.2.map .string))) := by
  rw [ReservedSeats.toPy, wire_dict, List.map_map]
  congr 1
  refine List.map_congr_left fun entry _ => ?_
  simp only [Function.comp_apply, wire_list, List.map_map]
  congr 2
  exact List.map_congr_left fun text _ => wire_strValue hleaf text

/-- What the loop writes for the entries of a dictionary. -/
theorem writeSeatLists_wire (hleaf : ∀ value, leaf (.json value) = value)
    (reserved : ReservedSeats) (start : SeatLists) :
    writeSeatLists (wire leaf reserved.toPy) start =
      reserved.entries.foldl (fun lists entry => lists.insert (toString entry.1) entry.2)
        start := by
  rw [wire_reserved hleaf, writeSeatLists, Value.entries, List.foldl_map]
  congr 1
  funext lists entry
  simp [seatTexts, Function.comp_def, Value.toText]

theorem lookup_writeSeatLists (hleaf : ∀ value, leaf (.json value) = value)
    (reserved : ReservedSeats) (start : SeatLists) (scheduleId : Int) :
    (writeSeatLists (wire leaf reserved.toPy) start).lookup (toString scheduleId) =
      (reserved.lookup scheduleId).or (start.lookup (toString scheduleId)) := by
  rw [writeSeatLists_wire hleaf]
  change _ = (reserved.entries.dlookup scheduleId).or _
  have hkeys := reserved.nodupKeys
  generalize reserved.entries = entries at hkeys ⊢
  induction entries generalizing start with
  | nil => rfl
  | cons entry rest ih =>
      obtain ⟨id, seats⟩ := entry
      obtain ⟨hfresh, hrest⟩ := List.nodupKeys_cons.mp hkeys
      rw [List.foldl_cons, ih _ hrest]
      by_cases hid : scheduleId = id
      · subst hid
        rw [List.dlookup_eq_none.mpr hfresh, List.dlookup_cons_eq, AList.lookup_insert]
        rfl
      · have hkey : toString scheduleId ≠ toString id := fun heq =>
          hid (toString_int_injective heq)
        rw [List.dlookup_cons_ne rest ⟨id, seats⟩ hid, AList.lookup_insert_ne hkey]

theorem mem_writeSeatLists (hleaf : ∀ value, leaf (.json value) = value)
    {reserved : ReservedSeats} {start : SeatLists} {key : String}
    (hkey : key ∈ writeSeatLists (wire leaf reserved.toPy) start) :
    key ∈ start ∨ ∃ scheduleId : Int, key = toString scheduleId := by
  rw [writeSeatLists_wire hleaf] at hkey
  generalize reserved.entries = entries at hkey
  induction entries generalizing start with
  | nil => exact .inl hkey
  | cons entry rest ih =>
      rcases ih hkey with hstart | hlater
      · rcases (AList.mem_insert _).mp hstart with rfl | hold
        · exact .inr ⟨entry.1, rfl⟩
        · exact .inl hold
      · exact .inr hlater

/-! ## Payloads -/

theorem isNullish_wire_dict (fields : List (String × PyValue)) :
    (wire leaf (.dict fields)).isNullish = false := by
  rw [wire_dict]
  rfl

theorem normalizeItems_wire {α β : Type} {normalize : Nat → Value → α} {toPy : β → PyValue}
    (hdict : ∀ item, (wire leaf (toPy item)).isNullish = false) (items : List β) :
    normalizeItems normalize (wire leaf (.list (items.map toPy))) =
      some (items.mapIdx fun index item => normalize index (wire leaf (toPy item))) := by
  rw [wire_list, List.map_map, normalizeItems, if_neg]
  · congr 1
    simp [List.mapIdx_eq_zipIdx_map, List.zipIdx_map, Function.comp_def]
  · simp [hdict]

theorem get_bootstrap (payload : Bootstrap) :
    let raw := wire leaf payload.toPy
    raw.get "theaters" = wire leaf (.list (payload.theaters.map TheaterPayload.toPy)) ∧
      raw.get "halls" = wire leaf (.list (payload.halls.map HallPayload.toPy)) ∧
      raw.get "movies" = wire leaf (.list (payload.movies.map Row.toPy)) ∧
      raw.get "schedules" = wire leaf (.list (payload.schedules.map SchedulePayload.toPy)) ∧
      raw.get "reservedSeats" = wire leaf payload.reservedSeats.toPy := by
  simp [Bootstrap.toPy, get_wire_dict]

/-- No payload raises, and each list is made of its own list. -/
theorem normalizeBootstrap_wire (leaf : Scalar → Json) (payload : Bootstrap) :
    ∃ dataset, normalizeBootstrap (wire leaf payload.toPy) = some dataset ∧
      dataset.schedules = payload.schedules.mapIdx (fun index row =>
        normalizeSchedule index (wire leaf row.toPy)) ∧
      dataset.reservedSeats = writeSeatLists (wire leaf payload.reservedSeats.toPy) ∅ := by
  have hobject : (wire leaf payload.toPy).isObject = true := by
    rw [Bootstrap.toPy, wire_dict]
    rfl
  obtain ⟨htheaters, hhalls, hmovies, hschedules, hreserved⟩ := @get_bootstrap leaf payload
  rw [normalizeBootstrap, if_pos hobject, htheaters, hhalls, hmovies, hschedules, hreserved,
    @normalizeItems_wire leaf _ _ _ TheaterPayload.toPy fun _ => isNullish_wire_dict _,
    @normalizeItems_wire leaf _ _ _ HallPayload.toPy fun _ => isNullish_wire_dict _,
    @normalizeItems_wire leaf _ _ _ Row.toPy fun _ => isNullish_wire_dict _,
    @normalizeItems_wire leaf _ _ _ SchedulePayload.toPy fun _ => isNullish_wire_dict _]
  exact ⟨_, rfl, rfl, rfl⟩

theorem keeps_wire_iff (hleaf : ∀ value, leaf (.json value) = value)
    (hvalid : ∀ row ∈ payload.schedules, row.Valid) :
    (∃ dataset, normalizeBootstrap (wire leaf payload.toPy) = some dataset ∧
        dataset.Keeps payload) ↔
      ∀ row ∈ payload.schedules, row.remainCount ≠ 0 := by
  obtain ⟨dataset, hsome, hschedules, hreserved⟩ := normalizeBootstrap_wire leaf payload
  have hrows : List.Forall₂ DatasetSchedule.Keeps dataset.schedules payload.schedules ↔
      ∀ row ∈ payload.schedules, row.remainCount ≠ 0 := by
    rw [hschedules]
    exact forall₂_mapIdx_iff fun index row hrow =>
      normalizeSchedule_keeps_iff hleaf (hvalid row hrow) index
  rw [← hrows]
  constructor
  · rintro ⟨other, hother, hkeeps⟩
    obtain rfl := Option.some.inj (hsome.symm.trans hother)
    exact hkeeps.schedules
  · intro hkept
    refine ⟨dataset, hsome, hkept, ?_, ?_⟩
    · intro scheduleId
      rw [hreserved, lookup_writeSeatLists hleaf]
      exact Option.or_none
    · intro key hkey
      rw [hreserved] at hkey
      exact (mem_writeSeatLists hleaf hkey).resolve_left fun hnone => by cases hnone

end Normalize

theorem encoder_of_mem_bodies {payload : Bootstrap} {body : Json} (h : body ∈ payload.bodies) :
    ∃ leaf : Scalar → Json, (∀ value, leaf (.json value) = value) ∧
      Value.ofJson body = wire leaf payload.toPy := by
  rcases List.mem_pair.mp h with rfl | rfl
  · exact ⟨Scalar.jsonable, fun _ => rfl, rfl⟩
  · exact ⟨Scalar.dumped, fun _ => rfl, rfl⟩

/-- The page keeps what the server says exactly if no schedule is sold out. -/
theorem normalizeBootstrap_keeps_iff {payload : Bootstrap} {body : Json}
    (hvalid : ∀ row ∈ payload.schedules, row.Valid) (hbody : body ∈ payload.bodies) :
    (∃ dataset, normalizeBootstrap (.ofJson body) = some dataset ∧ dataset.Keeps payload) ↔
      ∀ row ∈ payload.schedules, row.remainCount ≠ 0 := by
  obtain ⟨leaf, hleaf, hwire⟩ := encoder_of_mem_bodies hbody
  rw [hwire]
  exact keeps_wire_iff hleaf hvalid

/-! ## The hall with one seat -/

/-- What is read of a database with `oneSeatCatalog`. -/
def oneSeatPayload (db : Db) : Bootstrap :=
  fetchBootstrapFromDb oneSeatCatalog oneSeatMovies db db db

def SchedulePayload.counts (row : SchedulePayload) : Int × Int × Int :=
  (row.scheduleId, row.remainCount, row.totalCount)

theorem valid_of_counts {payload : Bootstrap} {remainCount : Int}
    (hcounts : payload.schedules.map SchedulePayload.counts = [(1, remainCount, 1)])
    (hnonneg : 0 ≤ remainCount) (hle : remainCount ≤ 1) :
    ∀ row ∈ payload.schedules, row.Valid ∧ row.remainCount = remainCount := by
  intro row hrow
  have hmem : row.counts ∈ payload.schedules.map SchedulePayload.counts :=
    List.mem_map_of_mem hrow
  rw [hcounts, List.mem_singleton] at hmem
  obtain ⟨hid, hremain, htotal⟩ : row.scheduleId = 1 ∧ row.remainCount = remainCount ∧
      row.totalCount = 1 := by simpa [SchedulePayload.counts] using hmem
  refine ⟨⟨?_, ?_, ?_, ?_⟩, hremain⟩ <;> omega

/-- The payload that is read after the seat has been sold. -/
theorem sold_out_not_kept :
    ∃ final, dbMachine.run oneSeatDb
        [.book .quiet (fun _ => "AA000001") (theaterBody "first" [.str "1-1"])] = some final ∧
      (∀ row ∈ (oneSeatPayload final).schedules, row.Valid) ∧
        ∃ body ∈ (oneSeatPayload final).bodies, ¬ ∃ dataset,
          normalizeBootstrap (.ofJson body) = some dataset ∧
            dataset.Keeps (oneSeatPayload final) := by
  have hfinal : (dbMachine.run oneSeatDb [.book .quiet (fun _ => "AA000001")
      (theaterBody "first" [.str "1-1"])]).map (fun final =>
        (oneSeatPayload final).schedules.map SchedulePayload.counts) = some [(1, 0, 1)] := by
    decide +kernel
  obtain ⟨final, hrun, hcounts⟩ := Option.map_eq_some_iff.mp hfinal
  have hrows := valid_of_counts hcounts (le_refl 0) (by decide)
  refine ⟨final, hrun, fun row hrow => (hrows row hrow).1, _, List.mem_cons_self, ?_⟩
  intro hkept
  have hne := (keeps_wire_iff (fun _ => rfl) fun row hrow => (hrows row hrow).1).mp hkept
  obtain ⟨row, hrow⟩ := List.exists_mem_of_ne_nil (oneSeatPayload final).schedules fun hnil => by
    rw [hnil] at hcounts
    cases hcounts
  exact hne row hrow (hrows row hrow).2

theorem normalizeBootstrap_keeps_iff_oneSeat :
    ∃ dataset, normalizeBootstrap (.ofJson (oneSeatPayload oneSeatDb).toPy.jsonable) =
        some dataset ∧ dataset.Keeps (oneSeatPayload oneSeatDb) := by
  have hcounts : (oneSeatPayload oneSeatDb).schedules.map SchedulePayload.counts = [(1, 1, 1)] := by
    decide +kernel
  have hrows := valid_of_counts hcounts (by decide) (le_refl 1)
  refine (normalizeBootstrap_keeps_iff (fun row hrow => (hrows row hrow).1)
    List.mem_cons_self).mpr fun row hrow => ?_
  rw [(hrows row hrow).2]
  decide

end Ticketing
