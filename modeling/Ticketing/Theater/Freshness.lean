import Ticketing.Theater.SeatCache

/-!
# Are the theater keys fresh?

A key is fresh if it holds, for each schedule in it, what a fetch from the
database would give now. A commit makes keys stale, and the operation that has
committed repairs them later. What spoils a key for good is a SET of a payload
that has been overtaken by a commit, when nobody is left to repair the key.
-/

namespace Ticketing

open Foundation Python

/-- For each of its schedules, the value has the count and the seats that
`_fetch_bootstrap_from_db` computes from the database. -/
def Fresh (catalog : Catalog) (db : Db) (value : TheaterValue) : Prop :=
  ∀ movieMap, ∀ item ∈ value.schedules,
    ∀ now ∈ (fetchBootstrapFromDb catalog movieMap db db db).schedules,
      now.scheduleId = item.scheduleId →
        item.remainCount = now.remainCount ∧
          value.reservedSeats.ofSchedule item.scheduleId =
            (fetchBootstrapFromDb catalog movieMap db db db).reservedSeats.ofSchedule
              item.scheduleId

/-- The same for one schedule, in terms of the tables. -/
def FreshItem (db : Db) (reserved : ReservedSeats) (item : SchedulePayload) : Prop :=
  ∀ row ∈ db.schedules.rows, row.scheduleId = item.scheduleId → row.status ≠ .other →
    item.remainCount = remaining db row ∧
      reserved.ofSchedule item.scheduleId = reservedKeys db item.scheduleId

theorem fresh_iff {catalog : Catalog} {db : Db} {value : TheaterValue} :
    Fresh catalog db value ↔ ∀ item ∈ value.schedules, FreshItem db value.reservedSeats item := by
  constructor
  · intro hfresh item hitem row hrow hid hstatus
    -- a map with the movie of the schedule lists it
    have hmem : schedulePayload catalog db row ∈ (fetchBootstrapFromDb catalog
        (AList.singleton (catalog.movieId row.scheduleId) []) db db db).schedules :=
      mem_schedules.mpr ⟨row, hrow, hstatus, by simp [AList.mem_keys], rfl⟩
    obtain ⟨hcount, hseats⟩ := hfresh _ item hitem _ hmem hid
    refine ⟨hcount, hseats.trans ?_⟩
    rw [← hid]
    exact fetch_ofSchedule hmem
  · intro hitems movieMap item hitem now hnow hid
    have hseats := fetch_ofSchedule hnow
    obtain ⟨row, hrow, hstatus, _, rfl⟩ := mem_schedules.mp hnow
    obtain ⟨hcount, hreserved⟩ := hitems item hitem row hrow hid hstatus
    rw [show (schedulePayload catalog db row).scheduleId = item.scheduleId from hid] at hseats
    exact ⟨hcount, hreserved.trans hseats.symm⟩

/-! ## What a fetch gives a key -/

section Fetch

variable {catalog : Catalog} {movieMap : MovieMap} {second third fourth : Db} {key : TheaterKey}
  {value : TheaterValue}

/-- The schedules of a value are those of the payload, with their seats. -/
theorem Bootstrap.valueAt_sub {payload : Bootstrap} (h : payload.valueAt key = some value) :
    ∀ item ∈ value.schedules, item ∈ payload.schedules ∧
      value.reservedSeats.ofSchedule item.scheduleId =
        payload.reservedSeats.ofSchedule item.scheduleId := by
  cases key with
  | bootstrap =>
      obtain rfl := Option.some.inj h
      exact fun item hitem => ⟨hitem, rfl⟩
  | detail theaterId =>
      obtain ⟨detail, hdetail, rfl⟩ := Option.map_eq_some_iff.mp h
      exact theaterDetail_sub hdetail

theorem valueAt_fetch
    (h : (fetchBootstrapFromDb catalog movieMap second third fourth).valueAt key = some value) :
    ∀ item ∈ value.schedules,
      (∃ row ∈ third.schedules.rows, schedulePayload catalog third row = item) ∧
        value.reservedSeats.ofSchedule item.scheduleId = reservedKeys fourth item.scheduleId := by
  intro item hitem
  obtain ⟨hmem, hseats⟩ := Bootstrap.valueAt_sub h item hitem
  obtain ⟨row, hrow, _, _, hrow'⟩ := mem_schedules.mp hmem
  exact ⟨⟨row, hrow, hrow'⟩, hseats.trans (fetch_ofSchedule hmem)⟩

/-- The fourth SELECT has no part in the schedules of a value. -/
theorem valueAt_schedules (other : Db)
    (h : (fetchBootstrapFromDb catalog movieMap second third fourth).valueAt key = some value) :
    ∃ value', (fetchBootstrapFromDb catalog movieMap second third other).valueAt key =
      some value' ∧ value'.schedules = value.schedules := by
  cases key with
  | bootstrap =>
      obtain rfl := Option.some.inj h
      exact ⟨_, rfl, rfl⟩
  | detail theaterId =>
      obtain ⟨detail, hdetail, rfl⟩ := Option.map_eq_some_iff.mp h
      obtain ⟨theater, htheater, rfl⟩ := Option.map_eq_some_iff.mp hdetail
      refine ⟨.detail (theaterSlice (fetchBootstrapFromDb catalog movieMap second third other)
        theaterId theater), Option.map_eq_some_iff.mpr ⟨_, ?_, rfl⟩, rfl⟩
      exact Option.map_eq_some_iff.mpr ⟨theater, htheater, rfl⟩

/-- A fetch whose last two SELECTs see one database is fresh for it. -/
theorem fetch_fresh {db : Db}
    (h : (fetchBootstrapFromDb catalog movieMap second db db).valueAt key = some value) :
    Fresh catalog db value := by
  rw [fresh_iff]
  intro item hitem row hrow hid _
  obtain ⟨⟨other, hother, rfl⟩, hseats⟩ := valueAt_fetch h item hitem
  obtain rfl := db.schedules.eq_of_pk_eq hrow hother hid
  exact ⟨rfl, hseats⟩

end Fetch

/-! ## Which schedules belong to a key -/

/-- The schedule may be in the value of the key. -/
def TheaterKey.Owns (db : Db) : TheaterKey → Int → Prop
  | .bootstrap, _ => True
  | .detail theaterId, scheduleId => theaterOf db scheduleId = theaterId

/-- The keys that can be written at all: one for each theater. -/
def theaterKeys (catalog : Catalog) : List TheaterKey :=
  .bootstrap :: catalog.theaters.rows.map fun theater => .detail theater.theaterId

/-- The key can be written, and the value is about its schedules only. -/
def Placed (catalog : Catalog) (db : Db) (key : TheaterKey) (value : TheaterValue) : Prop :=
  key ∈ theaterKeys catalog ∧ ∀ item ∈ value.schedules, key.Owns db item.scheduleId

theorem fetch_theaterIds {catalog : Catalog} {movieMap : MovieMap} {second third fourth : Db}
    {theaterId : Int} :
    (∃ theater ∈ (fetchBootstrapFromDb catalog movieMap second third fourth).theaters,
        theater.theaterId = theaterId) ↔
      TheaterKey.detail theaterId ∈ theaterKeys catalog := by
  simp [fetchBootstrapFromDb, selectTheaters, theaterKeys, theaterPayload]

/-- The halls of a payload are rows of the table. -/
theorem mem_halls {catalog : Catalog} {movieMap : MovieMap} {second third fourth : Db}
    {payload : HallPayload}
    (h : payload ∈ (fetchBootstrapFromDb catalog movieMap second third fourth).halls) :
    ∃ hall ∈ second.halls.rows, hallPayload (hallRow catalog second hall) = payload := by
  obtain ⟨row, hrow, rfl⟩ := List.mem_map.mp h
  obtain ⟨hall, hhall, rfl⟩ := List.mem_map.mp (List.mem_filter.mp hrow).1
  exact ⟨hall, (List.mem_insertionSort _).mp hhall, rfl⟩

theorem fetch_placed {catalog : Catalog} {movieMap : MovieMap} {origin third fourth : Db}
    {key : TheaterKey} {value : TheaterValue} (hlayout : origin.SameLayout third)
    (h : (fetchBootstrapFromDb catalog movieMap third third fourth).valueAt key = some value) :
    Placed catalog origin key value := by
  cases key with
  | bootstrap => exact ⟨List.mem_cons_self, fun _ _ => trivial⟩
  | detail theaterId =>
      obtain ⟨detail, hdetail, rfl⟩ := Option.map_eq_some_iff.mp h
      have hsub := theaterDetail_sub hdetail
      obtain ⟨theater, htheater, rfl⟩ := Option.map_eq_some_iff.mp hdetail
      constructor
      · refine fetch_theaterIds.mp ⟨theater, List.mem_of_find?_eq_some htheater, ?_⟩
        simpa using List.find?_some htheater
      · intro item hitem
        obtain ⟨row, hrow, _, _, hpayload⟩ := mem_schedules.mp (hsub item hitem).1
        obtain ⟨payload, hpayload', hid⟩ :=
          List.mem_map.mp (of_decide_eq_true (List.mem_filter.mp hitem).2)
        obtain ⟨hlisted, hsame⟩ := List.mem_filter.mp hpayload'
        obtain ⟨hall, hhall, rfl⟩ := mem_halls hlisted
        subst hpayload
        change theaterOf origin row.scheduleId = theaterId
        rw [← theaterOf_eq hlayout, theaterOf_of_mem hrow hhall hid]
        exact of_decide_eq_true hsame

/-! ## Repair -/

/-- The keys that a refill writes after its SELECTs. -/
def Refill.targets (catalog : Catalog) : Refill → List TheaterKey
  | .bootstrap => [.bootstrap]
  | .detail theaterId =>
      if .detail theaterId ∈ theaterKeys catalog then [.bootstrap, .detail theaterId] else []
  | .all => theaterKeys catalog

theorem mem_keys_fetch {catalog : Catalog} {movieMap : MovieMap} {second third fourth : Db}
    (refill : Refill) {key : TheaterKey} :
    key ∈ refill.keys (fetchBootstrapFromDb catalog movieMap second third fourth) ↔
      key ∈ refill.targets catalog := by
  cases refill with
  | bootstrap => rfl
  | detail theaterId =>
      have hfound : (theaterDetailFromBootstrap (fetchBootstrapFromDb catalog movieMap second third
          fourth) theaterId).isSome = true ↔ .detail theaterId ∈ theaterKeys catalog := by
        refine Iff.trans ?_ (@fetch_theaterIds catalog movieMap second third fourth theaterId)
        simp [theaterDetailFromBootstrap]
      simp only [Refill.keys, Refill.targets, hfound]
  | all =>
      simp [Refill.keys, Refill.targets, theaterKeys, fetchBootstrapFromDb, selectTheaters,
        theaterPayload]

/-- Whatever is to be stored is fresh. -/
def FreshAt (catalog : Catalog) (db : Db) (value : Option TheaterValue) : Prop :=
  ∀ v, value = some v → Fresh catalog db v

/-- The operation will delete the key, or it will write it, from SELECTs that it
has yet to make or that no commit has overtaken. -/
def TheaterTask.Covers (catalog : Catalog) (db : Db) (key : TheaterKey) : TheaterTask → Prop
  | .look _ => False
  | .load refill => key ∈ refill.targets catalog
  | .schedules refill movieMap third =>
      key ∈ refill.targets catalog ∧
        FreshAt catalog db ((fetchBootstrapFromDb catalog movieMap third third db).valueAt key)
  | .write payload first rest => key ∈ first :: rest ∧ FreshAt catalog db (payload.valueAt key)
  | .delete keys => key ∈ keys

/-- What an operation has read came from databases of this layout. -/
def TheaterTask.Sound (catalog : Catalog) (origin : Db) : TheaterTask → Prop
  | .schedules _ _ third => origin.SameLayout third
  | .write payload _ _ =>
      ∀ key value, payload.valueAt key = some value → Placed catalog origin key value
  | _ => True

/-- Every key is fresh, or somebody is going to repair it. -/
structure CacheInv (catalog : Catalog) (origin : Db) (s : TheaterState) : Prop where
  theater : s.db.TheaterInv
  layout : origin.SameLayout s.db
  sound : s.tasks.All (TheaterTask.Sound catalog origin)
  placed : ∀ key value, s.cache key = some value → Placed catalog origin key value
  fresh : ∀ key value, s.cache key = some value →
    Fresh catalog s.db value ∨ s.tasks.Covered (TheaterTask.Covers catalog s.db key)

/-! ## A booking touches one schedule -/

section Booked

variable {db next : Db} {request : Request} {schedule : Schedule} {seatIds : List Int}
  {bookingId : Int}

theorem TheaterBooked.reservedKeys_other
    (h : TheaterBooked db next request schedule seatIds bookingId) (hinv : db.TheaterInv)
    {scheduleId : Int} (hother : scheduleId ≠ request.showingId) :
    reservedKeys next scheduleId = reservedKeys db scheduleId := by
  rw [(h.theaterInv hinv).reservedKeys_eq, hinv.reservedKeys_eq, activePositions,
    activePositions, h.movies.activeSeats_other hother, h.hallSeats_eq]

theorem TheaterBooked.remaining_other
    (h : TheaterBooked db next request schedule seatIds bookingId) {row : Schedule}
    (hother : row.scheduleId ≠ request.showingId) : remaining next row = remaining db row := by
  rw [remaining, h.movies.activeSeats_other hother, remaining]

/-- The row of another schedule was there before. -/
theorem TheaterBooked.mem_other (h : TheaterBooked db next request schedule seatIds bookingId)
    {row : Schedule} (hrow : row ∈ next.schedules.rows)
    (hother : row.scheduleId ≠ request.showingId) : row ∈ db.schedules.rows := by
  rw [h.schedules] at hrow
  obtain ⟨old, hold, rfl⟩ := List.mem_map.mp hrow
  split at hother
  next hsame => exact absurd ((Schedule.scheduleId_booked _ _).trans hsame) hother
  next hsame =>
    rw [if_neg hsame]
    exact hold

theorem FreshItem.booked (h : TheaterBooked db next request schedule seatIds bookingId)
    (hinv : db.TheaterInv) {reserved : ReservedSeats} {item : SchedulePayload}
    (hother : item.scheduleId ≠ request.showingId) (hfresh : FreshItem db reserved item) :
    FreshItem next reserved item := by
  intro row hrow hid hstatus
  rw [← hid] at hother
  obtain ⟨hcount, hseats⟩ := hfresh row (h.mem_other hrow hother) hid hstatus
  rw [h.remaining_other hother]
  refine ⟨hcount, hseats.trans ?_⟩
  rw [← hid, h.reservedKeys_other hinv hother]

/-- A key of another theater owns no schedule that is booked. -/
theorem Placed.not_booked {catalog : Catalog} {origin : Db} {value : TheaterValue}
    {key : TheaterKey} (hplaced : Placed catalog origin key value) {scheduleId : Int}
    (hkey : key ∉ deletedKeys (theaterOf origin scheduleId))
    (hpos : 0 < theaterOf origin scheduleId) :
    ∀ item ∈ value.schedules, item.scheduleId ≠ scheduleId := by
  rintro item hitem rfl
  have howns := hplaced.2 item hitem
  rw [deletedKeys, if_pos hpos] at hkey
  cases key with
  | bootstrap => exact hkey List.mem_cons_self
  | detail theaterId =>
      change theaterOf origin item.scheduleId = theaterId at howns
      subst howns
      exact hkey (List.mem_cons_of_mem _ List.mem_cons_self)

theorem Fresh.booked {catalog : Catalog} {value : TheaterValue} (hfresh : Fresh catalog db value)
    (h : TheaterBooked db next request schedule seatIds bookingId) (hinv : db.TheaterInv)
    (hother : ∀ item ∈ value.schedules, item.scheduleId ≠ request.showingId) :
    Fresh catalog next value := by
  rw [fresh_iff] at hfresh ⊢
  exact fun item hitem => (hfresh item hitem).booked h hinv (hother item hitem)

/-- An operation goes on covering a key that the booking does not delete. -/
theorem TheaterTask.Covers.booked {catalog : Catalog} {origin : Db} {key : TheaterKey}
    {task : TheaterTask} (hcovers : task.Covers catalog db key)
    (hsound : task.Sound catalog origin)
    (h : TheaterBooked db next request schedule seatIds bookingId) (hinv : db.TheaterInv)
    (hkey : key ∉ deletedKeys (theaterOf origin request.showingId))
    (hpos : 0 < theaterOf origin request.showingId) : task.Covers catalog next key := by
  cases task with
  | look other => exact hcovers
  | load refill => exact hcovers
  | delete keys => exact hcovers
  | write payload first rest =>
      refine ⟨hcovers.1, fun value hvalue => ?_⟩
      exact (hcovers.2 value hvalue).booked h hinv ((hsound key value hvalue).not_booked hkey hpos)
  | schedules refill movieMap third =>
      refine ⟨hcovers.1, fun value hvalue => ?_⟩
      -- the counts are those of a value that was fresh, the seats are read now
      obtain ⟨old, hold, hsame⟩ := valueAt_schedules db hvalue
      have hother := (fetch_placed hsound hvalue).not_booked hkey hpos
      have hfresh := fresh_iff.mp ((hcovers.2 old hold).booked h hinv (by rwa [hsame]))
      rw [hsame] at hfresh
      refine fresh_iff.mpr fun item hitem row hrow hid hstatus => ?_
      exact ⟨(hfresh item hitem row hrow hid hstatus).1, (valueAt_fetch hvalue item hitem).2⟩

end Booked

/-! ## The invariant -/

section Steps

variable {catalog : Catalog} {origin : Db} {s : TheaterState} {id : Nat}

theorem cacheInv_initial {db : Db} (hinv : db.TheaterInv) :
    CacheInv catalog db (.initial db) where
  theater := hinv
  layout := ⟨rfl, rfl, rfl⟩
  sound := fun _ _ h => by cases h
  placed := fun _ _ h => by cases h
  fresh := fun _ _ h => by cases h

/-- A step that touches neither the database nor the cache. -/
theorem CacheInv.setTask (hinv : CacheInv catalog origin s) {next : Option TheaterTask}
    (hsound : ∀ task, next = some task → task.Sound catalog origin)
    (hkeep : ∀ key task, s.tasks id = some task → task.Covers catalog s.db key →
      ∃ after, next = some after ∧ after.Covers catalog s.db key) :
    CacheInv catalog origin { s with tasks := s.tasks.set id next } where
  theater := hinv.theater
  layout := hinv.layout
  sound := hinv.sound.set hsound
  placed := hinv.placed
  fresh := fun key value hvalue =>
    (hinv.fresh key value hvalue).imp_right fun hcovered => hcovered.set (hkeep key)

theorem CacheInv.start (hinv : CacheInv catalog origin s) (hfree : s.tasks id = none)
    {next : Option TheaterTask} (hsound : ∀ task, next = some task → task.Sound catalog origin) :
    CacheInv catalog origin { s with tasks := s.tasks.set id next } := by
  refine hinv.setTask hsound fun key task htask _ => ?_
  rw [hfree] at htask
  cases htask

/-- An operation that has begun to write covers the keys that are left. -/
theorem TheaterTask.writing_covers {db : Db} {payload : Bootstrap} {keys : List TheaterKey}
    {key : TheaterKey} (hkey : key ∈ keys) (hfresh : FreshAt catalog db (payload.valueAt key)) :
    ∃ task, TheaterTask.writing payload keys = some task ∧ task.Covers catalog db key := by
  cases keys with
  | nil => cases hkey
  | cons first rest => exact ⟨_, rfl, hkey, hfresh⟩

theorem TheaterTask.writing_sound {payload : Bootstrap} {keys : List TheaterKey}
    (hplaced : ∀ key value, payload.valueAt key = some value → Placed catalog origin key value) :
    ∀ task, TheaterTask.writing payload keys = some task → task.Sound catalog origin := by
  intro task htask
  cases keys with
  | nil => cases htask
  | cons first rest =>
      obtain rfl := Option.some.inj htask
      exact hplaced

/-- The SET of a fresh value repairs the key, and so does a SET of a stale one
if another operation still covers the key. -/
theorem CacheInv.write (hinv : CacheInv catalog origin s) {payload : Bootstrap}
    {first : TheaterKey} {rest : List TheaterKey}
    (htask : s.tasks id = some (.write payload first rest))
    (hsafe : FreshAt catalog s.db (payload.valueAt first) ∨
      s.tasks.CoveredBut id (TheaterTask.Covers catalog s.db first)) :
    CacheInv catalog origin
      { s with
        cache := fun key => if key = first then payload.valueAt first else s.cache key
        tasks := s.tasks.set id (TheaterTask.writing payload rest) } where
  theater := hinv.theater
  layout := hinv.layout
  sound := hinv.sound.set (TheaterTask.writing_sound (hinv.sound id _ htask))
  placed := by
    intro key value hvalue
    dsimp only at hvalue
    split at hvalue
    next hsame =>
      subst hsame
      exact hinv.sound id _ htask key value hvalue
    next => exact hinv.placed key value hvalue
  fresh := by
    intro key value hvalue
    dsimp only at hvalue
    split at hvalue
    next hsame =>
      subst hsame
      rcases hsafe with hfresh | hcovered
      · exact .inl (hfresh value hvalue)
      · exact .inr (hcovered.set _)
    next hother =>
      refine (hinv.fresh key value hvalue).imp_right fun hcovered => hcovered.set ?_
      rintro task hsame hcovers
      rw [htask] at hsame
      obtain rfl := Option.some.inj hsame
      obtain ⟨hmem, hfresh⟩ := hcovers
      exact TheaterTask.writing_covers (List.mem_of_ne_of_mem hother hmem) hfresh

theorem CacheInv.delete (hinv : CacheInv catalog origin s) {keys : List TheaterKey}
    (htask : s.tasks id = some (.delete keys)) :
    CacheInv catalog origin
      { s with
        cache := fun key => if key ∈ keys then none else s.cache key
        tasks := s.tasks.set id none } where
  theater := hinv.theater
  layout := hinv.layout
  sound := hinv.sound.set (by simp)
  placed := by
    intro key value hvalue
    dsimp only at hvalue
    split at hvalue
    next => cases hvalue
    next => exact hinv.placed key value hvalue
  fresh := by
    intro key value hvalue
    dsimp only at hvalue
    split at hvalue
    next => cases hvalue
    next hkept =>
      refine (hinv.fresh key value hvalue).imp_right fun hcovered => hcovered.set ?_
      rintro task hsame hcovers
      rw [htask] at hsame
      obtain rfl := Option.some.inj hsame
      exact absurd hcovers hkept

/-- A worker that commits is going to delete the keys that the booking makes
stale. -/
theorem CacheInv.book (hinv : CacheInv catalog origin s) (hfree : s.tasks id = none)
    (env : Env) (codes : Nat → String) (body : Json)
    (hpos : (processTheaterBooking env codes body s.db).1.isCommitted = true →
      0 < theaterIdForCache s.db body) :
    CacheInv catalog origin
      { s with
        db := (processTheaterBooking env codes body s.db).2
        tasks := s.tasks.set id
          (TheaterTask.afterBooking s.db body (processTheaterBooking env codes body s.db).1) } := by
  rcases @book_cases s.db env codes body with
    ⟨request, schedule, seatIds, bookingId, hdecode, hbooked, htheater, hcommitted⟩ |
      ⟨hsame, hcommitted⟩
  · have hlayout : origin.SameLayout (processTheaterBooking env codes body s.db).2 := by
      obtain ⟨hplan, hhalls, hseats⟩ := hbooked.sameLayout
      exact ⟨hplan.trans hinv.layout.1, hhalls.trans hinv.layout.2.1,
        hseats.trans hinv.layout.2.2⟩
    have hid : theaterIdForCache s.db body = theaterOf origin request.showingId :=
      htheater.trans (theaterOf_eq hinv.layout _)
    have htask : TheaterTask.afterBooking s.db body
        (processTheaterBooking env codes body s.db).1 =
          some (.delete (deletedKeys (theaterOf origin request.showingId))) := by
      rw [TheaterTask.afterBooking, if_pos hcommitted, hid]
    replace hpos := hpos hcommitted
    rw [hid] at hpos
    rw [htask]
    refine ⟨hbooked.theaterInv hinv.theater, hlayout, hinv.sound.set (by simp [TheaterTask.Sound]),
      hinv.placed, fun key value hvalue => ?_⟩
    by_cases hkey : key ∈ deletedKeys (theaterOf origin request.showingId)
    · exact .inr (Tasks.covered_set_same hkey)
    · rcases hinv.fresh key value hvalue with hfresh | hcovered
      · exact .inl (hfresh.booked hbooked hinv.theater
          ((hinv.placed key value hvalue).not_booked hkey hpos))
      · right
        refine Tasks.Covered.set ?_ fun task hsome _ => by rw [hfree] at hsome; cases hsome
        exact hcovered.mono fun other task hother hcovers =>
          hcovers.booked (hinv.sound other task hother) hbooked hinv.theater hkey hpos
  · rw [hsame, TheaterTask.afterBooking, hcommitted]
    exact hinv.start hfree (by simp)

/-- A refund that commits is going to write all keys anew. -/
theorem CacheInv.refund (hinv : CacheInv catalog origin s) (hfree : s.tasks id = none)
    (env : Env) (userId bookingId : Int) :
    CacheInv catalog origin
      { s with
        db := (refundMovieBooking env userId bookingId s.db).2
        tasks := s.tasks.set id
          (TheaterTask.afterRefund (refundMovieBooking env userId bookingId s.db).1) } := by
  rcases refundMovieBooking_done env userId bookingId s.db with hdone | hsame
  · have hnext : (refundMovieBooking env userId bookingId s.db).2.TheaterInv ∧
        origin.SameLayout (refundMovieBooking env userId bookingId s.db).2 := by
      rcases refundMovieBooking_cases env userId bookingId s.db with
        hsame | ⟨booking, _, _, movies, hnext, hrefunded⟩
      · rw [hsame]
        exact ⟨hinv.theater, hinv.layout⟩
      · rw [hnext]
        exact ⟨((Transacted.refundMovie hrefunded).theaterInv hinv.theater).1, hinv.layout⟩
    rw [hdone, TheaterTask.afterRefund, if_pos rfl]
    refine ⟨hnext.1, hnext.2, hinv.sound.set (by simp [TheaterTask.Sound]), hinv.placed,
      fun key value hvalue => .inr (Tasks.covered_set_same ?_)⟩
    exact (hinv.placed key value hvalue).1
  · rw [hsame]
    exact hinv.start hfree fun task htask => by
      unfold TheaterTask.afterRefund at htask
      split at htask
      next =>
        obtain rfl := Option.some.inj htask
        trivial
      next => cases htask

/-- What the steps must not do: store a payload that a commit has overtaken for
the key, unless another operation still covers the key; and book for a theater
whose id is not positive. -/
def KeepsFresh (catalog : Catalog) (s : TheaterState) : CacheStep → Prop
  | .advance id _ => ∀ payload key rest, s.tasks id = some (.write payload key rest) →
      FreshAt catalog s.db (payload.valueAt key) ∨
        s.tasks.CoveredBut id (TheaterTask.Covers catalog s.db key)
  | .book _ env codes body => (processTheaterBooking env codes body s.db).1.isCommitted = true →
      0 < theaterIdForCache s.db body
  | _ => True

theorem CacheInv.advance (hinv : CacheInv catalog origin s) {task : TheaterTask}
    (htask : s.tasks id = some task) (movieMap : MovieMap)
    (hkeeps : KeepsFresh catalog s (.advance id movieMap)) :
    CacheInv catalog origin (s.advance catalog id movieMap task) := by
  have heq : ∀ other, s.tasks id = some other → other = task := fun other hother =>
    Option.some.inj (hother.symm.trans htask)
  cases task with
  | look key =>
      refine hinv.setTask ?_ ?_
      · intro next hnext
        split at hnext
        next => cases hnext
        next =>
          obtain rfl := Option.some.inj hnext
          trivial
      · intro key' other hother hcovers
        rw [heq other hother] at hcovers
        cases hcovers
  | load refill =>
      refine hinv.setTask ?_ ?_
      · intro next hnext
        obtain rfl := Option.some.inj hnext
        exact hinv.layout
      · intro key other hother hcovers
        rw [heq other hother] at hcovers
        exact ⟨_, rfl, hcovers, fun value hvalue => fetch_fresh hvalue⟩
  | schedules refill movieMap third =>
      refine hinv.setTask ?_ ?_
      · exact TheaterTask.writing_sound fun key value hvalue =>
          fetch_placed (hinv.sound id _ htask) hvalue
      · intro key other hother hcovers
        rw [heq other hother] at hcovers
        exact TheaterTask.writing_covers ((mem_keys_fetch refill).mpr hcovers.1) hcovers.2
  | write payload key rest => exact hinv.write htask (hkeeps payload key rest htask)
  | delete keys => exact hinv.delete htask

theorem CacheInv.step (hinv : CacheInv catalog origin s) {a : CacheStep} {next : TheaterState}
    (hkeeps : KeepsFresh catalog s a) (h : (theaterCacheMachine catalog).step s a = some next) :
    CacheInv catalog origin next := by
  cases a with
  | read id key =>
      obtain ⟨hfree, rfl⟩ := TheaterState.start_eq_some.mp h
      exact hinv.start hfree (by simp [TheaterTask.Sound])
  | warmup id =>
      obtain ⟨hfree, rfl⟩ := TheaterState.start_eq_some.mp h
      exact hinv.start hfree (by simp [TheaterTask.Sound])
  | book id env codes body =>
      obtain ⟨hfree, rfl⟩ := TheaterState.start_eq_some.mp h
      exact hinv.book hfree env codes body hkeeps
  | refund id env userId bookingId =>
      obtain ⟨hfree, rfl⟩ := TheaterState.start_eq_some.mp h
      exact hinv.refund hfree env userId bookingId
  | advance id movieMap =>
      obtain ⟨task, htask, rfl⟩ := Option.map_eq_some_iff.mp h
      exact hinv.advance htask movieMap hkeeps

end Steps

/-- In every run from an empty cache whose steps keep the keys fresh or covered,
every key that exists while no operation is in progress is fresh. -/
theorem theater_keys_fresh {catalog : Catalog} {db start : Db} {before : List DbStep}
    {steps : List CacheStep} {final : TheaterState} (hempty : db.NoBookings)
    (hstart : dbMachine.run db before = some start)
    (hkeeps : (theaterCacheMachine catalog).Along (KeepsFresh catalog) (.initial start) steps)
    (hrun : (theaterCacheMachine catalog).run (.initial start) steps = some final)
    (hidle : final.tasks.Idle) :
    ∀ key value, final.cache key = some value → Fresh catalog final.db value := by
  have hinit : CacheInv catalog start (.initial start) :=
    cacheInv_initial (dbMachine_theaterInv hempty.theaterInv hstart).1
  have hstep : ∀ s a next, CacheInv catalog start s → KeepsFresh catalog s a →
      (theaterCacheMachine catalog).step s a = some next → CacheInv catalog start next :=
    fun _ _ _ hinv hkeeps h => hinv.step hkeeps h
  have hinv := Machine.run_invariant_along hstep hinit hkeeps hrun
  intro key value hvalue
  exact (hinv.fresh key value hvalue).resolve_right hidle.not_covered

/-! ## A reader that is overtaken -/

/-- A reader finds the bootstrap key missing and reads the database. -/
def readerLoads (id : Nat) : List CacheStep :=
  [.read id .bootstrap, .advance id ∅, .advance id oneSeatMovies, .advance id ∅]

/-- Before the reader stores what it has read, the seat is sold and the worker
deletes the keys. -/
def overtakenReader : List CacheStep :=
  readerLoads 0 ++
    [.book 1 .quiet (fun _ => "AA000001") (theaterBody "first" [.str "1-1"]), .advance 1 ∅,
      .advance 0 ∅]

/-- The key says that the seat is free, and nobody is left to correct it. -/
theorem stale_bootstrap_stays :
    oneSeatDb.NoBookings ∧ ∃ final value,
      (theaterCacheMachine oneSeatCatalog).run (.initial oneSeatDb) overtakenReader = some final ∧
        final.tasks.Idle ∧ final.cache .bootstrap = some value ∧
          ¬ Fresh oneSeatCatalog final.db value := by
  have hseats : ((theaterCacheMachine oneSeatCatalog).run (.initial oneSeatDb)
      overtakenReader).map (fun s =>
        ((s.cache .bootstrap).toList.flatMap fun value => value.schedules.map fun item =>
            (item.scheduleId, item.remainCount),
          (s.db.schedules.rows.filter fun row => row.status ≠ .other).map fun row =>
            (row.scheduleId, remaining s.db row))) =
      some ([(1, 1)], [(1, 0)]) := by
    decide +kernel
  have hover : ((theaterCacheMachine oneSeatCatalog).run (.initial oneSeatDb)
      overtakenReader).map (fun s => ((s.tasks 0).isNone, (s.tasks 1).isNone)) =
        some (true, true) := by
    decide +kernel
  obtain ⟨final, hrun, hfinal⟩ := Option.map_eq_some_iff.mp hseats
  obtain ⟨hcached, hrows⟩ := Prod.mk.inj hfinal
  rw [hrun] at hover
  obtain ⟨hfirst, hsecond⟩ := Prod.mk.inj (Option.some.inj hover)
  obtain ⟨value, hvalue, hitems⟩ := List.mem_flatMap.mp
    (hcached.symm ▸ List.mem_singleton_self (1, 1))
  refine ⟨⟨rfl, rfl⟩, final, value, hrun, ?_, Option.mem_toList.mp hvalue, fun hfresh => ?_⟩
  · refine run_idle (n := 2) hrun (by decide) fun id hid => ?_
    obtain rfl | rfl : id = 0 ∨ id = 1 := by omega
    · exact hfirst
    · exact hsecond
  · obtain ⟨item, hitem, hcount⟩ := List.mem_map.mp hitems
    obtain ⟨row, hrow, hleft⟩ := List.mem_map.mp (hrows.symm ▸ List.mem_singleton_self (1, 0))
    obtain ⟨hrow, hstatus⟩ := List.mem_filter.mp hrow
    obtain ⟨hid, hcount⟩ := Prod.mk.inj hcount
    obtain ⟨hid', hleft⟩ := Prod.mk.inj hleft
    -- the item counts one seat, the table leaves none
    have hsame := (fresh_iff.mp hfresh item hitem row hrow (hid'.trans hid.symm)
      (of_decide_eq_true hstatus)).1
    omega

theorem lonelyReader_keepsFresh :
    (theaterCacheMachine oneSeatCatalog).Along (KeepsFresh oneSeatCatalog) (.initial oneSeatDb)
      (readerLoads 0 ++ [.advance 0 ∅]) := by
  refine ⟨trivial, fun looking h => ?_⟩
  obtain rfl := Option.some.inj h
  refine ⟨fun _ _ _ h => (by cases h), fun loading h => ?_⟩
  obtain rfl := Option.some.inj h
  refine ⟨fun _ _ _ h => (by cases h), fun selecting h => ?_⟩
  obtain rfl := Option.some.inj h
  refine ⟨fun _ _ _ h => (by cases h), fun writing h => ?_⟩
  obtain rfl := Option.some.inj h
  refine ⟨fun payload key rest h => .inl fun value hvalue => ?_, fun _ _ => trivial⟩
  cases h
  exact fetch_fresh hvalue

/-- A reader on its own leaves a fresh key. -/
theorem theater_keys_fresh_reader :
    ∃ final value, (theaterCacheMachine oneSeatCatalog).run (.initial oneSeatDb)
        (readerLoads 0 ++ [.advance 0 ∅]) = some final ∧
      final.cache .bootstrap = some value ∧ Fresh oneSeatCatalog final.db value := by
  obtain ⟨final, hrun⟩ : ∃ final, (theaterCacheMachine oneSeatCatalog).run (.initial oneSeatDb)
      (readerLoads 0 ++ [.advance 0 ∅]) = some final := ⟨_, rfl⟩
  have hover : ((theaterCacheMachine oneSeatCatalog).run (.initial oneSeatDb)
      (readerLoads 0 ++ [.advance 0 ∅])).map (fun s =>
        ((s.tasks 0).isNone, (s.cache .bootstrap).isSome)) = some (true, true) := by
    decide +kernel
  rw [hrun] at hover
  obtain ⟨hfirst, hcached⟩ := Prod.mk.inj (Option.some.inj hover)
  obtain ⟨value, hvalue⟩ := Option.isSome_iff_exists.mp hcached
  have hidle : final.tasks.Idle := run_idle (n := 1) hrun (by decide) fun id hid => by
    obtain rfl : id = 0 := by omega
    exact hfirst
  have hstart : dbMachine.run oneSeatDb [] = some oneSeatDb := rfl
  exact ⟨final, value, hrun, hvalue, theater_keys_fresh ⟨rfl, rfl⟩ hstart
    lonelyReader_keepsFresh hrun hidle _ _ hvalue⟩

end Ticketing
