import Ticketing.Cache.Keys
import Ticketing.Concert.Write
import Ticketing.Theater.Catalog

/-!
# Two readers of one sale key

`sale_state.py`. The gate of the commit reads the key of one show, the page reads
the keys of many. Each decodes on its own and has its own exceptions to catch; an
exception is told by its class, since one of the two catches one class only.
-/

namespace Ticketing.SaleState

open Foundation Python

/-- The classes of exceptions that the decoding can raise. -/
inductive PyError where
  /-- JSONDecodeError, which is a ValueError too -/
  | jsonDecode
  | value
  | type
  | overflow
deriving DecidableEq, Repr

/-- What the readers return. -/
structure State where
  status : String
  closeAtEpochMs : Option Int
deriving DecidableEq, Repr

/-- `{"status": "OPEN", "close_at_epoch_ms": None}`. -/
def openState : State := ⟨"OPEN", none⟩

/-- What the keys hold: no text, a text that `json.loads` cannot read, or the value
that it returns. The numbers in it are short enough for `str()`. -/
abbrev Store := String → Option (Cached Json)

/-- `st if st in ("OPEN", "CLOSED") else "OPEN"`. -/
def oneOfTwo (st : List Char) : String :=
  if st = "OPEN".toList then "OPEN" else if st = "CLOSED".toList then "CLOSED" else "OPEN"

/-- `int(value)`. -/
def pyInt : Json → Except PyError Int
  | .int n => .ok n
  | .bool value => .ok (if value then 1 else 0)
  | .float (.finite _ truncated) => .ok truncated
  | .float (.infinity _) => .error .overflow
  | .float .nan => .error .value
  | .str text =>
      match intOfStr text.toList with
      | some n => .ok n
      | none => .error .value
  | .null | .arr _ | .obj _ => .error .type

/-- `json.loads(raw)`. -/
def jsonLoads : Cached Json → Except PyError Json
  | .readable value => .ok value
  | .broken => .error .jsonDecode

/-- `int(ca) if ca is not None else None`. -/
def closeAtOf (ca : Json) : Except PyError (Option Int) :=
  match ca with
  | .null => .ok none
  | ca => (pyInt ca).map some

/-! ## The functions -/

/-- The `try` block of `get_sale_state`. -/
def getSaleStateBlock (raw : Cached Json) : Except PyError State := do
  match ← jsonLoads raw with
  | .obj fields =>
      let j := Json.obj fields
      let st := oneOfTwo (upperStr ((j.get "status").orElse (.str "OPEN")).toStr)
      -- `except Exception`
      let ca := (closeAtOf (j.get "close_at_epoch_ms")).toOption.join
      return ⟨st, ca⟩
  | _ => return openState

/-- `get_sale_state`. -/
def getSaleState (store : Store) (showId : Int) : Except PyError State :=
  match store (saleKey showId) with
  | none => .ok openState
  | some raw =>
      match getSaleStateBlock raw with
      | .error .jsonDecode => .ok openState
      | other => other

/-- `is_open`. -/
def isOpen (store : Store) (showId : Int) : Except PyError Bool := do
  let state ← getSaleState store showId
  return upperStr ((Json.str state.status).orElse (.str "OPEN")).toStr = "OPEN".toList

/-- The `try` block in the loop of `mget_sale_states`. -/
def mgetSaleStatesBlock (raw : Cached Json) : Except PyError State := do
  match ← jsonLoads raw with
  | .obj fields =>
      let j := Json.obj fields
      let st := oneOfTwo (upperStr ((j.get "status").orElse (.str "OPEN")).toStr)
      -- `except Exception`
      let ca := (closeAtOf (j.get "close_at_epoch_ms")).toOption.join
      return ⟨st, ca⟩
  -- `raise ValueError("not dict")`
  | _ => .error .value

/-- The value that one turn of the loop puts into `out`. -/
def mgetSaleStatesTurn (raw : Option (Cached Json)) : State :=
  match raw with
  | none => openState
  | some raw =>
      match mgetSaleStatesBlock raw with
      | .ok state => state
      -- `except Exception`
      | .error _ => openState

/-- The dictionary `out`; its key is the text of the show id. -/
abbrev States := AList fun _ : Int => State

/-- `mget_sale_states`. -/
def mgetSaleStates (store : Store) (showIds : List Int) : States :=
  if showIds = [] then ∅
  else
    let raws := showIds.map fun showId => store (saleKey showId)
    (showIds.zip raws).foldl (fun out turn => out.insert turn.1 (mgetSaleStatesTurn turn.2)) ∅

/-- `set_sale_state`; `now` is the time in milliseconds. `json.dumps` raises for a
number with too many digits. -/
def setSaleState (now : Int) (store : Store) (showId : Int) (status : String)
    (closeAtEpochMs : Json) : Except PyError Store := do
  let st := oneOfTwo (upperStr (String.ofList (stripStr status.toList)))
  let closeAt ← if closeAtEpochMs.truthy then (pyInt closeAtEpochMs).map some else .ok none
  if closeAt.all fun n => (Nat.toDigits 10 n.natAbs).length ≤ maxStrDigits then
    return Function.update store (saleKey showId) (some (.readable (.obj [
      ("status", .str st), ("close_at_epoch_ms", closeAt.elim .null .int),
      ("updated_at_epoch_ms", .int now)])))
  else .error .value

/-! ## Both readers decode alike -/

/-- What a key says about its show. -/
def decoded (raw : Option (Cached Json)) : State :=
  match raw with
  | some (.readable (.obj fields)) =>
      ⟨oneOfTwo (upperStr (((Json.obj fields).get "status").orElse (.str "OPEN")).toStr),
        (closeAtOf ((Json.obj fields).get "close_at_epoch_ms")).toOption.join⟩
  | _ => openState

section Readers

variable {store : Store} {showId : Int}

/-- No exception leaves the first reader. -/
theorem getSaleState_eq (store : Store) (showId : Int) :
    getSaleState store showId = .ok (decoded (store (saleKey showId))) := by
  unfold getSaleState decoded
  cases store (saleKey showId) with
  | none => rfl
  | some raw =>
      cases raw with
      | broken => rfl
      | readable value => cases value <;> rfl

/-- The second one catches what it raises itself. -/
theorem mgetSaleStatesTurn_eq (raw : Option (Cached Json)) :
    mgetSaleStatesTurn raw = decoded raw := by
  unfold mgetSaleStatesTurn decoded
  cases raw with
  | none => rfl
  | some raw =>
      cases raw with
      | broken => rfl
      | readable value => cases value <;> rfl

theorem lookup_foldl_insert (showIds : List Int) (out : States) (id : Int) :
    ((showIds.zip (showIds.map fun showId => store (saleKey showId))).foldl (fun out turn =>
        out.insert turn.1 (mgetSaleStatesTurn turn.2)) out).lookup id =
      if id ∈ showIds then some (decoded (store (saleKey id))) else out.lookup id := by
  induction showIds generalizing out with
  | nil => rfl
  | cons first rest ih =>
      rw [List.map_cons, List.zip_cons_cons, List.foldl_cons, ih, mgetSaleStatesTurn_eq]
      by_cases hrest : id ∈ rest
      · rw [if_pos hrest, if_pos (List.mem_cons_of_mem first hrest)]
      · rw [if_neg hrest]
        by_cases hfirst : id = first
        · subst hfirst
          rw [AList.lookup_insert, if_pos List.mem_cons_self]
        · rw [AList.lookup_insert_ne hfirst, if_neg (by simp [hfirst, hrest])]

/-- The dictionary has the listed shows, each with what its own key says. -/
theorem lookup_mgetSaleStates (store : Store) (showIds : List Int) (id : Int) :
    (mgetSaleStates store showIds).lookup id =
      if id ∈ showIds then some (decoded (store (saleKey id))) else none := by
  unfold mgetSaleStates
  split
  next hnil => simp [hnil]
  next => exact lookup_foldl_insert showIds ∅ id

theorem oneOfTwo_cases (st : List Char) : oneOfTwo st = "OPEN" ∨ oneOfTwo st = "CLOSED" := by
  unfold oneOfTwo
  split
  next => exact .inl rfl
  next =>
    split
    next => exact .inr rfl
    next => exact .inl rfl

theorem decoded_status (raw : Option (Cached Json)) :
    (decoded raw).status = "OPEN" ∨ (decoded raw).status = "CLOSED" := by
  unfold decoded
  split
  next => exact oneOfTwo_cases _
  next => exact .inl rfl

/-- `upper()` keeps both of them. -/
theorem upperStr_status {status : String} (h : status = "OPEN" ∨ status = "CLOSED") :
    upperStr ((Json.str status).orElse (.str "OPEN")).toStr = status.toList := by
  rcases h with rfl | rfl
  · decide
  · decide

/-- The gate is open for a show exactly if its state says so. -/
theorem isOpen_eq (store : Store) (showId : Int) :
    isOpen store showId = .ok (decide ((decoded (store (saleKey showId))).status = "OPEN")) := by
  unfold isOpen
  rw [getSaleState_eq]
  change Except.ok (decide (upperStr _ = _)) = _
  rw [upperStr_status (decoded_status _)]
  exact congrArg Except.ok (decide_eq_decide.mpr String.toList_inj)

end Readers

/-! ## What is set is read -/

/-- Trimmed, in capitals, and OPEN for anything else. -/
def normalStatus (status : String) : String :=
  oneOfTwo (upperStr (String.ofList (stripStr status.toList)))

/-- `int(close_at_epoch_ms) if close_at_epoch_ms else None`. -/
def givenCloseAt (closeAtEpochMs : Json) : Option Int :=
  if closeAtEpochMs.truthy then (pyInt closeAtEpochMs).toOption else none

section Writer

variable {store next : Store} {now showId : Int} {status : String} {closeAtEpochMs : Json}

/-- Each of the two is one of the two. -/
theorem oneOfTwo_status {status : String} (h : status = "OPEN" ∨ status = "CLOSED") :
    oneOfTwo (upperStr ((Json.str status).orElse (.str "OPEN")).toStr) = status := by
  rw [upperStr_status h]
  rcases h with rfl | rfl
  · decide
  · decide

/-- A call that returns has written the key of its show only. -/
theorem setSaleState_cases (h : setSaleState now store showId status closeAtEpochMs = .ok next) :
    next = Function.update store (saleKey showId) (some (.readable (.obj [
      ("status", .str (normalStatus status)),
      ("close_at_epoch_ms", (givenCloseAt closeAtEpochMs).elim .null .int),
      ("updated_at_epoch_ms", .int now)]))) := by
  unfold setSaleState at h
  unfold givenCloseAt
  by_cases htruthy : closeAtEpochMs.truthy = true
  · rw [if_pos htruthy] at h ⊢
    cases hint : pyInt closeAtEpochMs with
    | error e =>
        rw [hint] at h
        cases h
    | ok n =>
        rw [hint] at h
        change (if _ then Except.ok _ else _) = _ at h
        split at h
        next => exact (Except.ok.inj h).symm
        next => cases h
  · rw [if_neg htruthy] at h ⊢
    exact (Except.ok.inj h).symm

theorem decoded_setSaleState
    (h : setSaleState now store showId status closeAtEpochMs = .ok next) :
    decoded (next (saleKey showId)) = ⟨normalStatus status, givenCloseAt closeAtEpochMs⟩ := by
  rw [setSaleState_cases h, Function.update_self]
  have hstatus := oneOfTwo_status (oneOfTwo_cases (upperStr (String.ofList
    (stripStr status.toList))))
  cases hclose : givenCloseAt closeAtEpochMs with
  | none =>
      simpa [decoded, Json.get, Json.item, closeAtOf, normalStatus, Except.toOption] using hstatus
  | some n =>
      simpa [decoded, Json.get, Json.item, closeAtOf, pyInt, normalStatus, Except.map,
        Except.toOption] using hstatus

theorem setSaleState_other (h : setSaleState now store showId status closeAtEpochMs = .ok next)
    {other : Int} (hother : other ≠ showId) : next (saleKey other) = store (saleKey other) := by
  rw [setSaleState_cases h, Function.update_of_ne]
  exact fun hsame => hother (saleKey_injective hsame)

/-- It returns for every number that Python can write. -/
theorem setSaleState_int (now : Int) (store : Store) (showId : Int) (status : String) {n : Int}
    (hdigits : (Nat.toDigits 10 n.natAbs).length ≤ maxStrDigits) :
    ∃ next, setSaleState now store showId status (.int n) = .ok next := by
  unfold setSaleState
  by_cases htruthy : (Json.int n).truthy = true
  · rw [if_pos htruthy]
    have hshort : (some n).all (fun n => (Nat.toDigits 10 n.natAbs).length ≤ maxStrDigits) =
        true := decide_eq_true hdigits
    dsimp only [pyInt, Except.map, bind, Except.bind]
    rw [if_pos hshort]
    exact ⟨_, rfl⟩
  · rw [if_neg htruthy]
    exact ⟨_, rfl⟩

end Writer

/-! ## One state for the page and for the gate -/

/-- Whatever the keys hold, and whatever shows are asked for, the page has the state
of each of them that the gate reads, and the gate is open exactly if this is OPEN.
What a call sets, both read for its show, and the other shows are as they were. -/
theorem sale_states_agree (store : Store) :
    (∀ showIds, ∀ showId ∈ showIds, ∃ state, getSaleState store showId = .ok state ∧
      (mgetSaleStates store showIds).lookup showId = some state ∧
      isOpen store showId = .ok (decide (state.status = "OPEN"))) ∧
    ∀ now showId status closeAtEpochMs,
      (∀ n, closeAtEpochMs = .int n → (Nat.toDigits 10 n.natAbs).length ≤ maxStrDigits →
        ∃ next, setSaleState now store showId status closeAtEpochMs = .ok next) ∧
      ∀ next, setSaleState now store showId status closeAtEpochMs = .ok next →
        getSaleState next showId = .ok ⟨normalStatus status, givenCloseAt closeAtEpochMs⟩ ∧
        (∀ n, n ≠ 0 → closeAtEpochMs = .int n → givenCloseAt closeAtEpochMs = some n) ∧
        (∀ showIds, showId ∈ showIds → (mgetSaleStates next showIds).lookup showId =
          some ⟨normalStatus status, givenCloseAt closeAtEpochMs⟩) ∧
        ∀ other, other ≠ showId → next (saleKey other) = store (saleKey other) ∧
          getSaleState next other = getSaleState store other ∧
          ∀ showIds, (mgetSaleStates next showIds).lookup other =
            (mgetSaleStates store showIds).lookup other := by
  constructor
  · intro showIds showId hmem
    exact ⟨_, getSaleState_eq store showId, by rw [lookup_mgetSaleStates, if_pos hmem],
      isOpen_eq store showId⟩
  · intro now showId status closeAtEpochMs
    constructor
    · rintro n rfl hdigits
      exact setSaleState_int now store showId status hdigits
    · intro next hset
      have hstate := decoded_setSaleState hset
      refine ⟨by rw [getSaleState_eq, hstate], ?_, ?_, ?_⟩
      · rintro n hne rfl
        have htruthy : (Json.int n).truthy = true := decide_eq_true hne
        exact if_pos htruthy
      · intro showIds hmem
        rw [lookup_mgetSaleStates, if_pos hmem, hstate]
      · intro other hother
        have hsame := setSaleState_other hset hother
        refine ⟨hsame, by rw [getSaleState_eq, getSaleState_eq, hsame], fun showIds => ?_⟩
        rw [lookup_mgetSaleStates, lookup_mgetSaleStates, hsame]

/-! ## The states of the commit -/

/-- What the key of a show holds after `set_sale_state` for its two callers. -/
def storedSale (now : Int) (sale : Sale) : Cached Json :=
  .readable (.obj [("status", .str (if sale.closed then "CLOSED" else "OPEN")),
    ("close_at_epoch_ms", sale.closeAtEpochMs.elim .null .int),
    ("updated_at_epoch_ms", .int now)])

/-- The gate in the model of the commit is this one. -/
theorem isOpen_storedSale {store : Store} {now showId : Int} {stored : Option Sale}
    (h : store (saleKey showId) = stored.map (storedSale now)) :
    isOpen store showId = .ok (Ticketing.isOpen stored) := by
  rw [isOpen_eq, h]
  cases stored with
  | none => rfl
  | some sale =>
      obtain ⟨closed, closeAt⟩ := sale
      have hstatus : (decoded (some (storedSale now ⟨closed, closeAt⟩))).status =
          if closed then "CLOSED" else "OPEN" := by
        cases closed with
        | false => exact oneOfTwo_status (.inl rfl)
        | true => exact oneOfTwo_status (.inr rfl)
      rw [Option.map_some, hstatus]
      cases closed with
      | false => rfl
      | true => rfl

/-- Show 1 is closed in small letters, with a closing time. -/
theorem sale_states_agree_closed :
    ∃ next, setSaleState 0 (fun _ => none) 1 " closed " (.int 1700000000000) = .ok next ∧
      getSaleState next 1 = .ok ⟨"CLOSED", some 1700000000000⟩ ∧
      (mgetSaleStates next [2, 1]).lookup 1 = some ⟨"CLOSED", some 1700000000000⟩ := by
  obtain ⟨hreturns, hreads⟩ :=
    (sale_states_agree fun _ => none).2 0 1 " closed " (.int 1700000000000)
  obtain ⟨next, hset⟩ := hreturns _ rfl (by decide)
  obtain ⟨hget, hclose, hmget, _⟩ := hreads next hset
  have hstatus : normalStatus " closed " = "CLOSED" := by decide
  rw [hstatus, hclose 1700000000000 (by decide) rfl] at hget hmget
  exact ⟨next, hset, hget, hmget [2, 1] (by decide)⟩

end Ticketing.SaleState
