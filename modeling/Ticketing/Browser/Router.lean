import Mathlib.Algebra.Order.Floor.Ring
import Mathlib.Data.List.DropRight
import Mathlib.Data.Rat.Floor
import Ticketing.Browser.Numeral
import Ticketing.Foundation.FormData

/-!
# Routes and URLs

The router keeps the whole route in the query of the URL. `buildUrlFromRoute` leaves
out what is empty and what is no positive number, and `getRouteFromUrl` reads the
seven fields back, each in its own way.
-/

namespace Ticketing

open Foundation JavaScript Python

/-! ## URLs -/

/-- A URL of the application; the query comes without its question mark. -/
structure Url where
  pathname : String
  query : String
deriving DecidableEq, Repr

namespace Url

def toText (url : Url) : String :=
  url.pathname ++ if url.query = "" then "" else "?" ++ url.query

/-- What `text` resolves to, with nothing in it that a URL has to encode. -/
def ofText (text : String) : Url :=
  let address := text.toList.takeWhile (· ≠ '#')
  ⟨String.ofList (address.takeWhile (· ≠ '?')),
    String.ofList ((address.dropWhile (· ≠ '?')).drop 1)⟩

def searchParams (url : Url) : List (String × String) := formParse url.query.toList

end Url

/-- `searchParams.get(name)`. -/
def getParam (params : List (String × String)) (name : String) : Value :=
  ((params.find? fun pair => pair.1 == name).map fun pair => Value.string pair.2).getD .null

/-- `searchParams.set(name, value)`: instead of the first pair of this name, and of all
others. -/
def setParam (name value : String) : List (String × String) → List (String × String)
  | [] => [(name, value)]
  | pair :: rest =>
      if pair.1 = name then (name, value) :: rest.filter fun other => other.1 ≠ name
      else pair :: setParam name value rest

/-! ## `router.js` -/

def legacyDetailPath : String := "/movie/detail.html"

/-- `ROOT_PATHS.has(pathname)`. -/
def isRootPath (pathname : String) : Bool := pathname ∈ ["/", "/index.html"]

def normalizePathname (pathname : String) : String :=
  if isRootPath pathname then "/"
  else if pathname = legacyDetailPath then "/"
  else pathname

def toPositiveInt (value : Value) : Option Int :=
  match value.toNumber with
  | some parsed => if 0 < parsed then some (parsed.num.tdiv parsed.den) else none
  | none => none

/-- `String(value || '').trim()`. -/
def trimmedField (value : Value) : String := trimText (value.orElse (.string "")).toText

structure Route where
  pathname : String
  page : Option Int
  movieId : Option Int
  q : String
  view : String
  cPage : Option Int
  cQ : String
  concertId : Option Int
deriving DecidableEq, Repr

def getRouteFromUrl (url : Url) : Route :=
  let params := url.searchParams
  { pathname := normalizePathname url.pathname
    page := toPositiveInt (getParam params "page")
    movieId := toPositiveInt (getParam params "movie_id")
    q := trimmedField (getParam params "q")
    view := trimmedField (getParam params "view")
    cPage := toPositiveInt (getParam params "c_page")
    cQ := trimmedField (getParam params "c_q")
    concertId := toPositiveInt (getParam params "concert_id") }

/-- The parameter is set if the text is not empty. -/
def setText (name text : String) (params : List (String × String)) : List (String × String) :=
  if text ≠ "" then setParam name text params else params

/-- The parameter is set if the number is neither null nor zero. -/
def setNumber (name : String) (number : Option Int) (params : List (String × String)) :
    List (String × String) :=
  match number with
  | some n => if n ≠ 0 then setParam name (numberText n) params else params
  | none => params

def buildUrlFromRoute (route : Value) : String :=
  let params := setText "view" (trimmedField (route.get "view")) []
  let params := setNumber "page" (toPositiveInt (route.get "page")) params
  let params := setText "q" (trimmedField (route.get "q")) params
  let params := setNumber "movie_id" (toPositiveInt (route.get "movie_id")) params
  let params := setNumber "c_page" (toPositiveInt (route.get "c_page")) params
  let params := setText "c_q" (trimmedField (route.get "c_q")) params
  let params := setNumber "concert_id" (toPositiveInt (route.get "concert_id")) params
  Url.toText ⟨"/", String.ofList (formSerialize params)⟩

def numberOrNull : Option Int → Value
  | some n => .number n
  | none => .null

/-- The object that `getRouteFromUrl` returns. -/
def Route.toValue (route : Route) : Value :=
  .object [("pathname", .string route.pathname), ("page", numberOrNull route.page),
    ("movie_id", numberOrNull route.movieId), ("q", .string route.q),
    ("view", .string route.view), ("c_page", numberOrNull route.cPage),
    ("c_q", .string route.cQ), ("concert_id", numberOrNull route.concertId)]

/-! ## What the fields mean -/

/-- A text field: any text, or nothing. -/
inductive TextField : Value → String → Prop
  | text (text : String) : TextField (.string text) text
  | undefined : TextField .undefined ""
  | null : TextField .null ""

/-- A numeric field: a number, a numeral, or nothing. -/
inductive NumberField : Value → Option ℚ → Prop
  | number (value : ℚ) : NumberField (.number value) (some value)
  | text (numeral : Numeral) : NumberField (.string numeral.text) (some numeral.value)
  | undefined : NumberField .undefined none
  | null : NumberField .null none

/-- What the seven fields of a route object denote. -/
structure RouteFields where
  view : String
  page : Option ℚ
  q : String
  movieId : Option ℚ
  cPage : Option ℚ
  cQ : String
  concertId : Option ℚ

structure RouteFields.Of (fields : RouteFields) (route : Value) : Prop where
  view : TextField (route.get "view") fields.view
  page : NumberField (route.get "page") fields.page
  q : TextField (route.get "q") fields.q
  movieId : NumberField (route.get "movie_id") fields.movieId
  cPage : NumberField (route.get "c_page") fields.cPage
  cQ : TextField (route.get "c_q") fields.cQ
  concertId : NumberField (route.get "concert_id") fields.concertId

/-- The whole part of a number from one on. -/
def wholePart (number : Option ℚ) : Option Int :=
  number.bind fun value => if 1 ≤ value then some ⌊value⌋ else none

/-- The route that is meant. -/
def RouteFields.route (fields : RouteFields) : Route where
  pathname := "/"
  page := wholePart fields.page
  movieId := wholePart fields.movieId
  q := trimText fields.q
  view := trimText fields.view
  cPage := wholePart fields.cPage
  cQ := trimText fields.cQ
  concertId := wholePart fields.concertId

/-- A route as it is read from a URL that has been built: nothing is left to trim or to
round. -/
structure Route.Normal (route : Route) : Prop where
  pathname : route.pathname = "/"
  page : ∀ n ∈ route.page, 1 ≤ n
  movieId : ∀ n ∈ route.movieId, 1 ≤ n
  q : trimText route.q = route.q
  view : trimText route.view = route.view
  cPage : ∀ n ∈ route.cPage, 1 ≤ n
  cQ : trimText route.cQ = route.cQ
  concertId : ∀ n ∈ route.concertId, 1 ≤ n

section Fields

variable {value : Value} {text : String} {number : Option ℚ}

theorem trim_trim (space : Char → Bool) (text : List Char) :
    trim space (trim space text) = trim space text := by
  have hkept : (trim space text).dropWhile space = trim space text := by
    cases htrim : trim space text with
    | nil => rfl
    | cons c rest =>
        obtain ⟨after, hafter⟩ : trim space text <+: text.dropWhile space :=
          List.rdropWhile_prefix space (text.dropWhile space)
        rw [htrim, List.cons_append] at hafter
        have hself := List.dropWhile_idempotent space text
        rw [← hafter] at hself
        apply List.dropWhile_cons_of_neg
        intro hc
        rw [List.dropWhile_cons_of_pos hc] at hself
        have hlength : ((rest ++ after).dropWhile space).length ≤ (rest ++ after).length :=
          (List.dropWhile_suffix space).length_le
        rw [hself, List.length_cons] at hlength
        omega
  change ((trim space text).dropWhile space).rdropWhile space = _
  rw [hkept]
  exact List.rdropWhile_idempotent space _

theorem trimText_trimText (text : String) : trimText (trimText text) = trimText text := by
  unfold trimText
  rw [String.toList_ofList, trim_trim]

theorem TextField.trimmedField_eq (h : TextField value text) :
    trimmedField value = trimText text := by
  cases h with
  | text =>
      unfold trimmedField Value.orElse
      by_cases hempty : text = ""
      · subst hempty
        rfl
      · simp [Value.truthy, hempty, Value.toText]
  | undefined => rfl
  | null => rfl

/-- The source cuts off where the whole part rounds down. -/
theorem tdiv_eq_floor {value : ℚ} (h : 0 < value) : value.num.tdiv value.den = ⌊value⌋ := by
  rw [Int.tdiv_eq_ediv_of_nonneg (Rat.num_nonneg.mpr h.le), Rat.floor_def']

theorem NumberField.toNumber_eq (h : NumberField value number) :
    toPositiveInt value = number.bind fun n => if 0 < n then some ⌊n⌋ else none := by
  unfold toPositiveInt
  cases h with
  | number n =>
      by_cases hpos : 0 < n
      · simp [Value.toNumber, hpos, tdiv_eq_floor hpos]
      · simp [Value.toNumber, hpos]
  | text numeral =>
      rw [Value.toNumber, numberOfText_text]
      by_cases hpos : 0 < numeral.value
      · simp [hpos, tdiv_eq_floor hpos]
      · simp [hpos]
  | undefined => rfl
  | null => rfl

theorem NumberField.orNull (number : Option Int) :
    NumberField (numberOrNull number) (number.map fun n : Int => (n : ℚ)) := by
  cases number with
  | none => exact .null
  | some n => exact .number n

/-- Between zero and one the number is zero, and left out. -/
theorem NumberField.setNumber_eq (h : NumberField value number) (name : String)
    (params : List (String × String)) :
    setNumber name (toPositiveInt value) params = setNumber name (wholePart number) params := by
  rw [h.toNumber_eq, wholePart]
  cases number with
  | none => rfl
  | some n =>
      rw [Option.bind_some, Option.bind_some]
      by_cases hone : 1 ≤ n
      · rw [if_pos hone, if_pos (by linarith)]
      · by_cases hpos : 0 < n
        · have hfloor : ⌊n⌋ = 0 := Int.floor_eq_zero_iff.mpr ⟨hpos.le, not_le.mp hone⟩
          rw [if_neg hone, if_pos hpos, hfloor]
          rfl
        · rw [if_neg hone, if_neg hpos]

end Fields

/-! ## Parameters -/

section Params

variable {name other text : String} {params : List (String × String)}

@[simp] theorem getParam_nil (name : String) : getParam [] name = .null := rfl

theorem getParam_cons_self {pair : String × String} (h : pair.1 = name) :
    getParam (pair :: params) name = .string pair.2 := by
  rw [getParam, List.find?_cons_of_pos (by simpa using h)]
  rfl

theorem getParam_cons_of_ne {pair : String × String} (h : pair.1 ≠ name) :
    getParam (pair :: params) name = getParam params name := by
  rw [getParam, List.find?_cons_of_neg (by simpa using h)]
  rfl

theorem getParam_filter (hne : name ≠ other) :
    getParam (params.filter fun pair => pair.1 ≠ name) other = getParam params other := by
  induction params with
  | nil => rfl
  | cons pair rest ih =>
      by_cases hname : pair.1 = name
      · rw [List.filter_cons_of_neg (by simpa using hname), ih,
          getParam_cons_of_ne (by rwa [hname])]
      · rw [List.filter_cons_of_pos (by simpa using hname)]
        by_cases hother : pair.1 = other
        · rw [getParam_cons_self hother, getParam_cons_self hother]
        · rw [getParam_cons_of_ne hother, getParam_cons_of_ne hother, ih]

theorem getParam_setParam_self : getParam (setParam name text params) name = .string text := by
  induction params with
  | nil => exact getParam_cons_self rfl
  | cons pair rest ih =>
      rw [setParam]
      split
      next => exact getParam_cons_self rfl
      next hname => rw [getParam_cons_of_ne hname, ih]

theorem getParam_setParam_of_ne (hne : name ≠ other) :
    getParam (setParam name text params) other = getParam params other := by
  induction params with
  | nil => exact getParam_cons_of_ne hne
  | cons pair rest ih =>
      rw [setParam]
      split
      next hname =>
        rw [getParam_cons_of_ne hne, getParam_filter hne, getParam_cons_of_ne (by rwa [hname])]
      next hname =>
        by_cases hother : pair.1 = other
        · rw [getParam_cons_self hother, getParam_cons_self hother]
        · rw [getParam_cons_of_ne hother, getParam_cons_of_ne hother, ih]

@[simp] theorem getParam_setText_of_ne (hne : name ≠ other) :
    getParam (setText name text params) other = getParam params other := by
  unfold setText
  split
  next => exact getParam_setParam_of_ne hne
  next => rfl

@[simp] theorem getParam_setNumber_of_ne (hne : name ≠ other) (number : Option Int) :
    getParam (setNumber name number params) other = getParam params other := by
  unfold setNumber
  split
  next =>
    split
    next => exact getParam_setParam_of_ne hne
    next => rfl
  next => rfl

/-- A text is read back trimmed. -/
theorem trimmedField_setText (h : getParam params name = .null) :
    trimmedField (getParam (setText name text params) name) = trimText text := by
  unfold setText
  split
  next => rw [getParam_setParam_self, (TextField.text text).trimmedField_eq]
  next hempty =>
    obtain rfl : text = "" := not_not.mp hempty
    rw [h]
    rfl

/-- A positive number is read back. -/
theorem toPositiveInt_setNumber (h : getParam params name = .null) {number : Option Int}
    (hpos : ∀ n ∈ number, 1 ≤ n) :
    toPositiveInt (getParam (setNumber name number params) name) = number := by
  cases number with
  | none =>
      rw [setNumber, h]
      rfl
  | some n =>
      have hn : 1 ≤ n := hpos n rfl
      have hdecimal : IsDecimal (n : ℚ) := ⟨0, by simp⟩
      have hcast : (0 : ℚ) < n := by exact_mod_cast hn
      rw [setNumber, if_pos (by omega), getParam_setParam_self, toPositiveInt, Value.toNumber,
        numberOfText_numberText hdecimal]
      dsimp only
      rw [if_pos hcast, tdiv_eq_floor hcast, Int.floor_intCast]

end Params

/-! ## Routes are read back -/

namespace Route

variable (route : Route)

/-- The parameters of a route, in the order in which they are set. -/
def params : List (String × String) :=
  setNumber "concert_id" route.concertId (setText "c_q" route.cQ
    (setNumber "c_page" route.cPage (setNumber "movie_id" route.movieId
      (setText "q" route.q (setNumber "page" route.page (setText "view" route.view []))))))

def url : Url := ⟨"/", String.ofList (formSerialize route.params)⟩

end Route

section RoundTrip

variable {fields : RouteFields} {routeValue : Value} {route : Route}

/-- The URL that is built depends on what the fields mean alone. -/
theorem RouteFields.Of.buildUrlFromRoute_eq (h : fields.Of routeValue) :
    buildUrlFromRoute routeValue = fields.route.url.toText := by
  unfold buildUrlFromRoute
  dsimp only
  rw [h.view.trimmedField_eq, h.page.setNumber_eq, h.q.trimmedField_eq, h.movieId.setNumber_eq,
    h.cPage.setNumber_eq, h.cQ.trimmedField_eq, h.concertId.setNumber_eq]
  rfl

/-- A URL that has been built is resolved to itself. -/
theorem ofText_toText_url (route : Route) : Url.ofText route.url.toText = route.url := by
  have hplain : ∀ c ∈ formSerialize route.params, decide (c ≠ '#') = true := by
    intro c hc
    rw [decide_eq_true_eq]
    rintro rfl
    rcases mem_formSerialize hc with hsign | hsafe
    · exact absurd hsign (by decide)
    · exact absurd hsafe (by decide)
  by_cases hempty : formSerialize route.params = []
  · rw [Route.url, hempty]
    rfl
  · have htext : route.url.toText.toList = '/' :: '?' :: formSerialize route.params := by
      have hne : String.ofList (formSerialize route.params) ≠ "" := by simpa using hempty
      rw [Route.url, Url.toText, if_neg hne]
      simp
    have htake : route.url.toText.toList.takeWhile (· ≠ '#') = route.url.toText.toList := by
      rw [htext, List.takeWhile_eq_self_iff]
      simpa using hplain
    unfold Url.ofText
    rw [htake, htext]
    rfl

theorem searchParams_url (route : Route) : route.url.searchParams = route.params := by
  rw [Url.searchParams, Route.url, String.toList_ofList, formParse_formSerialize]

/-- The seven parameters do not get in each other's way. -/
theorem Route.Normal.getRouteFromUrl_url (h : route.Normal) :
    getRouteFromUrl route.url = route := by
  obtain ⟨pathname, page, movieId, q, view, cPage, cQ, concertId⟩ := route
  obtain ⟨hpathname, hpage, hmovieId, hq, hview, hcPage, hcQ, hconcertId⟩ := h
  dsimp only at hpathname hpage hmovieId hq hview hcPage hcQ hconcertId
  unfold getRouteFromUrl
  rw [searchParams_url, Route.mk.injEq]
  simp (disch := decide) only [Route.params, getParam_setNumber_of_ne, getParam_setText_of_ne]
  refine ⟨hpathname.symm, ?_, ?_, ?_, ?_, ?_, ?_, ?_⟩
  · exact toPositiveInt_setNumber (by simp) hpage
  · exact toPositiveInt_setNumber (by simp) hmovieId
  · rw [trimmedField_setText (by simp), hq]
  · rw [trimmedField_setText rfl, hview]
  · exact toPositiveInt_setNumber (by simp) hcPage
  · rw [trimmedField_setText (by simp), hcQ]
  · exact toPositiveInt_setNumber (by simp) hconcertId

theorem RouteFields.route_normal (fields : RouteFields) : fields.route.Normal := by
  have hwhole : ∀ number : Option ℚ, ∀ n ∈ wholePart number, 1 ≤ n := by
    intro number n hn
    obtain ⟨value, _, hn⟩ := Option.bind_eq_some_iff.mp hn
    obtain ⟨hone, hn⟩ := Option.ite_none_right_eq_some.mp hn
    obtain rfl := Option.some.inj hn
    exact Int.le_floor.mpr (by exact_mod_cast hone)
  exact ⟨rfl, hwhole _, hwhole _, trimText_trimText _, trimText_trimText _, hwhole _,
    trimText_trimText _, hwhole _⟩

theorem Route.Normal.buildUrlFromRoute_eq (h : route.Normal) :
    buildUrlFromRoute route.toValue = route.url.toText := by
  have hwhole : ∀ number : Option Int, (∀ n ∈ number, 1 ≤ n) →
      wholePart (number.map fun n : Int => (n : ℚ)) = number := by
    intro number hpos
    cases number with
    | none => rfl
    | some n =>
        have hone : (1 : ℚ) ≤ n := by exact_mod_cast hpos n rfl
        rw [Option.map_some, wholePart, Option.bind_some, if_pos hone, Int.floor_intCast]
  let fields : RouteFields :=
    { view := route.view, page := route.page.map fun n : Int => (n : ℚ), q := route.q
      movieId := route.movieId.map fun n : Int => (n : ℚ)
      cPage := route.cPage.map fun n : Int => (n : ℚ), cQ := route.cQ
      concertId := route.concertId.map fun n : Int => (n : ℚ) }
  have hfields : fields.Of route.toValue :=
    ⟨.text _, .orNull _, .text _, .orNull _, .orNull _, .text _, .orNull _⟩
  have hroute : fields.route = route := by
    rw [RouteFields.route, hwhole _ h.page, hwhole _ h.movieId, hwhole _ h.cPage,
      hwhole _ h.concertId, h.q, h.view, h.cQ, ← h.pathname]
  rw [hfields.buildUrlFromRoute_eq, hroute]

theorem RouteFields.Of.getRouteFromUrl_eq (h : fields.Of routeValue) :
    getRouteFromUrl (Url.ofText (buildUrlFromRoute routeValue)) = fields.route := by
  rw [h.buildUrlFromRoute_eq, ofText_toText_url, fields.route_normal.getRouteFromUrl_url]

/-- A search, with a page that is a text and an id that is cut down to zero. -/
def searchRoute : Value :=
  .object [("q", .string " a&b 한글 "), ("page", .string "3.7"), ("movie_id", .number (1 / 2))]

end RoundTrip

end Ticketing
