import Ticketing.Browser.Router

/-!
# Rendering a route

`renderRoute` looks at the URL, and either rewrites it and starts over or loads the
scripts of a page and calls the page action. The name of a view is looked up on an
object literal, which has more properties than are written in it.
-/

namespace Ticketing

open Foundation JavaScript Python

/-! ## Tables -/

namespace ScriptPath

def home : String := "/js/main/home.js"
def movieMain : String := "/js/movie/movie_main.js"
def movieDetail : String := "/js/movie/movie_detail.js"
def footer : String := "/js/main/body3.js"
def mypage : String := "/js/user/mypage.js"
def edit : String := "/js/user/edit.js"
def changepw : String := "/js/user/changepw.js"
def theatersMain : String := "/js/theaters/theaters_main.js"
def theatersDetail : String := "/js/theaters/theaters_detail.js"
def bookingHistory : String := "/js/user/booking_history.js"
def concertMain : String := "/js/concert/concert_main.js"
def concertDetail : String := "/js/concert/concert_detail.js"
def concertBooking : String := "/js/concert/concert_booking.js"
def concertBookingModal : String := "/js/concert/concert_booking_modal.js"

end ScriptPath

structure ViewConfig where
  scripts : List String
  action : String
  prefetch : List String
deriving DecidableEq, Repr

/-- `VIEW_ROUTES`. -/
def viewRoutes : List (String × ViewConfig) :=
  [("mypage", ⟨[ScriptPath.mypage], "openMyPage", [ScriptPath.edit, ScriptPath.changepw]⟩),
    ("edit", ⟨[ScriptPath.mypage, ScriptPath.edit], "openUserEdit", [ScriptPath.changepw]⟩),
    ("changepw", ⟨[ScriptPath.mypage, ScriptPath.changepw], "openChangePw", [ScriptPath.edit]⟩),
    ("booking_history",
      ⟨[ScriptPath.bookingHistory], "openBookingHistory", [ScriptPath.mypage]⟩),
    ("booking", ⟨[ScriptPath.theatersMain], "openTheatersMain", [ScriptPath.theatersDetail]⟩),
    ("concert_booking", ⟨[ScriptPath.concertBooking], "openConcertBookingFromRouter",
      [ScriptPath.concertBookingModal]⟩)]

/-- The properties of `Object.prototype`, which every object literal inherits. -/
def inheritedNames : List String :=
  ["constructor", "__defineGetter__", "__defineSetter__", "hasOwnProperty", "__lookupGetter__",
    "__lookupSetter__", "isPrototypeOf", "propertyIsEnumerable", "toString", "valueOf",
    "__proto__", "toLocaleString"]

/-- What `VIEW_ROUTES[view]` can be. -/
inductive ViewLookup where
  | own (config : ViewConfig)
  /-- an object, but without `scripts` -/
  | inherited
  | undefined
deriving DecidableEq, Repr

def registered (view : String) : Option ViewConfig :=
  (viewRoutes.find? fun entry => entry.1 == view).map (·.2)

def lookupView (view : String) : ViewLookup :=
  match registered view with
  | some config => .own config
  | none => if view ∈ inheritedNames then .inherited else .undefined

/-- What the scripts put on `window`, as far as it is called here. -/
def scriptGlobals : List (String × List String) :=
  [(ScriptPath.home, ["renderHomePage"]), (ScriptPath.movieMain, ["renderMovieMain"]),
    (ScriptPath.movieDetail, ["renderMovieDetail"]),
    (ScriptPath.footer, ["renderMainBody3", "renderSiteFooter"]),
    (ScriptPath.mypage, ["openMyPage"]), (ScriptPath.edit, ["openUserEdit"]),
    (ScriptPath.changepw, ["openChangePw"]), (ScriptPath.theatersMain, ["openTheatersMain"]),
    (ScriptPath.bookingHistory, ["openBookingHistory"]),
    (ScriptPath.concertMain, ["renderConcertMain"]),
    (ScriptPath.concertDetail, ["renderConcertDetail"]),
    (ScriptPath.concertBooking, ["openConcertBookingFromRouter"])]

/-! ## Steps -/

/-- A call of a page action, with the route if one is passed. -/
structure PageCall where
  action : String
  route : Option Route
deriving DecidableEq, Repr

/-- The tab: its URL, the scripts that have been loaded and prefetched, what the main
section shows, and the calls so far. -/
structure RouterPage where
  location : Url
  scripts : List String
  prefetched : List String
  mainBody : Option String
  /-- modals that are open -/
  transientUi : Bool
  calls : List PageCall
  footers : Nat
deriving DecidableEq, Repr

inductive RouteError where
  /-- a loop over what is not iterable -/
  | typeError
  /-- `route action missing` -/
  | actionMissing (functionName : String)
deriving DecidableEq, Repr

/-- A page, and the error with which rendering it ended. -/
structure RouteOutcome where
  page : RouterPage
  error : Option RouteError
deriving DecidableEq, Repr

inductive RouterStep where
  | resetPrimarySections
  | ensureScript (path : String)
  | prefetchScripts (paths : List String)
  | runPageAction (functionName : String) (route : Option Route)
  | ensureFooter
deriving DecidableEq, Repr

namespace RouterPage

/-- `typeof window[functionName] === 'function'`. -/
def hasGlobal (page : RouterPage) (functionName : String) : Bool :=
  scriptGlobals.any fun entry => entry.1 ∈ page.scripts && functionName ∈ entry.2

/-- Every script can be loaded. -/
def ensureScript (path : String) (page : RouterPage) : RouterPage :=
  if path ∈ page.scripts then page else { page with scripts := page.scripts ++ [path] }

def prefetchScripts (paths : List String) (page : RouterPage) : RouterPage :=
  { page with prefetched := page.prefetched ++ paths.filter fun path => path ∉ page.prefetched }

def clearTransientUi (page : RouterPage) : RouterPage := { page with transientUi := false }

def replaceState (url : Url) (page : RouterPage) : RouterPage := { page with location := url }

end RouterPage

/-- One step, or the error that it throws. -/
def runRouterStep (page : RouterPage) : RouterStep → Except RouteError RouterPage
  | .resetPrimarySections => .ok { page with mainBody := none }
  | .ensureScript path => .ok (page.ensureScript path)
  | .prefetchScripts paths => .ok (page.prefetchScripts paths)
  | .runPageAction functionName route =>
      if page.hasGlobal functionName then
        .ok { page with
          mainBody := some functionName
          calls := page.calls ++ [⟨functionName, route⟩] }
      else .error (.actionMissing functionName)
  | .ensureFooter =>
      let page := page.ensureScript ScriptPath.footer
      if page.hasGlobal "renderSiteFooter" || page.hasGlobal "renderMainBody3" then
        .ok { page with footers := page.footers + 1 }
      else .ok page

/-- The steps one after the other, up to the first that throws. -/
def runRouterSteps (page : RouterPage) : List RouterStep → RouteOutcome
  | [] => ⟨page, none⟩
  | step :: rest =>
      match runRouterStep page step with
      | .ok next => runRouterSteps next rest
      | .error error => ⟨page, some error⟩

/-! ## `renderRoute` -/

def movieSteps (route : Route) : List RouterStep :=
  [.resetPrimarySections, .ensureScript ScriptPath.movieMain,
    .prefetchScripts [ScriptPath.movieDetail]] ++
  (if route.movieId.any (· ≠ 0) then
    [.ensureScript ScriptPath.movieDetail, .runPageAction "renderMovieDetail" none]
  else [.runPageAction "renderMovieMain" none]) ++ [.ensureFooter]

def concertSteps (route : Route) : List RouterStep :=
  [.resetPrimarySections, .ensureScript ScriptPath.concertMain,
    .prefetchScripts [ScriptPath.concertDetail, ScriptPath.concertBooking,
      ScriptPath.concertBookingModal]] ++
  (if route.concertId.any (· ≠ 0) then
    [.ensureScript ScriptPath.concertDetail, .runPageAction "renderConcertDetail" none]
  else [.runPageAction "renderConcertMain" none]) ++ [.ensureFooter]

def homeSteps : List RouterStep :=
  [.resetPrimarySections, .ensureScript ScriptPath.home,
    .prefetchScripts [ScriptPath.footer, ScriptPath.movieMain, ScriptPath.mypage],
    .runPageAction "renderHomePage" none, .ensureFooter]

def viewSteps (config : ViewConfig) (route : Route) : List RouterStep :=
  .resetPrimarySections :: config.scripts.map .ensureScript ++
    (if config.prefetch ≠ [] then [.prefetchScripts config.prefetch] else []) ++
    [.runPageAction config.action (some route), .ensureFooter]

def rootUrl : Url := Url.ofText "/"

/-- `renderViewRoute`, where `again` is `renderRoute`. -/
def renderViewRoute (again : RouterPage → Option RouteOutcome) (view : String) (route : Route)
    (page : RouterPage) : Option RouteOutcome :=
  match lookupView view with
  | .undefined => again (page.replaceState rootUrl)
  | .inherited => some ⟨{ page with mainBody := none }, some .typeError⟩
  | .own config => some (runRouterSteps page (viewSteps config route))

def normalizeLegacyUrlIfNeeded (page : RouterPage) : RouterPage :=
  if page.location.pathname ≠ legacyDetailPath then page
  else
    let params := page.location.searchParams
    page.replaceState (Url.ofText (buildUrlFromRoute (.object
      [("page", numberOrNull (toPositiveInt (getParam params "page"))),
        ("q", .string (trimmedField (getParam params "q"))),
        ("movie_id", numberOrNull (toPositiveInt (getParam params "movie_id")))])))

/-- The end of `renderRoute`, where there is no view. An id of a movie goes before what
the URL still has of a list of concerts. -/
def routeSteps (route : Route) : List RouterStep :=
  if route.movieId.any (· ≠ 0) then movieSteps route
  else if route.concertId.any (· ≠ 0) || route.cPage.any (· ≠ 0) || route.cQ ≠ "" then
    concertSteps route
  else if route.page.any (· ≠ 0) || route.q ≠ "" then movieSteps route
  else homeSteps

/-- With fuel for the calls of itself; `none` is the lack of it. -/
def renderRoute : Nat → RouterPage → Option RouteOutcome
  | 0, _ => none
  | fuel + 1, page =>
      let page := normalizeLegacyUrlIfNeeded page
      let route := getRouteFromUrl page.location
      let page := page.clearTransientUi
      if !isRootPath route.pathname && route.pathname ≠ "/" then
        renderRoute fuel (page.replaceState rootUrl)
      else if route.view ≠ "" then renderViewRoute (renderRoute fuel) route.view route page
      else some (runRouterSteps page (routeSteps route))

/-! ## The page that a URL stands for -/

/-- Some number from one on. -/
def hasNumber (params : List (String × String)) (name : String) : Bool :=
  match (getParam params name).toNumber with
  | some value => 1 ≤ value
  | none => false

def hasText (params : List (String × String)) (name : String) : Bool :=
  trimmedField (getParam params name) ≠ ""

/-- Of the URLs without a view: a movie first, then concerts, then the list of movies. -/
def plainPage (movie concert concerts movies : Bool) : String :=
  if movie then "renderMovieDetail"
  else if concert then "renderConcertDetail"
  else if concerts then "renderConcertMain"
  else if movies then "renderMovieMain"
  else "renderHomePage"

def viewPage (view : String) : String :=
  match registered view with
  | some config => config.action
  | none => "renderHomePage"

/-- The name of the view in the URL. -/
def viewOfUrl (url : Url) : String := trimmedField (getParam url.searchParams "view")

def pageOfUrl (url : Url) : String :=
  let params := url.searchParams
  if url.pathname = legacyDetailPath then
    plainPage (hasNumber params "movie_id") false false
      (hasNumber params "page" || hasText params "q")
  else if isRootPath url.pathname then
    if viewOfUrl url ≠ "" then viewPage (viewOfUrl url)
    else plainPage (hasNumber params "movie_id") (hasNumber params "concert_id")
      (hasNumber params "c_page" || hasText params "c_q")
      (hasNumber params "page" || hasText params "q")
  else "renderHomePage"

/-- A tab with the URL, and any scripts. -/
def openedPage (url : Url) (scripts : List String) : RouterPage where
  location := url
  scripts := scripts
  prefetched := []
  mainBody := none
  transientUi := false
  calls := []
  footers := 0

/-- Rendering ends after at most one redirect, without an error, and the page of the URL
has been called, once, and no other. -/
def DispatchesPage (url : Url) (scripts : List String) : Prop :=
  ∃ outcome, (∀ fuel, renderRoute (fuel + 2) (openedPage url scripts) = some outcome) ∧
    outcome.error = none ∧ outcome.page.calls.map PageCall.action = [pageOfUrl url]

/-! ## Steps that come to a page action -/

/-- What is done before a page action. -/
def RouterStep.isPreparation : RouterStep → Bool
  | .resetPrimarySections | .ensureScript _ | .prefetchScripts _ => true
  | .runPageAction _ _ | .ensureFooter => false

/-- One of the scripts that the steps load has the page action. -/
def providesAction (steps : List RouterStep) (action : String) : Bool :=
  scriptGlobals.any fun entry => .ensureScript entry.1 ∈ steps && action ∈ entry.2

/-- The page action is called, once, and nothing is thrown. -/
structure RouteOutcome.Calls (outcome : RouteOutcome) (page : RouterPage) (action : String) :
    Prop where
  error : outcome.error = none
  calls : ∃ route, outcome.page.calls = page.calls ++ [⟨action, route⟩]

theorem RouteOutcome.Calls.congr {outcome : RouteOutcome} {page other : RouterPage}
    {action : String} (h : outcome.Calls page action) (hcalls : other.calls = page.calls) :
    outcome.Calls other action := by
  obtain ⟨route, hroute⟩ := h.calls
  exact ⟨h.error, route, by rw [hroute, hcalls]⟩

section Steps

variable {page : RouterPage} {rest steps : List RouterStep} {action : String}

@[simp] theorem clearTransientUi_calls : page.clearTransientUi.calls = page.calls := rfl

@[simp] theorem replaceState_calls (url : Url) : (page.replaceState url).calls = page.calls := rfl

@[simp] theorem ensureScript_calls (path : String) :
    (page.ensureScript path).calls = page.calls := by
  unfold RouterPage.ensureScript
  split <;> rfl

@[simp] theorem mem_ensureScript {path other : String} :
    other ∈ (page.ensureScript path).scripts ↔ other ∈ page.scripts ∨ other = path := by
  unfold RouterPage.ensureScript
  split
  next hloaded =>
    refine ⟨.inl, fun h => h.elim id ?_⟩
    rintro rfl
    exact hloaded
  next => rw [List.mem_append, List.mem_singleton]

theorem runRouterSteps_cons (page : RouterPage) (step : RouterStep) (rest : List RouterStep) :
    runRouterSteps page (step :: rest) =
      match runRouterStep page step with
      | .ok next => runRouterSteps next rest
      | .error error => ⟨page, some error⟩ := rfl

/-- Preparations go through. They load their scripts and call nothing. -/
theorem runRouterSteps_preparation (hsteps : ∀ step ∈ steps, step.isPreparation = true) :
    ∃ next : RouterPage, runRouterSteps page (steps ++ rest) = runRouterSteps next rest ∧
      next.calls = page.calls ∧ (∀ path ∈ page.scripts, path ∈ next.scripts) ∧
        ∀ path, .ensureScript path ∈ steps → path ∈ next.scripts := by
  induction steps generalizing page with
  | nil =>
      exact ⟨page, rfl, rfl, fun _ hpath => hpath,
        fun _ hpath => absurd hpath List.not_mem_nil⟩
  | cons step steps ih =>
      obtain ⟨hstep, hrest⟩ := List.forall_mem_cons.mp hsteps
      have hone : ∃ middle, runRouterStep page step = .ok middle ∧ middle.calls = page.calls ∧
          (∀ path ∈ page.scripts, path ∈ middle.scripts) ∧
            ∀ path, step = .ensureScript path → path ∈ middle.scripts := by
        cases step with
        | resetPrimarySections =>
            exact ⟨_, rfl, rfl, fun _ hpath => hpath, fun _ heq => by cases heq⟩
        | prefetchScripts paths =>
            exact ⟨_, rfl, rfl, fun _ hpath => hpath, fun _ heq => by cases heq⟩
        | ensureScript path =>
            refine ⟨_, rfl, ensureScript_calls path,
              fun _ hpath => mem_ensureScript.mpr (.inl hpath), fun other heq => ?_⟩
            obtain rfl := RouterStep.ensureScript.inj heq
            exact mem_ensureScript.mpr (.inr rfl)
        | runPageAction functionName route => cases hstep
        | ensureFooter => cases hstep
      obtain ⟨middle, hmiddle, hcalls, hkept, hloaded⟩ := hone
      obtain ⟨next, hnext, hnextCalls, hnextKept, hnextLoaded⟩ := @ih middle hrest
      refine ⟨next, ?_, hnextCalls.trans hcalls,
        fun path hpath => hnextKept path (hkept path hpath), fun path hpath => ?_⟩
      · rw [List.cons_append, runRouterSteps_cons, hmiddle]
        exact hnext
      · rcases List.mem_cons.mp hpath with heq | hmem
        · exact hnextKept path (hloaded path heq.symm)
        · exact hnextLoaded path hmem

/-- A page action whose script is loaded before is called. -/
theorem runRouterSteps_calls (hsteps : ∀ step ∈ steps, step.isPreparation = true)
    (hprovides : providesAction steps action = true) (route : Option Route) :
    (runRouterSteps page (steps ++ [.runPageAction action route, .ensureFooter])).Calls page
      action := by
  obtain ⟨next, hnext, hcalls, _, hloaded⟩ := @runRouterSteps_preparation page
    [.runPageAction action route, .ensureFooter] steps hsteps
  have hglobal : next.hasGlobal action = true := by
    obtain ⟨entry, hentry, hboth⟩ := List.any_eq_true.mp hprovides
    rw [Bool.and_eq_true, decide_eq_true_eq] at hboth
    refine List.any_eq_true.mpr ⟨entry, hentry, ?_⟩
    rw [Bool.and_eq_true, decide_eq_true_eq]
    exact ⟨hloaded entry.1 hboth.1, hboth.2⟩
  -- the footer comes after the call
  have hfooter : ∀ called : RouterPage, ∃ last : RouterPage,
      runRouterSteps called [.ensureFooter] = ⟨last, none⟩ ∧ last.calls = called.calls := by
    intro called
    rw [runRouterSteps_cons]
    unfold runRouterStep
    dsimp only
    by_cases hrender : ((called.ensureScript ScriptPath.footer).hasGlobal "renderSiteFooter" ||
        (called.ensureScript ScriptPath.footer).hasGlobal "renderMainBody3") = true
    · rw [if_pos hrender]
      exact ⟨_, rfl, ensureScript_calls _⟩
    · rw [if_neg hrender]
      exact ⟨_, rfl, ensureScript_calls _⟩
  rw [hnext, runRouterSteps_cons]
  unfold runRouterStep
  dsimp only
  rw [if_pos hglobal]
  obtain ⟨last, hlast, hlastCalls⟩ := hfooter
    { next with mainBody := some action, calls := next.calls ++ [⟨action, route⟩] }
  dsimp only
  rw [hlast]
  exact ⟨rfl, route, by rw [hlastCalls, hcalls]⟩

theorem movieSteps_calls (page : RouterPage) (route : Route) :
    (runRouterSteps page (movieSteps route)).Calls page
      (if route.movieId.any (· ≠ 0) then "renderMovieDetail" else "renderMovieMain") := by
  unfold movieSteps
  split
  next =>
    exact @runRouterSteps_calls page [.resetPrimarySections, .ensureScript ScriptPath.movieMain,
      .prefetchScripts [ScriptPath.movieDetail], .ensureScript ScriptPath.movieDetail]
      "renderMovieDetail" (by decide) (by decide) none
  next =>
    exact @runRouterSteps_calls page [.resetPrimarySections, .ensureScript ScriptPath.movieMain,
      .prefetchScripts [ScriptPath.movieDetail]] "renderMovieMain" (by decide) (by decide) none

theorem concertSteps_calls (page : RouterPage) (route : Route) :
    (runRouterSteps page (concertSteps route)).Calls page
      (if route.concertId.any (· ≠ 0) then "renderConcertDetail" else "renderConcertMain") := by
  unfold concertSteps
  split
  next =>
    exact @runRouterSteps_calls page [.resetPrimarySections, .ensureScript ScriptPath.concertMain,
      .prefetchScripts [ScriptPath.concertDetail, ScriptPath.concertBooking,
        ScriptPath.concertBookingModal], .ensureScript ScriptPath.concertDetail]
      "renderConcertDetail" (by decide) (by decide) none
  next =>
    exact @runRouterSteps_calls page [.resetPrimarySections, .ensureScript ScriptPath.concertMain,
      .prefetchScripts [ScriptPath.concertDetail, ScriptPath.concertBooking,
        ScriptPath.concertBookingModal]] "renderConcertMain" (by decide) (by decide) none

theorem homeSteps_calls (page : RouterPage) :
    (runRouterSteps page homeSteps).Calls page "renderHomePage" :=
  @runRouterSteps_calls page [.resetPrimarySections, .ensureScript ScriptPath.home,
    .prefetchScripts [ScriptPath.footer, ScriptPath.movieMain, ScriptPath.mypage]]
    "renderHomePage" (by decide) (by decide) none

theorem routeSteps_calls (page : RouterPage) (route : Route) :
    (runRouterSteps page (routeSteps route)).Calls page
      (plainPage (route.movieId.any (· ≠ 0)) (route.concertId.any (· ≠ 0))
        (route.cPage.any (· ≠ 0) || route.cQ ≠ "") (route.page.any (· ≠ 0) || route.q ≠ "")) := by
  have hmovie := movieSteps_calls page route
  have hconcert := concertSteps_calls page route
  unfold routeSteps plainPage
  by_cases hmovieId : route.movieId.any (· ≠ 0) = true
  · rw [if_pos hmovieId] at hmovie ⊢
    rwa [if_pos hmovieId]
  rw [if_neg hmovieId] at hmovie ⊢
  rw [if_neg hmovieId]
  by_cases hconcertId : route.concertId.any (· ≠ 0) = true
  · rw [if_pos hconcertId] at hconcert ⊢
    rwa [hconcertId]
  rw [if_neg hconcertId] at hconcert ⊢
  rw [Bool.eq_false_of_not_eq_true hconcertId, Bool.false_or]
  by_cases hconcerts : (route.cPage.any (· ≠ 0) || decide (route.cQ ≠ "")) = true
  · rwa [if_pos hconcerts, if_pos hconcerts]
  rw [if_neg hconcerts, if_neg hconcerts]
  by_cases hmovies : (route.page.any (· ≠ 0) || decide (route.q ≠ "")) = true
  · rwa [if_pos hmovies, if_pos hmovies]
  · rw [if_neg hmovies, if_neg hmovies]
    exact homeSteps_calls page

/-- The action of every view is in one of its scripts. -/
theorem viewSteps_calls {view : String} {config : ViewConfig}
    (hview : registered view = some config) (page : RouterPage) (route : Route) :
    (runRouterSteps page (viewSteps config route)).Calls page config.action := by
  obtain ⟨entry, hfind, rfl⟩ := Option.map_eq_some_iff.mp hview
  have hmem := List.mem_of_find?_eq_some hfind
  have hsteps : ∀ entry ∈ viewRoutes, ∀ step ∈ .resetPrimarySections ::
      (entry.2.scripts.map RouterStep.ensureScript ++
        if entry.2.prefetch ≠ [] then [.prefetchScripts entry.2.prefetch] else []),
      step.isPreparation = true := by decide
  have hprovides : ∀ entry ∈ viewRoutes, providesAction (.resetPrimarySections ::
      (entry.2.scripts.map RouterStep.ensureScript ++
        if entry.2.prefetch ≠ [] then [.prefetchScripts entry.2.prefetch] else []))
      entry.2.action = true := by decide
  exact runRouterSteps_calls (hsteps entry hmem) (hprovides entry hmem) (some route)

end Steps

/-! ## The redirects -/

section Redirects

variable {page : RouterPage} {outcome : RouteOutcome} {url : Url} {scripts : List String}

theorem any_toPositiveInt (value : Value) :
    (toPositiveInt value).any (· ≠ 0) =
      match value.toNumber with
      | some number => decide (1 ≤ number)
      | none => false := by
  unfold toPositiveInt
  cases value.toNumber with
  | none => rfl
  | some number =>
      dsimp only
      by_cases hpos : 0 < number
      · rw [if_pos hpos, tdiv_eq_floor hpos, Option.any_some, decide_eq_decide, Ne,
          Int.floor_eq_zero_iff, Set.mem_Ico, not_and, not_lt]
        exact ⟨fun h => h hpos.le, fun h _ => h⟩
      · rw [if_neg hpos, Option.any_none, eq_comm, decide_eq_false_iff_not]
        intro hone
        linarith

theorem any_hasNumber (params : List (String × String)) (name : String) :
    (toPositiveInt (getParam params name)).any (· ≠ 0) = hasNumber params name :=
  any_toPositiveInt _

/-- A number that has been read stays what it is when it is read once more. -/
theorem any_wholePart (value : Value) :
    (wholePart ((toPositiveInt value).map fun n : Int => (n : ℚ))).any (· ≠ 0) =
      (toPositiveInt value).any (· ≠ 0) := by
  have hnonneg : ∀ n, toPositiveInt value = some n → 0 ≤ n := by
    intro n hn
    unfold toPositiveInt at hn
    split at hn
    next number _ =>
      obtain ⟨hpos, hn⟩ := Option.ite_none_right_eq_some.mp hn
      obtain rfl := Option.some.inj hn
      rw [tdiv_eq_floor hpos]
      exact Int.floor_nonneg.mpr hpos.le
    next => cases hn
  cases hnumber : toPositiveInt value with
  | none => rfl
  | some n =>
      have hn := hnonneg n hnumber
      rw [Option.map_some, wholePart, Option.bind_some]
      by_cases hone : (1 : ℚ) ≤ n
      · rw [if_pos hone, Int.floor_intCast]
      · rw [if_neg hone, Option.any_none, Option.any_some, eq_comm, decide_eq_false_iff_not,
          not_not]
        have hless : n < 1 := by exact_mod_cast not_le.mp hone
        omega

theorem ne_legacy_of_isRootPath {pathname : String} (hroot : isRootPath pathname = true) :
    pathname ≠ legacyDetailPath := by
  rintro rfl
  exact absurd hroot (by decide)

theorem renderRoute_succ (fuel : Nat) (page : RouterPage) :
    renderRoute (fuel + 1) page =
      let page := normalizeLegacyUrlIfNeeded page
      let route := getRouteFromUrl page.location
      let page := page.clearTransientUi
      if !isRootPath route.pathname && route.pathname ≠ "/" then
        renderRoute fuel (page.replaceState rootUrl)
      else if route.view ≠ "" then renderViewRoute (renderRoute fuel) route.view route page
      else some (runRouterSteps page (routeSteps route)) := rfl

theorem renderRoute_of_root (hroot : isRootPath page.location.pathname = true) (fuel : Nat) :
    renderRoute (fuel + 1) page =
      if (getRouteFromUrl page.location).view ≠ "" then
        renderViewRoute (renderRoute fuel) (getRouteFromUrl page.location).view
          (getRouteFromUrl page.location) page.clearTransientUi
      else some (runRouterSteps page.clearTransientUi
        (routeSteps (getRouteFromUrl page.location))) := by
  have hlegacy := ne_legacy_of_isRootPath hroot
  have hpathname : (getRouteFromUrl page.location).pathname = "/" := if_pos hroot
  have hstay : normalizeLegacyUrlIfNeeded page = page := if_pos hlegacy
  rw [renderRoute_succ, hstay]
  dsimp only
  rw [if_neg (by rw [hpathname]; decide)]

/-- From the root without parameters the home page is reached. -/
theorem renderRoute_rootUrl (hlocation : page.location = rootUrl) :
    ∃ outcome, (∀ fuel, renderRoute (fuel + 1) page = some outcome) ∧
      outcome.Calls page "renderHomePage" := by
  have hroot : isRootPath page.location.pathname = true := by
    rw [hlocation]
    decide
  have hroute : getRouteFromUrl page.location = ⟨"/", none, none, "", "", none, "", none⟩ := by
    rw [hlocation]
    decide
  have hcalls := homeSteps_calls page.clearTransientUi
  refine ⟨_, fun fuel => ?_, hcalls.congr (by simp)⟩
  rw [renderRoute_of_root hroot, hroute]
  rfl

/-- The parameters of a legacy URL that are kept. -/
def legacyFields (params : List (String × String)) : RouteFields where
  view := ""
  page := (toPositiveInt (getParam params "page")).map fun n : Int => (n : ℚ)
  q := trimmedField (getParam params "q")
  movieId := (toPositiveInt (getParam params "movie_id")).map fun n : Int => (n : ℚ)
  cPage := none
  cQ := ""
  concertId := none

theorem trimText_trimmedField (value : Value) :
    trimText (trimmedField value) = trimmedField value :=
  trimText_trimText _

theorem renderRoute_legacy (hlegacy : page.location.pathname = legacyDetailPath) :
    ∃ outcome, (∀ fuel, renderRoute (fuel + 1) page = some outcome) ∧
      outcome.Calls page (pageOfUrl page.location) := by
  let params := page.location.searchParams
  let kept : Value := .object
    [("page", numberOrNull (toPositiveInt (getParam params "page"))),
      ("q", .string (trimmedField (getParam params "q"))),
      ("movie_id", numberOrNull (toPositiveInt (getParam params "movie_id")))]
  have hfields : (legacyFields params).Of kept :=
    ⟨.undefined, .orNull _, .text _, .orNull _, .undefined, .undefined, .undefined⟩
  have hroute : getRouteFromUrl
      (page.replaceState (Url.ofText (buildUrlFromRoute kept))).location =
        (legacyFields params).route := hfields.getRouteFromUrl_eq
  have hpathname : (legacyFields params).route.pathname = "/" := rfl
  have hview : (legacyFields params).route.view = "" := rfl
  have hrewritten : normalizeLegacyUrlIfNeeded page =
      page.replaceState (Url.ofText (buildUrlFromRoute kept)) := if_neg (not_not.mpr hlegacy)
  have hcalls := routeSteps_calls
    (page.replaceState (Url.ofText (buildUrlFromRoute kept))).clearTransientUi
    (legacyFields params).route
  have hpage : plainPage ((legacyFields params).route.movieId.any (· ≠ 0))
      ((legacyFields params).route.concertId.any (· ≠ 0))
      ((legacyFields params).route.cPage.any (· ≠ 0) || (legacyFields params).route.cQ ≠ "")
      ((legacyFields params).route.page.any (· ≠ 0) || (legacyFields params).route.q ≠ "") =
        pageOfUrl page.location := by
    unfold pageOfUrl
    dsimp only
    rw [if_pos hlegacy, ← any_hasNumber, ← any_hasNumber, hasText, ← any_wholePart,
      ← any_wholePart (getParam _ "page"), ← trimText_trimmedField]
    rfl
  rw [hpage] at hcalls
  refine ⟨_, fun fuel => ?_, hcalls.congr (by simp)⟩
  rw [renderRoute_succ, hrewritten]
  dsimp only
  rw [hroute, hpathname, hview, if_neg (by decide), if_neg (by decide)]

/-- Another path leads to the root. -/
theorem renderRoute_unknownPath (hroot : isRootPath page.location.pathname = false)
    (hlegacy : page.location.pathname ≠ legacyDetailPath) :
    ∃ outcome, (∀ fuel, renderRoute (fuel + 2) page = some outcome) ∧
      outcome.Calls page "renderHomePage" := by
  obtain ⟨outcome, hrun, hcalls⟩ :=
    @renderRoute_rootUrl (page.clearTransientUi.replaceState rootUrl) rfl
  refine ⟨outcome, fun fuel => ?_, hcalls.congr (by simp)⟩
  have hstay : normalizeLegacyUrlIfNeeded page = page := if_pos hlegacy
  have hpathname : (getRouteFromUrl page.location).pathname = page.location.pathname := by
    change normalizePathname page.location.pathname = _
    rw [normalizePathname, if_neg (by rw [hroot]; decide), if_neg hlegacy]
  have hother : page.location.pathname ≠ "/" := by
    intro heq
    rw [heq] at hroot
    exact absurd hroot (by decide)
  rw [renderRoute_succ, hstay]
  dsimp only
  rw [hpathname, hroot, if_pos (by simpa using hother), hrun]

theorem renderViewRoute_undefined {view : String} {route : Route}
    (hview : lookupView view = .undefined) :
    ∃ outcome, (∀ fuel, renderViewRoute (renderRoute (fuel + 1)) view route page = some outcome) ∧
      outcome.Calls page "renderHomePage" := by
  obtain ⟨outcome, hrun, hcalls⟩ := @renderRoute_rootUrl (page.replaceState rootUrl) rfl
  refine ⟨outcome, fun fuel => ?_, hcalls.congr (by simp)⟩
  unfold renderViewRoute
  rw [hview]
  exact hrun fuel

/-- A name that is inherited is no view, and none is the empty name. -/
theorem lookupView_inherited {view : String} (hview : view ∈ inheritedNames) :
    lookupView view = .inherited ∧ view ≠ "" := by
  have hall : ∀ name ∈ inheritedNames, lookupView name = .inherited ∧ name ≠ "" := by decide
  exact hall view hview

/-- The main section is cleared, and then the loop over the scripts throws. -/
theorem renderRoute_inherited (hroot : isRootPath page.location.pathname = true)
    (hview : viewOfUrl page.location ∈ inheritedNames) (fuel : Nat) :
    renderRoute (fuel + 1) page =
      some ⟨{ page.clearTransientUi with mainBody := none }, some .typeError⟩ := by
  obtain ⟨hlookup, hname⟩ := lookupView_inherited hview
  have hroute : (getRouteFromUrl page.location).view = viewOfUrl page.location := rfl
  rw [renderRoute_of_root hroot, hroute, if_pos hname, renderViewRoute, hlookup]

/-- From a root path every other name comes to a page. -/
theorem renderRoute_root (hroot : isRootPath page.location.pathname = true)
    (hview : viewOfUrl page.location ∉ inheritedNames) :
    ∃ outcome, (∀ fuel, renderRoute (fuel + 2) page = some outcome) ∧
      outcome.Calls page (pageOfUrl page.location) := by
  have hroute : (getRouteFromUrl page.location).view = viewOfUrl page.location := rfl
  have hlegacy := ne_legacy_of_isRootPath hroot
  have hpage : pageOfUrl page.location =
      if viewOfUrl page.location ≠ "" then viewPage (viewOfUrl page.location)
      else plainPage (hasNumber page.location.searchParams "movie_id")
        (hasNumber page.location.searchParams "concert_id")
        (hasNumber page.location.searchParams "c_page" ||
          hasText page.location.searchParams "c_q")
        (hasNumber page.location.searchParams "page" ||
          hasText page.location.searchParams "q") := by
    rw [pageOfUrl, if_neg hlegacy, if_pos hroot]
  rw [hpage]
  by_cases hempty : viewOfUrl page.location = ""
  · have hcalls := routeSteps_calls page.clearTransientUi (getRouteFromUrl page.location)
    rw [if_neg (not_not.mpr hempty), ← any_hasNumber, ← any_hasNumber, ← any_hasNumber,
      ← any_hasNumber]
    refine ⟨_, fun fuel => ?_, hcalls.congr (by simp)⟩
    rw [renderRoute_of_root hroot, hroute, if_neg (not_not.mpr hempty)]
  · rw [if_pos hempty, viewPage]
    cases hregistered : registered (viewOfUrl page.location) with
    | some config =>
        have hlookup : lookupView (viewOfUrl page.location) = .own config := by
          rw [lookupView, hregistered]
        have hcalls := viewSteps_calls hregistered page.clearTransientUi
          (getRouteFromUrl page.location)
        refine ⟨_, fun fuel => ?_, hcalls.congr (by simp)⟩
        rw [renderRoute_of_root hroot, hroute, if_pos hempty, renderViewRoute, hlookup]
    | none =>
        have hlookup : lookupView (viewOfUrl page.location) = .undefined := by
          rw [lookupView, hregistered]
          exact if_neg hview
        obtain ⟨outcome, hrun, hcalls⟩ := @renderViewRoute_undefined page.clearTransientUi _
          (getRouteFromUrl page.location) hlookup
        refine ⟨outcome, fun fuel => ?_, hcalls.congr (by simp)⟩
        rw [renderRoute_of_root hroot, hroute, if_pos hempty, hrun]

end Redirects

section Pages

variable {url : Url} {scripts : List String}

theorem RouteOutcome.Calls.dispatchesPage {outcome : RouteOutcome}
    (hrun : ∀ fuel, renderRoute (fuel + 2) (openedPage url scripts) = some outcome)
    (hcalls : outcome.Calls (openedPage url scripts) (pageOfUrl url)) :
    DispatchesPage url scripts := by
  obtain ⟨route, hroute⟩ := hcalls.calls
  refine ⟨outcome, hrun, hcalls.error, ?_⟩
  rw [hroute]
  rfl

theorem not_dispatchesPage (hroot : isRootPath url.pathname = true)
    (hview : viewOfUrl url ∈ inheritedNames) : ¬ DispatchesPage url scripts := by
  rintro ⟨outcome, hrun, herror, _⟩
  have hthrown := @renderRoute_inherited (openedPage url scripts) hroot hview 1
  obtain rfl := Option.some.inj ((hrun 0).symm.trans hthrown)
  cases herror

end Pages

end Ticketing
