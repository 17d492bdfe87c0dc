import Ticketing.Seat

/-!
# The keys in the logical database of the read cache

Entries that can be rebuilt from the database and the state of sales and holds,
which cannot, share one Redis database. Their keys differ in the first characters.
-/

namespace Ticketing

/-- The keys that are filled from the database. `concertBootstrap` is a key of
former times, which is only deleted. -/
inductive ReadKey where
  | moviesList
  | movieDetail (movieId : Int)
  | theatersBootstrap
  | theaterDetail (theaterId : Int)
  | concertsList
  | concertDetail (concertId : Int)
  | concertBootstrap (concertId : Int)
  | showsMeta (concertId : Int)
  | showSnapshot (showId : Int)
deriving DecidableEq

def ReadKey.text : ReadKey → String
  | .moviesList => "movies:list:active_or_dummytitle:v5"
  | .movieDetail movieId => "movie:detail:" ++ (toString movieId ++ ":v5")
  | .theatersBootstrap => "theaters:booking:bootstrap:v6"
  | .theaterDetail theaterId => "theaters:booking:detail:" ++ (toString theaterId ++ ":v6")
  | .concertsList => "concerts:list:read:v1"
  | .concertDetail concertId => "concert:detail:" ++ (toString concertId ++ ":read:v1")
  | .concertBootstrap concertId => "concert:bootstrap:" ++ (toString concertId ++ ":read:v1")
  | .showsMeta concertId => "concert:shows_meta:" ++ (toString concertId ++ ":read:v1")
  | .showSnapshot showId => "concert:show:" ++ (toString showId ++ ":read:v2")

def IsReadKey (key : String) : Prop := ∃ readKey : ReadKey, readKey.text = key

theorem ReadKey.isReadKey (readKey : ReadKey) : IsReadKey readKey.text := ⟨readKey, rfl⟩

/-- `_sale_key`. -/
def saleKey (showId : Int) : String := "concert:sale:" ++ (toString showId ++ ":v1")

/-- `_seat_key`. -/
def seatKey (showId : Int) (seat : Seat) : String :=
  "concert:seat:" ++ (toString showId ++ ":" ++ seat.key ++ ":hold:v1")

/-- `_reserved_set_key`. -/
def reservedSetKey (showId : Int) : String := "concert:reserved:" ++ (toString showId ++ ":v1")

/-- `_hold_meta_key`. -/
def holdMetaKey (bookingRef : String) : String := "concert:holdmeta:" ++ (bookingRef ++ ":v1")

/-- The keys of sales and holds. -/
inductive BookingKey where
  | sale (showId : Int)
  | seat (showId : Int) (cell : Seat)
  | reservedSet (showId : Int)
  | holdMeta (bookingRef : String)

def BookingKey.text : BookingKey → String
  | .sale showId => saleKey showId
  | .seat showId cell => seatKey showId cell
  | .reservedSet showId => reservedSetKey showId
  | .holdMeta bookingRef => holdMetaKey bookingRef

/-- The keys that a hold writes. -/
def IsHoldKey (key : String) : Prop :=
  ∃ holdKey : BookingKey, holdKey.text = key ∧ ∀ showId, holdKey ≠ .sale showId

/-! ## Different kinds of keys are different -/

/-- As much of a key as tells its kind. -/
def keyStart (key : String) : List Char := key.toList.take 10

theorem keyStart_append (first start : String) {rest : String}
    (hstart : 10 ≤ first.toList.length ∧ keyStart first = start.toList) :
    keyStart (first ++ rest) = start.toList := by
  rw [← hstart.2, keyStart, keyStart, String.toList_append,
    List.take_append_of_le_length hstart.1]

def ReadKey.start : ReadKey → String
  | .moviesList => "movies:lis"
  | .movieDetail _ => "movie:deta"
  | .theatersBootstrap | .theaterDetail _ => "theaters:b"
  | .concertsList => "concerts:l"
  | .concertDetail _ => "concert:de"
  | .concertBootstrap _ => "concert:bo"
  | .showsMeta _ | .showSnapshot _ => "concert:sh"

def BookingKey.start : BookingKey → String
  | .sale _ => "concert:sa"
  | .seat _ _ => "concert:se"
  | .reservedSet _ => "concert:re"
  | .holdMeta _ => "concert:ho"

theorem ReadKey.keyStart_text (readKey : ReadKey) :
    keyStart readKey.text = readKey.start.toList := by
  cases readKey with
  | moviesList =>
      exact show keyStart "movies:list:active_or_dummytitle:v5" = "movies:lis".toList by
        decide
  | theatersBootstrap =>
      exact show keyStart "theaters:booking:bootstrap:v6" = "theaters:b".toList by decide
  | concertsList =>
      exact show keyStart "concerts:list:read:v1" = "concerts:l".toList by decide
  | movieDetail _ => exact keyStart_append "movie:detail:" "movie:deta" (by decide)
  | theaterDetail _ =>
      exact keyStart_append "theaters:booking:detail:" "theaters:b" (by decide)
  | concertDetail _ => exact keyStart_append "concert:detail:" "concert:de" (by decide)
  | concertBootstrap _ =>
      exact keyStart_append "concert:bootstrap:" "concert:bo" (by decide)
  | showsMeta _ => exact keyStart_append "concert:shows_meta:" "concert:sh" (by decide)
  | showSnapshot _ => exact keyStart_append "concert:show:" "concert:sh" (by decide)

theorem BookingKey.keyStart_text (bookingKey : BookingKey) :
    keyStart bookingKey.text = bookingKey.start.toList := by
  cases bookingKey with
  | sale _ => exact keyStart_append "concert:sale:" "concert:sa" (by decide)
  | seat _ _ => exact keyStart_append "concert:seat:" "concert:se" (by decide)
  | reservedSet _ => exact keyStart_append "concert:reserved:" "concert:re" (by decide)
  | holdMeta _ => exact keyStart_append "concert:holdmeta:" "concert:ho" (by decide)

theorem start_ne (bookingKey : BookingKey) (readKey : ReadKey) :
    readKey.start ≠ bookingKey.start := by
  have hread : readKey.start ∈ ["movies:lis", "movie:deta", "theaters:b", "concerts:l",
      "concert:de", "concert:bo", "concert:sh"] := by
    cases readKey <;> dsimp only [ReadKey.start] <;> decide
  have hbooking : bookingKey.start ∈ ["concert:sa", "concert:se", "concert:re", "concert:ho"] := by
    cases bookingKey <;> dsimp only [BookingKey.start] <;> decide
  have hdisjoint : ∀ start ∈ ["movies:lis", "movie:deta", "theaters:b", "concerts:l",
      "concert:de", "concert:bo", "concert:sh"],
      start ∉ ["concert:sa", "concert:se", "concert:re", "concert:ho"] := by decide
  intro hsame
  exact hdisjoint _ hread (hsame ▸ hbooking)

/-- No key of sales and holds is one of the read cache. -/
theorem BookingKey.not_isReadKey (bookingKey : BookingKey) : ¬ IsReadKey bookingKey.text := by
  rintro ⟨readKey, hsame⟩
  have hstart := congrArg keyStart hsame
  rw [readKey.keyStart_text, bookingKey.keyStart_text] at hstart
  exact start_ne bookingKey readKey (String.toList_injective hstart)

/-- A hold writes no sale state. -/
theorem sale_not_isHoldKey (showId : Int) : ¬ IsHoldKey (saleKey showId) := by
  rintro ⟨holdKey, hsame, hother⟩
  have hstart := (congrArg keyStart hsame).trans (BookingKey.sale showId).keyStart_text
  rw [holdKey.keyStart_text] at hstart
  cases holdKey with
  | sale other => exact hother other rfl
  | seat _ _ | reservedSet _ | holdMeta _ =>
      dsimp only [BookingKey.start] at hstart
      exact absurd hstart (by decide)

/-! ## Different shows have different keys -/

theorem toList_toString_int (n : Int) :
    (toString n).toList =
      if n < 0 then '-' :: Nat.toDigits 10 n.natAbs else Nat.toDigits 10 n.natAbs := by
  cases n with
  | ofNat n => simp [toString, Int.repr, Nat.repr]
  | negSucc n => simp [toString, Int.repr, Nat.repr]

theorem toString_int_injective : Function.Injective (toString : Int → String) := by
  intro left right hsame
  have hdigits : ∀ n : Nat, ∀ rest, Nat.toDigits 10 n ≠ '-' :: rest := by
    intro n rest heq
    have hdash : '-' ∈ Nat.toDigits 10 n := by rw [heq]; exact List.mem_cons_self
    exact absurd (isDigit_of_mem_toDigits hdash) (by decide)
  have hnat : ∀ m n : Nat, Nat.toDigits 10 m = Nat.toDigits 10 n → m = n := by
    intro m n h
    rw [← Nat.ofDigitChars_ten_toDigits (n := m), h, Nat.ofDigitChars_ten_toDigits]
  have hlist := congrArg String.toList hsame
  rw [toList_toString_int, toList_toString_int] at hlist
  split at hlist
  next hleft =>
    split at hlist
    next hright =>
      have := hnat _ _ (List.cons.inj hlist).2
      omega
    next => exact absurd hlist.symm (hdigits _ _)
  next hleft =>
    split at hlist
    next => exact absurd hlist (hdigits _ _)
    next hright =>
      have := hnat _ _ hlist
      omega

theorem saleKey_injective : Function.Injective saleKey := by
  intro left right hsame
  have hlist := congrArg String.toList hsame
  simp only [saleKey, String.toList_append] at hlist
  have hdigits := List.append_cancel_right (List.append_cancel_left hlist)
  exact toString_int_injective (String.toList_injective hdigits)

end Ticketing
