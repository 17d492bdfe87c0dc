import Ticketing.Queue.Batch
import Ticketing.Worker.Bookable

/-!
# One group in order

When the messages of one group are handled in send order: whenever no two of
them are in the pool at once, none is given up in front of another, and no
visibility timeout runs out under a handling. Free seats then go to the earliest
message that asks for them.
-/

namespace Ticketing

open Foundation Python

/-- The handling of a message of the group is under way. -/
def BatchState.Active (messages : List Message) (group : String) (s : BatchState)
    (batch place id : Nat) : Prop :=
  s.messageAt batch place = some id ∧ groupOf messages id = some group ∧
    (s.handling batch place = .started ∨ s.handling batch place = .transacted)

/-- The messages of the group are handled one at a time and in send order: a
handling that is under way is the only one, all earlier messages have left the
queue with their handling ended, and so the transactions come in send order. A
message that asks for free seats gets them unless something fails, and no later
message has been there before it. -/
structure GroupInOrder (messages : List Message) (group : String) (s : BatchState) : Prop where
  single : ∀ b p id b' p' id', s.Active messages group b p id → s.Active messages group b' p' id' →
    b = b' ∧ p = p'
  turn : ∀ b p id, s.Active messages group b p id →
    ∀ earlier < id, groupOf messages earlier = some group →
      earlier ∈ s.gone ∧ ∀ b' p', s.messageAt b' p' = some earlier → s.handling b' p' = .ended
  sorted : (s.log.filter fun entry => groupOf messages entry.1 = some group).Pairwise
    fun later earlier => earlier.1 ≤ later.1
  served : ∀ b p id message env codes, s.messageAt b p = some id → messages[id]? = some message →
    message.group = group → s.handling b p = .started → env.Unfailing → Bookable message.body s.db →
      (processBooking env codes message.body s.db).1.isCommitted = true ∧
        ∀ entry ∈ s.log, groupOf messages entry.1 = some group → entry.1 ≤ id

/-- The message at this place is of the group, and its handling has not
ended. -/
def BatchState.Unfinished (messages : List Message) (group : String) (s : BatchState)
    (batch place id : Nat) : Prop :=
  s.messageAt batch place = some id ∧ groupOf messages id = some group ∧
    s.handling batch place ≠ .ended

/-- The step hands no two messages of the group to the pool at once, gives up no
message of the group while others of it wait behind it in its batch, and lets no
visibility timeout run out before the handling of a message of the group has
ended. -/
def Orderly (concurrency : Nat) (messages : List Message) (group : String) (s : BatchState) :
    BatchStep → Prop
  | .receive ids =>
      concurrency ≤ 1 ∨ (ids.filter fun id => groupOf messages id = some group).length ≤ 1
  | .ack batch place deleted =>
      (∀ id ∈ s.messageAt batch place, groupOf messages id ≠ some group) ∨
        (s.handling batch place = .returned true ∧ deleted = true) ∨
          ∀ p < (s.batch batch).length, place < p →
            ∀ id ∈ s.messageAt batch p, groupOf messages id = some group →
              s.handling batch p = .ended
  | .timeout id =>
      groupOf messages id = some group → ∀ b < s.batches.length, ∀ p < (s.batch b).length,
        s.messageAt b p = some id → s.handling b p = .ended
  | _ => True

instance (concurrency : Nat) (messages : List Message) (group : String) (s : BatchState) :
    ∀ a, Decidable (Orderly concurrency messages group s a)
  | .receive _ => inferInstanceAs (Decidable (_ ∨ _))
  | .ack _ _ _ => inferInstanceAs (Decidable (_ ∨ _ ∨ _))
  | .timeout _ => inferInstanceAs (Decidable (_ → _))
  | .send | .start _ _ | .transact _ _ _ _ | .finish _ _ _ | .abandon _ | .deadLetter _ =>
      isTrue trivial

/-! ## The invariant -/

/-- Unfinished messages of the group are invisible in the queue, lie in one
batch that the poller works through itself if there are several, and have all
their predecessors out of the queue or in front of them. -/
structure GroupInv (concurrency : Nat) (messages : List Message) (group : String)
    (s : BatchState) : Prop where
  flying : ∀ b p id, s.Unfinished messages group b p id → id ∈ s.inFlight ∧ id ∉ s.gone
  turn : ∀ b p id, s.Unfinished messages group b p id →
    ∀ earlier < id, groupOf messages earlier = some group →
      earlier ∈ s.gone ∨ ∃ q < p, s.Unfinished messages group b q earlier
  together : ∀ b p id b' p' id', s.Unfinished messages group b p id →
    s.Unfinished messages group b' p' id' → b = b' ∧ (p = p' ∨ concurrency ≤ 1)
  ordered : ∀ b p id p' id', s.Unfinished messages group b p id →
    s.Unfinished messages group b p' id' → p < p' → id < id'
  progress : concurrency ≤ 1 → ∀ b p, s.handling b p ≠ .waiting →
    ∀ q < p, s.handling b q = .ended
  logged : ∀ entry ∈ s.log, groupOf messages entry.1 = some group →
    ∀ earlier < entry.1, groupOf messages earlier = some group → earlier ∈ s.gone
  sorted : (s.log.filter fun entry => groupOf messages entry.1 = some group).Pairwise
    fun later earlier => earlier.1 ≤ later.1

section Steps

variable {concurrency : Nat} {messages : List Message} {group : String} {s next : BatchState}
  {batch place : Nat}

theorem BatchState.Active.unfinished {id : Nat} (h : s.Active messages group batch place id) :
    s.Unfinished messages group batch place id := by
  refine ⟨h.1, h.2.1, ?_⟩
  rcases h.2.2 with hstarted | htransacted
  · simp [hstarted]
  · simp [htransacted]

theorem BatchState.Active.not_waiting {id : Nat} (h : s.Active messages group batch place id) :
    s.handling batch place ≠ .waiting := by
  rcases h.2.2 with hstarted | htransacted
  · simp [hstarted]
  · simp [htransacted]

theorem BatchState.lt_length_of_messageAt {id : Nat} (h : s.messageAt batch place = some id) :
    place < (s.batch batch).length :=
  (List.getElem?_eq_some_iff.mp h).1

theorem BatchState.lt_batches_of_messageAt {id : Nat}
    (h : s.messageAt batch place = some id) : batch < s.batches.length := by
  by_contra hlt
  have hnil : s.batch batch = [] := by
    rw [BatchState.batch, List.getD_eq_getElem?_getD, List.getElem?_eq_none (not_lt.mp hlt)]
    rfl
  simp [messageAt, hnil] at h

/-- When a message of the group is handled, nothing of the group is in front of
it in its batch. -/
theorem GroupInv.earlier_gone (hinv : GroupInv concurrency messages group s) {id earlier : Nat}
    (h : s.Active messages group batch place id) (hlt : earlier < id)
    (hgroup : groupOf messages earlier = some group) : earlier ∈ s.gone := by
  rcases hinv.turn _ _ _ h.unfinished earlier hlt hgroup with hgone | ⟨q, hq, hfront⟩
  · exact hgone
  · -- two of the group in one batch: the poller works through it, and `q` is done
    rcases (hinv.together _ _ _ _ _ _ hfront h.unfinished).2 with rfl | hone
    · exact absurd hq (lt_irrefl q)
    · exact absurd (hinv.progress hone batch place h.not_waiting q hq) hfront.2.2

/-- No message of the group is handled after a later one had its transaction. -/
theorem GroupInv.log_le (hinv : GroupInv concurrency messages group s) {id : Nat}
    (h : s.Active messages group batch place id) {entry : Nat × Option Int} (hentry : entry ∈ s.log)
    (hgroup : groupOf messages entry.1 = some group) : entry.1 ≤ id := by
  -- a later message in the log would mean that this one has left the queue
  by_contra hlater
  exact (hinv.flying batch place id h.unfinished).2
    (hinv.logged entry hentry hgroup id (not_le.mp hlater) h.2.1)

theorem GroupInv.inOrder (hinv : GroupInv concurrency messages group s)
    (hknown : PaymentsKnown s.db) : GroupInOrder messages group s := by
  refine ⟨fun b p id b' p' id' h h' => ?_, fun b p id h earlier hlt hgroup => ?_, hinv.sorted,
    fun b p id message env codes hat hmessage hgroup hstarted hquiet hbookable => ?_⟩
  · obtain ⟨rfl, rfl | hone⟩ := hinv.together _ _ _ _ _ _ h.unfinished h'.unfinished
    · exact ⟨rfl, rfl⟩
    · refine ⟨rfl, ?_⟩
      have hfront : ∀ {q r i j}, s.Active messages group b q i → s.Active messages group b r j →
          ¬ q < r := by
        intro q r i j hq hr hlt
        exact hq.unfinished.2.2 (hinv.progress hone b r hr.not_waiting q hlt)
      exact le_antisymm (not_lt.mp (hfront h' h)) (not_lt.mp (hfront h h'))
  · have hgone := hinv.earlier_gone h hlt hgroup
    refine ⟨hgone, fun b' p' hat => ?_⟩
    by_contra hunfinished
    exact (hinv.flying b' p' earlier ⟨hat, hgroup, hunfinished⟩).2 hgone
  · have hactive : s.Active messages group b p id :=
      ⟨hat, by rw [groupOf, hmessage, Option.map_some, hgroup], .inl hstarted⟩
    exact ⟨processBooking_commits hquiet hknown hbookable,
      fun entry hentry hsame => hinv.log_le hactive hentry hsame⟩

/-! ## Steps -/

@[simp] theorem BatchState.messageAt_setHandling (s : BatchState) (batch place : Nat)
    (h : Handling) (b p : Nat) : (s.setHandling batch place h).messageAt b p = s.messageAt b p :=
  rfl

theorem BatchState.handling_setHandling (s : BatchState) (batch place : Nat) (h : Handling)
    (b p : Nat) : (s.setHandling batch place h).handling b p =
      if b = batch ∧ p = place then h else s.handling b p :=
  rfl

/-- A step without new batches and transactions, after which no more is
unfinished than before. -/
theorem GroupInv.mono (hinv : GroupInv concurrency messages group s)
    (hlog : next.log = s.log) (hgone : s.gone ⊆ next.gone)
    (hunfinished : ∀ b p id, next.Unfinished messages group b p id →
      s.Unfinished messages group b p id)
    (hflying : ∀ b p id, next.Unfinished messages group b p id →
      id ∈ next.inFlight ∧ id ∉ next.gone)
    (hfront : ∀ b p id, next.Unfinished messages group b p id →
      ∀ q < p, ∀ earlier, s.Unfinished messages group b q earlier →
        earlier ∈ next.gone ∨ next.Unfinished messages group b q earlier)
    (hprogress : concurrency ≤ 1 → ∀ b p, next.handling b p ≠ .waiting →
      ∀ q < p, next.handling b q = .ended) :
    GroupInv concurrency messages group next := by
  refine ⟨hflying, fun b p id h earlier hlt hgroup => ?_, fun b p id b' p' id' h h' => ?_,
    fun b p id p' id' h h' => ?_, hprogress, ?_, ?_⟩
  · rcases hinv.turn b p id (hunfinished b p id h) earlier hlt hgroup with hold | ⟨q, hq, hin⟩
    · exact .inl (hgone hold)
    · exact (hfront b p id h q hq earlier hin).imp_right fun hin' => ⟨q, hq, hin'⟩
  · exact hinv.together b p id b' p' id' (hunfinished b p id h) (hunfinished b' p' id' h')
  · exact hinv.ordered b p id p' id' (hunfinished b p id h) (hunfinished b p' id' h')
  · rw [hlog]
    exact fun entry hentry hgroup earlier hlt hearlier =>
      hgone (hinv.logged entry hentry hgroup earlier hlt hearlier)
  · rw [hlog]
    exact hinv.sorted

/-- A handling goes on, without ending. -/
theorem GroupInv.setHandling (hinv : GroupInv concurrency messages group s) {h : Handling}
    (hbefore : s.handling batch place ≠ .ended) (hafter : h ≠ .ended)
    (hfront : concurrency ≤ 1 → ∀ q < place, s.handling batch q = .ended) :
    GroupInv concurrency messages group (s.setHandling batch place h) := by
  have hiff : ∀ b p id, (s.setHandling batch place h).Unfinished messages group b p id ↔
      s.Unfinished messages group b p id := by
    intro b p id
    unfold BatchState.Unfinished
    rw [BatchState.handling_setHandling]
    by_cases hhere : b = batch ∧ p = place
    · obtain ⟨rfl, rfl⟩ := hhere
      simp [hbefore, hafter]
    · simp [hhere]
  refine hinv.mono rfl (fun _ => id) (fun b p id => (hiff b p id).mp)
    (fun b p id hb => hinv.flying b p id ((hiff b p id).mp hb))
    (fun b p id _ q _ earlier hin => .inr ((hiff b q earlier).mpr hin)) ?_
  intro hone b p hwaiting q hq
  rw [BatchState.handling_setHandling] at hwaiting ⊢
  by_cases hhere : b = batch ∧ p = place
  · obtain ⟨rfl, rfl⟩ := hhere
    rw [if_neg (by omega)]
    exact hfront hone q hq
  · rw [if_neg hhere] at hwaiting
    have hended := hinv.progress hone b p hwaiting q hq
    rw [if_neg]
    · exact hended
    · rintro ⟨rfl, rfl⟩
      exact hbefore hended

/-- A transaction enters the log in its turn. -/
theorem GroupInv.log (hinv : GroupInv concurrency messages group s) {id : Nat} {db : Db}
    {committed : Option Int} (hat : s.messageAt batch place = some id)
    (hphase : s.handling batch place = .transacted) :
    GroupInv concurrency messages group
      { s with db := db, log := (id, committed) :: s.log } := by
  refine ⟨hinv.flying, hinv.turn, hinv.together, hinv.ordered, hinv.progress, ?_, ?_⟩
  · intro entry hentry hgroup earlier hlt hearlier
    rcases List.mem_cons.mp hentry with rfl | hold
    · exact hinv.earlier_gone ⟨hat, hgroup, .inr hphase⟩ hlt hearlier
    · exact hinv.logged entry hold hgroup earlier hlt hearlier
  · by_cases hgroup : groupOf messages id = some group
    · rw [List.filter_cons_of_pos (by simpa using hgroup), List.pairwise_cons]
      refine ⟨fun entry hentry => ?_, hinv.sorted⟩
      obtain ⟨hmem, hsame⟩ := List.mem_filter.mp hentry
      have hactive : s.Active messages group batch place id := ⟨hat, hgroup, .inr hphase⟩
      exact hinv.log_le hactive hmem (by simpa using hsame)
    · rw [List.filter_cons_of_neg (by simpa using hgroup)]
      exact hinv.sorted

theorem GroupInv.acknowledge (hinv : GroupInv concurrency messages group s) {deleted ok : Bool}
    {id : Nat} (horderly : Orderly concurrency messages group s (.ack batch place deleted))
    (hat : s.messageAt batch place = some id) (hphase : s.handling batch place = .returned ok) :
    GroupInv concurrency messages group (s.acknowledge batch place id (ok && deleted)) := by
  have hiff : ∀ b p other,
      (s.acknowledge batch place id (ok && deleted)).Unfinished messages group b p other ↔
        s.Unfinished messages group b p other ∧ ¬ (b = batch ∧ p = place) := by
    intro b p other
    change s.messageAt b p = some other ∧ _ ∧ (if _ then _ else _) ≠ _ ↔ _
    unfold BatchState.Unfinished
    by_cases hhere : b = batch ∧ p = place
    · simp [hhere]
    · simp [hhere]
  have hhere : groupOf messages id = some group → s.Unfinished messages group batch place id :=
    fun hgroup => ⟨hat, hgroup, by simp [hphase]⟩
  refine hinv.mono rfl ?_ (fun b p other h => ((hiff b p other).mp h).1) ?_ ?_ ?_
  · unfold BatchState.acknowledge
    split
    · exact List.subset_cons_self id s.gone
    · exact List.Subset.refl s.gone
  · intro b p other h
    obtain ⟨hother, hne⟩ := (hiff b p other).mp h
    obtain ⟨hflight, hnotGone⟩ := hinv.flying b p other hother
    have hdiffer : other ≠ id := by
      rintro rfl
      obtain ⟨rfl, _⟩ := hinv.together _ _ _ _ _ _ hother (hhere hother.2.1)
      rcases lt_trichotomy p place with hlt | heq | hgt
      · exact absurd (hinv.ordered _ _ _ _ _ hother (hhere hother.2.1) hlt) (lt_irrefl other)
      · exact hne ⟨rfl, heq⟩
      · exact absurd (hinv.ordered _ _ _ _ _ (hhere hother.2.1) hother hgt) (lt_irrefl other)
    unfold BatchState.acknowledge
    split
    · simp [hflight, hnotGone, hdiffer]
    · exact ⟨hflight, hnotGone⟩
  · intro b p other h q hq earlier hearlier
    obtain ⟨hother, _⟩ := (hiff b p other).mp h
    by_cases hplace : b = batch ∧ q = place
    · obtain ⟨rfl, rfl⟩ := hplace
      obtain rfl : id = earlier := Option.some.inj (hat.symm.trans hearlier.1)
      left
      rcases horderly with hgroup | ⟨hreturned, hdeleted⟩ | hbehind
      · exact absurd hearlier.2.1 (hgroup id hat)
      · rw [hphase, Handling.returned.injEq] at hreturned
        simp [BatchState.acknowledge, hreturned, hdeleted]
      · exact absurd (hbehind p (BatchState.lt_length_of_messageAt hother.1) hq other hother.1
          hother.2.1) hother.2.2
    · exact .inr ((hiff b q earlier).mpr ⟨hearlier, hplace⟩)
  · intro hone b p hwaiting q hq
    change (if _ then _ else _) ≠ _ at hwaiting
    change (if _ then _ else _) = _
    by_cases hplace : b = batch ∧ q = place
    · rw [if_pos hplace]
    · rw [if_neg hplace]
      refine hinv.progress hone b p ?_ q hq
      by_cases hend : b = batch ∧ p = place
      · rw [hend.1, hend.2, hphase]
        simp
      · rwa [if_neg hend] at hwaiting

theorem GroupInv.abandon (hinv : GroupInv concurrency messages group s) (batch : Nat) :
    GroupInv concurrency messages group
      { s with handling := fun b p => if b = batch then .ended else s.handling b p } := by
  have hiff : ∀ b p id, BatchState.Unfinished messages group
      { s with handling := fun b p => if b = batch then .ended else s.handling b p } b p id ↔
        s.Unfinished messages group b p id ∧ b ≠ batch := by
    intro b p id
    change s.messageAt b p = some id ∧ _ ∧ (if _ then _ else _) ≠ _ ↔ _
    unfold BatchState.Unfinished
    by_cases hhere : b = batch
    · simp [hhere]
    · simp [hhere]
  refine hinv.mono rfl (List.Subset.refl _) (fun b p id h => ((hiff b p id).mp h).1)
    (fun b p id h => hinv.flying b p id ((hiff b p id).mp h).1)
    (fun b p id h q _ earlier hin => .inr ((hiff b q earlier).mpr ⟨hin, ((hiff b p id).mp h).2⟩)) ?_
  intro hone b p hwaiting q hq
  dsimp only at hwaiting ⊢
  by_cases hhere : b = batch
  · rw [if_pos hhere]
  · rw [if_neg hhere] at hwaiting ⊢
    exact hinv.progress hone b p hwaiting q hq

theorem GroupInv.timeout (hinv : GroupInv concurrency messages group s) {id : Nat}
    (horderly : Orderly concurrency messages group s (.timeout id)) :
    GroupInv concurrency messages group { s with inFlight := s.inFlight.filter (· ≠ id) } := by
  refine hinv.mono rfl (List.Subset.refl _) (fun _ _ _ h => h) ?_
    (fun _ _ _ _ _ _ _ h => .inr h) hinv.progress
  intro b p other h
  obtain ⟨hflight, hgone⟩ := hinv.flying b p other h
  refine ⟨?_, hgone⟩
  have hdiffer : other ≠ id := by
    rintro rfl
    exact h.2.2 (horderly h.2.1 b (BatchState.lt_batches_of_messageAt h.1) p
      (BatchState.lt_length_of_messageAt h.1) h.1)
  simpa using ⟨hflight, hdiffer⟩

theorem GroupInv.deadLetter (hinv : GroupInv concurrency messages group s) {id : Nat}
    (hvisible : id ∉ s.inFlight) :
    GroupInv concurrency messages group { s with gone := id :: s.gone } := by
  refine hinv.mono rfl (List.subset_cons_self id s.gone) (fun _ _ _ h => h) ?_
    (fun _ _ _ _ _ _ _ h => .inr h) hinv.progress
  intro b p other h
  obtain ⟨hflight, hgone⟩ := hinv.flying b p other h
  refine ⟨hflight, ?_⟩
  rw [List.mem_cons, not_or]
  exact ⟨fun heq => hvisible (heq ▸ hflight), hgone⟩

/-- The state after a receive. -/
def BatchState.received (s : BatchState) (ids : List Nat) : BatchState :=
  { s with
    inFlight := ids ++ s.inFlight
    batches := s.batches ++ [ids]
    handling := fun b p => if b = s.batches.length then .waiting else s.handling b p }

theorem BatchState.messageAt_received (s : BatchState) (ids : List Nat) (b p : Nat) :
    (s.received ids).messageAt b p = if b = s.batches.length then ids[p]? else s.messageAt b p := by
  unfold messageAt batch received
  simp only [List.getD_eq_getElem?_getD]
  by_cases hnew : b = s.batches.length
  · simp [hnew]
  · rw [if_neg hnew]
    rcases Nat.lt_or_gt_of_ne hnew with hold | hbeyond
    · rw [List.getElem?_append_left hold]
    · have hnone : s.batches[b]? = none := List.getElem?_eq_none (le_of_lt hbeyond)
      have hnone' : (s.batches ++ [ids])[b]? = none :=
        List.getElem?_eq_none (by simpa using Nat.succ_le_of_lt hbeyond)
      rw [hnone, hnone']

theorem BatchState.unfinished_received {ids : List Nat} {b p id : Nat} :
    (s.received ids).Unfinished messages group b p id ↔
      (b = s.batches.length ∧ ids[p]? = some id ∧ groupOf messages id = some group) ∨
        s.Unfinished messages group b p id := by
  unfold Unfinished
  rw [messageAt_received]
  change _ ∧ _ ∧ (if _ then _ else _) ≠ _ ↔ _
  by_cases hnew : b = s.batches.length
  · have hnone : s.messageAt b p = none := by
      by_contra hsome
      obtain ⟨other, hother⟩ := Option.ne_none_iff_exists'.mp hsome
      exact absurd (lt_batches_of_messageAt hother) (by omega)
    rw [hnone]
    simp [hnew]
  · simp [hnew]

theorem eq_of_mem_of_length_le_one {ids : List Nat} (h : ids.length ≤ 1) {first second : Nat}
    (hfirst : first ∈ ids) (hsecond : second ∈ ids) : first = second := by
  cases ids with
  | nil => cases hfirst
  | cons id rest =>
      obtain rfl : rest = [] := List.eq_nil_of_length_eq_zero (by simpa using h)
      rw [List.mem_singleton] at hfirst hsecond
      rw [hfirst, hsecond]

/-- A receive that returns a message of the group finds nothing of the group
unfinished. -/
theorem GroupInv.none_unfinished (hinv : GroupInv concurrency messages group s) {ids : List Nat}
    (hreceivable : Receivable messages s ids) {id : Nat} (hid : id ∈ ids)
    (hgroup : groupOf messages id = some group) (b p other : Nat) :
    ¬ s.Unfinished messages group b p other := by
  intro hother
  obtain ⟨_, hvisible, _⟩ := hreceivable
  obtain ⟨_, hnotGone, hnotFlying, hbefore⟩ := hvisible id hid
  obtain ⟨hflying, hother'⟩ := hinv.flying b p other hother
  rcases lt_trichotomy other id with hlt | rfl | hgt
  · -- a predecessor in flight keeps the queue from returning `id`
    rcases hbefore other hlt (hother.2.1.trans hgroup.symm) with hgone | hin
    · exact hother' hgone
    · exact (hvisible other hin).2.2.1 hflying
  · exact hnotFlying hflying
  · rcases hinv.turn b p other hother id hgt hgroup with hgone | ⟨q, _, hid'⟩
    · exact hnotGone hgone
    · exact hnotFlying (hinv.flying b q id hid').1

/-- Messages of one group are returned in send order. -/
theorem Receivable.sorted {ids : List Nat} (h : Receivable messages s ids) {p p' id id' : Nat}
    (hat : ids[p]? = some id) (hat' : ids[p']? = some id')
    (hgroup : groupOf messages id = some group) (hgroup' : groupOf messages id' = some group)
    (hlt : p < p') : id < id' := by
  obtain ⟨_, _, hpairwise⟩ := h
  obtain ⟨hp, rfl⟩ := List.getElem?_eq_some_iff.mp hat
  obtain ⟨hp', rfl⟩ := List.getElem?_eq_some_iff.mp hat'
  exact (List.pairwise_iff_getElem.mp hpairwise p p' hp hp' hlt).2 (hgroup.trans hgroup'.symm)

/-- What was sent to the group before a returned message has left the queue, or is
returned in front of it. -/
theorem Receivable.front {ids : List Nat} (h : Receivable messages s ids) {p id earlier : Nat}
    (hat : ids[p]? = some id) (hgroup : groupOf messages id = some group) (hlt : earlier < id)
    (hearlier : groupOf messages earlier = some group) :
    earlier ∈ s.gone ∨ ∃ q < p, ids[q]? = some earlier := by
  have hbefore := (h.2.1 id (List.mem_of_getElem? hat)).2.2.2
  rcases hbefore earlier hlt (hearlier.trans hgroup.symm) with hgone | hin
  · exact .inl hgone
  · obtain ⟨q, hq⟩ := List.mem_iff_getElem?.mp hin
    refine .inr ⟨q, ?_, hq⟩
    rcases lt_trichotomy q p with hbefore | rfl | hafter
    · exact hbefore
    · obtain rfl := Option.some.inj (hq.symm.trans hat)
      exact absurd hlt (lt_irrefl earlier)
    · exact absurd (h.sorted hat hq hgroup hearlier hafter) (lt_asymm hlt)

theorem GroupInv.receive (hinv : GroupInv concurrency messages group s) {ids : List Nat}
    (horderly : Orderly concurrency messages group s (.receive ids))
    (hreceivable : Receivable messages s ids) :
    GroupInv concurrency messages group (s.received ids) := by
  have hnone : ∀ {p id}, ids[p]? = some id → groupOf messages id = some group →
      ∀ b q other, ¬ s.Unfinished messages group b q other := fun hat hgroup =>
    hinv.none_unfinished hreceivable (List.mem_of_getElem? hat) hgroup
  refine ⟨?_, ?_, ?_, ?_, ?_, hinv.logged, hinv.sorted⟩
  · intro b p id h
    rcases BatchState.unfinished_received.mp h with ⟨rfl, hat, hgroup⟩ | hold
    · have hid := List.mem_of_getElem? hat
      exact ⟨List.mem_append_left _ hid, (hreceivable.2.1 id hid).2.1⟩
    · obtain ⟨hflying, hgone⟩ := hinv.flying b p id hold
      exact ⟨List.mem_append_right _ hflying, hgone⟩
  · intro b p id h earlier hlt hgroup
    rcases BatchState.unfinished_received.mp h with ⟨rfl, hat, hgroup'⟩ | hold
    · rcases hreceivable.front hat hgroup' hlt hgroup with hgone | ⟨q, hq, hin⟩
      · exact .inl hgone
      · exact .inr ⟨q, hq, BatchState.unfinished_received.mpr (.inl ⟨rfl, hin, hgroup⟩)⟩
    · rcases hinv.turn b p id hold earlier hlt hgroup with hgone | ⟨q, hq, hin⟩
      · exact .inl hgone
      · exact .inr ⟨q, hq, BatchState.unfinished_received.mpr (.inr hin)⟩
  · intro b p id b' p' id' h h'
    rcases BatchState.unfinished_received.mp h with ⟨rfl, hat, hgroup⟩ | hold
    · rcases BatchState.unfinished_received.mp h' with ⟨rfl, hat', hgroup'⟩ | hold'
      · refine ⟨rfl, ?_⟩
        rcases horderly with hone | hfew
        · exact .inr hone
        · -- both are the only message of the group in the batch
          left
          have hsame : id = id' := eq_of_mem_of_length_le_one hfew
            (List.mem_filter.mpr ⟨List.mem_of_getElem? hat, by simpa using hgroup⟩)
            (List.mem_filter.mpr ⟨List.mem_of_getElem? hat', by simpa using hgroup'⟩)
          rcases lt_trichotomy p p' with hlt | heq | hgt
          · exact absurd hsame (hreceivable.sorted hat hat' hgroup hgroup' hlt).ne
          · exact heq
          · exact absurd hsame.symm (hreceivable.sorted hat' hat hgroup' hgroup hgt).ne
      · exact absurd hold' (hnone hat hgroup b' p' id')
    · rcases BatchState.unfinished_received.mp h' with ⟨_, hat', hgroup'⟩ | hold'
      · exact absurd hold (hnone hat' hgroup' b p id)
      · exact hinv.together b p id b' p' id' hold hold'
  · intro b p id p' id' h h' hlt
    rcases BatchState.unfinished_received.mp h with ⟨rfl, hat, hgroup⟩ | hold
    · rcases BatchState.unfinished_received.mp h' with ⟨_, hat', hgroup'⟩ | hold'
      · exact hreceivable.sorted hat hat' hgroup hgroup' hlt
      · exact absurd hold' (hnone hat hgroup _ p' id')
    · rcases BatchState.unfinished_received.mp h' with ⟨_, hat', hgroup'⟩ | hold'
      · exact absurd hold (hnone hat' hgroup' b p id)
      · exact hinv.ordered b p id p' id' hold hold' hlt
  · intro hone b p hwaiting q hq
    change (if _ then _ else _) ≠ _ at hwaiting
    change (if _ then _ else _) = _
    by_cases hnew : b = s.batches.length
    · rw [if_pos hnew] at hwaiting
      exact absurd rfl hwaiting
    · rw [if_neg hnew] at hwaiting ⊢
      exact hinv.progress hone b p hwaiting q hq

theorem GroupInv.step {a : BatchStep} (hinv : GroupInv concurrency messages group s)
    (horderly : Orderly concurrency messages group s a)
    (h : batchStep concurrency messages s a = some next) :
    GroupInv concurrency messages group next := by
  cases a with
  | send =>
      simp only [batchStep] at h
      split at h
      next => cases h; exact ⟨hinv.flying, hinv.turn, hinv.together, hinv.ordered, hinv.progress,
        hinv.logged, hinv.sorted⟩
      next => cases h
  | receive ids =>
      simp only [batchStep] at h
      split at h
      next hreceivable => cases h; exact hinv.receive horderly hreceivable
      next => cases h
  | start batch place =>
      simp only [batchStep] at h
      split at h
      next hguard =>
        cases h
        -- the guard is the progress that the invariant asks for
        obtain ⟨_, hwaiting, hfront⟩ := hguard
        exact hinv.setHandling (by simp [hwaiting]) (by simp) fun hone => hfront (.inr hone)
      next => cases h
  | transact batch place env codes =>
      simp only [batchStep] at h
      split at h
      next => cases h
      next id hat =>
        split at h
        next => cases h
        next message hmessage =>
          split at h
          next hstarted =>
            cases h
            have hset : GroupInv concurrency messages group
                (s.setHandling batch place .transacted) :=
              hinv.setHandling (by simp [hstarted]) (by simp) fun hone =>
                hinv.progress hone batch place (by simp [hstarted])
            exact hset.log hat (by simp [BatchState.handling_setHandling])
          next => cases h
  | finish batch place ok =>
      simp only [batchStep] at h
      split at h
      next hphase =>
        cases h
        have hboth : s.handling batch place ≠ .waiting ∧ s.handling batch place ≠ .ended := by
          rcases hphase with hstarted | htransacted
          · simp [hstarted]
          · simp [htransacted]
        obtain ⟨hwaiting, hended⟩ := hboth
        exact hinv.setHandling hended (by simp) fun hone =>
          hinv.progress hone batch place hwaiting
      next => cases h
  | ack batch place deleted =>
      simp only [batchStep] at h
      split at h
      next id ok hat hphase => cases h; exact hinv.acknowledge horderly hat hphase
      next => cases h
  | abandon batch => cases h; exact hinv.abandon batch
  | timeout id => cases h; exact hinv.timeout horderly
  | deadLetter id =>
      simp only [batchStep] at h
      split at h
      next hguard => cases h; exact hinv.deadLetter hguard.1
      next => cases h

end Steps

theorem GroupInv.initial (concurrency : Nat) (messages : List Message) (group : String) (db : Db) :
    GroupInv concurrency messages group (.initial db) := by
  have hnone : ∀ b p id,
      ¬ (BatchState.initial db).Unfinished messages group b p id := fun b p id h => by
    cases h.1
  exact ⟨fun b p id h => absurd h (hnone b p id), fun b p id h => absurd h (hnone b p id),
    fun b p id _ _ _ h => absurd h (hnone b p id), fun b p id _ _ h => absurd h (hnone b p id),
    fun _ _ _ h => absurd rfl h, by simp [BatchState.initial], by simp [BatchState.initial]⟩

/-- In every orderly run the messages of the group are handled in order. -/
theorem group_in_order {concurrency : Nat} {messages : List Message} {group : String} {db : Db}
    {steps : List BatchStep} {final : BatchState} (hknown : PaymentsKnown db)
    (horderly : (batchMachine concurrency messages).Along (Orderly concurrency messages group)
      (.initial db) steps)
    (hrun : (batchMachine concurrency messages).run (.initial db) steps = some final) :
    GroupInOrder messages group final := by
  have hstep : ∀ s a next, GroupInv concurrency messages group s →
      Orderly concurrency messages group s a →
      (batchMachine concurrency messages).step s a = some next →
        GroupInv concurrency messages group next :=
    fun _ _ _ hinv hcond h => hinv.step hcond h
  have hinit := GroupInv.initial concurrency messages group db
  have hdb : ∀ s a next, PaymentsKnown s.db →
      (batchMachine concurrency messages).step s a = some next → PaymentsKnown next.db :=
    fun _ _ _ hold h => hold.transacted (batchStep_transacted h)
  exact (Machine.run_invariant_along hstep hinit horderly hrun).inOrder
    (Machine.run_invariant hdb hknown hrun)

/-! ## Two messages for one seat -/

/-- Two users ask for the same seat; both messages are of one group. -/
def rivalMessages : List Message :=
  [⟨"1-sh2", concertBody "first" 1 [.str "1-1"]⟩, ⟨"1-sh2", concertBody "second" 2 [.str "1-1"]⟩]

/-- One receive returns both messages, and the pool handles the second one
first. -/
def poolOvertakes : List BatchStep :=
  [.send, .send, .receive [0, 1], .start 0 0, .start 0 1,
    .transact 0 1 .quiet (fun _ => "CAA000002"), .transact 0 0 .quiet (fun _ => "CAA000001")]

/-- Both handlings are under way at once, and the later message gets the
seat. -/
theorem later_message_overtakes :
    ∃ final, (batchMachine 20 rivalMessages).run (.initial twoSeatDb) poolOvertakes = some final ∧
      final.log = [(0, none), (1, some 1)] ∧ ¬ GroupInOrder rivalMessages "1-sh2" final := by
  have hfinal : ((batchMachine 20 rivalMessages).run (.initial twoSeatDb) poolOvertakes).map
      (fun s => ((s.messageAt 0 0, s.handling 0 0), (s.messageAt 0 1, s.handling 0 1), s.log)) =
        some ((some 0, .transacted), (some 1, .transacted), [(0, none), (1, some 1)]) := by
    decide +kernel
  obtain ⟨final, hrun, hfinal⟩ := Option.map_eq_some_iff.mp hfinal
  simp only [Prod.mk.injEq] at hfinal
  obtain ⟨⟨hfirst, hfirstPhase⟩, ⟨hsecond, hsecondPhase⟩, hlog⟩ := hfinal
  refine ⟨final, hrun, hlog, fun h => ?_⟩
  have hsame := h.single 0 0 0 0 1 1 ⟨hfirst, rfl, .inr hfirstPhase⟩
    ⟨hsecond, rfl, .inr hsecondPhase⟩
  exact absurd hsame.2 (by decide)

/-- The earlier message asks for a free seat. -/
theorem rivalMessages_bookable : Bookable (concertBody "first" 1 [.str "1-1"]) twoSeatDb := by
  unfold Bookable
  rw [if_pos (by decide)]
  refine ⟨⟨.str "first", 1, 1, [⟨1, 1, Nat.one_pos, Nat.one_pos⟩]⟩, twoSeatShow, rfl,
    ⟨?_, ?_, ?_, ?_⟩, rfl, ?_, ?_⟩ <;> decide

theorem twoSeatDb_paymentsKnown : PaymentsKnown twoSeatDb :=
  ⟨fun _ hpayment => (List.not_mem_nil hpayment).elim,
    fun _ hpayment => (List.not_mem_nil hpayment).elim⟩

/-- Two receives of one message each. -/
def oneByOne : List BatchStep :=
  [.send, .send, .receive [0], .start 0 0, .transact 0 0 .quiet (fun _ => "CAA000001"),
    .finish 0 0 true, .ack 0 0 true, .receive [1], .start 1 0,
    .transact 1 0 .quiet (fun _ => "CAA000002")]

theorem group_in_order_one_by_one :
    Bookable (concertBody "first" 1 [.str "1-1"]) twoSeatDb ∧
      ∃ final, (batchMachine 20 rivalMessages).run (.initial twoSeatDb) oneByOne = some final ∧
        final.log = [(1, none), (0, some 1)] ∧ GroupInOrder rivalMessages "1-sh2" final := by
  have hlog : ((batchMachine 20 rivalMessages).run (.initial twoSeatDb) oneByOne).map
      BatchState.log = some [(1, none), (0, some 1)] := by
    decide +kernel
  obtain ⟨final, hrun, hlog⟩ := Option.map_eq_some_iff.mp hlog
  exact ⟨rivalMessages_bookable, final, hrun, hlog,
    group_in_order twoSeatDb_paymentsKnown (by decide +kernel) hrun⟩

end Ticketing
