import ImageWorker.Broker.SharedLink
import ImageWorker.Proofs.PublisherHabits
import ImageWorker.Proofs.SharedHistories

/-!
# Who takes the shared link away

Publishes run side by side on one shared link, each may run out of time at any point, and links may
die at any time. A link that works is never closed in its place, and never replaced by another one:
whoever puts a link there has seen under the reconnect lock that none works, and nobody else can
put one there meanwhile. A publish that has seen a broken link does not look again before it takes
the link away. So a link that works is taken away in one case only, which is that another publish
has put it there since; and this does happen.
-/

namespace ImageWorker

namespace SharedLink

/-- What may follow a question of a publish with a limit. The time may be over while the broker is
asked, which may then have done what it was asked, or while a lock is waited for. -/
def AllowsWithin (s : SharedLink) : (r : TimedRequest) → r.Answer → SharedLink → Prop
  | .inTime r, some a, s' => s.Allows r a s'
  | .inTime (.broker r), none, s' => s' = s ∨ ∃ a, s.AllowsBroker r a s'
  | .inTime .observe, none, s' | .inTime (.acquire _), none, s' => s' = s
  | .inTime _, none, _ => False
  | .giveBack lock, _, s' => s' = { s with held := s.held.erase lock }

def surroundingsWithin : Surroundings TimedRequest TimedRequest.Answer SharedLink :=
  ⟨AllowsWithin, Dies⟩

/-- The link in the place, if there is one, is one that was opened. -/
def Genuine (s : SharedLink) : Prop := ∀ link, s.stored = some link → link < s.opened

end SharedLink

structure PublishCall where
  limit : Duration
  event : StatusEvent

/-- A publish as one of several programs; it takes no second turn. -/
def PublishCall.program (r : StatusRoute) (c : PublishCall) :
    TimedProgram (Empty ⊕ Except QueueError Unit) :=
  (r.publishWithin c.limit c.event).bind fun result => .done (.inr result)

abbrev PublishExchange := Program.Exchange TimedRequest TimedRequest.Answer

abbrev PublishHappening := Surroundings.Happening TimedRequest TimedRequest.Answer SharedLink

/-- Publishes that begin side by side in a state. -/
def SharedLink.publishes (s : SharedLink) (r : StatusRoute) (calls : List PublishCall) :
    Surroundings.Together TimedRequest TimedRequest.Answer SharedLink Empty
      (Except QueueError Unit) :=
  ⟨s, calls.map (·.program r)⟩

/-- `s.Unfolding r calls events`: from `s` on, the publishes may have just these exchanges, in this
order. -/
def SharedLink.Unfolding (s : SharedLink) (r : StatusRoute) (calls : List PublishCall)
    (events : List PublishHappening) : Prop :=
  ∃ u, surroundingsWithin.Unfolds Empty.elim (s.publishes r calls) events u

namespace PublishHappening

/-- A publish has seen a broken link, and this is what happened afterwards. -/
def SawBroken (past : List PublishHappening) (who : Nat) (between : List PublishHappening) : Prop :=
  ∃ before e, past = before ++ e :: between ∧ e.who = who ∧
    e.exchange = ⟨.inTime .observe, some .broken⟩

/-- Another one puts a link in place. -/
def PutByAnother (who : Nat) (link : LinkId) (e : PublishHappening) : Prop :=
  e.who ≠ who ∧ e.exchange.request = .inTime (.replace link)

end PublishHappening

open PublishHappening

namespace SharedLink

variable {s s' : SharedLink} {link : LinkId}

theorem linkState_eq_usable_iff :
    s.linkState = .usable link ↔ s.stored = some link ∧ s.isUsable link = true := by
  unfold linkState
  split
  next none => simp [none]
  next other stored =>
    rw [stored, Option.some.injEq]
    split
    next usable =>
      rw [LinkState.usable.injEq]
      exact ⟨fun same => ⟨same, same ▸ usable⟩, And.left⟩
    next unusable =>
      refine ⟨nofun, ?_⟩
      rintro ⟨rfl, usable⟩
      exact absurd usable unusable

/-- The place and the locks are as they were, and no link that was opened before has come to
work. -/
structure Calm (s s' : SharedLink) : Prop where
  stored : s'.stored = s.stored
  held : s'.held = s.held
  opened : s.opened ≤ s'.opened
  usable : ∀ link < s.opened, s'.isUsable link = true → s.isUsable link = true

theorem Calm.refl (s : SharedLink) : s.Calm s :=
  ⟨rfl, rfl, Nat.le_refl _, fun _ _ usable => usable⟩

theorem calm_connect (s : SharedLink) : s.Calm { s with opened := s.opened + 1 } where
  stored := rfl
  held := rfl
  opened := Nat.le_succ _
  usable link inside usable := by
    simp only [isUsable, Bool.and_eq_true, decide_eq_true_eq] at usable ⊢
    exact ⟨⟨inside, usable.1.2⟩, usable.2⟩

theorem calm_close (s : SharedLink) (link : LinkId) :
    s.Calm { s with closed := link :: s.closed } where
  stored := rfl
  held := rfl
  opened := Nat.le_refl _
  usable other _ usable := by
    simp only [isUsable, Bool.and_eq_true, List.contains_cons, Bool.not_or] at usable ⊢
    exact ⟨usable.1, usable.2.2⟩

theorem Dies.calm (dies : s.Dies s') : s.Calm s' := by
  obtain ⟨link, rfl⟩ := dies
  refine ⟨rfl, rfl, Nat.le_refl _, fun other _ usable => ?_⟩
  simp only [isUsable, Bool.and_eq_true, List.contains_cons, Bool.not_or] at usable ⊢
  exact ⟨⟨usable.1.1, usable.1.2.2⟩, usable.2⟩

theorem AllowsBroker.calm {r : LinkRequest} {a : r.Answer} (allowed : s.AllowsBroker r a s') :
    s.Calm s' := by
  cases r with
  | connect =>
    cases a with
    | error => cases allowed; exact .refl s
    | ok =>
      obtain ⟨_, rfl⟩ := allowed
      exact calm_connect s
  | closeConnection | close => cases allowed; exact calm_close s _
  | isUsable =>
    obtain ⟨_, rfl⟩ := allowed
    exact .refl _
  | note => cases allowed; exact .refl s
  | publish =>
    cases a with
    | error => cases allowed; exact .refl s
    | ok =>
      obtain ⟨_, rfl⟩ := allowed
      exact ⟨rfl, rfl, Nat.le_refl _, fun _ _ usable => usable⟩
  | openChannel | declareExchange | declareQueue | bindQueue | limitPrefetch | consume =>
    cases a with
    | error => cases allowed; exact .refl s
    | ok =>
      obtain ⟨_, rfl⟩ := allowed
      exact .refl _

/-- A link that works after a calm change has worked before. -/
theorem Calm.linkState (calm : s.Calm s') (genuine : s.Genuine)
    (works : s'.linkState = .usable link) : s.linkState = .usable link := by
  rw [linkState_eq_usable_iff] at works ⊢
  have stored : s.stored = some link := calm.stored ▸ works.1
  exact ⟨stored, calm.usable link (genuine link stored) works.2⟩

theorem Genuine.calm (genuine : s.Genuine) (calm : s.Calm s') : s'.Genuine := by
  intro link stored
  have before : link < s.opened := genuine link (calm.stored ▸ stored)
  exact Nat.lt_of_lt_of_le before calm.opened

/-- What an exchange of a publish does to the shared state and to its own posture. -/
inductive Move (s : SharedLink) (p : Posture) : PublishExchange → SharedLink → Posture → Prop where
  | stays {x : PublishExchange} {s' : SharedLink} : s.Calm s' → Move s p x s' p
  | opens {x : PublishExchange} {s' : SharedLink} :
      s.Calm s' → s.opened < s'.opened → Move s p x s' { p with hand := some s.opened }
  | closes {x : PublishExchange} {s' : SharedLink} :
      s.Calm s' → Move s p x s' { p with hand := none }
  | looks : Move s p ⟨.inTime .observe, some s.linkState⟩ s (p.seeing s.linkState)
  | locks {x : PublishExchange} {lock : PublisherLock} :
      lock ∉ s.held →
        Move s p x { s with held := lock :: s.held } { p with locks := lock :: p.locks }
  | unlocks {x : PublishExchange} {lock : PublisherLock} :
      lock ∈ p.locks → Move s p x { s with held := s.held.erase lock } (p.without lock)
  | puts {link : LinkId} {a : Option (Option LinkId)} :
      p.hand = some link → .reconnect ∈ p.locks →
        Move s p ⟨.inTime (.replace link), a⟩ { s with stored := some link }
          { p with hand := s.stored, doubts := false, sure := false }
  | takes {x : PublishExchange} :
      Move s p x { s with stored := none } { p with hand := s.stored, doubts := false }

theorem move_of_allowed {p p' : Posture} {r : TimedRequest} {a : r.Answer}
    (allowed : s.AllowsWithin r a s') (habit : p.AllowsWithin r a p') :
    s.Move p ⟨r, a⟩ s' p' := by
  cases habit with
  | inTime habit =>
    cases habit with
    | connects =>
      obtain ⟨rfl, rfl⟩ := allowed
      exact .opens (calm_connect s) (Nat.lt_succ_self _)
    | @refused label e =>
      exact .stays (AllowsBroker.calm (r := .connect label) (a := .error e) allowed)
    | @closes link _ => exact .closes (AllowsBroker.calm (r := .close link) (a := ()) allowed)
    | @closesConnection link a _ =>
      exact .closes (AllowsBroker.calm (r := .closeConnection link) (a := a) allowed)
    | uses => exact .stays (AllowsBroker.calm allowed)
    | observes =>
      obtain ⟨_, rfl, rfl⟩ := allowed
      exact .looks
    | remembers =>
      obtain ⟨_, rfl⟩ := allowed
      exact .stays (.refl _)
    | establishes =>
      obtain rfl := allowed
      exact .stays ⟨rfl, rfl, Nat.le_refl _, fun _ _ usable => usable⟩
    | @acquires lock _ =>
      obtain ⟨free, rfl⟩ := allowed
      exact .locks (by simpa [isHeld] using free)
    | releases mine =>
      obtain rfl := allowed
      exact .unlocks mine
    | replaces held locked sure =>
      obtain ⟨rfl, rfl⟩ := allowed
      exact .puts held locked
    | takes =>
      obtain ⟨rfl, rfl⟩ := allowed
      exact .takes
  | @tooLate _ r answer _ =>
    cases r with
    | broker r =>
      rcases allowed with rfl | ⟨_, allowed⟩
      · exact .stays (.refl _)
      · exact .stays allowed.calm
    | observe | acquire =>
      obtain rfl := allowed
      exact .stays (.refl _)
    | wasEstablished | setEstablished | release | replace | take => exact allowed.elim
  | givesBack mine =>
    obtain rfl := allowed
    exact .unlocks mine

end SharedLink

/-- Either the link in place does not work, or others have put it there since the publish has seen a
broken one. -/
def Suspects (past : List PublishHappening) (s : SharedLink) (who : Nat) : Prop :=
  ∃ between, SawBroken past who between ∧
    ∀ link, s.linkState = .usable link → ∃ e ∈ between, PutByAnother who link e

theorem Suspects.later {past more : List PublishHappening} {s s' : SharedLink} {who : Nat}
    (suspects : Suspects past s who)
    (works : ∀ link, s'.linkState = .usable link →
      s.linkState = .usable link ∨ ∃ e ∈ more, PutByAnother who link e) :
    Suspects (past ++ more) s' who := by
  obtain ⟨between, ⟨before, x, rfl, mine, saw⟩, put⟩ := suspects
  refine ⟨between ++ more, ⟨before, x, by simp, mine, saw⟩, fun link usable => ?_⟩
  rcases works link usable with old | ⟨e, mem, new⟩
  · obtain ⟨y, mem, other⟩ := put link old
    exact ⟨y, List.mem_append_left _ mem, other⟩
  · exact ⟨e, List.mem_append_right _ mem, new⟩

structure Custody (past : List PublishHappening) (s : SharedLink) (who : Nat) (p : Posture) :
    Prop where
  nodup : p.locks.Nodup
  held : ∀ lock ∈ p.locks, lock ∈ s.held
  hand_lt : ∀ link, p.hand = some link → link < s.opened
  apart : ∀ link, p.hand = some link → s.stored ≠ some link
  locked : p.sure = true → .reconnect ∈ p.locks
  sure : p.sure = true → ∀ link, s.linkState ≠ .usable link
  doubts : p.doubts = true → Suspects past s who

structure Posture.Apart (p q : Posture) : Prop where
  locks : ∀ lock ∈ p.locks, lock ∉ q.locks
  hands : ∀ link, p.hand = some link → q.hand ≠ some link

theorem Posture.Apart.symm {p q : Posture} (apart : p.Apart q) : q.Apart p where
  locks lock mine yours := apart.locks lock yours mine
  hands link mine yours := apart.hands link yours mine

namespace Custody

variable {past more : List PublishHappening} {s s' : SharedLink} {i j : Nat} {p p' q : Posture}
  {x : PublishExchange}

theorem calm (custody : Custody past s i p) (calm : s.Calm s')
    (genuine : s.Genuine) : Custody (past ++ more) s' i p where
  nodup := custody.nodup
  held lock mine := calm.held ▸ custody.held lock mine
  hand_lt link mine := Nat.lt_of_lt_of_le (custody.hand_lt link mine) calm.opened
  apart link mine := calm.stored ▸ custody.apart link mine
  locked := custody.locked
  sure sure link works := custody.sure sure link (calm.linkState genuine works)
  doubts doubts := (custody.doubts doubts).later fun _ works => .inl (calm.linkState genuine works)

/-- The publish whose exchange it is goes on with custody. -/
theorem own (custody : Custody past s i p) (genuine : s.Genuine) (move : s.Move p x s' p') :
    Custody (past ++ [⟨i, x, s⟩]) s' i p' := by
  have same : Custody (past ++ [⟨i, x, s⟩]) s i p := custody.calm (.refl s) genuine
  cases move with
  | stays calm => exact custody.calm calm genuine
  | opens calm more =>
    have after : Custody (past ++ [⟨i, x, s⟩]) s' i p := custody.calm calm genuine
    refine { after with hand_lt := ?_, apart := ?_ }
    · rintro _ ⟨⟩
      exact more
    · -- The new link has the next number, and the one in place an earlier one.
      rintro _ ⟨⟩ stored
      exact Nat.lt_irrefl _ (genuine _ (calm.stored ▸ stored))
  | closes calm =>
    have after : Custody (past ++ [⟨i, x, s⟩]) s' i p := custody.calm calm genuine
    refine { after with hand_lt := ?_, apart := ?_ }
    all_goals
      intro link held
      cases held
  | looks =>
    refine { same with locked := ?_, sure := ?_, doubts := ?_ }
    · intro sure
      simp only [Posture.seeing, Bool.and_eq_true, List.contains_iff_mem] at sure
      exact sure.1
    · intro sure link works
      simp [Posture.seeing, works, LinkState.works] at sure
    · intro doubts
      have broken : s.linkState = .broken := by simpa [Posture.seeing] using doubts
      refine ⟨[], ⟨past, _, rfl, rfl, by rw [broken]⟩, fun link works => ?_⟩
      rw [broken] at works
      cases works
  | locks free =>
    refine { same with nodup := ?_, held := ?_, locked := ?_ }
    · exact List.nodup_cons.mpr ⟨fun mine => free (custody.held _ mine), custody.nodup⟩
    · intro lock mine
      rcases List.mem_cons.mp mine with rfl | mine
      · exact List.mem_cons_self
      · exact List.mem_cons_of_mem _ (custody.held lock mine)
    · exact fun sure => List.mem_cons_of_mem _ (custody.locked sure)
  | unlocks mine =>
    refine { same with
      nodup := custody.nodup.erase _
      held := ?_
      locked := fun sure => absurd sure Bool.false_ne_true
      sure := fun sure => absurd sure Bool.false_ne_true }
    intro lock kept
    obtain ⟨other, mine⟩ := custody.nodup.mem_erase_iff.mp kept
    exact (List.mem_erase_of_ne other).mpr (custody.held lock mine)
  | @puts link _ held locked =>
    refine ⟨custody.nodup, custody.held, genuine, ?_, ?_, ?_, ?_⟩
    · intro old stored same
      obtain rfl : link = old := Option.some.inj same
      exact custody.apart link held stored
    all_goals exact fun known => absurd known Bool.false_ne_true
  | takes =>
    refine { same with hand_lt := genuine, apart := ?_, sure := ?_, doubts := ?_ }
    · exact fun link _ same => Option.some_ne_none link same.symm
    · exact fun _ link works => LinkState.noConfusion works
    · exact fun doubts => absurd doubts Bool.false_ne_true

/-- And so does every other one. -/
theorem others (custody : Custody past s j q) (differ : i ≠ j) (apart : p.Apart q)
    (genuine : s.Genuine) (move : s.Move p x s' p') :
    Custody (past ++ [⟨i, x, s⟩]) s' j q := by
  have same : Custody (past ++ [⟨i, x, s⟩]) s j q := custody.calm (.refl s) genuine
  cases move with
  | stays calm | opens calm | closes calm => exact custody.calm calm genuine
  | looks => exact same
  | locks =>
    exact { same with held := fun lock mine => List.mem_cons_of_mem _ (custody.held lock mine) }
  | @unlocks _ given mine =>
    refine { same with held := fun lock yours => ?_ }
    have other : lock ≠ given := fun eq => apart.locks given mine (eq ▸ yours)
    exact (List.mem_erase_of_ne other).mpr (custody.held lock yours)
  | @puts link a held locked =>
    -- The reconnect lock is not the other one's, so that one is sure of nothing; but it may have
    -- seen a broken link before.
    have unsure : ¬ q.sure = true := fun sure => apart.locks _ locked (custody.locked sure)
    refine { same with
      apart := ?_, sure := fun sure => absurd sure unsure, doubts := fun doubts => ?_ }
    · intro other yours stored
      obtain rfl : link = other := Option.some.inj stored
      exact apart.hands link held yours
    · refine (custody.doubts doubts).later fun other works => .inr ?_
      obtain ⟨⟨⟩, _⟩ := SharedLink.linkState_eq_usable_iff.mp works
      exact ⟨_, List.mem_singleton_self _, differ, rfl⟩
  | takes =>
    have missing (link : LinkId) : { s with stored := none }.linkState ≠ .usable link := nofun
    refine { same with apart := ?_, sure := fun _ => missing, doubts := fun doubts => ?_ }
    · intro link _ stored
      cases stored
    · exact (custody.doubts doubts).later fun link works => absurd works (missing link)

theorem stay_apart (custody : Custody past s j q) (apart : p.Apart q) (move : s.Move p x s' p') :
    p'.Apart q := by
  cases move with
  | stays | looks => exact ⟨apart.locks, apart.hands⟩
  | closes => exact ⟨apart.locks, nofun⟩
  | opens =>
    refine ⟨apart.locks, ?_⟩
    rintro _ ⟨⟩ yours
    exact Nat.lt_irrefl _ (custody.hand_lt _ yours)
  | locks free =>
    refine ⟨List.forall_mem_cons.mpr ⟨?_, apart.locks⟩, apart.hands⟩
    exact fun yours => free (custody.held _ yours)
  | unlocks => exact ⟨fun lock kept => apart.locks lock (List.mem_of_mem_erase kept), apart.hands⟩
  | puts | takes => exact ⟨apart.locks, fun link stored yours => custody.apart link yours stored⟩

theorem genuine_of_move (custody : Custody past s i p) (genuine : s.Genuine)
    (move : s.Move p x s' p') : s'.Genuine := by
  cases move with
  | stays calm | opens calm | closes calm => exact genuine.calm calm
  | looks | locks | unlocks => exact genuine
  | puts held =>
    rintro _ ⟨⟩
    exact custody.hand_lt _ held
  | takes => exact nofun

end Custody

structure Guarded (past : List PublishHappening) (s : SharedLink) (stands : List Posture) :
    Prop where
  genuine : s.Genuine
  custody : ∀ (i : Nat) p, stands[i]? = some p → Custody past s i p
  apart : ∀ (i j : Nat) p q, i ≠ j → stands[i]? = some p → stands[j]? = some q → p.Apart q

namespace Guarded

variable {past : List PublishHappening} {s s' : SharedLink} {stands : List Posture} {i : Nat}
  {p p' : Posture} {x : PublishExchange}

theorem move (guarded : Guarded past s stands) (stood : stands[i]? = some p)
    (move : s.Move p x s' p') : Guarded (past ++ [⟨i, x, s⟩]) s' (stands.set i p') := by
  obtain ⟨genuine, custody, apart⟩ := guarded
  have here : (stands.set i p')[i]? = some p' := by
    rw [List.getElem?_set_self (List.getElem?_eq_some_iff.mp stood).1]
  have there {j : Nat} (differ : i ≠ j) : (stands.set i p')[j]? = stands[j]? :=
    List.getElem?_set_ne differ
  refine ⟨(custody i p stood).genuine_of_move genuine move, fun j q at_j => ?_,
    fun j k q q' differ at_j at_k => ?_⟩
  · by_cases mine : i = j
    · subst mine
      rw [here, Option.some.injEq] at at_j
      exact at_j ▸ (custody i p stood).own genuine move
    · rw [there mine] at at_j
      exact (custody j q at_j).others mine (apart i j p q mine stood at_j) genuine move
  · by_cases first : i = j
    · subst first
      rw [here, Option.some.injEq] at at_j
      rw [there differ] at at_k
      exact at_j ▸ (custody k q' at_k).stay_apart (apart i k p q' differ stood at_k) move
    · rw [there first] at at_j
      by_cases second : i = k
      · subst second
        rw [here, Option.some.injEq] at at_k
        exact at_k ▸ ((custody j q at_j).stay_apart (apart i j p q first stood at_j) move).symm
      · rw [there second] at at_k
        exact apart j k q q' differ at_j at_k

theorem calm (guarded : Guarded past s stands) (calm : s.Calm s') : Guarded past s' stands := by
  obtain ⟨genuine, custody, apart⟩ := guarded
  refine ⟨genuine.calm calm, fun i p stood => ?_, apart⟩
  have after : Custody (past ++ []) s' i p := (custody i p stood).calm calm genuine
  rwa [List.append_nil] at after

end Guarded

theorem PublishCall.keep (r : StatusRoute) (calls : List PublishCall) :
    Surroundings.Keep habitsWithin (fun _ _ => True) (calls.map fun _ => .start)
      (calls.map (·.program r)) := by
  intro i p at_i
  rw [List.getElem?_map, Option.map_eq_some_iff] at at_i
  obtain ⟨call, at_i, rfl⟩ := at_i
  refine ⟨.start, by rw [List.getElem?_map, at_i, Option.map_some], ?_⟩
  exact (r.publishWithin_habits call.limit call.event).bind fun _ _ _ => trivial

theorem SharedLink.Genuine.guarded {s : SharedLink} (genuine : s.Genuine)
    (calls : List PublishCall) : Guarded [] s (calls.map fun _ => .start) where
  genuine := genuine
  custody i p stood := by
    rw [List.getElem?_map, Option.map_eq_some_iff] at stood
    obtain ⟨_, _, rfl⟩ := stood
    exact ⟨.nil, nofun, nofun, nofun, nofun, nofun, nofun⟩
  apart i j p q _ stood _ := by
    rw [List.getElem?_map, Option.map_eq_some_iff] at stood
    obtain ⟨_, _, rfl⟩ := stood
    exact ⟨nofun, nofun⟩

namespace SharedLink

/-- Answers the broker gives as long as it refuses nothing. -/
def brokerAnswer (s : SharedLink) : (r : LinkRequest) → r.Answer × SharedLink
  | .connect _ => (.ok s.opened, { s with opened := s.opened + 1 })
  | .openChannel link | .declareExchange link _ | .declareQueue link _ | .bindQueue link _ _ _
  | .limitPrefetch link => (if s.isUsable link then .ok () else .error .missingHeartbeat, s)
  | .consume link _ => (if s.isUsable link then .ok "consumer" else .error .missingHeartbeat, s)
  | .publish link _ _ payload =>
    if s.isUsable link then (.ok (), { s with sent := (link, payload) :: s.sent })
    else (.error .missingHeartbeat, s)
  | .closeConnection link => (.ok (), { s with closed := link :: s.closed })
  | .close link => ((), { s with closed := link :: s.closed })
  | .isUsable link => (s.isUsable link, s)
  | .note _ => ((), s)

theorem brokerAnswer_allowed (s : SharedLink) (r : LinkRequest) :
    s.AllowsBroker r (s.brokerAnswer r).1 (s.brokerAnswer r).2 := by
  cases r with
  | connect | isUsable => exact ⟨rfl, rfl⟩
  | closeConnection | close | note => rfl
  | openChannel link | declareExchange link | declareQueue link | bindQueue link
  | limitPrefetch link | consume link | publish link =>
    cases works : s.isUsable link <;> simp [brokerAnswer, AllowsBroker, works]

/-- Answers that come in time, once the lock that is waited for is free. -/
def answer (s : SharedLink) : (r : TimedRequest) → Option (r.Answer × SharedLink)
  | .inTime (.broker r) => some (some (s.brokerAnswer r).1, (s.brokerAnswer r).2)
  | .inTime .observe => if s.isHeld .place then none else some (some s.linkState, s)
  | .inTime .wasEstablished => some (some s.established, s)
  | .inTime .setEstablished => some (some (), { s with established := true })
  | .inTime (.acquire lock) =>
    if s.isHeld lock then none else some (some (), { s with held := lock :: s.held })
  | .inTime (.release lock) => some (some (), { s with held := s.held.erase lock })
  | .inTime (.replace link) => some (some s.stored, { s with stored := some link })
  | .inTime .take => some (some s.stored, { s with stored := none })
  | .giveBack lock => some ((), { s with held := s.held.erase lock })

theorem answer_allowed {s s' : SharedLink} {r : TimedRequest} {a : r.Answer}
    (answered : s.answer r = some (a, s')) : surroundingsWithin.Allows s r a s' := by
  cases r with
  | giveBack => cases answered; rfl
  | inTime r =>
    cases r with
    | broker r => cases answered; exact s.brokerAnswer_allowed r
    | observe =>
      rw [answer] at answered
      split at answered
      next => cases answered
      next free => cases answered; exact ⟨by simpa using free, rfl, rfl⟩
    | acquire lock =>
      rw [answer] at answered
      split at answered
      next => cases answered
      next free => cases answered; exact ⟨by simpa using free, rfl⟩
    | wasEstablished | replace | take => cases answered; exact ⟨rfl, rfl⟩
    | setEstablished | release => cases answered; rfl

end SharedLink

def statuses : StatusRoute := ⟨"image_processing", "status", "status_queue"⟩

end ImageWorker
