import ImageWorker.Proofs.LinkRenewal

/-!
# One reconnect for all

Publishes run side by side on a publisher whose link is missing. What is true of the shared link
and of their steps shows in every history: one connection is opened, each publish sends its message
once, on that link, and no two of them open a link at the same time. As long as one of them is not
over, there is one that need not wait.
-/

namespace ImageWorker

open Surroundings

namespace TimedRequest

def isConnect : TimedRequest → Bool
  | inTime r => r.isConnect
  | giveBack _ => false

def isPublish : TimedRequest → Bool
  | inTime r => r.isPublish
  | giveBack _ => false

end TimedRequest

/-- The message that an exchange has sent, and the link on which it has. -/
def PublishExchange.sent? : PublishExchange → Option (LinkId × Bytes)
  | ⟨.inTime (.broker (.publish link _ _ payload)), some (.ok _)⟩ => some (link, payload)
  | _ => none

/-- Only what is published is sent. -/
theorem PublishExchange.filterMap_sent (trace : List PublishExchange) :
    trace.filterMap sent? = (trace.filter (·.request.isPublish)).filterMap sent? := by
  rw [List.filterMap_filter]
  congr 1
  funext x
  split
  next => rfl
  next unpublished =>
    unfold sent?
    split
    next => exact absurd rfl unpublished
    next => rfl

namespace SharedLink

variable {first : LinkId} {s s' : SharedLink}

/-- No question to the broker kills a link, and only what is taken is sent. -/
theorem AllowsBroker.leaves {r : LinkRequest} {answer : r.Answer}
    (allowed : s.AllowsBroker r answer s') :
    s'.dead = s.dead ∧
      s'.sent = (PublishExchange.sent? ⟨.inTime (.broker r), some answer⟩).toList ++ s.sent := by
  cases r with
  | close | closeConnection | note =>
    cases allowed
    exact ⟨rfl, rfl⟩
  | isUsable =>
    obtain ⟨_, rfl⟩ := allowed
    exact ⟨rfl, rfl⟩
  | connect | openChannel | declareExchange | declareQueue | bindQueue | limitPrefetch | consume
  | publish =>
    cases answer with
    | error =>
      cases allowed
      exact ⟨rfl, rfl⟩
    | ok =>
      obtain ⟨_, rfl⟩ := allowed
      exact ⟨rfl, rfl⟩

theorem leaves_of_allowed {x : TimedRequest} {answer : x.Answer}
    (allowed : s.AllowsWithin x answer s') (favours : s.favours first x answer = true) :
    s'.dead = s.dead ∧ s'.sent = (PublishExchange.sent? ⟨x, answer⟩).toList ++ s.sent := by
  cases x with
  | giveBack =>
    cases allowed
    exact ⟨rfl, rfl⟩
  | inTime r =>
    cases answer with
    | none => cases favours
    | some answer =>
      cases r with
      | broker => exact AllowsBroker.leaves allowed
      | observe =>
        obtain ⟨_, _, rfl⟩ := allowed
        exact ⟨rfl, rfl⟩
      | wasEstablished | acquire | replace | take =>
        obtain ⟨_, rfl⟩ := allowed
        exact ⟨rfl, rfl⟩
      | setEstablished | release =>
        cases allowed
        exact ⟨rfl, rfl⟩

end SharedLink

/-- Only the one that dials connects. -/
theorem PublishStep.opened_of_allowed {r : StatusRoute} {payload : Bytes} {first : LinkId}
    {s s' : SharedLink} {q q' : PublishStep} {request : PublisherRequest} {answer : request.Answer}
    (fits : q.Fits first s) (favours : s.favours first (.inTime request) (some answer) = true)
    (allowed : s.Allows request answer s') (habit : q.Allows r payload request answer q') :
    s'.opened = s.opened + (TimedRequest.inTime request).isConnect.toNat := by
  cases habit with
  | connects =>
    obtain ⟨_, rfl⟩ := allowed
    rfl
  | refused => exact absurd fits.1 (of_decide_eq_true favours)
  | strays => exact fits.elim
  | finds | misses | findsAnother | missesStill | findsItsOwn | findsBroken | losesItsOwn =>
    obtain ⟨_, _, rfl⟩ := allowed
    rfl
  | remembers | enters | opensChannel | declaresExchange | declaresQueue | binds | reachesOut
  | puts | forgets | displaces =>
    obtain ⟨_, rfl⟩ := allowed
    rfl
  | letsGo | marks | announces | leaves | noChannel | noExchange | noQueue | noBinding =>
    obtain rfl := allowed
    rfl
  | @sends _ answer =>
    cases answer with
    | error =>
      obtain rfl := allowed
      rfl
    | ok =>
      obtain ⟨_, rfl⟩ := allowed
      rfl

namespace PublishStage

variable {r : StatusRoute} {q q' q₀ : PublishStage}

def published (r : StatusRoute) (q : PublishStage) : List PublishExchange :=
  match q.step with
  | .ended link answer =>
    [⟨.inTime (.broker (.publish link r.exchange r.routingKey q.payload)), some answer⟩]
  | _ => []

/-- What a publish at a stage has asked and heard, unless something has gone wrong. -/
def Past (r : StatusRoute) (q : PublishStage) (trace : List PublishExchange) : Prop :=
  q.step ≠ .stray →
    trace.length + q.step.left ≤ 17 ∧ trace.filter (·.request.isPublish) = q.published r

theorem Past.move {trace : List PublishExchange} {x : TimedRequest} {answer : x.Answer}
    (past : Past r q trace) (allowed : Allows r q x answer q') :
    Past r q' (trace ++ [⟨x, answer⟩]) := by
  intro sound
  cases allowed with
  | tooLate | givesBack => exact absurd rfl sound
  | inTime allowed =>
    rw [List.length_append, List.length_singleton, List.filter_append]
    cases allowed <;> first | exact absurd rfl sound | skip
    all_goals
      obtain ⟨few, before⟩ := past nofun
      exact ⟨by simp only [PublishStep.left] at few ⊢; omega, by rw [before]; rfl⟩

theorem Allows.payload_eq {x : TimedRequest} {answer : x.Answer}
    (allowed : Allows r q x answer q') : q'.payload = q.payload := by
  cases allowed <;> rfl

/-- Where a publish stands tells what it has asked and heard. -/
theorem past_of_follows {front trace : List PublishExchange} (past : Past r q₀ front)
    (follows : (protocol r).Follows q₀ trace q) :
    Past r q (front ++ trace) ∧ q.payload = q₀.payload := by
  induction follows generalizing front with
  | start => exact ⟨by rwa [List.append_nil], rfl⟩
  | step allowed _ ih =>
    obtain ⟨later, same⟩ := ih (past.move allowed)
    exact ⟨by simpa using later, same.trans allowed.payload_eq⟩

theorem past_of_followed {calls : List PublishCall} {events : List PublishHappening}
    {stands : List PublishStage}
    (followed : Followed (protocol r) (calls.map (·.stage)) events stands) {i : Nat}
    (stood : stands[i]? = some q) :
    Past r q (exchangesOf events i) ∧
      ∃ call, calls[i]? = some call ∧ q.payload = call.payload := by
  obtain ⟨q₀, began, follows⟩ := followed.2 i q stood
  rw [List.getElem?_map, Option.map_eq_some_iff] at began
  obtain ⟨call, at_i, rfl⟩ := began
  have fresh : Past r call.stage [] := fun _ => ⟨Nat.le_refl 17, rfl⟩
  obtain ⟨past, same⟩ := past_of_follows fresh follows
  exact ⟨past, call, at_i, same⟩

end PublishStage

/-- What a history keeps as long as it favours the first link and that one does not die. -/
structure Renewed (s₀ : SharedLink) (past : List PublishHappening) (s : SharedLink)
    (stands : List PublishStage) : Prop where
  renewal : Renewal s₀.opened s stands
  opened : s.opened = s₀.opened + past.countP (·.exchange.request.isConnect)
  sent : s.sent = (past.filterMap fun e => PublishExchange.sent? e.exchange).reverse ++ s₀.sent

theorem Renewed.act {r : StatusRoute} {s₀ s s' : SharedLink} {past : List PublishHappening}
    {stands : List PublishStage} {i : Nat} {q q' : PublishStage} {x : TimedRequest}
    {answer : x.Answer} (renewed : Renewed s₀ past s stands) (stood : stands[i]? = some q)
    (alive : s₀.opened ∉ s.dead) (favours : s.favours s₀.opened x answer = true)
    (allowed : s.AllowsWithin x answer s') (habit : q.Allows r x answer q') :
    Renewed s₀ (past ++ [⟨i, ⟨x, answer⟩, s⟩]) s' (stands.set i q') := by
  obtain ⟨renewal, opened, sent⟩ := renewed
  have fits := renewal.fits i q stood
  cases habit with
  | tooLate => cases favours
  | givesBack => exact fits.elim
  | inTime habit =>
    have dials := PublishStep.opened_of_allowed fits favours allowed habit
    refine ⟨renewal.move stood ?_, ?_, ?_⟩
    · exact PublishStep.move_of_allowed renewal.renewing alive fits (renewal.alone stood) favours
        allowed habit
    · rw [dials, opened, List.countP_append, List.countP_singleton, Nat.add_assoc]
      cases (TimedRequest.inTime _).isConnect <;> rfl
    · rw [(SharedLink.leaves_of_allowed allowed favours).2, sent, List.filterMap_append,
        List.reverse_append, List.append_assoc]
      congr 1
      cases new : PublishExchange.sent? ⟨_, _⟩ <;> simp [new]

theorem Renewed.dies {s₀ s s' : SharedLink} {past : List PublishHappening}
    {stands : List PublishStage} (renewed : Renewed s₀ past s stands) (dies : s.Dies s') :
    Renewed s₀ past s' stands := by
  obtain ⟨link, rfl⟩ := dies
  obtain ⟨⟨renewing, fits, holders, single, carried⟩, opened, sent⟩ := renewed
  exact ⟨⟨⟨renewing.established, renewing.unclosed, renewing.phase⟩,
    fun i q stood => (fits i q stood).same rfl rfl, holders, single, carried⟩, opened, sent⟩

theorem SharedLink.Vacant.renewed {s : SharedLink} (vacant : s.Vacant)
    (calls : List PublishCall) : Renewed s [] s (calls.map (·.stage)) := by
  have at_first {i : Nat} {q : PublishStage} (stood : (calls.map (·.stage))[i]? = some q) :
      q.step = .fresh := by
    obtain ⟨call, _, rfl⟩ := List.mem_map.mp (List.mem_of_getElem? stood)
    rfl
  have unlocked (lock : PublisherLock) : s.held.count lock = 0 := by rw [vacant.held]; rfl
  refine ⟨⟨⟨vacant.established, fun closed => ?_, .inl ⟨vacant.stored, rfl⟩⟩,
    fun i q stood => ?_, fun lock => ?_, fun lock => ?_, fun _ opened => ?_⟩, rfl, rfl⟩
  · exact Nat.lt_irrefl _ (vacant.closed _ closed)
  · rw [at_first stood]
    trivial
  · rw [unlocked, List.countP_map]
    exact (List.countP_eq_zero.mpr fun _ _ => Bool.false_ne_true).symm
  · rw [unlocked]
    exact Nat.zero_le 1
  · exact absurd opened (Nat.ne_of_lt (Nat.lt_succ_self _))

theorem renewed_of_unfolds {r : StatusRoute} {calls : List PublishCall} {s : SharedLink}
    (vacant : s.Vacant) {events : List PublishHappening}
    {u : Together TimedRequest TimedRequest.Answer SharedLink Empty (Except QueueError Unit)}
    (unfolds : SharedLink.surroundingsWithin.Unfolds Empty.elim (s.publishes r calls) events u)
    (favoured : ∀ e ∈ events, e.Favours s.opened) (alive : s.opened ∉ u.state.dead) :
    ∃ stands, Keep (PublishStage.protocol r) PublishStage.Ends stands u.programs ∧
      Followed (PublishStage.protocol r) (calls.map (·.stage)) events stands ∧
      Renewed s events u.state stands := by
  obtain ⟨⟨stands, keep, followed, renewed⟩, _⟩ := unfolds.followed
    (fun past t stands => (∀ e ∈ past, PublishHappening.Favours s.opened e) →
      s.opened ∉ t.dead → Renewed s past t stands)
    (fun _ _ => True) nofun
    (fun fits stood allowed habit => by
      refine ⟨fun favoured alive => ?_, trivial⟩
      obtain ⟨before, now⟩ := List.forall_mem_append.mp favoured
      have favours := List.forall_mem_singleton.mp now
      rw [(SharedLink.leaves_of_allowed allowed favours).1] at alive
      exact (fits before alive).act stood alive favours allowed habit)
    (fun fits dies favoured alive => by
      refine (fits favoured fun dead => alive ?_).dies dies
      obtain ⟨link, rfl⟩ := dies
      exact List.mem_cons_of_mem _ dead)
    (PublishCall.keep_stages r calls) (fun _ _ => vacant.renewed calls)
  exact ⟨stands, keep, followed, renewed favoured alive⟩

/-- Whether a question is one of those that are asked while a link is opened. -/
def PublisherRequest.isOpening : PublisherRequest → Bool
  | broker (.publish _ _ _ _) => false
  | broker _ | acquire .place | release .place | replace _ | setEstablished => true
  | _ => false

/-- A publish that is in the middle of opening a link. -/
def Opening (r : StatusRoute) (p : TimedProgram (Empty ⊕ Except QueueError Unit)) : Prop :=
  ∃ trace request next, ∃ k : Except QueueError Unit → PublisherProgram (Except QueueError Unit),
    ∃ held k', r.openInPlace.Reaches trace (.ask request next) ∧
      p = (TimedProgram.ofPublisher held ((Program.ask request next).bind k)).bind k'

/-- Any questions of opening a link, in any order. -/
def openings : Surroundings PublisherRequest PublisherRequest.Answer Unit where
  Allows _ r _ _ := r.isOpening = true
  Drifts _ _ := False

theorem openInPlace_opens (r : StatusRoute) :
    openings.Conforms (fun _ _ => True) () r.openInPlace := by
  rintro (e | link)
  · exact ⟨(), rfl, trivial⟩
  refine ⟨(), rfl, ?_⟩
  rintro (e | ⟨⟩)
  · refine ⟨(), rfl, ?_⟩
    rintro (why | ⟨⟩)
    · exact ⟨(), rfl, fun _ => ⟨(), rfl, trivial⟩⟩
    · exact ⟨(), rfl, trivial⟩
  refine ⟨(), rfl, ?_⟩
  rintro (e | ⟨⟩)
  · exact ⟨(), rfl, fun _ => ⟨(), rfl, trivial⟩⟩
  refine ⟨(), rfl, ?_⟩
  rintro (e | ⟨⟩)
  · exact ⟨(), rfl, fun _ => ⟨(), rfl, trivial⟩⟩
  refine ⟨(), rfl, ?_⟩
  rintro (e | ⟨⟩)
  · exact ⟨(), rfl, fun _ => ⟨(), rfl, trivial⟩⟩
  refine ⟨(), rfl, fun _ => ⟨(), rfl, ?_⟩⟩
  rintro (⟨⟩ | old)
  · exact ⟨(), rfl, fun _ => ⟨(), rfl, fun _ => ⟨(), rfl, fun _ => ⟨(), rfl, trivial⟩⟩⟩⟩
  · refine ⟨(), rfl, fun _ => ⟨(), rfl, fun _ => ⟨(), rfl, fun _ => ⟨(), rfl, ?_⟩⟩⟩⟩
    exact fun _ => ⟨(), rfl, trivial⟩

namespace PublishStage

variable {r : StatusRoute} {first : LinkId} {s : SharedLink} {q : PublishStage}
  {p : TimedProgram (Empty ⊕ Except QueueError Unit)}

/-- Whoever opens a link has the reconnect lock. -/
theorem holds_of_opening (conforms : (protocol r).Conforms Ends q p)
    (fits : q.step.Fits first s) (opening : Opening r p) : q.step.holds .reconnect = true := by
  obtain ⟨trace, request, next, k, held, k', reached, rfl⟩ := opening
  obtain ⟨answer⟩ := request.nonempty_answer
  have opens : request.isOpening = true := by
    obtain ⟨_, _, rest⟩ := (openInPlace_opens r).follows reached
    obtain ⟨_, opens, _⟩ := rest answer
    exact opens
  rw [Program.bind_ask, TimedProgram.ofPublisher, Program.bind_ask] at conforms
  obtain ⟨_, allowed, _⟩ := conforms (some answer)
  cases allowed with
  | inTime habit => cases habit <;> first | rfl | cases opens | exact fits.elim

/-- A publish is over, or has a question. -/
theorem over_or_asks (conforms : (protocol r).Conforms Ends q p) (fits : q.step.Fits first s) :
    (∃ result, p = .done (.inr result) ∧ q.step.Ends result) ∨
      ∃ request k answer step', p = .ask (.inTime request) k ∧
        q.step.Allows r q.payload request answer step' := by
  cases p with
  | done result =>
    match result, conforms with
    | .inr result, ended => exact .inl ⟨result, rfl, ended⟩
  | ask x k =>
    cases x with
    | giveBack lock =>
      obtain ⟨_, allowed, _⟩ := conforms ()
      cases allowed
      exact fits.elim
    | inTime request =>
      obtain ⟨answer⟩ := request.nonempty_answer
      obtain ⟨_, allowed, _⟩ := conforms (some answer)
      cases allowed with
      | inTime habit => exact .inr ⟨request, k, answer, _, rfl, habit⟩

end PublishStage

/-- The lock that has to be free before a question is answered. -/
def PublisherRequest.awaits : PublisherRequest → Option PublisherLock
  | observe => some .place
  | acquire lock => some lock
  | _ => none

namespace PublishStep

variable {r : StatusRoute} {payload : Bytes} {first : LinkId} {s : SharedLink}
  {q q' : PublishStep} {request : PublisherRequest} {answer : request.Answer}

/-- A question that does not have to wait can be answered well. -/
theorem exists_answer (renewing : s.Renewing first) (alive : first ∉ s.dead)
    (fits : q.Fits first s) (habit : q.Allows r payload request answer q')
    (free : ∀ lock, request.awaits = some lock → s.isHeld lock = false) :
    ∃ answer s', s.Allows request answer s' ∧
      s.favours first (.inTime request) (some answer) = true := by
  cases habit with
  | finds | misses | findsAnother | missesStill | findsItsOwn | findsBroken | losesItsOwn =>
    exact ⟨s.linkState, s, ⟨free .place rfl, rfl, rfl⟩, rfl⟩
  | remembers | forgets => exact ⟨s.established, s, ⟨rfl, rfl⟩, rfl⟩
  | enters | reachesOut => exact ⟨(), _, ⟨free _ rfl, rfl⟩, rfl⟩
  | connects | refused => exact ⟨.ok s.opened, _, ⟨rfl, rfl⟩, rfl⟩
  | opensChannel | declaresExchange | declaresQueue | binds | noChannel | noExchange | noQueue
  | noBinding =>
    obtain ⟨rfl, opened, _⟩ := fits
    exact ⟨.ok (), s, ⟨renewing.usable alive opened, rfl⟩, rfl⟩
  | puts | displaces => exact ⟨s.stored, _, ⟨rfl, rfl⟩, rfl⟩
  | letsGo | marks | announces | leaves => exact ⟨(), _, rfl, rfl⟩
  | sends => exact ⟨.error .missingHeartbeat, s, rfl, rfl⟩
  | strays => exact fits.elim

/-- Whoever holds the place waits for nothing. -/
theorem awaits_of_place (habit : q.Allows r payload request answer q')
    (holds : q.holds .place = true) : request.awaits = none := by
  cases habit with
  | findsBroken looks => rcases looks with rfl | rfl | rfl <;> cases holds
  | _ => first | rfl | cases holds

/-- Whoever holds the reconnect lock waits for the place only. -/
theorem awaits_of_reconnect (fits : q.Fits first s)
    (habit : q.Allows r payload request answer q') (holds : q.holds .reconnect = true)
    {lock : PublisherLock} (awaits : request.awaits = some lock) : lock = .place := by
  cases habit with
  | strays => exact fits.elim
  | _ => first | cases holds; done | cases awaits; rfl | cases awaits

theorem not_ends_of_holds {lock : PublisherLock} (holds : q.holds lock = true)
    {result : Except QueueError Unit} : ¬ q.Ends result := by
  cases q <;> first | exact id | cases holds

end PublishStep

abbrev PublishesTogether :=
  Together TimedRequest TimedRequest.Answer SharedLink Empty (Except QueueError Unit)

/-- The stage of a publish that has a question, and what it may hear. -/
def AsksAt (r : StatusRoute) (u : PublishesTogether) (q : PublishStage)
    (request : PublisherRequest) : Prop :=
  (∃ k, .ask (.inTime request) k ∈ u.programs) ∧
    ∃ answer step', q.step.Allows r q.payload request answer step'

section Waiting

variable {r : StatusRoute} {s₀ : SharedLink} {past : List PublishHappening}
  {u : PublishesTogether} {stands : List PublishStage}

theorem Renewed.ends_or_asks (renewed : Renewed s₀ past u.state stands)
    (keep : Keep (PublishStage.protocol r) PublishStage.Ends stands u.programs) {i : Nat}
    {q : PublishStage} {p : TimedProgram (Empty ⊕ Except QueueError Unit)}
    (stood : stands[i]? = some q) (at_i : u.programs[i]? = some p) :
    (∃ result, p = .done (.inr result) ∧ q.step.Ends result) ∨
      ∃ request, AsksAt r u q request := by
  obtain ⟨q', stood', conforms⟩ := keep i p at_i
  obtain rfl : q = q' := Option.some.inj (stood.symm.trans stood')
  rcases PublishStage.over_or_asks conforms (renewed.renewal.fits i q stood) with
    ended | ⟨request, k, answer, step', rfl, habit⟩
  · exact .inl ended
  · exact .inr ⟨request, ⟨k, List.mem_of_getElem? at_i⟩, answer, step', habit⟩

/-- Whoever holds a lock is in the middle of something. -/
theorem Renewed.holder_asks (renewed : Renewed s₀ past u.state stands)
    (keep : Keep (PublishStage.protocol r) PublishStage.Ends stands u.programs)
    (length : stands.length = u.programs.length) {lock : PublisherLock}
    (taken : u.state.isHeld lock = true) :
    ∃ (i : Nat) (q : PublishStage), stands[i]? = some q ∧ q.step.holds lock = true ∧
      ∃ request, AsksAt r u q request := by
  have counted : 0 < stands.countP (·.step.holds lock) := by
    rw [← renewed.renewal.holders, List.count_pos_iff]
    exact List.contains_iff_mem.mp taken
  obtain ⟨q, mem, holds⟩ := List.countP_pos_iff.mp counted
  obtain ⟨i, inside, rfl⟩ := List.getElem_of_mem mem
  have stood : stands[i]? = some stands[i] := List.getElem?_eq_getElem inside
  rcases renewed.ends_or_asks keep stood (List.getElem?_eq_getElem (length ▸ inside)) with
    ⟨result, _, ended⟩ | asks
  · exact (PublishStep.not_ends_of_holds holds ended).elim
  · exact ⟨i, _, stood, holds, asks⟩

/-- As long as a publish is not over, there is one whose question does not have to wait. -/
theorem Renewed.exists_ready (renewed : Renewed s₀ past u.state stands)
    (keep : Keep (PublishStage.protocol r) PublishStage.Ends stands u.programs)
    (length : stands.length = u.programs.length)
    (unfinished : ∃ p ∈ u.programs, ∀ result, p ≠ .done (.inr result)) :
    ∃ q ∈ stands, ∃ request, AsksAt r u q request ∧
      ∀ lock, request.awaits = some lock → u.state.isHeld lock = false := by
  by_cases place : u.state.isHeld .place = true
  · obtain ⟨i, q, stood, holds, request, asks, answer, step', habit⟩ :=
      renewed.holder_asks keep length place
    refine ⟨q, List.mem_of_getElem? stood, request, ⟨asks, answer, step', habit⟩, ?_⟩
    have free := PublishStep.awaits_of_place habit holds
    exact fun lock awaits => absurd (awaits.symm.trans free) (Option.some_ne_none lock)
  rw [Bool.not_eq_true] at place
  by_cases reconnect : u.state.isHeld .reconnect = true
  · obtain ⟨i, q, stood, holds, request, asks, answer, step', habit⟩ :=
      renewed.holder_asks keep length reconnect
    refine ⟨q, List.mem_of_getElem? stood, request, ⟨asks, answer, step', habit⟩, ?_⟩
    intro lock awaits
    rwa [PublishStep.awaits_of_reconnect (renewed.renewal.fits i q stood) habit holds awaits]
  rw [Bool.not_eq_true] at reconnect
  obtain ⟨p, mem, unended⟩ := unfinished
  obtain ⟨i, inside, rfl⟩ := List.getElem_of_mem mem
  have standing : i < stands.length := length ▸ inside
  have stood : stands[i]? = some stands[i] := List.getElem?_eq_getElem standing
  rcases renewed.ends_or_asks keep stood (List.getElem?_eq_getElem inside) with
    ⟨result, ended, _⟩ | ⟨request, asks⟩
  · exact absurd ended (unended result)
  · refine ⟨_, List.mem_of_getElem? stood, request, asks, fun lock _ => ?_⟩
    cases lock with
    | place => exact place
    | reconnect => exact reconnect

end Waiting

section Results

variable {r : StatusRoute} {calls : List PublishCall} {s : SharedLink}
  {events : List PublishHappening} {u : PublishesTogether} {stands : List PublishStage}

theorem Renewed.opening_unique (renewed : Renewed s events u.state stands)
    (keep : Keep (PublishStage.protocol r) PublishStage.Ends stands u.programs) {i j : Nat}
    {p p' : TimedProgram (Empty ⊕ Except QueueError Unit)} (at_i : u.programs[i]? = some p)
    (at_j : u.programs[j]? = some p') (mine : Opening r p) (yours : Opening r p') : i = j := by
  obtain ⟨q, stood, conforms⟩ := keep i p at_i
  obtain ⟨q', stood', conforms'⟩ := keep j p' at_j
  have fits := renewed.renewal.fits
  exact renewed.renewal.holder_unique stood stood'
    (PublishStage.holds_of_opening conforms (fits i q stood) mine)
    (PublishStage.holds_of_opening conforms' (fits j q' stood') yours)

theorem Renewed.connects_le_one (renewed : Renewed s events u.state stands) :
    events.countP (·.exchange.request.isConnect) ≤ 1 := by
  have opened := renewed.opened
  rcases renewed.renewal.renewing.phase with ⟨_, now⟩ | ⟨_, now⟩ | ⟨_, now⟩ <;> omega

/-- A publish that is over has published its message once, on the link that was opened. -/
theorem Renewed.published (renewed : Renewed s events u.state stands)
    (keep : Keep (PublishStage.protocol r) PublishStage.Ends stands u.programs)
    (followed : Followed (PublishStage.protocol r) (calls.map (·.stage)) events stands) {i : Nat}
    {call : PublishCall} {result : Except QueueError Unit} (at_i : calls[i]? = some call)
    (ended : u.programs[i]? = some (.done (.inr result))) :
    events.countP (·.exchange.request.isConnect) = 1 ∧
      ∃ answer, result = LinkProgram.ofAnswer answer ∧
        (exchangesOf events i).filter (·.request.isPublish) =
          [⟨.inTime (.broker (.publish s.opened r.exchange r.routingKey call.payload)),
            some answer⟩] := by
  obtain ⟨⟨payload, step⟩, stood, ends⟩ := keep i _ ended
  obtain ⟨past, call', at_i', rfl⟩ := PublishStage.past_of_followed followed stood
  obtain rfl : call = call' := Option.some.inj (at_i.symm.trans at_i')
  have fits := renewed.renewal.fits i _ stood
  cases step with
  | ended link answer =>
    obtain ⟨rfl, stored⟩ := fits
    refine ⟨?_, answer, ends, (past nofun).2⟩
    have opened := renewed.opened
    rcases renewed.renewal.renewing.phase with ⟨missing, _⟩ | ⟨missing, _⟩ | ⟨_, now⟩
    · exact absurd (stored.symm.trans missing) (Option.some_ne_none _)
    · exact absurd (stored.symm.trans missing) (Option.some_ne_none _)
    · omega
  | stray => exact fits.elim
  | _ => exact ends.elim

theorem Renewed.length_le (renewed : Renewed s events u.state stands)
    (followed : Followed (PublishStage.protocol r) (calls.map (·.stage)) events stands)
    (inside : ∀ e ∈ events, e.who < calls.length) : events.length ≤ 17 * calls.length := by
  refine length_le_of_parts inside fun i below => ?_
  have standing : i < stands.length := by rwa [followed.1, List.length_map]
  have stood := List.getElem?_eq_getElem standing
  have fits := renewed.renewal.fits i _ stood
  have past := (PublishStage.past_of_followed followed stood).1 fun astray => by
    rw [astray] at fits
    exact fits
  exact Nat.le_trans (Nat.le_add_right _ _) past.1

/-- When all have been taken, what was sent before and the messages of all of them were sent. -/
theorem Renewed.sent_perm (renewed : Renewed s events u.state stands)
    (keep : Keep (PublishStage.protocol r) PublishStage.Ends stands u.programs)
    (followed : Followed (PublishStage.protocol r) (calls.map (·.stage)) events stands)
    (inside : ∀ e ∈ events, e.who < calls.length) (length : u.programs.length = calls.length)
    (taken : ∀ p ∈ u.programs, p = .done (.inr (.ok ()))) :
    u.state.sent.Perm (calls.map (fun call => (s.opened, call.payload)) ++ s.sent) := by
  have parts := filterMap_perm_parts PublishExchange.sent? inside
  have each : (List.range calls.length).flatMap
      (fun i => (exchangesOf events i).filterMap PublishExchange.sent?) =
        calls.map fun call => (s.opened, call.payload) := by
    rw [List.map_eq_flatMap, List.flatMap_def, List.flatMap_def]
    refine congrArg List.flatten (List.ext_getElem (by simp) fun i below _ => ?_)
    have here : i < calls.length := by simpa using below
    have here' : i < u.programs.length := length ▸ here
    rw [List.getElem_map, List.getElem_map, List.getElem_range]
    obtain ⟨_, answer, ok, part⟩ := renewed.published keep followed
      (List.getElem?_eq_getElem here) ((List.getElem?_eq_getElem here').trans
        (congrArg some (taken _ (List.getElem_mem here'))))
    cases answer with
    | error => cases ok
    | ok =>
      rw [PublishExchange.filterMap_sent, part]
      rfl
  rw [renewed.sent]
  exact (((List.reverse_perm _).trans parts).trans (.of_eq each)).append_right s.sent

/-- As long as a publish is not over, something more may happen. -/
theorem Renewed.proceeds (renewed : Renewed s events u.state stands)
    (keep : Keep (PublishStage.protocol r) PublishStage.Ends stands u.programs)
    (length : stands.length = u.programs.length) (alive : s.opened ∉ u.state.dead)
    (unfolds : SharedLink.surroundingsWithin.Unfolds Empty.elim (s.publishes r calls) events u)
    (unfinished : ∃ p ∈ u.programs, ∀ result, p ≠ .done (.inr result)) :
    ∃ e v, SharedLink.surroundingsWithin.Unfolds Empty.elim (s.publishes r calls)
      (events ++ [e]) v ∧ e.Favours s.opened ∧ s.opened ∉ v.state.dead := by
  obtain ⟨q, mem, request, ⟨⟨k, asks⟩, answer, step', habit⟩, free⟩ :=
    renewed.exists_ready keep length unfinished
  obtain ⟨i, inside, rfl⟩ := List.getElem_of_mem mem
  obtain ⟨answer', s', allowed, favours⟩ := PublishStep.exists_answer renewed.renewal.renewing
    alive (renewed.renewal.fits i _ (List.getElem?_eq_getElem inside)) habit free
  obtain ⟨state, programs⟩ := u
  obtain ⟨before, after, rfl⟩ := List.append_of_mem asks
  have within : state.AllowsWithin (.inTime request) (some answer') s' := allowed
  have answered : SharedLink.surroundingsWithin.Allows state (.inTime request) (some answer') s' :=
    within
  refine ⟨_, _, unfolds.answer answered, favours, ?_⟩
  have same := (SharedLink.leaves_of_allowed within favours).1
  exact fun dead => alive (same ▸ dead)

/-- Publishes that find the link missing, as many as there are, in any order: no two of them open a
link at a time, and only one does so at all. They all come to an end, each of them then has
published its message once and on that link, and if no message was refused, just theirs were
sent. -/
theorem one_reconnect (r : StatusRoute) (calls : List PublishCall) (vacant : s.Vacant)
    (unfolds : SharedLink.surroundingsWithin.Unfolds Empty.elim (s.publishes r calls) events u)
    (favoured : ∀ e ∈ events, e.Favours s.opened) (alive : s.opened ∉ u.state.dead) :
    (∀ (i j : Nat) p p', u.programs[i]? = some p → u.programs[j]? = some p' →
        Opening r p → Opening r p' → i = j) ∧
      events.countP (·.exchange.request.isConnect) ≤ 1 ∧
      u.state.opened = s.opened + events.countP (·.exchange.request.isConnect) ∧
      events.length ≤ 17 * calls.length ∧
      ((∃ p ∈ u.programs, ∀ result, p ≠ .done (.inr result)) →
        ∃ e v, SharedLink.surroundingsWithin.Unfolds Empty.elim (s.publishes r calls)
          (events ++ [e]) v ∧ e.Favours s.opened ∧ s.opened ∉ v.state.dead) ∧
      (∀ (i : Nat) call result, calls[i]? = some call →
        u.programs[i]? = some (.done (.inr result)) →
          events.countP (·.exchange.request.isConnect) = 1 ∧
            ∃ answer, result = LinkProgram.ofAnswer answer ∧
              (exchangesOf events i).filter (·.request.isPublish) =
                [⟨.inTime (.broker (.publish s.opened r.exchange r.routingKey call.payload)),
                  some answer⟩]) ∧
      ((∀ p ∈ u.programs, p = .done (.inr (.ok ()))) →
        u.state.sent.Perm (calls.map (fun call => (s.opened, call.payload)) ++ s.sent)) := by
  obtain ⟨stands, keep, followed, renewed⟩ := renewed_of_unfolds vacant unfolds favoured alive
  have count : u.programs.length = calls.length := unfolds.length_eq.trans (List.length_map _)
  have standing : stands.length = u.programs.length := by
    rw [followed.1, count, List.length_map]
  have inside : ∀ e ∈ events, e.who < calls.length := fun e mem =>
    Nat.lt_of_lt_of_eq (unfolds.who_lt e mem) (List.length_map _)
  exact ⟨fun i j p p' at_i at_j => renewed.opening_unique keep at_i at_j,
    renewed.connects_le_one, renewed.opened, renewed.length_le followed inside,
    renewed.proceeds keep standing alive unfolds,
    fun i call result at_i ended => renewed.published keep followed at_i ended,
    renewed.sent_perm keep followed inside count⟩

end Results

/-- The link that was opened has died, and was taken out of its place and closed. -/
def withoutLink : SharedLink where
  stored := none
  established := true
  held := []
  opened := 1
  dead := [0]
  closed := [0]
  sent := []

theorem withoutLink_vacant : withoutLink.Vacant := ⟨rfl, rfl, rfl, by decide⟩

def twoStatuses : List PublishCall :=
  [⟨.ofSeconds 5, ⟨"job-1", "user-1", .processing, "", ""⟩⟩,
    ⟨.ofSeconds 5, ⟨"job-2", "user-1", .processing, "", ""⟩⟩]

/-- Both find no link; the first one opens one, and the second one, which has waited for it, finds
that one. -/
def takingTurns : List Nat := [0, 0, 1, 1] ++ List.replicate 14 0 ++ [1, 1, 1, 1, 0]

def TimedProgram.isTaken : TimedProgram (Empty ⊕ Except QueueError Unit) → Bool
  | .done (.inr (.ok _)) => true
  | _ => false

theorem TimedProgram.eq_of_isTaken {p : TimedProgram (Empty ⊕ Except QueueError Unit)}
    (taken : isTaken p = true) : p = .done (.inr (.ok ())) := by
  unfold isTaken at taken
  split at taken
  next => rfl
  next => cases taken

theorem one_reconnect_for_two : ∃ events u,
    SharedLink.surroundingsWithin.Unfolds Empty.elim
      (withoutLink.publishes statuses twoStatuses) events u ∧
    u.state.opened = 2 ∧
    u.state.sent.Perm (twoStatuses.map fun call => (1, call.payload)) := by
  have played : (Surroundings.play SharedLink.answer takingTurns
      (withoutLink.publishes statuses twoStatuses)).any (fun (events, u) =>
        events.all (fun e => e.state.favours 1 e.exchange.request e.exchange.answer) &&
          u.state.opened = 2 && !u.state.dead.contains 1 &&
            u.programs.all TimedProgram.isTaken) = true := by
    decide +kernel
  obtain ⟨⟨events, u⟩, played, shown⟩ := (Option.any_eq_true ..).mp played
  simp only [Bool.and_eq_true, List.all_eq_true, decide_eq_true_eq, Bool.not_eq_true',
    ← Bool.not_eq_true, List.contains_iff_mem] at shown
  obtain ⟨⟨⟨favoured, opened⟩, alive⟩, taken⟩ := shown
  have unfolds : SharedLink.surroundingsWithin.Unfolds Empty.elim
      (withoutLink.publishes statuses twoStatuses) events u :=
    (Surroundings.Unfolds.start _).play
      (fun _ _ _ _ answered => SharedLink.answer_allowed answered) played
  have results := one_reconnect statuses twoStatuses withoutLink_vacant unfolds favoured alive
  refine ⟨events, u, unfolds, opened, ?_⟩
  have sent := results.2.2.2.2.2.2 fun p mem => TimedProgram.eq_of_isTaken (taken p mem)
  rwa [show withoutLink.sent = [] from rfl, List.append_nil] at sent

end ImageWorker

