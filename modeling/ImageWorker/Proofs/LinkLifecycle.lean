import ImageWorker.Proofs.Halting

/-!
# The links of a consumer

A consumer opens one link after the other. When an attempt fails or a link is lost, it closes what
is open, counts a reconnect, pauses, and only then connects again. `LinkPhase` is how far it has
got with that, `AllowsLinks` is what it may do there, and `LinkAccount` says what each phase tells
about the past: which connections are open, how many failures are counted, and why the consumer is
about to end.
-/

namespace ImageWorker

open Surroundings ConsumerProgram ConsumerTrace

def Note.countsReconnect : Note → Bool
  | count (.reconnect _) => true
  | _ => false

namespace LinkRequest

/-- The parts of an attempt that come after its connection. -/
def preparation? : LinkRequest → Option LinkId
  | openChannel link | limitPrefetch link | declareQueue link _ | consume link _ => some link
  | _ => none

def closed? : LinkRequest → Option LinkId
  | close link | closeConnection link => some link
  | _ => none

def isRefused : (r : LinkRequest) → r.Answer → Bool
  | connect _, .error _ | openChannel _, .error _ | limitPrefetch _, .error _
  | declareQueue _ _, .error _ | consume _ _, .error _ => true
  | _, _ => false

end LinkRequest

namespace ConsumerTrace

def brokerExchange? : ConsumerExchange → Option (Program.Exchange LinkRequest LinkRequest.Answer)
  | ⟨.broker r, answer⟩ => some ⟨r, answer⟩
  | ⟨.brokerUnlessStopped r, .finished answer⟩ => some ⟨r, answer⟩
  | _ => none

def withExchange (links : List LinkId) :
    Program.Exchange LinkRequest LinkRequest.Answer → List LinkId
  | ⟨.connect _, .ok link⟩ => link :: links
  | ⟨r, _⟩ =>
    match r.closed? with
    | some link => links.erase link
    | none => links

/-- The connections that were opened and not asked to close. -/
def openLinks (trace : ConsumerTrace) : List LinkId :=
  (trace.filterMap brokerExchange?).foldl withExchange []

def attemptsConnection : ConsumerExchange → Bool
  | ⟨.broker (.connect _), _⟩ | ⟨.brokerUnlessStopped (.connect _), _⟩ => true
  | _ => false

def failsToOpen : ConsumerExchange → Bool
  | ⟨.brokerUnlessStopped r, .finished answer⟩ => r.isRefused answer
  | _ => false

def losesLink : ConsumerExchange → Bool
  | ⟨.next _, .finished none⟩ | ⟨.next _, .finished (some (.error _))⟩ => true
  | ⟨.resolve _, .error _⟩ => true
  | ⟨.broker (.isUsable _), false⟩ => true
  | _ => false

/-- Whether shutdown is seen to have fired. -/
def seesShutdown : ConsumerExchange → Bool
  | ⟨.isStopping, true⟩ => true
  | ⟨.brokerUnlessStopped _, .stopped⟩ | ⟨.next _, .stopped⟩ | ⟨.pause _, .stopped⟩ => true
  | _ => false

/-- Whether shutdown came in the middle of an attempt to open a link. -/
def abandonsAttempt : ConsumerExchange → Bool
  | ⟨.brokerUnlessStopped _, .stopped⟩ => true
  | _ => false

/-- How many reconnects are counted for a queue. -/
def reconnects (queue : String) (trace : ConsumerTrace) : Nat :=
  (Tally.ofMetrics (metrics trace)).count ⟨"imgflow_reconnects_total", [("queue", queue)]⟩

theorem openLinks_concat (trace : ConsumerTrace) (x : ConsumerExchange) :
    openLinks (trace ++ [x]) =
      match brokerExchange? x with
      | some y => withExchange (openLinks trace) y
      | none => openLinks trace := by
  rw [openLinks, List.filterMap_append, List.foldl_append]
  cases h : brokerExchange? x with
  | none => simp [h, openLinks]
  | some y => simp [h, openLinks]

theorem count_reconnectSeries (m : Metric) (queue : String) :
    m.series.count ⟨"imgflow_reconnects_total", [("queue", queue)]⟩ =
      if m = .reconnect queue then 1 else 0 := by
  cases m with
  | cleanup mode clean => cases clean <;> simp [Metric.series]
  | reconnect q => simp [Metric.series, List.count_cons]
  | _ => simp [Metric.series]

theorem reconnects_concat (queue : String) (trace : ConsumerTrace) (x : ConsumerExchange) :
    reconnects queue (trace ++ [x]) =
      reconnects queue trace + if x.request.metric? = some (.reconnect queue) then 1 else 0 := by
  unfold reconnects metrics
  rw [Tally.count_ofMetrics, Tally.count_ofMetrics, List.filterMap_append, List.flatMap_append,
    List.count_append]
  congr 1
  cases h : x.request.metric? with
  | none => simp [h]
  | some m => simp [h, count_reconnectSeries]

end ConsumerTrace

inductive LinkPhase where
  /-- Nothing has failed since the last pause; the link is the connection that is open. -/
  | sound (held : Option LinkId)
  /-- The outcome of a delivery is known. -/
  | judged (link : LinkId) (d : Delivery) (outcome : Outcome)
  /-- A failure is not counted yet, and asks for a pause. -/
  | broken (held : Option LinkId) (pause : Duration)
  /-- The failure is counted. -/
  | due (pause : Duration)
  | ending (held : Option LinkId) (how : ConsumerEnd)
  /-- Shutdown came in the middle of an attempt, when this was the phase. -/
  | abandoned (before : LinkPhase)

namespace LinkPhase

def held : LinkPhase → Option LinkId
  | sound held | broken held _ | ending held _ => held
  | judged link _ _ => some link
  | due _ => none
  | abandoned before => before.held

def uncounted : LinkPhase → Nat
  | broken _ _ => 1
  | abandoned before => before.uncounted
  | _ => 0

def isOver : LinkPhase → Bool
  | abandoned _ => true
  | _ => false

end LinkPhase

namespace Consumer

variable {c : Consumer}

/-- What may be asked in an attempt to open a link. -/
inductive AllowsAttempt (c : Consumer) : LinkPhase → (r : LinkRequest) → r.Answer → LinkPhase → Prop
  where
  | connects {label : String} {link : LinkId} :
      AllowsAttempt c (.sound none) (.connect label) (.ok link) (.sound (some link))
  | refused {label : String} {e : LinkError} :
      AllowsAttempt c (.sound none) (.connect label) (.error e)
        (.broken none c.settings.reconnectDelay)
  | prepares {link : LinkId} {r : LinkRequest} {answer : r.Answer} :
      r.preparation? = some link → r.isRefused answer = false →
        AllowsAttempt c (.sound (some link)) r answer (.sound (some link))
  | fails {link : LinkId} {r : LinkRequest} {answer : r.Answer} :
      r.preparation? = some link → r.isRefused answer = true →
        AllowsAttempt c (.sound (some link)) r answer
          (.broken (some link) c.settings.reconnectDelay)
  | closes {link : LinkId} {pause : Duration} {r : LinkRequest} {answer : r.Answer} :
      r.closed? = some link →
        AllowsAttempt c (.broken (some link) pause) r answer (.broken none pause)
  | notes {s : LinkPhase} {n : Note} :
      s.isOver = false → n.countsReconnect = false → AllowsAttempt c s (.note n) () s

def attempting (c : Consumer) : Surroundings LinkRequest LinkRequest.Answer LinkPhase where
  Allows := AllowsAttempt c
  Drifts before after := after = before

inductive AllowsLinks (c : Consumer) :
    LinkPhase → (r : ConsumerRequest) → r.Answer → LinkPhase → Prop where
  | looks : AllowsLinks c (.sound none) .isStopping false (.sound none)
  | quits : AllowsLinks c (.sound none) .isStopping true (.ending none .stopped)
  | attempts {s s' : LinkPhase} {r : LinkRequest} {answer : r.Answer} :
      AllowsAttempt c s r answer s' →
        AllowsLinks c s (.brokerUnlessStopped r) (.finished answer) s'
  | abandons {s s' : LinkPhase} {r : LinkRequest} {answer : r.Answer} :
      AllowsAttempt c s r answer s' →
        AllowsLinks c s (.brokerUnlessStopped r) .stopped (.abandoned s)
  | notes {s : LinkPhase} {n : Note} :
      s.isOver = false → n.countsReconnect = false → AllowsLinks c s (.broker (.note n)) () s
  | takes {link : LinkId} {d : Delivery} :
      AllowsLinks c (.sound (some link)) (.next link) (.finished (some (.ok d)))
        (.sound (some link))
  | stops {link : LinkId} :
      AllowsLinks c (.sound (some link)) (.next link) .stopped (.ending (some link) .stopped)
  | processes {link : LinkId} {d : Delivery} {outcome : Outcome} :
      AllowsLinks c (.sound (some link)) (.process d.body) outcome (.judged link d outcome)
  | resolves {link : LinkId} {d : Delivery} {outcome : Outcome} :
      (c.decision outcome).halts = false →
        AllowsLinks c (.judged link d outcome) (.resolve (d.settle (c.decision outcome))) (.ok ())
          (.sound (some link))
  | halts {link : LinkId} {d : Delivery} {outcome : Outcome} :
      (c.decision outcome).halts = true →
        AllowsLinks c (.judged link d outcome) (.resolve (d.settle (c.decision outcome))) (.ok ())
          (.ending (some link) .halted)
  | unresolved {link : LinkId} {d : Delivery} {outcome : Outcome} {e : LinkError} :
      AllowsLinks c (.judged link d outcome) (.resolve (d.settle (c.decision outcome))) (.error e)
        (.broken (some link) c.settings.channelClosedPause)
  | goesOn {link : LinkId} :
      AllowsLinks c (.sound (some link)) (.broker (.isUsable link)) true (.sound (some link))
  | loses {link : LinkId} {r : ConsumerRequest} {answer : r.Answer} :
      r = .next link ∨ r = .broker (.isUsable link) → losesLink ⟨r, answer⟩ = true →
        AllowsLinks c (.sound (some link)) r answer
          (.broken (some link) c.settings.channelClosedPause)
  | leaves {link : LinkId} {pause : Duration} :
      AllowsLinks c (.broken (some link) pause) (.broker (.close link)) () (.broken none pause)
  | parts {link : LinkId} {how : ConsumerEnd} :
      AllowsLinks c (.ending (some link) how) (.broker (.close link)) () (.ending none how)
  | counts {pause : Duration} :
      AllowsLinks c (.broken none pause) (.broker (.note (.count (.reconnect c.queue)))) ()
        (.due pause)
  | pauses {pause : Duration} :
      AllowsLinks c (.due pause) (.pause pause) (.finished ()) (.sound none)
  | breaksOff {pause : Duration} :
      AllowsLinks c (.due pause) (.pause pause) .stopped (.ending none .stopped)

def linkProtocol (c : Consumer) :
    Surroundings ConsumerRequest ConsumerRequest.Answer LinkPhase where
  Allows := AllowsLinks c
  Drifts before after := after = before

/-- The phase in which an attempt to open a link is over. -/
def afterAttempt (c : Consumer) : Except QueueError LinkId → LinkPhase
  | .ok link => .sound (some link)
  | .error _ => .broken none c.settings.reconnectDelay

theorem openLink_attempt (label : String) :
    c.attempting.Conforms (fun s result => s = c.afterAttempt result) (.sound none)
      (LinkProgram.openLink label) := by
  rintro (e | link)
  · exact ⟨_, .refused, rfl⟩
  refine ⟨_, .connects, ?_⟩
  rintro (e | ⟨⟩)
  · refine ⟨_, .fails rfl rfl, ?_⟩
    rintro (why | ⟨⟩)
    · exact ⟨_, .closes rfl, fun _ => ⟨_, .notes rfl rfl, rfl⟩⟩
    · exact ⟨_, .closes rfl, rfl⟩
  · exact ⟨_, .prepares rfl rfl, rfl⟩

theorem startConsumer_attempt (link : LinkId) (queue : String) :
    c.attempting.Conforms
      (fun s started => s =
        if started.isOk then .sound (some link) else .broken (some link) c.settings.reconnectDelay)
      (.sound (some link)) (LinkProgram.startConsumer link queue) := by
  rintro (e | ⟨⟩)
  · exact ⟨_, .fails rfl rfl, rfl⟩
  refine ⟨_, .prepares rfl rfl, ?_⟩
  rintro (e | ⟨⟩)
  · exact ⟨_, .fails rfl rfl, rfl⟩
  refine ⟨_, .prepares rfl rfl, ?_⟩
  rintro (e | tag)
  · exact ⟨_, .fails rfl rfl, rfl⟩
  · exact ⟨_, .prepares rfl rfl, rfl⟩

theorem openConsumer_attempt (queue label : String) :
    c.attempting.Conforms (fun s result => s = c.afterAttempt result) (.sound none)
      (LinkProgram.openConsumer queue label) := by
  refine (openLink_attempt label).bind ?_
  rintro _ (e | link) rfl
  · rfl
  refine (startConsumer_attempt link queue).bind ?_
  rintro _ (e | tag) rfl
  · exact fun _ => ⟨_, .closes rfl, rfl⟩
  · exact fun _ => ⟨_, .notes rfl rfl, rfl⟩

def StandsLinked (s : LinkPhase) : ConsumerState ⊕ ConsumerEnd → Prop
  | .inl (.apart _) => s = .sound none
  | .inl (.linked _ link) => s = .sound (some link)
  | .inr how => s = .ending none how ∨ how = .stopped ∧ s.isOver = true

theorem unlessStopped_links {α : Type} {ends : LinkPhase → α → Prop} {s : LinkPhase}
    {p : LinkProgram α} (conforms : c.attempting.Conforms ends s p) :
    c.linkProtocol.Conforms
      (fun s r => r = .stopped ∧ s.isOver = true ∨ ∃ a, r = .finished a ∧ ends s a)
      s (unlessStopped p) := by
  induction p generalizing s with
  | done a => exact .inr ⟨a, rfl, conforms⟩
  | ask r k ih =>
    rw [unlessStopped]
    rintro (answer | _)
    · obtain ⟨s', allowed, rest⟩ := conforms answer
      exact ⟨s', .attempts allowed, ih answer rest⟩
    · -- Whatever the broker would have answered, asking it was allowed.
      obtain ⟨_, allowed, _⟩ := conforms r.granted
      exact ⟨_, .abandons allowed, .inl ⟨rfl, rfl⟩⟩

theorem leave_links {s : LinkPhase} {ns : List Note} (going : s.isOver = false)
    (plain : ∀ n ∈ ns, n.countsReconnect = false) :
    c.linkProtocol.Conforms (fun s' _ => s' = s) s (leave ns) := by
  induction ns with
  | nil => rfl
  | cons n ns ih =>
    rw [List.forall_mem_cons] at plain
    exact fun _ => ⟨s, .notes going plain.1, ih plain.2⟩

/-- Notes of which the last one counts the failure, and the pause after them. -/
theorem countThenPause_links {pause : Duration} {ns : List Note} (failures : FailureStreak)
    (plain : ∀ n ∈ ns, n.countsReconnect = false) :
    c.linkProtocol.Conforms StandsLinked (.broken none pause)
      ((leave (ns ++ [.count (.reconnect c.queue)])).bind fun _ =>
        pauseThen pause (.apart failures)) := by
  induction ns with
  | nil =>
    refine fun _ => ⟨_, .counts, ?_⟩
    rintro (⟨⟩ | _)
    · exact ⟨_, .pauses, rfl⟩
    · exact ⟨_, .breaksOff, .inl rfl⟩
  | cons n ns ih =>
    rw [List.forall_mem_cons] at plain
    exact fun _ => ⟨_, .notes rfl plain.1, ih plain.2⟩

theorem countsReconnect_of_log {lines : List LogLine} :
    ∀ n ∈ lines.map Note.log, n.countsReconnect = false := by
  intro n mem
  obtain ⟨line, _, rfl⟩ := List.mem_map.mp mem
  rfl

theorem connect_links (failures : FailureStreak) :
    c.linkProtocol.Conforms StandsLinked (.sound none) (c.connect failures) := by
  rintro (_ | _)
  · refine ⟨_, .looks, (unlessStopped_links (openConsumer_attempt c.queue c.label)).bind ?_⟩
    rintro s _ (⟨rfl, finished⟩ | ⟨result, rfl, rfl⟩)
    · exact .inr ⟨rfl, finished⟩
    cases result with
    | ok link => exact (leave_links rfl countsReconnect_of_log).bind fun s _ same => same
    | error e =>
      have plain : ∀ n ∈ failures.failure.2.2.map Note.log ++
          (if failures.failure.2.1 then [.log (c.setupFailed e)] else []),
          n.countsReconnect = false := by
        intro n mem
        rcases List.mem_append.mp mem with mem | mem
        · exact countsReconnect_of_log n mem
        · split at mem
          · obtain rfl := List.mem_singleton.mp mem
            rfl
          · cases mem
      exact countThenPause_links _ plain
  · exact ⟨_, .quits, .inl rfl⟩

theorem lose_links (failures : FailureStreak) (link : LinkId) :
    c.linkProtocol.Conforms StandsLinked (.broken (some link) c.settings.channelClosedPause)
      (c.lose failures link) :=
  fun _ => ⟨_, .leaves, countThenPause_links failures (List.forall_mem_nil _)⟩

theorem loseWith_links (failures : FailureStreak) (link : LinkId) (text : String) :
    c.linkProtocol.Conforms StandsLinked (.broken (some link) c.settings.channelClosedPause)
      (c.loseWith failures link text) :=
  fun _ => ⟨_, .notes rfl rfl, lose_links failures link⟩

theorem countsReconnect_of_outcomeNotes (outcome : Outcome) (d : Decision) :
    ∀ n ∈ c.outcomeNotes outcome d, n.countsReconnect = false := by
  unfold outcomeNotes
  split
  · simp
  · split <;> simp [Note.countsReconnect]

theorem handle_links (failures : FailureStreak) (link : LinkId) (d : Delivery) :
    c.linkProtocol.Conforms StandsLinked (.sound (some link)) (c.handle failures link d) := by
  intro (outcome : Outcome)
  refine ⟨_, .processes, (leave_links rfl (countsReconnect_of_outcomeNotes outcome _)).bind ?_⟩
  rintro s ⟨⟩ rfl (e | ⟨⟩)
  · exact ⟨_, .unresolved, loseWith_links failures link _⟩
  cases halts : (c.decision outcome).halts with
  | true =>
    refine ⟨_, .halts halts, fun _ => ⟨_, .notes rfl rfl, ?_⟩⟩
    change c.linkProtocol.Conforms _ _ (if (c.decision outcome).halts then _ else _)
    rw [if_pos halts]
    exact fun _ => ⟨_, .parts, fun _ => ⟨_, .notes rfl rfl, .inl rfl⟩⟩
  | false =>
    refine ⟨_, .resolves halts, fun _ => ⟨_, .notes rfl rfl, ?_⟩⟩
    change c.linkProtocol.Conforms _ _ (if (c.decision outcome).halts then _ else _)
    rw [if_neg (Bool.eq_false_iff.mp halts)]
    rintro (_ | _)
    · exact ⟨_, .loses (.inr rfl) rfl, lose_links failures link⟩
    · exact ⟨_, .goesOn, rfl⟩

theorem consume_links (failures : FailureStreak) (link : LinkId) :
    c.linkProtocol.Conforms StandsLinked (.sound (some link)) (c.consume failures link) := by
  rintro ((_ | e | d) | _)
  · exact ⟨_, .loses (.inl rfl) rfl, loseWith_links failures link _⟩
  · exact ⟨_, .loses (.inl rfl) rfl, loseWith_links failures link _⟩
  · exact ⟨_, .takes, handle_links failures link d⟩
  · exact ⟨_, .stops, fun _ => ⟨_, .parts, .inl rfl⟩⟩

/-- No turn of a consumer leaves the protocol. -/
theorem turns_keep_links (s : LinkPhase) (x : ConsumerState) (stands : StandsLinked s (.inl x)) :
    c.linkProtocol.Conforms StandsLinked s (c.turn x) := by
  cases x with
  | apart failures =>
    obtain rfl := stands
    exact connect_links failures
  | linked failures link =>
    obtain rfl := stands
    exact consume_links failures link

theorem follows_links {trace : ConsumerTrace} {q : ConsumerProgram (ConsumerState ⊕ ConsumerEnd)}
    (reached : c.turn.Reaches start trace q) :
    ∃ s, c.linkProtocol.Follows (.sound none) trace s ∧
      c.linkProtocol.Conforms StandsLinked s q := by
  have stands : StandsLinked (.sound none) (.inl start) := rfl
  exact follows_of_turns turns_keep_links stands reached

/-- Whether a decision to halt was carried out. -/
def HaltResolved (c : Consumer) (trace : ConsumerTrace) : Prop :=
  ∃ (d : Delivery) (outcome : Outcome), (c.decision outcome).halts = true ∧
    ⟨.process d.body, outcome⟩ ∈ trace ∧
      ⟨.resolve (d.settle (c.decision outcome)), .ok ()⟩ ∈ trace

def Reason (c : Consumer) (trace : ConsumerTrace) : LinkPhase → Prop
  | .judged _ d outcome => ⟨.process d.body, outcome⟩ ∈ trace
  | .ending _ .stopped => ∃ x ∈ trace, seesShutdown x = true
  | .ending _ .halted => c.HaltResolved trace
  | .abandoned _ => ∃ before x, trace = before ++ [x] ∧ abandonsAttempt x = true
  | _ => True

structure LinkAccount (c : Consumer) (trace : ConsumerTrace) (s : LinkPhase) : Prop where
  links : openLinks trace = s.held.toList
  counted : reconnects c.queue trace + s.uncounted =
    trace.countP failsToOpen + trace.countP losesLink
  reason : c.Reason trace s

theorem AllowsAttempt.links {s s' : LinkPhase} {r : LinkRequest} {answer : r.Answer}
    (allowed : AllowsAttempt c s r answer s') :
    withExchange s.held.toList ⟨r, answer⟩ = s'.held.toList := by
  cases allowed with
  | connects | refused | notes => rfl
  | prepares part | fails part =>
    cases r with
    | openChannel | limitPrefetch | declareQueue | consume => rfl
    | _ => cases part
  | closes part =>
    cases r with
    | close | closeConnection =>
      obtain rfl := Option.some.inj part
      simp [withExchange, LinkRequest.closed?, LinkPhase.held]
    | _ => cases part

theorem metric_of_plain {n : Note} (plain : n.countsReconnect = false) :
    (ConsumerRequest.broker (.note n)).metric? ≠ some (.reconnect c.queue) ∧
      (ConsumerRequest.brokerUnlessStopped (.note n)).metric? ≠ some (.reconnect c.queue) := by
  cases n with
  | log => exact ⟨nofun, nofun⟩
  | count m =>
    have other : some m ≠ some (.reconnect c.queue) := by
      intro counts
      obtain rfl := Option.some.inj counts
      cases plain
    exact ⟨other, other⟩

theorem AllowsAttempt.counted {s s' : LinkPhase} {r : LinkRequest} {answer : r.Answer}
    (allowed : AllowsAttempt c s r answer s') :
    s'.uncounted = s.uncounted + (if r.isRefused answer then 1 else 0) ∧
      (ConsumerRequest.brokerUnlessStopped r).metric? ≠ some (.reconnect c.queue) := by
  cases allowed with
  | connects | refused => exact ⟨rfl, nofun⟩
  | prepares part sound =>
    refine ⟨by simp [sound], ?_⟩
    cases r with
    | note => cases part
    | _ => exact nofun
  | fails part refused =>
    refine ⟨by simp [refused, LinkPhase.uncounted], ?_⟩
    cases r with
    | note => cases part
    | _ => exact nofun
  | closes part =>
    cases r with
    | close | closeConnection => exact ⟨rfl, nofun⟩
    | _ => cases part
  | notes _ plain => exact ⟨rfl, (metric_of_plain plain).2⟩

theorem AllowsLinks.links {s s' : LinkPhase} {r : ConsumerRequest} {answer : r.Answer}
    {trace : ConsumerTrace} (allowed : AllowsLinks c s r answer s')
    (links : openLinks trace = s.held.toList) :
    openLinks (trace ++ [⟨r, answer⟩]) = s'.held.toList := by
  rw [openLinks_concat]
  cases allowed with
  | attempts allowed =>
    have moved := allowed.links
    rw [← links] at moved
    exact moved
  | leaves | parts =>
    simp [brokerExchange?, withExchange, LinkRequest.closed?, links, LinkPhase.held]
  | loses asked lost =>
    rcases asked with rfl | rfl
    · exact links
    · exact links
  | _ => exact links

/-- An exchange counts a reconnect or brings a failure just as far as the phases say. -/
theorem AllowsLinks.balance {s s' : LinkPhase} {r : ConsumerRequest} {answer : r.Answer}
    (allowed : AllowsLinks c s r answer s') :
    (if r.metric? = some (.reconnect c.queue) then 1 else 0) + s'.uncounted =
      s.uncounted + (if failsToOpen ⟨r, answer⟩ then 1 else 0) +
        (if losesLink ⟨r, answer⟩ then 1 else 0) := by
  cases allowed with
  | attempts allowed =>
    obtain ⟨moved, uncounted⟩ := allowed.counted
    rw [if_neg uncounted, moved, Nat.zero_add]
    rfl
  | abandons allowed =>
    rw [if_neg allowed.counted.2]
    simp [failsToOpen, losesLink, LinkPhase.uncounted]
  | notes _ plain =>
    rw [if_neg (metric_of_plain plain).1]
    simp [failsToOpen, losesLink]
  | loses asked lost =>
    rcases asked with rfl | rfl
    · simp [ConsumerRequest.metric?, failsToOpen, lost, LinkPhase.uncounted]
    · simp [ConsumerRequest.metric?, failsToOpen, lost, LinkPhase.uncounted]
  | counts => simp [ConsumerRequest.metric?, failsToOpen, losesLink, LinkPhase.uncounted]
  | _ => rfl

/-- A reason stays one, unless nothing at all may follow. -/
theorem Reason.later {s : LinkPhase} {trace : ConsumerTrace} (reason : c.Reason trace s)
    (going : s.isOver = false) (x : ConsumerExchange) : c.Reason (trace ++ [x]) s := by
  match s, reason with
  | .judged link d outcome, reason => exact List.mem_append_left _ reason
  | .ending held .stopped, ⟨y, mem, sees⟩ => exact ⟨y, List.mem_append_left _ mem, sees⟩
  | .ending held .halted, ⟨d, outcome, halts, processed, resolved⟩ =>
    exact ⟨d, outcome, halts, List.mem_append_left _ processed, List.mem_append_left _ resolved⟩
  | .abandoned before, _ => cases going
  | .sound held, _ | .broken held pause, _ | .due pause, _ => trivial

theorem AllowsLinks.reason {s s' : LinkPhase} {r : ConsumerRequest} {answer : r.Answer}
    {trace : ConsumerTrace} (allowed : AllowsLinks c s r answer s') (reason : c.Reason trace s) :
    c.Reason (trace ++ [⟨r, answer⟩]) s' := by
  have last : ⟨r, answer⟩ ∈ trace ++ [⟨r, answer⟩] := List.mem_append_right _ (.head _)
  cases allowed with
  | quits | stops | breaksOff => exact ⟨_, last, rfl⟩
  | processes => exact last
  | @halts link d outcome halts => exact ⟨d, outcome, halts, List.mem_append_left _ reason, last⟩
  | abandons => exact ⟨trace, _, rfl, rfl⟩
  | attempts allowed =>
    cases allowed with
    | notes going => exact reason.later going _
    | _ => trivial
  | notes going => exact reason.later going _
  | @parts link how =>
    have before : c.Reason trace (.ending none how) := by cases how <;> exact reason
    exact before.later rfl _
  | _ => trivial

theorem AllowsLinks.account {s s' : LinkPhase} {r : ConsumerRequest} {answer : r.Answer}
    {trace : ConsumerTrace} (account : LinkAccount c trace s)
    (allowed : AllowsLinks c s r answer s') : LinkAccount c (trace ++ [⟨r, answer⟩]) s' where
  links := allowed.links account.links
  counted := by
    have balance := allowed.balance
    have before := account.counted
    have after := reconnects_concat c.queue trace ⟨r, answer⟩
    rw [after, List.countP_append, List.countP_append, List.countP_singleton,
      List.countP_singleton]
    dsimp only
    omega
  reason := allowed.reason account.reason

theorem LinkAccount.of_follows {s : LinkPhase} {trace : ConsumerTrace}
    (follows : c.linkProtocol.Follows (.sound none) trace s) : LinkAccount c trace s := by
  have nothing : LinkAccount c [] (.sound none) := ⟨rfl, rfl, trivial⟩
  exact follows.history AllowsLinks.account nothing

/-- Nothing but an attempt that is abandoned ends a consumer at once. -/
theorem LinkAccount.isOver {s : LinkPhase} {trace : ConsumerTrace} (account : LinkAccount c trace s)
    (unbroken : ∀ x ∈ trace, abandonsAttempt x = false) : s.isOver = false := by
  cases s with
  | abandoned before =>
    obtain ⟨earlier, x, rfl, abandons⟩ := account.reason
    have mem : x ∈ earlier ++ [x] := List.mem_append_right _ (.head _)
    exact absurd abandons (Bool.eq_false_iff.mp (unbroken x mem))
  | _ => rfl

theorem seesShutdown_of_abandons {x : ConsumerExchange} (abandons : abandonsAttempt x = true) :
    seesShutdown x = true := by
  unfold abandonsAttempt at abandons
  split at abandons
  · rfl
  · cases abandons

theorem LinkAccount.stopped {s : LinkPhase} {trace : ConsumerTrace}
    (account : LinkAccount c trace s) (stands : StandsLinked s (.inr .stopped)) :
    ∃ x ∈ trace, seesShutdown x = true := by
  have reason := account.reason
  rcases stands with rfl | ⟨_, finished⟩
  · exact reason
  · cases s with
    | abandoned before =>
      obtain ⟨earlier, x, rfl, abandons⟩ := reason
      exact ⟨x, List.mem_append_right _ (.head _), seesShutdown_of_abandons abandons⟩
    | _ => cases finished

/-- Whether nothing is connected before a pause, if at all. -/
def Owes (pause : Duration) : LinkPhase → Prop
  | .broken _ due | .due due => due = pause
  | .ending _ _ | .abandoned _ => True
  | .sound _ | .judged _ _ _ => False

theorem AllowsLinks.owes {s s' : LinkPhase} {r : ConsumerRequest} {answer : r.Answer}
    (allowed : AllowsLinks c s r answer s') :
    (failsToOpen ⟨r, answer⟩ = true → Owes c.settings.reconnectDelay s') ∧
      (losesLink ⟨r, answer⟩ = true → Owes c.settings.channelClosedPause s') := by
  cases allowed with
  | attempts allowed =>
    refine ⟨fun (refused : LinkRequest.isRefused _ _ = true) => ?_,
      fun lost => (Bool.false_ne_true lost).elim⟩
    have moved := allowed.counted.1
    cases allowed with
    | refused | fails => rfl
    | connects | notes => exact (Bool.false_ne_true refused).elim
    | prepares _ sound => exact (Bool.false_ne_true (sound.symm.trans refused)).elim
    | closes => simp [LinkPhase.uncounted, refused] at moved
  | unresolved => exact ⟨nofun, fun _ => rfl⟩
  | loses asked =>
    refine ⟨fun fails => ?_, fun _ => rfl⟩
    rcases asked with rfl | rfl
    · exact (Bool.false_ne_true fails).elim
    · exact (Bool.false_ne_true fails).elim
  | _ => exact ⟨nofun, nofun⟩

theorem Owes.attempt {pause : Duration} {s s' : LinkPhase} {r : LinkRequest} {answer : r.Answer}
    (owes : Owes pause s) (allowed : AllowsAttempt c s r answer s') :
    Owes pause s' ∧ ∀ label, r ≠ .connect label := by
  cases allowed with
  | connects | refused | prepares | fails => exact owes.elim
  | closes part =>
    refine ⟨owes, ?_⟩
    rintro label rfl
    cases part
  | notes => exact ⟨owes, nofun⟩

theorem Owes.step {pause : Duration} {s s' : LinkPhase} {r : ConsumerRequest} {answer : r.Answer}
    (owes : Owes pause s) (allowed : AllowsLinks c s r answer s')
    (unpaused : (⟨r, answer⟩ : ConsumerExchange) ≠ ⟨.pause pause, .finished ()⟩) :
    Owes pause s' ∧ attemptsConnection ⟨r, answer⟩ = false := by
  cases allowed with
  | @attempts _ _ r answer allowed =>
    obtain ⟨still, other⟩ := owes.attempt allowed
    refine ⟨still, ?_⟩
    cases r with
    | connect label => exact absurd rfl (other label)
    | _ => rfl
  | @abandons _ _ r answer allowed =>
    obtain ⟨_, other⟩ := owes.attempt allowed
    refine ⟨trivial, ?_⟩
    cases r with
    | connect label => exact absurd rfl (other label)
    | _ => rfl
  | notes | leaves | parts | counts => exact ⟨owes, rfl⟩
  | breaksOff => exact ⟨trivial, rfl⟩
  | pauses =>
    obtain rfl : _ = pause := owes
    exact absurd rfl unpaused
  | _ => exact owes.elim

/-- Before anything is connected after a failure, its pause is over. -/
theorem Owes.paused {pause : Duration} {s s' : LinkPhase} {between after : ConsumerTrace}
    {y : ConsumerExchange} (owes : Owes pause s)
    (follows : c.linkProtocol.Follows s (between ++ y :: after) s')
    (attempts : attemptsConnection y = true) :
    ⟨.pause pause, .finished ()⟩ ∈ between := by
  refine Classical.byContradiction fun unpaused => ?_
  obtain ⟨s₁, earlier, later⟩ := follows_append_iff.mp follows
  have harmless : ∀ x ∈ between, x ≠ (⟨.pause pause, .finished ()⟩ : ConsumerExchange) :=
    fun x mem same => unpaused (same ▸ mem)
  have kept : Owes pause s₁ ∧ ∀ x ∈ between, attemptsConnection x = false :=
    earlier.invariant (fun owes => owes.step) owes harmless
  obtain ⟨r, answer⟩ := y
  cases later with
  | step allowed _ =>
    have other : (⟨r, answer⟩ : ConsumerExchange) ≠ ⟨.pause pause, .finished ()⟩ := by
      intro same
      rw [same] at attempts
      cases attempts
    exact absurd attempts (Bool.eq_false_iff.mp (kept.1.step allowed other).2)

/-- Nothing is connected while a connection is open, or after a failure before its pause. -/
theorem AllowsLinks.unlinked {s s' : LinkPhase} {r : ConsumerRequest} {answer : r.Answer}
    (allowed : AllowsLinks c s r answer s') (attempts : attemptsConnection ⟨r, answer⟩ = true) :
    s = .sound none := by
  have unlinked {s s' : LinkPhase} {label : String} {answer : Except LinkError LinkId}
      (allowed : AllowsAttempt c s (.connect label) answer s') : s = .sound none := by
    cases allowed with
    | connects | refused => rfl
    | prepares part | fails part | closes part => cases part
  cases allowed with
  | @attempts _ _ r _ allowed | @abandons _ _ r _ allowed =>
    cases r with
    | connect => exact unlinked allowed
    | _ => cases attempts
  | loses asked => rcases asked with rfl | rfl <;> cases attempts
  | _ => cases attempts

/-- Where a consumer stands between two turns, all failures are counted. -/
theorem StandsLinked.counted {s : LinkPhase} {r : ConsumerState ⊕ ConsumerEnd}
    (stands : StandsLinked s r) (going : s.isOver = false) :
    s.uncounted = 0 ∧ ∀ how, r = .inr how → s = .ending none how := by
  match r, stands with
  | .inl (.apart _), stands | .inl (.linked _ _), stands =>
    obtain rfl := stands
    exact ⟨rfl, nofun⟩
  | .inr how, .inl stands =>
    obtain rfl := stands
    refine ⟨rfl, ?_⟩
    rintro _ ⟨⟩
    rfl
  | .inr how, .inr ⟨_, finished⟩ => exact absurd finished (Bool.eq_false_iff.mp going)

/-- A consumer has one connection at most, and connects only when it has none: whatever was opened
has been closed by then, and after a failure the pause is over. Every failure is counted once, and
the consumer ends only when shutdown has fired or a decision to halt has been carried out. -/
theorem one_link_at_a_time (c : Consumer) {trace : ConsumerTrace}
    {q : ConsumerProgram (ConsumerState ⊕ ConsumerEnd)} (reached : c.turn.Reaches start trace q) :
    (∀ before after, trace = before ++ after → (openLinks before).length ≤ 1) ∧
    (∀ before x after, trace = before ++ x :: after → attemptsConnection x = true →
      openLinks before = []) ∧
    (∀ before x between y after, trace = before ++ x :: (between ++ y :: after) →
      attemptsConnection y = true →
        (failsToOpen x = true → ⟨.pause c.settings.reconnectDelay, .finished ()⟩ ∈ between) ∧
        (losesLink x = true → ⟨.pause c.settings.channelClosedPause, .finished ()⟩ ∈ between)) ∧
    (∀ r, q = .done r → (∀ x ∈ trace, abandonsAttempt x = false) →
      reconnects c.queue trace = trace.countP failsToOpen + trace.countP losesLink ∧
        ∀ how, r = .inr how → openLinks trace = []) ∧
    (q = .done (.inr .stopped) → ∃ x ∈ trace, seesShutdown x = true) ∧
    (q = .done (.inr .halted) → c.HaltResolved trace) := by
  obtain ⟨s, follows, rest⟩ := follows_links reached
  have account := LinkAccount.of_follows follows
  refine ⟨?_, ?_, ?_, ?_, ?_, ?_⟩
  · rintro before after rfl
    obtain ⟨s₁, earlier, _⟩ := follows_append_iff.mp follows
    rw [(LinkAccount.of_follows earlier).links]
    cases s₁.held with
    | none => exact Nat.zero_le 1
    | some link => exact Nat.le_refl 1
  · rintro before ⟨r, answer⟩ after rfl attempts
    obtain ⟨s₁, earlier, later⟩ := follows_append_iff.mp follows
    rw [(LinkAccount.of_follows earlier).links]
    cases later with
    | step allowed _ =>
      rw [allowed.unlinked attempts]
      rfl
  · rintro before ⟨r, answer⟩ between y after rfl attempts
    obtain ⟨s₁, _, later⟩ := follows_append_iff.mp follows
    cases later with
    | step allowed onwards =>
      obtain ⟨failed, lost⟩ := allowed.owes
      exact ⟨fun fails => (failed fails).paused onwards attempts,
        fun loses => (lost loses).paused onwards attempts⟩
  · rintro r rfl unbroken
    have going : s.isOver = false := account.isOver unbroken
    obtain ⟨none_left, ended⟩ := StandsLinked.counted rest going
    have counted := account.counted
    rw [none_left, Nat.add_zero] at counted
    refine ⟨counted, ?_⟩
    rintro how ends
    rw [account.links, ended how ends]
    rfl
  · rintro rfl
    exact account.stopped rest
  · rintro rfl
    have reason := account.reason
    obtain rfl : s = .ending none .halted := rest.resolve_right nofun
    exact reason

/-- The answers of a broker that refuses every consumer, where shutdown does not come. -/
def refuseConsumers : (r : ConsumerRequest) → r.Answer
  | .brokerUnlessStopped (.consume _ _) => .finished (.error .missingHeartbeat)
  | r => deliver [] (.error .cancelled) (.ok ()) r

def refusedTurn : ConsumerTrace × Unit × (ConsumerState ⊕ ConsumerEnd) :=
  (cautious.turn start).replies (fun _ r => (refuseConsumers r, ())) ()

/-- This turn, and the beginning of another one when shutdown has fired. -/
def refusedTrace : ConsumerTrace := refusedTurn.1 ++ [⟨.isStopping, true⟩]

theorem refusedTrace_reached :
    cautious.turn.Reaches start refusedTrace (.done (.inr .stopped)) := by
  let apart : ConsumerState := .apart (FailureStreak.ofLimit loudAttempts).failure.1
  have left_apart : refusedTurn.2.2 = .inl apart := by decide +kernel
  have refused : (cautious.turn start).Runs refusedTurn.1 refusedTurn.2.2 :=
    Program.runs_replies _ _ _
  rw [left_apart] at refused
  have stopped : cautious.turn.Reaches apart [⟨.isStopping, true⟩] (.done (.inr .stopped)) :=
    .inside (.ask (.start _))
  exact .again refused stopped

theorem one_link_at_a_time_of_refused :
    openLinks refusedTrace = [] ∧ reconnects "jobs" refusedTrace = 1 ∧
      ∃ x ∈ refusedTrace, seesShutdown x = true := by
  have reached := refusedTrace_reached
  obtain ⟨_, _, _, complete, stopped, _⟩ := one_link_at_a_time cautious reached
  have unbroken : ∀ x ∈ refusedTrace, abandonsAttempt x = false := by decide +kernel
  obtain ⟨counted, closed⟩ := complete _ rfl unbroken
  refine ⟨closed _ rfl, counted.trans ?_, stopped rfl⟩
  decide +kernel

end Consumer

end ImageWorker
