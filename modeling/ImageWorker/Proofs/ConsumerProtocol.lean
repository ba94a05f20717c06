import ImageWorker.Pool.Consumer
import ImageWorker.Proofs.Conformance

/-!
# The protocol of a consumer

A consumer opens a link, takes a delivery from it, hands it to the pipeline, settles it, counts the
resolution, and only then looks whether it goes on with the link. `Stance` is how far it has got,
`Consumer.Allows` is what it may do there, and `Consumer.turns_conform` says that no turn of a
consumer does anything else, whatever it is answered.
-/

namespace ImageWorker

open Surroundings ConsumerProgram

abbrev ConsumerExchange := Program.Exchange ConsumerRequest ConsumerRequest.Answer

abbrev ConsumerTrace := List ConsumerExchange

def Note.countsDelivery : Note → Bool
  | count (.delivery _ _) => true
  | _ => false

def LinkRequest.granted : (r : LinkRequest) → r.Answer
  | connect _ => .ok 0
  | openChannel _ | closeConnection _ | declareExchange _ _ | declareQueue _ _
  | bindQueue _ _ _ _ | limitPrefetch _ | publish _ _ _ _ => .ok ()
  | consume _ _ => .ok "consumer"
  | close _ | note _ => ()
  | isUsable _ => true

/-- What may be asked while a link is opened. The states hold the link as long as it is open. -/
inductive AllowsOpening : Option LinkId → (r : LinkRequest) → r.Answer → Option LinkId → Prop where
  | connects {label : String} {link : LinkId} :
      AllowsOpening none (.connect label) (.ok link) (some link)
  | refused {label : String} {e : LinkError} :
      AllowsOpening none (.connect label) (.error e) none
  | opensChannel {link : LinkId} {answer : Except LinkError Unit} :
      AllowsOpening (some link) (.openChannel link) answer (some link)
  | closesConnection {link : LinkId} {answer : Except LinkError Unit} :
      AllowsOpening (some link) (.closeConnection link) answer none
  | limitsPrefetch {link : LinkId} {answer : Except LinkError Unit} :
      AllowsOpening (some link) (.limitPrefetch link) answer (some link)
  | declaresQueue {link : LinkId} {queue : String} {answer : Except LinkError Unit} :
      AllowsOpening (some link) (.declareQueue link queue) answer (some link)
  | consumes {link : LinkId} {queue : String} {answer : Except LinkError String} :
      AllowsOpening (some link) (.consume link queue) answer (some link)
  | closes {link : LinkId} : AllowsOpening (some link) (.close link) () none
  | notes {held : Option LinkId} {n : Note} :
      n.countsDelivery = false → AllowsOpening held (.note n) () held

def opening : Surroundings LinkRequest LinkRequest.Answer (Option LinkId) where
  Allows := AllowsOpening
  Drifts before after := after = before

/-- The link that is held once an attempt to open one is over: none after a failure. -/
def HeldAfter (held : Option LinkId) (result : Except QueueError LinkId) : Prop :=
  held = result.toOption

namespace LinkProgram

theorem openLink_conforms (label : String) :
    opening.Conforms HeldAfter none (openLink label) := by
  rintro (e | link)
  · exact ⟨none, .refused, rfl⟩
  · refine ⟨some link, .connects, ?_⟩
    rintro (e | ⟨⟩)
    · refine ⟨some link, .opensChannel, ?_⟩
      rintro (why | ⟨⟩)
      · exact ⟨none, .closesConnection, fun _ => ⟨none, .notes rfl, rfl⟩⟩
      · exact ⟨none, .closesConnection, rfl⟩
    · exact ⟨some link, .opensChannel, rfl⟩

theorem startConsumer_conforms (link : LinkId) (queue : String) :
    opening.Conforms (fun held _ => held = some link) (some link) (startConsumer link queue) := by
  rintro (e | ⟨⟩)
  · exact ⟨some link, .limitsPrefetch, rfl⟩
  · refine ⟨some link, .limitsPrefetch, ?_⟩
    rintro (e | ⟨⟩)
    · exact ⟨some link, .declaresQueue, rfl⟩
    · exact ⟨some link, .declaresQueue, fun answer => ⟨some link, .consumes, rfl⟩⟩

/-- A link that is no consumer in the end is closed. -/
theorem openConsumer_conforms (queue label : String) :
    opening.Conforms HeldAfter none (openConsumer queue label) := by
  refine (openLink_conforms label).bind ?_
  rintro held (e | link) rfl
  · rfl
  · refine (startConsumer_conforms link queue).bind ?_
    rintro held (e | tag) rfl
    · exact fun _ => ⟨none, .closes, rfl⟩
    · exact fun _ => ⟨some link, .notes rfl, rfl⟩

end LinkProgram

inductive Stance where
  /-- Without a delivery; the link is the one that is open. -/
  | free (held : Option LinkId)
  | taken (link : LinkId) (d : Delivery)
  /-- The outcome of the delivery is known. -/
  | judged (link : LinkId) (d : Delivery) (outcome : Outcome)
  /-- The broker has been told, and has taken it. -/
  | accepted (link : LinkId) (d : Delivery) (outcome : Outcome)
  /-- The resolution is counted. -/
  | counted (link : LinkId) (outcome : Outcome)
  /-- Nothing more is expected of the link. -/
  | lost (link : LinkId)
  | halted

namespace Consumer

variable {c : Consumer}

def decision (c : Consumer) (outcome : Outcome) : Decision :=
  .ofOutcome c.settings.fatalPolicy outcome

inductive Allows (c : Consumer) : Stance → (r : ConsumerRequest) → r.Answer → Stance → Prop where
  | checks {stopping : Bool} : Allows c (.free none) .isStopping stopping (.free none)
  | pauses {delay : Duration} {answer : Race Unit} :
      Allows c (.free none) (.pause delay) answer (.free none)
  | opens {held held' : Option LinkId} {r : LinkRequest} {answer : r.Answer} :
      AllowsOpening held r answer held' →
        Allows c (.free held) (.brokerUnlessStopped r) (.finished answer) (.free held')
  | interrupted {held held' : Option LinkId} {r : LinkRequest} {answer : r.Answer} :
      AllowsOpening held r answer held' →
        Allows c (.free held) (.brokerUnlessStopped r) .stopped (.free held)
  | notes {s : Stance} {n : Note} : n.countsDelivery = false → Allows c s (.broker (.note n)) () s
  | takes {link : LinkId} {d : Delivery} :
      Allows c (.free (some link)) (.next link) (.finished (some (.ok d))) (.taken link d)
  | fails {link : LinkId} {e : LinkError} :
      Allows c (.free (some link)) (.next link) (.finished (some (.error e))) (.lost link)
  | ends {link : LinkId} : Allows c (.free (some link)) (.next link) (.finished none) (.lost link)
  | stops {link : LinkId} : Allows c (.free (some link)) (.next link) .stopped (.lost link)
  | processes {link : LinkId} {d : Delivery} {outcome : Outcome} :
      Allows c (.taken link d) (.process d.body) outcome (.judged link d outcome)
  | resolves {link : LinkId} {d : Delivery} {outcome : Outcome} :
      Allows c (.judged link d outcome) (.resolve (d.settle (c.decision outcome))) (.ok ())
        (.accepted link d outcome)
  | unresolved {link : LinkId} {d : Delivery} {outcome : Outcome} {e : LinkError} :
      Allows c (.judged link d outcome) (.resolve (d.settle (c.decision outcome))) (.error e)
        (.lost link)
  | counts {link : LinkId} {d : Delivery} {outcome : Outcome} :
      Allows c (.accepted link d outcome)
        (.broker (.note (.count (.delivery c.queue (c.decision outcome).resolution)))) ()
        (.counted link outcome)
  | halts {link : LinkId} {outcome : Outcome} :
      (c.decision outcome).halts = true →
        Allows c (.counted link outcome) (.broker (.close link)) () .halted
  | goesOn {link : LinkId} {outcome : Outcome} :
      (c.decision outcome).halts = false →
        Allows c (.counted link outcome) (.broker (.isUsable link)) true (.free (some link))
  | breaks {link : LinkId} {outcome : Outcome} :
      (c.decision outcome).halts = false →
        Allows c (.counted link outcome) (.broker (.isUsable link)) false (.lost link)
  | leaves {link : LinkId} : Allows c (.lost link) (.broker (.close link)) () (.free none)

def protocol (c : Consumer) : Surroundings ConsumerRequest ConsumerRequest.Answer Stance where
  Allows := Allows c
  Drifts before after := after = before

/-- Where a turn leaves a consumer: never with a delivery in hand. -/
def Stands (s : Stance) : ConsumerState ⊕ ConsumerEnd → Prop
  | .inl (.apart _) => s = .free none
  | .inl (.linked _ link) => s = .free (some link)
  | .inr .stopped => ∃ held, s = .free held
  | .inr .halted => s = .halted

def stance : ConsumerState → Stance
  | .apart _ => .free none
  | .linked _ link => .free (some link)

theorem stands_stance (x : ConsumerState) : Stands (stance x) (.inl x) := by
  cases x <;> rfl

/-- Shutdown may come while a link is opened; then the link is left as it is. -/
theorem unlessStopped_conforms {α : Type} {ends : Option LinkId → α → Prop} {held : Option LinkId}
    {p : LinkProgram α} (conforms : opening.Conforms ends held p) :
    c.protocol.Conforms
      (fun s r => ∃ held, s = .free held ∧ ∀ a, r = .finished a → ends held a)
      (.free held) (unlessStopped p) := by
  induction p generalizing held with
  | done a => exact ⟨held, rfl, by rintro b ⟨⟩; exact conforms⟩
  | ask r k ih =>
    rw [unlessStopped]
    rintro (answer | _)
    · obtain ⟨held', allowed, rest⟩ := conforms answer
      exact ⟨.free held', .opens allowed, ih answer rest⟩
    · -- No answer was waited for; what is asked is allowed for any that the broker may give.
      obtain ⟨_, allowed, _⟩ := conforms r.granted
      exact ⟨.free held, .interrupted allowed, held, rfl, by rintro b ⟨⟩⟩

theorem leave_conforms {s : Stance} {ns : List Note} (plain : ∀ n ∈ ns, n.countsDelivery = false) :
    c.protocol.Conforms (fun s' _ => s' = s) s (leave ns) := by
  induction ns with
  | nil => rfl
  | cons n ns ih =>
    rw [List.forall_mem_cons] at plain
    exact fun _ => ⟨s, .notes plain.1, ih plain.2⟩

theorem pauseThen_conforms (delay : Duration) (failures : FailureStreak) :
    c.protocol.Conforms Stands (.free none) (pauseThen delay (.apart failures)) := by
  rintro (⟨⟩ | _)
  · exact ⟨.free none, .pauses, rfl⟩
  · exact ⟨.free none, .pauses, none, rfl⟩

theorem plain_success {failures : FailureStreak} {n : Note}
    (mem : n ∈ failures.success.2.map Note.log) : n.countsDelivery = false := by
  obtain ⟨line, _, rfl⟩ := List.mem_map.mp mem
  rfl

theorem plain_failure {failures : FailureStreak} {e : QueueError} :
    ∀ n ∈ failures.failure.2.2.map Note.log ++
      (if failures.failure.2.1 then [.log (c.setupFailed e)] else []) ++
      [.count (.reconnect c.queue)], n.countsDelivery = false := by
  intro n mem
  simp only [List.mem_append, List.mem_map, List.mem_singleton] at mem
  rcases mem with (⟨line, _, rfl⟩ | mem) | rfl
  · rfl
  · split at mem
    · obtain rfl := List.mem_singleton.mp mem
      rfl
    · cases mem
  · rfl

theorem connect_conforms (failures : FailureStreak) :
    c.protocol.Conforms Stands (.free none) (c.connect failures) := by
  intro stopping
  refine ⟨.free none, .checks, ?_⟩
  cases stopping with
  | true => exact ⟨none, rfl⟩
  | false =>
    refine (unlessStopped_conforms (LinkProgram.openConsumer_conforms c.queue c.label)).bind ?_
    rintro _ (result | _) ⟨held, rfl, opened⟩
    · obtain rfl := opened result rfl
      match result with
      | .ok link => exact (leave_conforms fun n => plain_success).bind fun s _ same => same
      | .error e =>
        refine (leave_conforms (plain_failure (c := c) (e := e))).bind ?_
        rintro s ⟨⟩ rfl
        exact pauseThen_conforms _ _
    · exact ⟨held, rfl⟩

theorem lose_conforms (failures : FailureStreak) (link : LinkId) :
    c.protocol.Conforms Stands (.lost link) (c.lose failures link) := by
  refine fun _ => ⟨.free none, .leaves, (leave_conforms (by simp [Note.countsDelivery])).bind ?_⟩
  rintro s ⟨⟩ rfl
  exact pauseThen_conforms _ _

theorem loseWith_conforms (failures : FailureStreak) (link : LinkId) (text : String) :
    c.protocol.Conforms Stands (.lost link) (c.loseWith failures link text) := by
  refine (leave_conforms (by simp [Note.countsDelivery])).bind ?_
  rintro s ⟨⟩ rfl
  exact lose_conforms failures link

theorem plain_outcomeNotes (outcome : Outcome) (d : Decision) :
    ∀ n ∈ c.outcomeNotes outcome d, n.countsDelivery = false := by
  unfold outcomeNotes
  split
  · simp
  · split <;> simp [Note.countsDelivery]

theorem handle_conforms (failures : FailureStreak) (link : LinkId) (d : Delivery) :
    c.protocol.Conforms Stands (.taken link d) (c.handle failures link d) := by
  intro (outcome : Outcome)
  refine ⟨_, .processes, (leave_conforms (plain_outcomeNotes outcome _)).bind ?_⟩
  rintro s ⟨⟩ rfl (e | ⟨⟩)
  · exact ⟨_, .unresolved, loseWith_conforms failures link _⟩
  · refine ⟨_, .resolves, fun _ => ⟨_, .counts, ?_⟩⟩
    change c.protocol.Conforms Stands _ (if (c.decision outcome).halts then _ else _)
    split
    next halts =>
      exact fun _ => ⟨_, .halts halts, (leave_conforms (by simp [Note.countsDelivery])).bind
        fun s _ same => same⟩
    next continues =>
      rw [Bool.not_eq_true] at continues
      rintro (_ | _)
      · exact ⟨_, .breaks continues, lose_conforms failures link⟩
      · exact ⟨_, .goesOn continues, rfl⟩

theorem consume_conforms (failures : FailureStreak) (link : LinkId) :
    c.protocol.Conforms Stands (.free (some link)) (c.consume failures link) := by
  rintro ((_ | e | d) | _)
  · exact ⟨_, .ends, loseWith_conforms failures link _⟩
  · exact ⟨_, .fails, loseWith_conforms failures link _⟩
  · exact ⟨_, .takes, handle_conforms failures link d⟩
  · exact ⟨_, .stops, fun _ => ⟨_, .leaves, none, rfl⟩⟩

/-- No turn of a consumer leaves the protocol. -/
theorem turns_conform (s : Stance) (x : ConsumerState) (stands : Stands s (.inl x)) :
    c.protocol.Conforms Stands s (c.turn x) := by
  cases x with
  | apart failures =>
    obtain rfl := stands
    exact connect_conforms failures
  | linked failures link =>
    obtain rfl := stands
    exact consume_conforms failures link

theorem follows_protocol {x : ConsumerState} {trace : ConsumerTrace}
    {q : ConsumerProgram (ConsumerState ⊕ ConsumerEnd)} (reached : c.turn.Reaches x trace q) :
    ∃ s, c.protocol.Follows (stance x) trace s ∧ c.protocol.Conforms Stands s q :=
  follows_of_turns turns_conform (stands_stance x) reached

end Consumer

end ImageWorker
