import ImageWorker.Proofs.LinkCustody

/-!
# The steps of a publish

A publish that misses its link waits for the reconnect lock, looks again, and then opens a link or
takes the one that it finds. `PublishStep` is how far it has got, as long as the broker opens the
first link and that one works, and `PublishStep.Allows` is what it may ask there, and hear. Nothing
is said of a publish for which something has gone wrong, or whose time is over.
-/

namespace ImageWorker

open Surroundings

inductive PublishStep where
  | fresh
  /-- It has found no link. -/
  | linkless
  | queueing
  /-- It has the reconnect lock and is to look again. -/
  | checking
  | dialing
  | connected (link : LinkId)
  | undeclared (link : LinkId)
  | queueless (link : LinkId)
  | unbound (link : LinkId)
  | declared (link : LinkId)
  | placing (link : LinkId)
  /-- Its link is in place. -/
  | placed
  | unmarked
  | unannounced
  | reopened
  | found (link : LinkId)
  | ready (link : LinkId)
  | ended (link : LinkId) (answer : Except LinkError Unit)
  /-- Something has gone wrong. -/
  | stray

namespace PublishStep

inductive Allows (r : StatusRoute) (payload : Bytes) :
    PublishStep → (request : PublisherRequest) → request.Answer → PublishStep → Prop where
  | finds {link : LinkId} : Allows r payload fresh .observe (.usable link) (ready link)
  | misses : Allows r payload fresh .observe .missing linkless
  | remembers : Allows r payload linkless .wasEstablished true queueing
  | enters : Allows r payload queueing (.acquire .reconnect) () checking
  | findsAnother {link : LinkId} : Allows r payload checking .observe (.usable link) (found link)
  | missesStill : Allows r payload checking .observe .missing dialing
  | connects {label : String} {link : LinkId} :
      Allows r payload dialing (.broker (.connect label)) (.ok link) (connected link)
  | opensChannel {link : LinkId} :
      Allows r payload (connected link) (.broker (.openChannel link)) (.ok ()) (undeclared link)
  | declaresExchange {link : LinkId} :
      Allows r payload (undeclared link) (.broker (.declareExchange link r.exchange)) (.ok ())
        (queueless link)
  | declaresQueue {link : LinkId} :
      Allows r payload (queueless link) (.broker (.declareQueue link r.queue)) (.ok ())
        (unbound link)
  | binds {link : LinkId} :
      Allows r payload (unbound link)
        (.broker (.bindQueue link r.queue r.exchange r.routingKey)) (.ok ()) (declared link)
  | reachesOut {link : LinkId} :
      Allows r payload (declared link) (.acquire .place) () (placing link)
  | puts {link : LinkId} : Allows r payload (placing link) (.replace link) none placed
  | letsGo : Allows r payload placed (.release .place) () unmarked
  | marks : Allows r payload unmarked .setEstablished () unannounced
  | announces {n : Note} : Allows r payload unannounced (.broker (.note n)) () reopened
  | findsItsOwn {link : LinkId} : Allows r payload reopened .observe (.usable link) (found link)
  | leaves {link : LinkId} : Allows r payload (found link) (.release .reconnect) () (ready link)
  | sends {link : LinkId} {answer : Except LinkError Unit} :
      Allows r payload (ready link) (.broker (.publish link r.exchange r.routingKey payload)) answer
        (ended link answer)
  -- What is not heard as long as all goes well.
  | findsBroken {step : PublishStep} : step = fresh ∨ step = checking ∨ step = reopened →
      Allows r payload step .observe .broken stray
  | losesItsOwn : Allows r payload reopened .observe .missing stray
  | forgets : Allows r payload linkless .wasEstablished false stray
  | refused {label : String} {e : LinkError} :
      Allows r payload dialing (.broker (.connect label)) (.error e) stray
  | noChannel {link : LinkId} {e : LinkError} :
      Allows r payload (connected link) (.broker (.openChannel link)) (.error e) stray
  | noExchange {link : LinkId} {exchange : String} {e : LinkError} :
      Allows r payload (undeclared link) (.broker (.declareExchange link exchange)) (.error e) stray
  | noQueue {link : LinkId} {queue : String} {e : LinkError} :
      Allows r payload (queueless link) (.broker (.declareQueue link queue)) (.error e) stray
  | noBinding {link : LinkId} {queue exchange key : String} {e : LinkError} :
      Allows r payload (unbound link) (.broker (.bindQueue link queue exchange key)) (.error e)
        stray
  | displaces {link old : LinkId} :
      Allows r payload (placing link) (.replace link) (some old) stray
  | strays {request : PublisherRequest} {answer : request.Answer} :
      Allows r payload stray request answer stray

def protocol (r : StatusRoute) (payload : Bytes) :
    Surroundings PublisherRequest PublisherRequest.Answer PublishStep where
  Allows := Allows r payload
  Drifts before after := after = before

def holds : PublishStep → PublisherLock → Bool
  | placing _, _ | placed, _ => true
  | checking, .reconnect | dialing, .reconnect | connected _, .reconnect
  | undeclared _, .reconnect | queueless _, .reconnect | unbound _, .reconnect
  | declared _, .reconnect | unmarked, .reconnect | unannounced, .reconnect
  | reopened, .reconnect | found _, .reconnect => true
  | _, _ => false

/-- Whether a link has been opened that is not in place yet. -/
def carries : PublishStep → Bool
  | connected _ | undeclared _ | queueless _ | unbound _ | declared _ | placing _ => true
  | _ => false

theorem holds_of_carries {q : PublishStep} (carries : q.carries = true) :
    q.holds .reconnect = true := by
  cases q <;> first | rfl | cases carries

/-- How many questions are still asked at most. -/
def left : PublishStep → Nat
  | fresh => 17
  | linkless => 16
  | queueing => 15
  | checking => 14
  | dialing => 13
  | connected _ => 12
  | undeclared _ => 11
  | queueless _ => 10
  | unbound _ => 9
  | declared _ => 8
  | placing _ => 7
  | placed => 6
  | unmarked => 5
  | unannounced => 4
  | reopened => 3
  | found _ => 2
  | ready _ => 1
  | ended _ _ | stray => 0

/-- How a publish may end: as its message was taken, or in some other way if something has gone
wrong. -/
def Ends : PublishStep → Except QueueError Unit → Prop
  | ended _ answer, result => result = LinkProgram.ofAnswer answer
  | stray, _ => True
  | _, _ => False

variable {r : StatusRoute} {payload : Bytes} {α : Type}

theorem stray_conforms {ends : PublishStep → α → Prop} (free : ∀ a, ends stray a)
    (p : PublisherProgram α) : (protocol r payload).Conforms ends stray p := by
  induction p with
  | done a => exact free a
  | ask request k ih => exact fun answer => ⟨_, .strays, ih answer⟩

def Opened : PublishStep → Except QueueError Unit → Prop
  | reopened, result => result = .ok ()
  | stray, _ => True
  | _, _ => False

theorem openInPlace_conforms :
    (protocol r payload).Conforms Opened dialing r.openInPlace := by
  have strays (q : PublisherProgram (Except QueueError Unit)) :
      (protocol r payload).Conforms Opened stray q := stray_conforms (fun _ => trivial) q
  rintro (e | link)
  · exact ⟨_, .refused, strays _⟩
  refine ⟨_, .connects, ?_⟩
  rintro (e | ⟨⟩)
  · exact ⟨_, .noChannel, strays _⟩
  refine ⟨_, .opensChannel, ?_⟩
  rintro (e | ⟨⟩)
  · exact ⟨_, .noExchange, strays _⟩
  refine ⟨_, .declaresExchange, ?_⟩
  rintro (e | ⟨⟩)
  · exact ⟨_, .noQueue, strays _⟩
  refine ⟨_, .declaresQueue, ?_⟩
  rintro (e | ⟨⟩)
  · exact ⟨_, .noBinding, strays _⟩
  refine ⟨_, .binds, fun _ => ⟨_, .reachesOut, ?_⟩⟩
  rintro (⟨⟩ | old)
  · exact ⟨_, .puts, fun _ => ⟨_, .letsGo, fun _ => ⟨_, .marks, fun _ => ⟨_, .announces, rfl⟩⟩⟩⟩
  · exact ⟨_, .displaces, strays _⟩

def Found : PublishStep → Except QueueError LinkId → Prop
  | ready link, result => result = .ok link
  | stray, _ => True
  | _, _ => False

/-- What looking for a link comes to before the reconnect lock is given back. -/
def FoundInside : PublishStep → Except QueueError LinkId → Prop
  | found link, result => result = .ok link
  | stray, _ => True
  | _, _ => False

theorem reconnect_conforms :
    (protocol r payload).Conforms Found queueing r.reconnect := by
  have strays (q : PublisherProgram (Except QueueError LinkId)) :
      (protocol r payload).Conforms FoundInside stray q := stray_conforms (fun _ => trivial) q
  refine fun _ => ⟨_, .enters, Conforms.bind (?_ : Conforms _ FoundInside checking _) ?_⟩
  · rintro (link | _ | _)
    · exact ⟨_, .findsAnother, rfl⟩
    · exact ⟨_, .findsBroken (.inr (.inl rfl)), strays _⟩
    · refine ⟨_, .missesStill, openInPlace_conforms.bind ?_⟩
      rintro step result opened
      cases step with
      | reopened =>
        obtain rfl : result = .ok () := opened
        rintro (link | _ | _)
        · exact ⟨_, .findsItsOwn, rfl⟩
        · exact ⟨_, .findsBroken (.inr (.inr rfl)), strays _⟩
        · exact ⟨_, .losesItsOwn, strays _⟩
      | stray => exact strays _
      | _ => exact opened.elim
  · rintro step result found
    cases step with
    | found link =>
      obtain rfl : result = .ok link := found
      exact fun _ => ⟨_, .leaves, rfl⟩
    | stray => exact stray_conforms (fun _ => trivial) _
    | _ => exact found.elim

theorem findLink_conforms : (protocol r payload).Conforms Found fresh r.findLink := by
  have strays (q : PublisherProgram (Except QueueError LinkId)) :
      (protocol r payload).Conforms Found stray q := stray_conforms (fun _ => trivial) q
  rintro (link | _ | _)
  · exact ⟨_, .finds, rfl⟩
  · exact ⟨_, .findsBroken (.inl rfl), strays _⟩
  · refine ⟨_, .misses, ?_⟩
    rintro (_ | _)
    · exact ⟨_, .forgets, strays _⟩
    · exact ⟨_, .remembers, reconnect_conforms⟩

theorem publish_conforms (event : StatusEvent) :
    (protocol r (StatusMessage.ofEvent event).toJson).Conforms Ends fresh (r.publish event) := by
  refine findLink_conforms.bind ?_
  rintro step result found
  cases step with
  | ready link =>
    obtain rfl : result = .ok link := found
    exact fun _ => ⟨_, .sends, rfl⟩
  | stray => exact stray_conforms (fun _ => trivial) _
  | _ => exact found.elim

end PublishStep

/-- A publish, by its payload and its step. -/
structure PublishStage where
  payload : Bytes
  step : PublishStep

namespace PublishStage

/-- A publish whose time is over has gone wrong. -/
inductive Allows (r : StatusRoute) :
    PublishStage → (request : TimedRequest) → request.Answer → PublishStage → Prop where
  | inTime {payload : Bytes} {step step' : PublishStep} {request : PublisherRequest}
      {answer : request.Answer} :
      step.Allows r payload request answer step' →
        Allows r ⟨payload, step⟩ (.inTime request) (some answer) ⟨payload, step'⟩
  | tooLate {q : PublishStage} {request : PublisherRequest} :
      Allows r q (.inTime request) none ⟨q.payload, .stray⟩
  | givesBack {payload : Bytes} {lock : PublisherLock} :
      Allows r ⟨payload, .stray⟩ (.giveBack lock) () ⟨payload, .stray⟩

def protocol (r : StatusRoute) :
    Surroundings TimedRequest TimedRequest.Answer PublishStage where
  Allows := Allows r
  Drifts before after := after = before

def Ends (q : PublishStage) : Empty ⊕ Except QueueError Unit → Prop
  | .inl _ => False
  | .inr result => q.step.Ends result

variable {r : StatusRoute} {α : Type}

theorem giveUp_conforms {ends : PublishStage → Option α → Prop} {payload : Bytes}
    (free : ∀ result, ends ⟨payload, .stray⟩ result) (held : List PublisherLock) :
    (protocol r).Conforms ends ⟨payload, .stray⟩ (TimedProgram.giveUp held) := by
  induction held with
  | nil => exact free none
  | cons lock held ih => exact fun _ => ⟨_, .givesBack, ih⟩

/-- A publish that conforms still does with a limit, up to the moment when its time is over. -/
theorem ofPublisher_conforms {payload : Bytes} {ends : PublishStep → α → Prop} {step : PublishStep}
    {p : PublisherProgram α} (held : List PublisherLock)
    (conforms : (PublishStep.protocol r payload).Conforms ends step p) :
    (protocol r).Conforms
      (fun q result => q.step = .stray ∨ ∃ a, result = some a ∧ ends q.step a)
      ⟨payload, step⟩ (TimedProgram.ofPublisher held p) := by
  induction p generalizing step held with
  | done a => exact .inr ⟨a, rfl, conforms⟩
  | ask request k ih =>
    rw [TimedProgram.ofPublisher]
    rintro (_ | answer)
    · exact ⟨_, .tooLate, giveUp_conforms (fun _ => .inl rfl) held⟩
    · obtain ⟨step', allowed, rest⟩ := conforms answer
      exact ⟨_, .inTime allowed, ih answer _ rest⟩

theorem publishWithin_conforms (limit : Duration) (event : StatusEvent) :
    (protocol r).Conforms (fun q result => q.step.Ends result)
      ⟨(StatusMessage.ofEvent event).toJson, .fresh⟩ (r.publishWithin limit event) := by
  refine (ofPublisher_conforms [] (PublishStep.publish_conforms event)).bind ?_
  rintro ⟨payload, step⟩ result (astray | ⟨a, rfl, ended⟩)
  · obtain rfl : step = .stray := astray
    cases result <;> trivial
  · exact ended

end PublishStage

namespace PublishCall

def payload (c : PublishCall) : Bytes := (StatusMessage.ofEvent c.event).toJson

def stage (c : PublishCall) : PublishStage := ⟨c.payload, .fresh⟩

theorem keep_stages (r : StatusRoute) (calls : List PublishCall) :
    Keep (PublishStage.protocol r) PublishStage.Ends (calls.map (·.stage))
      (calls.map (·.program r)) := by
  intro i p at_i
  rw [List.getElem?_map, Option.map_eq_some_iff] at at_i
  obtain ⟨call, at_i, rfl⟩ := at_i
  refine ⟨call.stage, by rw [List.getElem?_map, at_i, Option.map_some], ?_⟩
  exact (PublishStage.publishWithin_conforms call.limit call.event).bind fun _ _ ended => ended

end PublishCall

end ImageWorker
