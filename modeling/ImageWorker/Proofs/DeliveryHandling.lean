import ImageWorker.Proofs.ConsumerProtocol

/-!
# How deliveries are handled

What a consumer does about deliveries is one complete handling after the other, and what it has
done of one more: the delivery is taken, processed, settled by its outcome and, if the broker takes
that, counted. A link is polled again only after it was found to work; once a consumer has parted
with a link, it opens another one first and then polls that.
-/

namespace ImageWorker

open Surroundings

namespace ConsumerRequest

def metric? : ConsumerRequest → Option Metric
  | broker (.note (.count m)) | brokerUnlessStopped (.note (.count m)) => some m
  | _ => none

def countsDelivery (r : ConsumerRequest) : Bool :=
  match r.metric? with
  | some (.delivery _ _) => true
  | _ => false

theorem countsDelivery_note {n : Note} (plain : n.countsDelivery = false) :
    (broker (.note n)).countsDelivery = false ∧
      (brokerUnlessStopped (.note n)).countsDelivery = false := by
  cases n with
  | log line => exact ⟨rfl, rfl⟩
  | count m =>
    cases m with
    | delivery => exact absurd plain Bool.true_eq_false.mp
    | _ => exact ⟨rfl, rfl⟩

end ConsumerRequest

namespace ConsumerTrace

def metrics (trace : ConsumerTrace) : List Metric := trace.filterMap (·.request.metric?)

/-- Whether a delivery is taken, processed, settled or counted. -/
def isHandling : ConsumerExchange → Bool
  | ⟨.next _, .finished (some (.ok _))⟩ => true
  | ⟨.process _, _⟩ | ⟨.resolve _, _⟩ => true
  | ⟨r, _⟩ => r.countsDelivery

def handlings (trace : ConsumerTrace) : ConsumerTrace := trace.filter isHandling

/-- Whether a delivery is handled, or it is asked whether the link still works. -/
def isDealing : ConsumerExchange → Bool
  | ⟨.broker (.isUsable _), _⟩ => true
  | x => isHandling x

/-- Whether a link is open from here on. -/
def OpensLink (x : ConsumerExchange) : Prop :=
  ∃ label link, x = ⟨.brokerUnlessStopped (.connect label), .finished (.ok link)⟩

@[simp] theorem handlings_nil : handlings [] = [] := rfl

@[simp] theorem handlings_cons (x : ConsumerExchange) (trace : ConsumerTrace) :
    handlings (x :: trace) = if isHandling x then x :: handlings trace else handlings trace := by
  simp [handlings, List.filter_cons]

end ConsumerTrace

open ConsumerTrace

/-- A delivery with what came of it and of telling the broker. -/
structure Handling where
  link : LinkId
  delivery : Delivery
  outcome : Outcome
  result : Except LinkError Unit

namespace Handling

/-- What the broker has to be told: only a success is acknowledged, and no other delivery is settled
at the same time. -/
def settlement (c : Consumer) (h : Handling) : Settlement :=
  match h.outcome with
  | .ok _ => .ack h.delivery.tag false
  | .error _ => .nack h.delivery.tag false (c.decision h.outcome).requeues

def metric (c : Consumer) (h : Handling) : Metric :=
  .delivery c.queue (c.decision h.outcome).resolution

def exchanges (c : Consumer) (h : Handling) : ConsumerTrace :=
  [⟨.next h.link, .finished (some (.ok h.delivery))⟩, ⟨.process h.delivery.body, h.outcome⟩,
    ⟨.resolve (h.settlement c), h.result⟩] ++
    match h.result with
    | .ok () => [⟨.broker (.note (.count (h.metric c))), ()⟩]
    | .error _ => []

theorem settlement_eq (c : Consumer) (h : Handling) :
    h.settlement c = h.delivery.settle (c.decision h.outcome) := by
  obtain ⟨link, d, outcome, result⟩ := h
  cases outcome with
  | ok done => rfl
  | error e =>
    simp only [settlement, Consumer.decision]
    unfold Decision.ofOutcome
    split <;> rename_i same
    · cases same
    · rfl
    · cases c.settings.fatalPolicy <;> rfl
    · obtain rfl := Except.error.inj same
      cases e.errorClass with
      | transient | permanent => rfl
      | fatal => cases c.settings.fatalPolicy <;> rfl

end Handling

def deliverySeries (queue resolution : String) : Series :=
  ⟨"imgflow_deliveries_total", [("queue", queue), ("resolution", resolution)]⟩

theorem count_deliverySeries (m : Metric) (queue resolution : String) :
    m.series.count (deliverySeries queue resolution) =
      if m = .delivery queue resolution then 1 else 0 := by
  cases m with
  | cleanup mode clean => cases clean <;> simp [Metric.series, deliverySeries]
  | delivery q l => simp [Metric.series, deliverySeries, List.count_cons]
  | _ => simp [Metric.series, deliverySeries]

theorem count_deliveries (trace : ConsumerTrace) (queue resolution : String) :
    (Tally.ofMetrics (metrics trace)).count (deliverySeries queue resolution) =
      (metrics trace).count (.delivery queue resolution) := by
  rw [Tally.count_ofMetrics]
  induction metrics trace with
  | nil => rfl
  | cons m ms ih =>
    rw [List.flatMap_cons, List.count_append, ih, count_deliverySeries, List.count_cons]
    simp only [beq_iff_eq]
    omega

theorem isHandling_of_metric {x : ConsumerExchange} {queue resolution : String}
    (counts : x.request.metric? = some (.delivery queue resolution)) : isHandling x = true := by
  have counted : x.request.countsDelivery = true := by rw [ConsumerRequest.countsDelivery, counts]
  obtain ⟨r, answer⟩ := x
  cases r with
  | broker | brokerUnlessStopped => exact counted
  | _ => exact absurd counts nofun

/-- Deliveries are counted in their handling only. -/
theorem count_metrics_handlings (trace : ConsumerTrace) (queue resolution : String) :
    (metrics (handlings trace)).count (.delivery queue resolution) =
      (metrics trace).count (.delivery queue resolution) := by
  induction trace with
  | nil => rfl
  | cons x trace ih =>
    rw [handlings_cons]
    split
    next => simp only [metrics, List.filterMap_cons] at ih ⊢; split <;> simp [List.count_cons, ih]
    next idle =>
      have other : x.request.metric? ≠ some (.delivery queue resolution) :=
        fun counts => idle (isHandling_of_metric counts)
      rw [ih, metrics, metrics, List.filterMap_cons]
      split
      next => rfl
      next m counts =>
        have different : ¬ m = .delivery queue resolution := fun same => other (same ▸ counts)
        simp [different]

theorem metrics_exchanges (c : Consumer) (h : Handling) :
    metrics (h.exchanges c) = if h.result.isOk then [h.metric c] else [] := by
  obtain ⟨link, d, outcome, result⟩ := h
  cases result <;> rfl

theorem count_handled (c : Consumer) (handled : List Handling) (queue resolution : String) :
    (metrics (handled.flatMap (·.exchanges c))).count (.delivery queue resolution) =
      handled.countP fun h => h.result.isOk && c.queue == queue &&
        (c.decision h.outcome).resolution == resolution := by
  induction handled with
  | nil => rfl
  | cons h handled ih =>
    rw [List.flatMap_cons, metrics, List.filterMap_append, List.count_append, ← metrics,
      ← metrics, ih, metrics_exchanges, List.countP_cons, Nat.add_comm]
    congr 1
    cases h.result.isOk with
    | false => rfl
    | true => simp [Handling.metric, List.count_cons]

namespace Consumer

variable {c : Consumer}

/-- What is done of the handling that a stance is in the middle of. -/
def pending (c : Consumer) : Stance → ConsumerTrace
  | .taken link d => [⟨.next link, .finished (some (.ok d))⟩]
  | .judged link d outcome =>
    [⟨.next link, .finished (some (.ok d))⟩, ⟨.process d.body, outcome⟩]
  | .accepted link d outcome =>
    [⟨.next link, .finished (some (.ok d))⟩, ⟨.process d.body, outcome⟩,
      ⟨.resolve (d.settle (c.decision outcome)), .ok ()⟩]
  | _ => []

theorem countsDelivery_of_opening {held held' : Option LinkId} {r : LinkRequest}
    {answer : r.Answer} (allowed : AllowsOpening held r answer held') :
    (ConsumerRequest.brokerUnlessStopped r).countsDelivery = false := by
  cases allowed with
  | @notes _ n plain => exact (ConsumerRequest.countsDelivery_note plain).2
  | _ => rfl

theorem handled_of_idle {s : Stance} {x : ConsumerExchange} (idle : isHandling x = false) :
    ∃ handled : List Handling,
      c.pending s ++ handlings [x] = handled.flatMap (·.exchanges c) ++ c.pending s :=
  ⟨[], by simp [idle]⟩

/-- An exchange takes the handling of a delivery one step further. -/
theorem Allows.handled {s s' : Stance} {r : ConsumerRequest} {answer : r.Answer}
    (allowed : Allows c s r answer s') :
    ∃ handled : List Handling, c.pending s ++ handlings [⟨r, answer⟩] =
      handled.flatMap (·.exchanges c) ++ c.pending s' := by
  cases allowed with
  | takes | processes | resolves => exact ⟨[], rfl⟩
  | @unresolved link d outcome e =>
    exact ⟨[⟨link, d, outcome, .error e⟩], by
      simp [pending, Handling.exchanges, Handling.settlement_eq, isHandling]⟩
  | @counts link d outcome =>
    exact ⟨[⟨link, d, outcome, .ok ()⟩], by
      simp [pending, Handling.exchanges, Handling.settlement_eq, Handling.metric, isHandling,
        ConsumerRequest.countsDelivery, ConsumerRequest.metric?]⟩
  | notes plain => exact handled_of_idle (ConsumerRequest.countsDelivery_note plain).1
  | opens allowed =>
    exact handled_of_idle (s := .free none) (countsDelivery_of_opening allowed)
  | interrupted allowed => exact handled_of_idle (countsDelivery_of_opening allowed)
  | checks | pauses | fails | ends | stops | halts | goesOn | breaks | leaves => exact ⟨[], rfl⟩

/-- The handlings of an allowed course: those begun before it are completed in it, and at most one
is still under way. -/
theorem Follows.handled {s s' : Stance} {trace : ConsumerTrace}
    (follows : c.protocol.Follows s trace s') :
    ∃ handled : List Handling, c.pending s ++ handlings trace =
      handled.flatMap (·.exchanges c) ++ c.pending s' := by
  induction follows with
  | start s => exact ⟨[], by simp⟩
  | @step s s' s'' r answer trace allowed _ ih =>
    obtain ⟨first, step_eq⟩ := Allows.handled allowed
    obtain ⟨later, rest_eq⟩ := ih
    refine ⟨first ++ later, ?_⟩
    have split : handlings (⟨r, answer⟩ :: trace) = handlings [⟨r, answer⟩] ++ handlings trace := by
      simp only [handlings_cons, handlings_nil]
      split <;> rfl
    rw [split, ← List.append_assoc, step_eq, List.append_assoc, rest_eq, List.flatMap_append,
      List.append_assoc]

/-- What is under way is a part of one handling, and nothing of it is counted yet. -/
theorem pending_unfinished (c : Consumer) (s : Stance) :
    (∃ h : Handling, c.pending s <+: h.exchanges c ∧ c.pending s ≠ h.exchanges c) ∧
      metrics (c.pending s) = [] := by
  cases s with
  | taken link d =>
    exact ⟨⟨⟨link, d, .error .cancelled, .ok ()⟩, ⟨_, rfl⟩, by simp [pending, Handling.exchanges]⟩,
      rfl⟩
  | judged link d outcome =>
    exact ⟨⟨⟨link, d, outcome, .ok ()⟩, ⟨_, rfl⟩, by simp [pending, Handling.exchanges]⟩, rfl⟩
  | accepted link d outcome =>
    have begun : c.pending (.accepted link d outcome) <+:
        Handling.exchanges c ⟨link, d, outcome, .ok ()⟩ :=
      ⟨[⟨.broker (.note (.count (Handling.metric c ⟨link, d, outcome, .ok ()⟩))), ()⟩], by
        simp [pending, Handling.exchanges, Handling.settlement_eq]⟩
    exact ⟨⟨_, begun, by simp [pending, Handling.exchanges]⟩, rfl⟩
  | _ => exact ⟨⟨⟨0, ⟨0, []⟩, .error .cancelled, .ok ()⟩, List.nil_prefix, nofun⟩, rfl⟩

theorem pending_of_stands {s : Stance} {r : ConsumerState ⊕ ConsumerEnd} (stands : Stands s r) :
    c.pending s = [] := by
  match r, stands with
  | .inl (.apart _), stands | .inl (.linked _ _), stands | .inr .halted, stands =>
    cases stands
    rfl
  | .inr .stopped, ⟨_, stands⟩ =>
    cases stands
    rfl

/-- The exchanges after which a consumer expects no more of its link. -/
inductive Parts (c : Consumer) : ConsumerExchange → Prop where
  | stopped (link : LinkId) : Parts c ⟨.next link, .stopped⟩
  | closed (link : LinkId) : Parts c ⟨.next link, .finished none⟩
  | failed (link : LinkId) (e : LinkError) : Parts c ⟨.next link, .finished (some (.error e))⟩
  | halting (body : Bytes) (outcome : Outcome) :
      (c.decision outcome).halts = true → Parts c ⟨.process body, outcome⟩
  | unresolved (settlement : Settlement) (e : LinkError) : Parts c ⟨.resolve settlement, .error e⟩
  | unusable (link : LinkId) : Parts c ⟨.broker (.isUsable link), false⟩

/-- Stances from which nothing is taken before a link is opened. -/
def Barred (c : Consumer) : Stance → Prop
  | .free held => held = none
  | .taken _ _ => False
  | .judged _ _ outcome | .accepted _ _ outcome | .counted _ outcome =>
    (c.decision outcome).halts = true
  | .lost _ | .halted => True

theorem Barred.step {s s' : Stance} {r : ConsumerRequest} {answer : r.Answer}
    (barred : c.Barred s) (allowed : Allows c s r answer s') (closed : ¬ OpensLink ⟨r, answer⟩) :
    c.Barred s' ∧ ∀ link, r ≠ .next link := by
  cases allowed with
  | checks | pauses | leaves => exact ⟨rfl, nofun⟩
  | notes | interrupted => exact ⟨barred, nofun⟩
  | opens opening =>
    cases opening with
    | connects => exact absurd ⟨_, _, rfl⟩ closed
    | refused => exact ⟨rfl, nofun⟩
    | notes => exact ⟨barred, nofun⟩
    | _ => cases barred
  | takes | fails | ends | stops => cases barred
  | processes => exact barred.elim
  | resolves | counts => exact ⟨barred, nofun⟩
  | unresolved | halts => exact ⟨trivial, nofun⟩
  | goesOn continues | breaks continues => exact absurd (continues.symm.trans barred) nofun

/-- The exchanges since the opening of the link that a consumer is on. It is the link that was opened
last, unless the consumer had it to begin with. -/
inductive Since (x : ConsumerState) (link : LinkId) : ConsumerTrace → ConsumerTrace → Prop where
  | opened (before : ConsumerTrace) (label : String) (since : ConsumerTrace) :
      Since x link
        (before ++ ⟨.brokerUnlessStopped (.connect label), .finished (.ok link)⟩ :: since) since
  | held {failures : FailureStreak} (since : ConsumerTrace) :
      x = .linked failures link → Since x link since since

/-- Handlings that leave a consumer on its link. -/
structure Keeps (c : Consumer) (link : LinkId) (h : Handling) : Prop where
  link_eq : h.link = link
  resolved : h.result = .ok ()
  continues : (c.decision h.outcome).halts = false

/-- A handling, and that its link still works. -/
def kept (c : Consumer) (h : Handling) : ConsumerTrace :=
  h.exchanges c ++ [⟨.broker (.isUsable h.link), true⟩]

/-- Exchanges in which a consumer has stayed on a link: it has not opened another one, nor parted
with this one, and every delivery is handled completely, and the link found to work, before more is
done. What is done after that is the rest. -/
structure Serves (c : Consumer) (link : LinkId) (since rest : ConsumerTrace) : Prop where
  unopened : ∀ z ∈ since, ¬ OpensLink z
  unparted : ∀ z ∈ since, ¬ c.Parts z
  dealt : ∃ handled : List Handling, (∀ h ∈ handled, c.Keeps link h) ∧
    since.filter isDealing = handled.flatMap c.kept ++ rest

theorem Since.snoc {x : ConsumerState} {link : LinkId} {past since : ConsumerTrace}
    (last : Since x link past since) (z : ConsumerExchange) :
    Since x link (past ++ [z]) (since ++ [z]) := by
  cases last with
  | opened before label => simpa using Since.opened before label (since ++ [z])
  | held _ held => exact .held _ held

/-- A link on which a consumer has stayed since was opened after any parting. -/
theorem Since.opened_of_parts {x : ConsumerState} {link : LinkId} {parting : ConsumerExchange}
    {before between since : ConsumerTrace}
    (last : Since x link (before ++ parting :: between) since)
    (stayed : ∀ z ∈ since, ¬ c.Parts z) (parts : c.Parts parting) :
    ∃ earlier label, between =
      earlier ++ ⟨.brokerUnlessStopped (.connect label), .finished (.ok link)⟩ :: since := by
  generalize split : before ++ parting :: between = past at last
  cases last with
  | held =>
    subst split
    exact absurd parts (stayed parting (List.mem_append_right before List.mem_cons_self))
  | opened before' label =>
    rcases List.append_eq_append_iff.mp split with ⟨_ | ⟨z, earlier⟩, _, same⟩ | ⟨_ | ⟨z, rest⟩, _, same⟩
    · obtain ⟨rfl, _⟩ := List.cons.inj same
      cases parts
    · obtain ⟨rfl, rfl⟩ := List.cons.inj same
      exact ⟨earlier, label, rfl⟩
    · obtain ⟨rfl, _⟩ := List.cons.inj same
      cases parts
    · obtain ⟨rfl, rfl⟩ := List.cons.inj same
      exact absurd parts (stayed parting (List.mem_append_right rest List.mem_cons_self))

namespace Serves

variable {link : LinkId} {since rest : ConsumerTrace} {z : ConsumerExchange}

theorem nil (c : Consumer) (link : LinkId) : c.Serves link [] [] :=
  ⟨List.forall_mem_nil _, List.forall_mem_nil _, [], List.forall_mem_nil _, rfl⟩

theorem snoc (serves : c.Serves link since rest) (unopened : ¬ OpensLink z)
    (unparted : ¬ c.Parts z) : c.Serves link (since ++ [z]) (rest ++ [z].filter isDealing) where
  unopened := List.forall_mem_append.mpr ⟨serves.unopened, List.forall_mem_singleton.mpr unopened⟩
  unparted := List.forall_mem_append.mpr ⟨serves.unparted, List.forall_mem_singleton.mpr unparted⟩
  dealt := by
    obtain ⟨handled, keep, dealt⟩ := serves.dealt
    exact ⟨handled, keep, by rw [List.filter_append, dealt, List.append_assoc]⟩

theorem keep {h : Handling} (serves : c.Serves link since (c.kept h)) (keeps : c.Keeps link h) :
    c.Serves link since [] where
  unopened := serves.unopened
  unparted := serves.unparted
  dealt := by
    obtain ⟨handled, keep, dealt⟩ := serves.dealt
    refine ⟨handled ++ [h], ?_, by rw [dealt]; simp⟩
    exact List.forall_mem_append.mpr ⟨keep, List.forall_mem_singleton.mpr keeps⟩

end Serves

/-- The link that a stance relies on, and what is done about the delivery that it is at. -/
inductive InHand (c : Consumer) : Stance → LinkId → ConsumerTrace → Prop where
  | free {link : LinkId} : InHand c (.free (some link)) link []
  | taken {link : LinkId} {d : Delivery} :
      InHand c (.taken link d) link [⟨.next link, .finished (some (.ok d))⟩]
  | judged {link : LinkId} {d : Delivery} {outcome : Outcome} :
      (c.decision outcome).halts = false →
        InHand c (.judged link d outcome) link
          [⟨.next link, .finished (some (.ok d))⟩, ⟨.process d.body, outcome⟩]
  | accepted {link : LinkId} {d : Delivery} {outcome : Outcome} :
      (c.decision outcome).halts = false →
        InHand c (.accepted link d outcome) link
          [⟨.next link, .finished (some (.ok d))⟩, ⟨.process d.body, outcome⟩,
            ⟨.resolve (d.settle (c.decision outcome)), .ok ()⟩]
  | counted {link : LinkId} {d : Delivery} {outcome : Outcome} :
      (c.decision outcome).halts = false →
        InHand c (.counted link outcome) link (Handling.exchanges c ⟨link, d, outcome, .ok ()⟩)

/-- What the past of a stance tells: the consumer has parted with its link, or stayed on it. -/
def Told (c : Consumer) (x : ConsumerState) (past : ConsumerTrace) (s : Stance) : Prop :=
  c.Barred s ∨ ∃ link since rest, c.InHand s link rest ∧ Since x link past since ∧
    c.Serves link since rest

theorem Told.step {x : ConsumerState} {past : ConsumerTrace} {s s' : Stance}
    {r : ConsumerRequest} {answer : r.Answer} (told : c.Told x past s)
    (allowed : Allows c s r answer s') : c.Told x (past ++ [⟨r, answer⟩]) s' := by
  by_cases opens : OpensLink ⟨r, answer⟩
  · obtain ⟨label, link, same⟩ := opens
    cases same
    cases allowed with
    | opens opening =>
      cases opening
      exact .inr ⟨link, [], [], .free, .opened past label [], .nil c link⟩
  rcases told with barred | ⟨link, since, rest, inHand, last, serves⟩
  · exact .inl (barred.step allowed opens).1
  have onwards {rest' : ConsumerTrace} (unparted : ¬ c.Parts ⟨r, answer⟩)
      (next : c.InHand s' link rest')
      (rest_eq : rest' = rest ++ [⟨r, answer⟩].filter isDealing) :
      c.Told x (past ++ [⟨r, answer⟩]) s' :=
    .inr ⟨link, _, rest', next, last.snoc _, rest_eq ▸ serves.snoc opens unparted⟩
  cases allowed with
  | checks | pauses | leaves => cases inHand
  | notes plain =>
    refine onwards nofun inHand ?_
    have idle : isDealing ⟨.broker (.note _), ()⟩ = false :=
      (ConsumerRequest.countsDelivery_note plain).1
    simp [idle]
  | opens opening =>
    cases inHand
    cases opening with
    | closesConnection | closes => exact .inl rfl
    | notes plain =>
      refine onwards nofun .free ?_
      have idle : isDealing ⟨.brokerUnlessStopped (.note _), .finished ()⟩ = false :=
        (ConsumerRequest.countsDelivery_note plain).2
      simp [idle]
    | _ => exact onwards nofun .free rfl
  | @interrupted _ _ r _ opening =>
    refine onwards nofun inHand ?_
    have idle : isDealing ⟨.brokerUnlessStopped r, .stopped⟩ = false :=
      countsDelivery_of_opening opening
    simp [idle]
  | takes =>
    cases inHand
    exact onwards nofun .taken rfl
  | fails | ends | stops | unresolved | breaks | halts => exact .inl trivial
  | @processes _ d outcome =>
    cases inHand
    cases continues : (c.decision outcome).halts with
    | true => exact .inl continues
    | false =>
      refine onwards (fun parts => ?_) (.judged continues) rfl
      cases parts with
      | halting _ _ halts => exact absurd (continues.symm.trans halts) nofun
  | resolves =>
    cases inHand with
    | judged continues => exact onwards nofun (.accepted continues) rfl
  | @counts _ d outcome =>
    cases inHand with
    | accepted continues =>
      refine onwards nofun (.counted (d := d) continues) ?_
      have dealing : isDealing ⟨.broker (.note (.count
          (.delivery c.queue (c.decision outcome).resolution))), ()⟩ = true := rfl
      simp [Handling.exchanges, Handling.settlement_eq, Handling.metric, dealing]
  | @goesOn _ outcome =>
    cases inHand with
    | @counted _ d _ continues =>
      refine .inr ⟨link, _, [], .free, last.snoc _, ?_⟩
      exact (serves.snoc opens nofun).keep (h := ⟨link, d, outcome, .ok ()⟩) ⟨rfl, rfl, continues⟩

theorem told_stance (c : Consumer) (x : ConsumerState) : c.Told x [] (stance x) := by
  cases x with
  | apart failures => exact .inl rfl
  | linked failures link => exact .inr ⟨link, [], [], .free, .held [] rfl, .nil c link⟩

theorem Told.serves {x : ConsumerState} {past : ConsumerTrace} {s s' : Stance} {link : LinkId}
    {answer : Race (Option (Except LinkError Delivery))} (told : c.Told x past s)
    (polled : Allows c s (.next link) answer s') :
    ∃ since, Since x link past since ∧ c.Serves link since [] := by
  obtain rfl : s = .free (some link) := by cases polled <;> rfl
  rcases told with barred | ⟨_, since, _, inHand, last, serves⟩
  · cases barred
  · cases inHand
    exact ⟨since, last, serves⟩

/-- Every delivery is handled completely before the next one is taken: it is processed once and
settled once, by its outcome, and the resolution is counted just if the broker takes it. What is
polled is the link that was opened last, as long as the consumer has not parted with it and has found
it to work after every delivery; after parting, a new one is opened first. -/
theorem deliveries_handled (c : Consumer) {x : ConsumerState} {trace : ConsumerTrace}
    {q : ConsumerProgram (ConsumerState ⊕ ConsumerEnd)} (reached : c.turn.Reaches x trace q) :
    (∃ (handled : List Handling) (unfinished : ConsumerTrace),
      handlings trace = handled.flatMap (·.exchanges c) ++ unfinished ∧
      (∃ h : Handling, unfinished <+: h.exchanges c ∧ unfinished ≠ h.exchanges c) ∧
      (∀ r, q = .done r → unfinished = []) ∧
      ∀ queue resolution,
        (Tally.ofMetrics (metrics trace)).count (deliverySeries queue resolution) =
          handled.countP fun h => h.result.isOk && c.queue == queue &&
            (c.decision h.outcome).resolution == resolution) ∧
    (∀ before link answer after, trace = before ++ ⟨.next link, answer⟩ :: after →
      ∃ since, Since x link before since ∧ c.Serves link since []) ∧
    ∀ before parting between link answer after,
      trace = before ++ parting :: between ++ ⟨.next link, answer⟩ :: after → c.Parts parting →
        ∃ earlier label since, between =
            earlier ++ ⟨.brokerUnlessStopped (.connect label), .finished (.ok link)⟩ :: since ∧
          c.Serves link since [] := by
  obtain ⟨s, follows, rest⟩ := follows_protocol reached
  have polled : ∀ before link answer after, trace = before ++ ⟨.next link, answer⟩ :: after →
      ∃ since, Since x link before since ∧ c.Serves link since [] := by
    rintro before link answer after rfl
    obtain ⟨s₁, earlier, onwards⟩ := follows_append_iff.mp follows
    have told : c.Told x before s₁ := earlier.history Told.step (told_stance c x)
    cases onwards with
    | step taken _ => exact told.serves taken
  refine ⟨?_, polled, fun before parting between link answer after split parts => ?_⟩
  · obtain ⟨handled, handlings_eq⟩ := Follows.handled follows
    have nothing : c.pending (stance x) = [] := by cases x <;> rfl
    rw [nothing, List.nil_append] at handlings_eq
    obtain ⟨unfinished, uncounted⟩ := c.pending_unfinished s
    refine ⟨handled, c.pending s, handlings_eq, unfinished, ?_, fun queue resolution => ?_⟩
    · rintro r rfl
      exact pending_of_stands rest
    · rw [count_deliveries, ← count_metrics_handlings, handlings_eq, metrics,
        List.filterMap_append, ← metrics, ← metrics, uncounted, List.append_nil, count_handled]
  · obtain ⟨since, last, serves⟩ := polled _ link answer after split
    obtain ⟨earlier, label, between_eq⟩ := last.opened_of_parts serves.unparted parts
    exact ⟨earlier, label, since, between_eq, serves⟩

/-- The answers to a consumer that is given a delivery with a known outcome, where the broker grants
all else and shutdown does not come. -/
def deliver (body : Bytes) (outcome : Outcome) (result : Except LinkError Unit) :
    (r : ConsumerRequest) → r.Answer
  | .isStopping => false
  | .brokerUnlessStopped r => .finished r.granted
  | .broker r => r.granted
  | .next _ => .finished (some (.ok ⟨1, body⟩))
  | .process _ => outcome
  | .resolve _ => result
  | .pause _ => .finished ()

def cautious : Consumer :=
  ⟨"jobs", "imgflow-jobs-0", .halt, .ofSeconds 5, .ofSeconds 2, .ofSeconds 30⟩

def linked : ConsumerState := .linked (.ofLimit loudAttempts) 0

def delivered (outcome : Outcome) (result : Except LinkError Unit) :
    ConsumerTrace × Unit × (ConsumerState ⊕ ConsumerEnd) :=
  (cautious.turn linked).replies (fun _ r => (deliver [] outcome result r, ())) ()

theorem delivered_runs (outcome : Outcome) (result : Except LinkError Unit) :
    (cautious.turn linked).Runs (delivered outcome result).1 (delivered outcome result).2.2 :=
  Program.runs_replies _ _ _

theorem deliveries_handled_of_interrupted :
    (∃ handled : List Handling,
      handlings (delivered (.error .cancelled) (.ok ())).1 =
        handled.flatMap (·.exchanges cautious) ∧
      (handled.countP fun h => h.result.isOk && cautious.queue == "jobs" &&
        (cautious.decision h.outcome).resolution == "requeue") = 1) ∧
    ∃ since, Since linked 0 (delivered (.error .cancelled) (.ok ())).1 since ∧
      cautious.Serves 0 since [] := by
  have run := delivered_runs (.error .cancelled) (.ok ())
  constructor
  · obtain ⟨⟨handled, unfinished, handlings_eq, _, complete, counted⟩, _⟩ :=
      deliveries_handled cautious (.inside run.reaches)
    obtain rfl := complete _ rfl
    refine ⟨handled, by rw [handlings_eq, List.append_nil], ?_⟩
    rw [← counted "jobs" "requeue"]
    decide +kernel
  · have goesOn : (delivered (.error .cancelled) (.ok ())).2.2 = .inl linked := rfl
    rw [goesOn] at run
    have reached : cautious.turn.Reaches linked
        ((delivered (.error .cancelled) (.ok ())).1 ++ [⟨.next 0, .stopped⟩]) _ :=
      .again run (.inside (.ask (.start _)))
    obtain ⟨_, polled, _⟩ := deliveries_handled cautious reached
    exact polled _ 0 .stopped [] rfl

end Consumer

end ImageWorker
