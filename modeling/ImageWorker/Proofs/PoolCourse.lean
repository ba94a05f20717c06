import ImageWorker.Flow.Clock
import ImageWorker.Job.Pipeline
import ImageWorker.Pool.Lifecycle
import ImageWorker.Proofs.LinkCustody

/-!
# A pool at work

The pool, its consumers and their jobs run side by side. They share the link for statuses, the count
of pending cleanups, and a clock that says when shutdown fires. A job publishes step by step, and so
does the pool establish the link and close it; everything else that is asked may have any answer
that the shared state does not rule out. A course is what can happen from the start of the pool on.
-/

namespace ImageWorker

/-- A pool and the way in which its jobs are processed. -/
structure Workshop where
  pool : WorkerPool
  jobs : Pipeline

inductive PoolWork where
  | pool (request : PoolRequest)
  /-- Part of establishing the link for statuses, unless shutdown comes first. -/
  | establishing (request : TimedRequest)
  /-- Part of closing it. -/
  | closing (request : PublisherRequest)

abbrev PoolWork.Answer : PoolWork → Type
  | pool r => r.Answer
  | establishing r => r.Answer
  | closing r => r.Answer

abbrev PoolWorkProgram := Program PoolWork PoolWork.Answer

inductive ConsumerWork where
  | consumer (request : ConsumerRequest)
  | job (request : JobRequest)
  /-- Part of publishing a status. -/
  | publishing (request : TimedRequest)
  /-- A publish was given up; was its time over, or did shutdown come? -/
  | givenUp

abbrev ConsumerWork.Answer : ConsumerWork → Type
  | consumer r => r.Answer
  | job r => r.Answer
  | publishing r => r.Answer
  | givenUp => Race Unit

abbrev ConsumerWorkProgram := Program ConsumerWork ConsumerWork.Answer

namespace Workshop

variable (w : Workshop)

def route : StatusRoute := w.pool.broker.statusRoute

def poolWork : (r : PoolRequest) → PoolWorkProgram r.Answer
  | .establish =>
    ((TimedProgram.ofPublisher [] w.route.establish).translate fun r =>
      .ask (.establishing r) .done).bind fun
        | some result => .done (.finished result)
        | none => .done .stopped
  | .shutStatus => StatusRoute.shut.translate fun r => .ask (.closing r) .done
  | r => .ask (.pool r) .done

def publishing {α : Type} (p : TimedProgram α) : ConsumerWorkProgram α :=
  p.translate fun r => .ask (.publishing r) .done

def jobWork : (r : JobRequest) → ConsumerWorkProgram r.Answer
  | .announce event => publishing (w.route.publishWithin w.pool.broker.publishTimeout event)
  | .announceUnlessStopped event =>
    (publishing (TimedProgram.ofPublisher [] (w.route.publish event))).bind fun
      | some result => .done (.finished result)
      | none =>
        .ask .givenUp fun
          | .finished () =>
            .done (.finished (.error (.publishTimeout w.pool.broker.publishTimeout)))
          | .stopped => .done .stopped
  | r => .ask (.job r) .done

def consumerWork : (r : ConsumerRequest) → ConsumerWorkProgram r.Answer
  | .process body => (w.jobs.process body).translate w.jobWork
  | r => .ask (.consumer r) .done

def poolTurn : Turn PoolWork PoolWork.Answer PoolState (Except JobError Unit) :=
  fun x => (w.pool.turn x).translate w.poolWork

def consumerTurn (c : Consumer) :
    Turn ConsumerWork ConsumerWork.Answer ConsumerState ConsumerEnd :=
  fun x => (c.turn x).translate w.consumerWork

end Workshop

/-- Whether all of a length of time has passed since a moment. -/
def Clock.isOver (c : Clock) (since : Nat) (limit : Duration) : Bool :=
  since * 1000000 + limit.nanos ≤ c.now * 1000000

structure WorkSite where
  clock : Clock
  /-- The link for statuses. -/
  link : SharedLink
  /-- How many cleanups are pending. -/
  pending : Nat
  /-- How often consumers have tried to connect. -/
  dialed : Nat

def LinkRequest.isConnect : LinkRequest → Bool
  | connect _ => true
  | _ => false

namespace WorkSite

/-- Shutdown can only come first once it has fired. -/
def Yields {α : Type} (s : WorkSite) (answer : Race α) : Prop :=
  answer = .stopped → s.clock.isStopped = true

/-- What may follow a question of a consumer or its job. -/
def AllowsConsumer (s : WorkSite) : (r : ConsumerWork) → r.Answer → WorkSite → Prop
  | .consumer .isStopping, a, s' => a = s.clock.isStopped ∧ s' = s
  | .consumer (.brokerUnlessStopped r), a, s' =>
    s.Yields a ∧ s' = { s with dialed := s.dialed + r.isConnect.toNat }
  | .consumer (.next _), a, s' => s.Yields a ∧ s' = s
  | .consumer (.pause _), a, s' => s.Yields a ∧ s' = s
  | .consumer (.broker _), _, s' | .consumer (.resolve _), _, s' => s' = s
  | .consumer (.process _), _, _ => False
  | .job .isStopping, a, s' => a = s.clock.isStopped ∧ s' = s
  | .job (.pause _), a, s' => s.Yields a ∧ s' = s
  | .job (.download _), a, s' => s.Yields a ∧ s' = s
  | .job (.upload _ _ _), a, s' => s.Yields a ∧ s' = s
  | .job (.schedule _), _, s' => s' = { s with pending := s.pending + 1 }
  | .job (.announce _), _, _ | .job (.announceUnlessStopped _), _, _ => False
  | .job _, _, s' => s' = s
  | .publishing r, a, s' => ∃ link, s.link.AllowsWithin r a link ∧ s' = { s with link := link }
  | .givenUp, a, s' => s.Yields a ∧ s' = s

/-- What changes by itself: time passes, links die, and cleanups end. -/
inductive Drifts : WorkSite → WorkSite → Prop where
  | passes {s : WorkSite} (millis : Nat) : Drifts s { s with clock := s.clock.pass millis }
  | dies {s : WorkSite} {link : SharedLink} : s.link.Dies link → Drifts s { s with link := link }
  | cleansUp {s : WorkSite} {n : Nat} : s.pending = n + 1 → Drifts s { s with pending := n }

end WorkSite

namespace WorkSite

variable {s s' : WorkSite}

/-- A consumer does not move the clock, and it leaves the link alone unless it publishes. -/
theorem of_consumer {r : ConsumerWork} {a : r.Answer} (allowed : s.AllowsConsumer r a s') :
    s'.clock = s.clock ∧ ((∀ q, r ≠ .publishing q) → s'.link = s.link) := by
  cases r with
  | consumer r =>
    cases r with
    | isStopping | brokerUnlessStopped | next | pause =>
      obtain ⟨_, rfl⟩ := allowed
      exact ⟨rfl, fun _ => rfl⟩
    | broker | resolve =>
      obtain rfl := allowed
      exact ⟨rfl, fun _ => rfl⟩
    | process => exact allowed.elim
  | job r =>
    cases r with
    | isStopping | pause | download | upload =>
      obtain ⟨_, rfl⟩ := allowed
      exact ⟨rfl, fun _ => rfl⟩
    | announce | announceUnlessStopped => exact allowed.elim
    | save | transform | schedule | elapsed | note =>
      obtain rfl := allowed
      exact ⟨rfl, fun _ => rfl⟩
  | publishing r =>
    obtain ⟨link, within, rfl⟩ := allowed
    exact ⟨rfl, fun other => absurd rfl (other r)⟩
  | givenUp =>
    obtain ⟨_, rfl⟩ := allowed
    exact ⟨rfl, fun _ => rfl⟩

end WorkSite

abbrev PoolRun := PoolWorkProgram (PoolState ⊕ Except JobError Unit)

abbrev ConsumerRun := ConsumerWorkProgram (ConsumerState ⊕ ConsumerEnd)

/-- A consumer that was started, and what is left of its turn. -/
abbrev StartedConsumer := Consumer × ConsumerRun

def ConsumerRun.isOver : ConsumerRun → Bool
  | .done (.inr _) => true
  | _ => false

/-- One moment of a pool at work. -/
structure PoolMoment where
  site : WorkSite
  pool : PoolRun
  /-- When the pool had its last answer. -/
  since : Nat
  consumers : List StartedConsumer

namespace PoolMoment

def allOver (t : PoolMoment) : Bool := t.consumers.all fun c => ConsumerRun.isOver c.2

def result : PoolMoment → Option (Except JobError Unit)
  | ⟨_, .done (.inr result), _, _⟩ => some result
  | _ => none

end PoolMoment

/-- A publisher does not wait while it leaves a note; while it waits, it can be given up. -/
def PublisherRequest.isNote : PublisherRequest → Bool
  | broker (.note _) => true
  | _ => false

namespace Workshop

variable (w : Workshop)

/-- Establishing the link is only given up for shutdown. -/
def Patient (s : WorkSite) : (r : TimedRequest) → r.Answer → Prop
  | .inTime r, none => s.clock.isStopped = true ∧ r.isNote = false
  | _, _ => True

/-- What may follow a question of the pool that it has been waiting for `since` a moment. -/
def AllowsPool (s : WorkSite) (since : Nat) (consumers : List StartedConsumer) :
    (r : PoolWork) → r.Answer → WorkSite → List StartedConsumer → Prop
  | .establishing r, a, s', consumers' =>
    Patient s r a ∧ (∃ link, s.link.AllowsWithin r a link ∧ s' = { s with link := link }) ∧
      consumers' = consumers
  | .closing r, a, s', consumers' =>
    (∃ link, s.link.Allows r a link ∧ s' = { s with link := link }) ∧ consumers' = consumers
  | .pool (.pause _), a, s', consumers' => s.Yields a ∧ s' = s ∧ consumers' = consumers
  | .pool (.spawn c), _, s', consumers' =>
    s' = s ∧ consumers' = consumers ++ [(c, w.consumerTurn c Consumer.start)]
  | .pool .awaitShutdown, _, s', consumers' =>
    s.clock.isStopped = true ∧ s' = s ∧ consumers' = consumers
  | .pool (.join limit), a, s', consumers' =>
    a = consumers.all (fun c => ConsumerRun.isOver c.2) ∧
      (a = false → s.clock.isOver since limit = true) ∧ s' = s ∧ consumers' = consumers
  | .pool .pending, a, s', consumers' => a = s.pending ∧ s' = s ∧ consumers' = consumers
  | .pool (.waitIdle limit), a, s', consumers' =>
    (a = true → s.pending = 0) ∧ (a = false → s.clock.isOver since limit = true) ∧ s' = s ∧
      consumers' = consumers
  | .pool (.note _), _, s', consumers' => s' = s ∧ consumers' = consumers
  | .pool .establish, _, _, _ | .pool .shutStatus, _, _, _ => False

variable {w} in
/-- What is not about the link changes nothing that is shared. -/
theorem site_of_pool {s s' : WorkSite} {since : Nat} {team team' : List StartedConsumer}
    {r : PoolRequest} {a : r.Answer} (allowed : w.AllowsPool s since team (.pool r) a s' team') :
    s' = s := by
  cases r with
  | establish | shutStatus => exact allowed.elim
  | pause | awaitShutdown | pending => exact allowed.2.1
  | spawn | note => exact allowed.1
  | join | waitIdle => exact allowed.2.2.1

variable {w} in
/-- The pool does not move the clock, and it dismisses nobody. -/
theorem team_of_pool {s s' : WorkSite} {since : Nat} {team team' : List StartedConsumer}
    {r : PoolWork} {a : r.Answer} (allowed : w.AllowsPool s since team r a s' team') :
    s'.clock = s.clock ∧
      (team' = team ∨ ∃ c, team' = team ++ [(c, w.consumerTurn c Consumer.start)]) := by
  cases r with
  | establishing =>
    obtain ⟨_, ⟨link, _, rfl⟩, rfl⟩ := allowed
    exact ⟨rfl, .inl rfl⟩
  | closing =>
    obtain ⟨⟨link, _, rfl⟩, rfl⟩ := allowed
    exact ⟨rfl, .inl rfl⟩
  | pool r =>
    refine ⟨congrArg WorkSite.clock (site_of_pool allowed), ?_⟩
    cases r with
    | establish | shutStatus => exact allowed.elim
    | spawn c => exact .inr ⟨c, allowed.2⟩
    | note => exact .inl allowed.2
    | pause | awaitShutdown | pending => exact .inl allowed.2.2
    | join | waitIdle => exact .inl allowed.2.2.2

inductive Step : PoolMoment → PoolMoment → Prop where
  | pool {s s' : WorkSite} {since : Nat} {consumers consumers' : List StartedConsumer}
      {r : PoolWork} {a : r.Answer} {k : r.Answer → PoolRun} :
      w.AllowsPool s since consumers r a s' consumers' →
        Step ⟨s, .ask r k, since, consumers⟩ ⟨s', k a, s.clock.now, consumers'⟩
  | turn {s : WorkSite} {since : Nat} {consumers : List StartedConsumer} {x : PoolState} :
      Step ⟨s, .done (.inl x), since, consumers⟩ ⟨s, w.poolTurn x, since, consumers⟩
  | consumer {s s' : WorkSite} {pool : PoolRun} {since : Nat}
      {before after : List StartedConsumer} {c : Consumer} {r : ConsumerWork} {a : r.Answer}
      {k : r.Answer → ConsumerRun} :
      s.AllowsConsumer r a s' →
        Step ⟨s, pool, since, before ++ (c, .ask r k) :: after⟩
          ⟨s', pool, since, before ++ (c, k a) :: after⟩
  | consumerTurn {s : WorkSite} {pool : PoolRun} {since : Nat}
      {before after : List StartedConsumer} {c : Consumer} {x : ConsumerState} :
      Step ⟨s, pool, since, before ++ (c, .done (.inl x)) :: after⟩
        ⟨s, pool, since, before ++ (c, w.consumerTurn c x) :: after⟩
  | drifts {s s' : WorkSite} {pool : PoolRun} {since : Nat} {consumers : List StartedConsumer} :
      s.Drifts s' → Step ⟨s, pool, since, consumers⟩ ⟨s', pool, since, consumers⟩

def opening (stopAt : Option Nat) : PoolMoment :=
  ⟨⟨.start stopAt, .initial, 0, 0⟩, w.poolTurn .fresh, 0, []⟩

/-- The moments up to the present one, of a pool for which shutdown fires at `stopAt`. -/
inductive Course (stopAt : Option Nat) : List PoolMoment → PoolMoment → Prop where
  | start : Course stopAt [] (w.opening stopAt)
  | step {past : List PoolMoment} {t u : PoolMoment} :
      Course stopAt past t → w.Step t u → Course stopAt (past ++ [t]) u

inductive Leads : PoolMoment → PoolMoment → Prop where
  | here (t : PoolMoment) : Leads t t
  | step {t u v : PoolMoment} : w.Step t u → Leads u v → Leads t v

end Workshop

end ImageWorker
