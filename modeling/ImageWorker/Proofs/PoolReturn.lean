import ImageWorker.Proofs.JobStore
import ImageWorker.Proofs.PoolLocks
import ImageWorker.Proofs.PublisherCalls

/-!
# The return of a pool

After shutdown, and as long as no consumer runs, a pool is never stuck: given some time, each of its
questions has an answer. A turn asks only so many questions, and so the pool can return. Together
with what is known of an orderly pool, `pool_in_order` says what holds of a pool at every moment.
-/

namespace ImageWorker

/-- While shutdown has fired, whoever establishes the link need not wait. -/
theorem Workshop.exists_answer_establishing (site : WorkSite)
    (stopped : site.clock.isStopped = true) (r : TimedRequest) :
    ∃ a link, Workshop.Patient site r a ∧ site.link.AllowsWithin r a link := by
  cases r with
  | giveBack lock => exact ⟨(), _, trivial, rfl⟩
  | inTime r =>
    cases r with
    | broker r =>
      by_cases note : (PublisherRequest.broker r).isNote = true
      · cases r with
        | note => exact ⟨some (), _, trivial, rfl⟩
        | _ => cases note
      · exact ⟨none, _, ⟨stopped, Bool.eq_false_iff.mpr note⟩, .inl rfl⟩
    | observe | acquire => exact ⟨none, _, ⟨stopped, rfl⟩, rfl⟩
    | wasEstablished => exact ⟨some _, _, trivial, rfl, rfl⟩
    | setEstablished | release => exact ⟨some (), _, trivial, rfl⟩
    | replace | take => exact ⟨some _, _, trivial, rfl, rfl⟩

/-- From here the pool can come to its return. -/
def Workshop.Returns (w : Workshop) (t : PoolMoment) : Prop :=
  ∃ u, w.Leads t u ∧ u.result = some (.ok ())

theorem Workshop.Returns.step {w : Workshop} {t u : PoolMoment} (step : w.Step t u)
    (returns : w.Returns u) : w.Returns t := by
  obtain ⟨v, leads, result⟩ := returns
  exact ⟨v, .step step leads, result⟩

/-- After shutdown, as long as no consumer runs. -/
structure Returning (w : Workshop) (stopAt : Option Nat) (t : PoolMoment) : Prop where
  course : ∃ past, w.Course stopAt past t
  stopped : t.site.clock.isStopped = true
  idle : ∀ c ∈ t.consumers,
    ConsumerRun.isOver c.2 = true ∨ c.2 = w.consumerTurn c.1 Consumer.start

namespace Returning

variable {w : Workshop} {stopAt : Option Nat} {past : List PoolMoment} {t : PoolMoment}
  {site : WorkSite} {since : Nat} {team : List StartedConsumer} {r : PoolWork}
  {k : r.Answer → PoolRun}

/-- A consumer that does nothing holds nothing. -/
theorem eq_nil_of_idle {c : StartedConsumer} {own : List PublisherLock}
    (idle : ConsumerRun.isOver c.2 = true ∨ c.2 = w.consumerTurn c.1 Consumer.start)
    (conforms : consumerKeeping.Conforms Unlocked own c.2) : own = [] := by
  rcases idle with isOver | start
  · unfold ConsumerRun.isOver at isOver
    split at isOver
    next ended =>
      rw [ended] at conforms
      exact conforms
    next => cases isOver
  · obtain ⟨k, asks, stops⟩ := w.consumerTurn_start c.1
    rw [start, asks] at conforms
    obtain ⟨_, rfl, rest⟩ := conforms true
    rw [stops] at rest
    exact rest

/-- Only the pool can hold a lock. -/
theorem owner (returning : Returning w stopAt t) {lock : PublisherLock}
    (held : lock ∈ t.site.link.held) :
    ∃ own, lock ∈ own ∧ poolKeeping.Conforms Unlocked own t.pool := by
  obtain ⟨_, course⟩ := returning.course
  rcases course.locksOwned.owner lock held with mine | ⟨c, mem, own, theirs, conforms⟩
  · exact mine
  · rw [eq_nil_of_idle (returning.idle c mem) conforms] at theirs
    cases theirs

/-- A lock that the pool asks for is free. -/
theorem free {lock : PublisherLock}
    {k : (PoolWork.closing (.acquire lock)).Answer → PoolRun}
    (returning : Returning w stopAt ⟨site, .ask (.closing (.acquire lock)) k, since, team⟩) :
    site.link.isHeld lock = false := by
  refine Bool.eq_false_iff.mpr fun held => ?_
  obtain ⟨own, mine, conforms⟩ := returning.owner (List.contains_iff_mem.mp held)
  obtain ⟨_, ⟨free, _⟩, _⟩ := conforms ()
  exact free lock rfl mine

theorem passes {pool : PoolRun} (returning : Returning w stopAt ⟨site, pool, since, team⟩)
    (millis : Nat) :
    Returning w stopAt
      ⟨{ site with clock := site.clock.pass millis }, pool, since, team⟩ where
  course := by
    obtain ⟨past, course⟩ := returning.course
    exact ⟨_, course.step (.drifts (.passes millis))⟩
  stopped := WorkSite.isStopped_mono (s := site) rfl (Nat.le_add_right ..) returning.stopped
  idle := returning.idle

theorem answers {a : r.Answer} {site' : WorkSite} {team' : List StartedConsumer}
    (returning : Returning w stopAt ⟨site, .ask r k, since, team⟩)
    (allowed : w.AllowsPool site since team r a site' team') :
    Returning w stopAt ⟨site', k a, site.clock.now, team'⟩ := by
  obtain ⟨clock, grows⟩ := Workshop.team_of_pool allowed
  obtain ⟨past, course⟩ := returning.course
  refine ⟨⟨_, course.step (.pool allowed)⟩, ?_, fun c mem => ?_⟩
  · exact (congrArg Clock.isStopped clock).trans returning.stopped
  · rcases grows with rfl | ⟨new, rfl⟩
    · exact returning.idle c mem
    · rcases List.mem_append.mp mem with old | new
      · exact returning.idle c old
      · obtain rfl := List.mem_singleton.mp new
        exact .inr rfl

theorem turns {x : PoolState} (returning : Returning w stopAt ⟨site, .done (.inl x), since, team⟩) :
    Returning w stopAt ⟨site, w.poolTurn x, since, team⟩ where
  course := by
    obtain ⟨past, course⟩ := returning.course
    exact ⟨_, course.step .turn⟩
  stopped := returning.stopped
  idle := returning.idle

theorem isOver_pass {c : Clock} {limit : Duration} (le : since ≤ c.now) :
    (c.pass limit.nanos).isOver since limit = true := by
  refine decide_eq_true ?_
  show since * 1000000 + limit.nanos ≤ (c.now + limit.nanos) * 1000000
  omega

/-- Some time later the pool has an answer. -/
theorem exists_answer (returning : Returning w stopAt ⟨site, .ask r k, since, team⟩) :
    ∃ millis a site' team',
      w.AllowsPool { site with clock := site.clock.pass millis } since team r a site' team' := by
  obtain ⟨past, course⟩ := returning.course
  obtain ⟨s, orderly⟩ := course.orderly
  have stopped := (returning.passes 0).stopped
  cases r with
  | establishing r =>
    obtain ⟨a, link, patient, within⟩ := Workshop.exists_answer_establishing _ stopped r
    exact ⟨0, a, _, team, patient, ⟨link, within, rfl⟩, rfl⟩
  | closing r =>
    obtain ⟨answer⟩ := r.nonempty_answer
    obtain ⟨s', phase, _⟩ := orderly.conforms answer
    cases phase with
    | locks => exact ⟨0, (), _, team, ⟨_, ⟨returning.free, rfl⟩, rfl⟩, rfl⟩
    | takes => exact ⟨0, site.link.stored, _, team, ⟨_, ⟨rfl, rfl⟩, rfl⟩, rfl⟩
    | closes | releases | leaves => exact ⟨0, (), _, team, ⟨_, rfl, rfl⟩, rfl⟩
    | never => exact orderly.fits.elim
  | pool r =>
    cases r with
    | establish =>
      obtain ⟨s', phase, _⟩ := orderly.conforms .stopped
      cases phase with
      | never => exact orderly.fits.elim
    | shutStatus =>
      obtain ⟨s', phase, _⟩ := orderly.conforms ()
      cases phase with
      | never => exact orderly.fits.elim
    | pause => exact ⟨0, .stopped, _, team, fun _ => stopped, rfl, rfl⟩
    | spawn c => exact ⟨0, (), _, _, rfl, rfl⟩
    | awaitShutdown => exact ⟨0, (), _, team, stopped, rfl, rfl⟩
    | join limit =>
      exact ⟨limit.nanos, _, _, team, rfl, fun _ => isOver_pass orderly.since, rfl, rfl⟩
    | pending => exact ⟨0, site.pending, _, team, rfl, rfl, rfl⟩
    | waitIdle limit =>
      exact ⟨limit.nanos, false, _, team, nofun, fun _ => isOver_pass orderly.since, rfl, rfl⟩
    | note => exact ⟨0, (), _, team, rfl, rfl⟩

variable {s : PoolPhase}

theorem returns_of_answers
    (returning : Returning w stopAt ⟨site, .ask r k, since, team⟩)
    (orderly : Orderly w stopAt past ⟨site, .ask r k, since, team⟩ s)
    (next : ∀ a site' since' team' past' s', PoolPhase.Allows w.pool s r a s' →
      Returning w stopAt ⟨site', k a, since', team'⟩ →
      Orderly w stopAt past' ⟨site', k a, since', team'⟩ s' →
      w.Returns ⟨site', k a, since', team'⟩) :
    w.Returns ⟨site, .ask r k, since, team⟩ := by
  obtain ⟨millis, a, site', team', allowed⟩ := returning.exists_answer
  have drifts : site.Drifts { site with clock := site.clock.pass millis } := .passes millis
  have calm := drifts.calm
  have later := orderly.calm
    (u := ⟨{ site with clock := site.clock.pass millis }, .ask r k, since, team⟩)
    orderly.conforms calm rfl (Nat.le_refl _) (Nat.le_trans orderly.since calm.now_le)
  obtain ⟨s', phase, orderly'⟩ := later.pool allowed
  exact .step (.drifts drifts) (.step (.pool allowed)
    (next _ _ _ _ _ s' phase ((returning.passes millis).answers allowed) orderly'))

theorem returns_of_late {p : PoolRun} (returning : Returning w stopAt ⟨site, p, since, team⟩)
    (orderly : Orderly w stopAt past ⟨site, p, since, team⟩ s)
    (late : s ≠ .opening ∧ s ≠ .refused) : w.Returns ⟨site, p, since, team⟩ := by
  induction p generalizing site since team past s with
  | done a =>
    have ends : s.Ends a := orderly.conforms
    obtain rfl : a = .inr (.ok ()) := by
      cases s with
      | refused => exact absurd rfl late.2
      | opening => exact absurd rfl late.1
      | leaving | idle | overdue => exact ends
      | never => exact orderly.fits.elim
      | _ => exact ends.elim
    exact ⟨_, .here _, rfl⟩
  | ask r k ih =>
    refine returning.returns_of_answers orderly ?_
    intro a _ _ _ _ s' phase returning' orderly'
    refine ih a returning' orderly' ?_
    cases phase with
    | notes => exact late
    | tries | sets | givesWay | pauses | isStopped => exact absurd rfl late.1
    | _ => exact ⟨nofun, nofun⟩

/-- To establish the link, the pool first waits for the right to open one. -/
theorem poolTurn_establishing (w : Workshop) (failures : FailureStreak) :
    ∃ k, w.poolTurn (.establishing failures) =
      .ask (.establishing (.inTime (.acquire .reconnect))) k := by
  obtain ⟨k, first⟩ : ∃ k, TimedProgram.ofPublisher [] w.route.establish =
      .ask (.inTime (.acquire .reconnect)) k := by
    rw [StatusRoute.establish, PublisherProgram.holding, TimedProgram.ofPublisher]
    exact ⟨_, rfl⟩
  show ∃ k, Program.bind (Program.bind
    (Program.translate _ (TimedProgram.ofPublisher [] w.route.establish)) _) _ = Program.ask _ k
  rw [first]
  exact ⟨_, rfl⟩

/-- A turn that begins after shutdown can be given up at its first question. -/
theorem returns_of_turn {failures : FailureStreak}
    (returning : Returning w stopAt ⟨site, .done (.inl (.establishing failures)), since, team⟩)
    (orderly : Orderly w stopAt past ⟨site, .done (.inl (.establishing failures)), since, team⟩
      .opening) :
    w.Returns ⟨site, .done (.inl (.establishing failures)), since, team⟩ := by
  obtain ⟨k, asks⟩ := poolTurn_establishing w failures
  have turned := orderly.turn
  have returning' := returning.turns
  refine .step .turn ?_
  rw [asks] at turned returning' ⊢
  have allowed : w.AllowsPool site since team (.establishing (.inTime (.acquire .reconnect))) none
      site team :=
    ⟨⟨returning.stopped, rfl⟩, ⟨site.link, rfl, rfl⟩, rfl⟩
  obtain ⟨s', phase, orderly'⟩ := turned.pool allowed
  cases phase with
  | givesWay =>
    exact .step (.pool allowed)
      ((returning'.answers allowed).returns_of_late orderly' ⟨nofun, nofun⟩)

theorem returns {p : PoolRun} (returning : Returning w stopAt ⟨site, p, since, team⟩)
    (orderly : Orderly w stopAt past ⟨site, p, since, team⟩ s) (works : s ≠ .refused) :
    w.Returns ⟨site, p, since, team⟩ := by
  induction p generalizing site since team past s with
  | done a =>
    by_cases opening : s = .opening
    · subst opening
      obtain ⟨failures, rfl⟩ : PoolPhase.Ends .opening a := orderly.conforms
      exact returning.returns_of_turn orderly
    · exact returning.returns_of_late orderly ⟨opening, works⟩
  | ask r k ih =>
    refine returning.returns_of_answers orderly ?_
    intro a _ _ _ _ s' phase returning' orderly'
    refine ih a returning' orderly' ?_
    cases phase with
    | notes => exact works
    | _ => nofun

end Returning

section Results

open PoolMoment

variable {w : Workshop} {stopAt : Option Nat} {past : List PoolMoment} {t : PoolMoment}

theorem PoolMoment.pool_of_result {result : Except JobError Unit}
    (returned : t.result = some result) : t.pool = .done (.inr result) := by
  unfold PoolMoment.result at returned
  split at returned
  next =>
    obtain rfl := Option.some.inj returned
    rfl
  next => cases returned

/-- A pool without workers has its result from the start. -/
theorem Workshop.Course.refused (course : w.Course stopAt past t)
    (none : w.pool.broker.totalWorkers = 0) :
    t.pool = .done (.inr (.error (.config .noJobQueues))) := by
  induction course with
  | start =>
    show Program.translate w.poolWork (if w.pool.broker.totalWorkers = 0 then _ else _) = _
    rw [if_pos none]
    rfl
  | step _ step ih =>
    cases step with
    | pool => cases ih
    | turn => cases ih
    | consumer | consumerTurn | drifts => exact ih

section Orderly

variable {s : PoolPhase}

/-- Where a pool stands that has returned without a fault. -/
theorem Orderly.of_returned (orderly : Orderly w stopAt past t s)
    (returned : t.result = some (.ok ())) :
    s = .leaving ∨ ∃ ended, s = .idle ended ∨ s = .overdue ended := by
  have ends := orderly.conforms
  rw [pool_of_result returned] at ends
  cases s with
  | leaving => exact .inl rfl
  | idle ended => exact .inr ⟨ended, .inl rfl⟩
  | overdue ended => exact .inr ⟨ended, .inr rfl⟩
  | refused => cases (Sum.inr.inj ends : Except.ok () = _)
  | opening => cases ends.choose_spec
  | never => exact orderly.fits.elim
  | _ => exact ends.elim

theorem Orderly.emptied (orderly : Orderly w stopAt past t s)
    (returned : t.result = some (.ok ())) (known : t.site.link.established = true) :
    ∃ ended, (s = .idle ended ∨ s = .overdue ended) ∧ Emptied w t past ended := by
  rcases orderly.of_returned returned with rfl | ⟨ended, rfl | rfl⟩
  · have unready : t.Unready := orderly.fits.1
    exact absurd (unready.established.symm.trans known) Bool.false_ne_true
  · exact ⟨ended, .inl rfl, orderly.fits.1⟩
  · exact ⟨ended, .inr rfl, orderly.fits.1⟩

theorem Orderly.refused (orderly : Orderly w stopAt past t s)
    (none : w.pool.broker.totalWorkers = 0) :
    t.site.link.opened = 0 ∧ t.site.dialed = 0 ∧ t.consumers = [] := by
  obtain rfl := orderly.refused_iff.mpr none
  obtain ⟨unready, unopened⟩ := orderly.fits
  exact ⟨unopened, unready.dialed, unready.consumers⟩

/-- Once shutdown was found ahead of the link, no consumer gets anywhere. -/
theorem Orderly.stillborn (orderly : Orderly w stopAt past t s)
    (came : ∃ m ∈ past ++ [t], m.Forestalled) : t.Stillborn w := by
  obtain ⟨m, mem, forestalled⟩ := came
  rcases List.mem_append.mp mem with old | new
  · exact orderly.forestalled ⟨m, old, forestalled⟩
  · obtain rfl := List.mem_singleton.mp new
    exact orderly.fits.stillborn forestalled

/-- If the consumers end in time, the pool leaves all in order. -/
theorem Orderly.finished (orderly : Orderly w stopAt past t s)
    (returned : t.result = some (.ok ())) (known : t.site.link.established = true)
    (inTime : ∀ m ∈ past, m.Overtime w → m.allOver = true) :
    t.allOver = true ∧ t.site.link.stored = none ∧
      (∀ m ∈ past, m.IsOver w → t.site.link.opened = m.site.link.opened ∧
        ∀ link, m.site.link.stored = some link → link ∈ t.site.link.closed) ∧
      (t.site.pending = 0 ∨ ∃ m ∈ past, m.WaitedOut w) := by
  obtain ⟨ended, phase, emptied⟩ := orderly.emptied returned known
  cases ended with
  | false =>
    obtain ⟨m, mem, runs, late⟩ := emptied.overran rfl
    exact absurd (runs.symm.trans (inTime m mem late)) Bool.false_ne_true
  | true =>
    refine ⟨emptied.finished rfl, emptied.missing rfl, fun m mem isOver => ?_, ?_⟩
    · obtain ⟨_, opened, follows⟩ := orderly.sequel m mem isOver
      refine ⟨opened, ?_⟩
      rcases phase with rfl | rfl <;> exact follows
    · rcases phase with rfl | rfl
      · exact .inl (orderly.fits.2 rfl)
      · exact .inr orderly.fits.2

end Orderly

theorem Workshop.Course.returns (course : w.Course stopAt past t)
    (some : w.pool.broker.totalWorkers ≠ 0) (stopped : t.site.clock.isStopped = true)
    (idle : ∀ c ∈ t.consumers,
      ConsumerRun.isOver c.2 = true ∨ c.2 = w.consumerTurn c.1 Consumer.start) : w.Returns t := by
  obtain ⟨s, orderly⟩ := course.orderly
  have returning : Returning w stopAt t := ⟨⟨past, course⟩, stopped, idle⟩
  exact returning.returns orderly fun none => some (orderly.refused_iff.mp none)

end Results

namespace Workshop

/-- An answer that a pool gets if nothing goes wrong, as soon as there is one. -/
def answerPool (w : Workshop) (s : WorkSite) (since : Nat) (team : List StartedConsumer) :
    (r : PoolWork) → Option (r.Answer × WorkSite × List StartedConsumer)
  | .establishing (.inTime r) =>
    (s.link.answerAlone r).map fun (a, link) => (some a, { s with link := link }, team)
  | .closing r => (s.link.answerAlone r).map fun (a, link) => (a, { s with link := link }, team)
  | .pool (.spawn c) => some ((), s, team ++ [(c, w.consumerTurn c Consumer.start)])
  | .pool .awaitShutdown => if s.clock.isStopped then some ((), s, team) else none
  | .pool (.join limit) =>
    let ended := team.all fun c => ConsumerRun.isOver c.2
    if ended || s.clock.isOver since limit then some (ended, s, team) else none
  | .pool .pending => some (s.pending, s, team)
  | .pool (.note _) => some ((), s, team)
  | _ => none

end Workshop

inductive ShiftEvent where
  /-- The pool goes on. -/
  | pool
  /-- The first consumer is told whether to stop. -/
  | consumer
  | passes (millis : Nat)

namespace Workshop

def next (w : Workshop) : ShiftEvent → PoolMoment → Option PoolMoment
  | .pool, ⟨site, .ask r k, since, team⟩ =>
    (w.answerPool site since team r).map fun (a, site', team') =>
      ⟨site', k a, site.clock.now, team'⟩
  | .pool, ⟨site, .done (.inl x), since, team⟩ => some ⟨site, w.poolTurn x, since, team⟩
  | .consumer, ⟨site, pool, since, (c, .ask (.consumer .isStopping) k) :: rest⟩ =>
    some ⟨site, pool, since, (c, k site.clock.isStopped) :: rest⟩
  | .passes millis, t => some { t with site.clock := t.site.clock.pass millis }
  | _, _ => none

def after (w : Workshop) : List ShiftEvent → PoolMoment → Option PoolMoment
  | [], t => some t
  | e :: es, t => (w.next e t).bind (w.after es)

end Workshop

end ImageWorker
