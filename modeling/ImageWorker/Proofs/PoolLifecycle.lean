import ImageWorker.Proofs.PoolPhases
import ImageWorker.Proofs.QueueLists
import ImageWorker.Proofs.PublisherAttempts

/-!
# The life of a pool

`PoolPhase.Fits` is what is true of a pool in each phase. `Orderly` also looks back: if shutdown
once came ahead of the link, no consumer has connected, and if all consumers had ended before, no
link was opened since, and the one in its place was taken out and closed. Each step of a course
leaves an orderly pool orderly, whoever takes it, so a pool is orderly at every moment.
-/

namespace ImageWorker

open Surroundings

namespace SharedLink

variable {s s' : SharedLink}

theorem like_of_allows {r : PublisherRequest} {a : r.Answer} (allowed : s.Allows r a s') :
    (s.effect r a).Like s' :=
  like_of_allowed ⟨[], allowed⟩

theorem effect_established {r : PublisherRequest} {a : r.Answer} (other : r ≠ .setEstablished) :
    (s.effect r a).established = s.established := by
  cases r with
  | setEstablished => exact absurd rfl other
  | broker r =>
    cases r with
    | connect | publish => cases a <;> rfl
    | _ => rfl
  | _ => rfl

/-- Only who establishes the link says that it is established. -/
theorem established_of_within {r : TimedRequest} {a : r.Answer} (allowed : s.AllowsWithin r a s')
    (other : r ≠ .inTime .setEstablished) : s'.established = s.established := by
  cases r with
  | giveBack =>
    obtain rfl := allowed
    rfl
  | inTime r =>
    have other' : r ≠ .setEstablished := fun same => other (congrArg _ same)
    cases a with
    | some a => exact (like_of_allows allowed).established.trans (effect_established other')
    | none =>
      cases r with
      | broker r =>
        rcases allowed with rfl | ⟨a, allowed⟩
        · rfl
        · exact (like_of_allows (r := .broker r) allowed).established.trans
            (effect_established nofun)
      | observe | acquire =>
        obtain rfl := allowed
        rfl
      | _ => exact allowed.elim

theorem established_mono {r : TimedRequest} {a : r.Answer} (allowed : s.AllowsWithin r a s')
    (known : s.established = true) : s'.established = true := by
  by_cases same : r = .inTime .setEstablished
  · subst same
    cases a with
    | some =>
      obtain rfl : s' = { s with established := true } := allowed
      rfl
    | none => exact allowed.elim
  · rw [established_of_within allowed same, known]

end SharedLink

namespace PoolMoment

variable (w : Workshop) (t : PoolMoment)

def started : List Consumer := t.consumers.map Prod.fst

/-- All consumers were started, and all have ended. -/
def IsOver : Prop := t.started = w.pool.consumers ∧ t.allOver = true

/-- Shutdown has fired, and there has never been a link. -/
def Forestalled : Prop := t.site.clock.isStopped = true ∧ t.site.link.established = false

/-- The time for the consumers to end is over. -/
def Overtime : Prop :=
  ∃ moment, t.site.clock.stopAt = some moment ∧
    t.site.clock.isOver moment w.pool.settings.shutdownTimeout = true

/-- The pool waits for cleanups, and has waited as long as it may. -/
def WaitedOut : Prop :=
  (∃ k, t.pool = .ask (.pool (.waitIdle w.pool.settings.shutdownTimeout)) k) ∧
    t.site.clock.isOver t.since w.pool.settings.shutdownTimeout = true

/-- Nothing was done before there was a link. -/
structure Unready : Prop where
  established : t.site.link.established = false
  consumers : t.consumers = []
  dialed : t.site.dialed = 0

structure Staffed : Prop where
  established : t.site.link.established = true
  started : t.started = w.pool.consumers

structure Joined (past : List PoolMoment) (ended : Bool) : Prop extends Staffed w t where
  finished : ended = true → t.allOver = true
  overran : ended = false → ∃ m ∈ past, m.allOver = false ∧ m.Overtime w

/-- The consumers were waited for, and the link is no longer in its place. -/
structure Emptied (past : List PoolMoment) (ended : Bool) : Prop extends Joined w t past ended where
  missing : ended = true → t.site.link.stored = none

/-- Shutdown came first: no consumer gets beyond its first question. -/
structure Stillborn : Prop where
  stopped : t.site.clock.isStopped = true
  dialed : t.site.dialed = 0
  consumers : ∀ c ∈ t.consumers,
    c.2 = w.consumerTurn c.1 Consumer.start ∨ c.2 = .done (.inr .stopped)

end PoolMoment

namespace PoolPhase

open PoolMoment

def Fits (w : Workshop) (past : List PoolMoment) (t : PoolMoment) : PoolPhase → Prop
  | refused => t.Unready ∧ t.site.link.opened = 0
  | opening => t.Unready
  | leaving => t.Unready ∧ t.site.clock.isStopped = true
  | serving started => t.site.link.established = true ∧
    t.started = started ∧ started <+: w.pool.consumers
  | stopping => Staffed w t ∧
    ∃ moment, t.site.clock.stopAt = some moment ∧ moment ≤ t.since
  | joined ended => Joined w t past ended
  | taken ended _ | closed ended | draining ended =>
    Emptied w t past ended
  | idle ended => Emptied w t past ended ∧
    (ended = true → t.site.pending = 0)
  | overdue ended => Emptied w t past ended ∧
    ∃ m ∈ past, m.WaitedOut w
  | never => False

/-- What became of the link that was in its place when all was over. -/
def Follows (m t : PoolMoment) : PoolPhase → Prop
  | taken true found => m.site.link.stored = found ∨ m.site.link.stored = none
  | closed true | draining true | idle true | overdue true =>
    ∀ link, m.site.link.stored = some link → link ∈ t.site.link.closed
  | taken false _ | closed false | draining false | idle false | overdue false => True
  | _ => m.site.link.stored = t.site.link.stored

end PoolPhase

structure Orderly (w : Workshop) (stopAt : Option Nat) (past : List PoolMoment) (t : PoolMoment)
    (s : PoolPhase) : Prop where
  conforms : w.pool.phases.Conforms PoolPhase.Ends s t.pool
  refused_iff : s = .refused ↔ w.pool.broker.totalWorkers = 0
  stopAt : t.site.clock.stopAt = stopAt
  since : t.since ≤ t.site.clock.now
  fits : s.Fits w past t
  forestalled : (∃ m ∈ past, m.Forestalled) → t.Stillborn w
  sequel : ∀ m ∈ past, m.IsOver w →
    t.IsOver w ∧ t.site.link.opened = m.site.link.opened ∧ s.Follows m t

namespace WorkSite

/-- Nothing has changed but what changes by itself, and locks. -/
structure Calm (s s' : WorkSite) : Prop where
  stopAt : s'.clock.stopAt = s.clock.stopAt
  now_le : s.clock.now ≤ s'.clock.now
  established : s'.link.established = s.link.established
  stored : s'.link.stored = s.link.stored
  opened : s'.link.opened = s.link.opened
  closed : s'.link.closed = s.link.closed
  dialed : s'.dialed = s.dialed
  settled : s.pending = 0 → s'.pending = 0

variable {s s' : WorkSite}

theorem Calm.refl (s : WorkSite) : s.Calm s :=
  ⟨rfl, Nat.le_refl _, rfl, rfl, rfl, rfl, rfl, id⟩

theorem Calm.relocks (s : WorkSite) (locks : List PublisherLock) :
    s.Calm { s with link := { s.link with held := locks } } :=
  ⟨rfl, Nat.le_refl _, rfl, rfl, rfl, rfl, rfl, id⟩

theorem Drifts.calm (drifts : s.Drifts s') : s.Calm s' := by
  cases drifts with
  | passes millis => exact ⟨rfl, Nat.le_add_right .., rfl, rfl, rfl, rfl, rfl, id⟩
  | dies death =>
    obtain ⟨_, rfl⟩ := death
    exact ⟨rfl, Nat.le_refl _, rfl, rfl, rfl, rfl, rfl, id⟩
  | cleansUp pending =>
    refine ⟨rfl, Nat.le_refl _, rfl, rfl, rfl, rfl, rfl, fun none => ?_⟩
    exact absurd (pending.symm.trans none) (Nat.succ_ne_zero _)

theorem isStopped_mono (same : s'.clock.stopAt = s.clock.stopAt)
    (later : s.clock.now ≤ s'.clock.now) (stopped : s.clock.isStopped = true) :
    s'.clock.isStopped = true := by
  rw [Clock.isStopped, Option.any_eq_true] at stopped ⊢
  obtain ⟨moment, fires, past⟩ := stopped
  refine ⟨moment, same.trans fires, decide_eq_true ?_⟩
  exact Nat.le_trans (of_decide_eq_true past) later

end WorkSite

section Steps

open PoolMoment

variable {w : Workshop} {stopAt : Option Nat} {past : List PoolMoment} {t u : PoolMoment}
  {s s' : PoolPhase}

/-- Once the consumers have ended and the link was taken, there is none. -/
theorem PoolMoment.Emptied.follows (emptied : Emptied w t past true) (link : LinkId)
    (stored : t.site.link.stored = some link) : link ∈ t.site.link.closed :=
  absurd (stored.symm.trans (emptied.missing rfl)) (Option.some_ne_none _)

/-- The link that is in its place is looked after. -/
theorem PoolPhase.Fits.follows (fits : s.Fits w past t) : s.Follows t t := by
  cases s with
  | never => exact fits.elim
  | taken ended =>
    cases ended with
    | true => exact .inr (PoolMoment.Emptied.missing fits rfl)
    | false => trivial
  | closed ended | draining ended =>
    cases ended with
    | true => exact PoolMoment.Emptied.follows fits
    | false => trivial
  | idle ended | overdue ended =>
    cases ended with
    | true => exact fits.1.follows
    | false => trivial
  | _ => rfl

theorem PoolPhase.Fits.unready (fits : s.Fits w past t)
    (unknown : t.site.link.established = false) : t.Unready := by
  have unlike (known : t.site.link.established = true) : t.Unready :=
    absurd (unknown.symm.trans known) Bool.false_ne_true
  cases s with
  | refused => exact fits.1
  | opening => exact fits
  | leaving => exact fits.1
  | serving => exact unlike fits.1
  | stopping => exact unlike fits.1.established
  | joined => exact unlike (PoolMoment.Joined.toStaffed fits).established
  | taken | closed | draining =>
    exact unlike (PoolMoment.Emptied.toJoined fits).toStaffed.established
  | idle | overdue => exact unlike fits.1.toJoined.toStaffed.established
  | never => exact fits.elim

theorem PoolPhase.Fits.stillborn (fits : s.Fits w past t) (forestalled : t.Forestalled) :
    t.Stillborn w := by
  obtain ⟨stopped, unknown⟩ := forestalled
  have unready := fits.unready unknown
  refine ⟨stopped, unready.dialed, fun c mem => ?_⟩
  rw [unready.consumers] at mem
  cases mem

/-- A step leaves an orderly pool orderly, if it does so in what concerns its phase. -/
theorem Orderly.advance (orderly : Orderly w stopAt past t s)
    (conforms : w.pool.phases.Conforms PoolPhase.Ends s' u.pool)
    (refused_iff : s' = .refused ↔ s = .refused)
    (stopAt_eq : u.site.clock.stopAt = t.site.clock.stopAt) (since : u.since ≤ u.site.clock.now)
    (fits : s'.Fits w (past ++ [t]) u) (stillborn : t.Stillborn w → u.Stillborn w)
    (sequel : t.IsOver w → u.IsOver w ∧ u.site.link.opened = t.site.link.opened ∧
      ∀ m, s.Follows m t → s'.Follows m u) :
    Orderly w stopAt (past ++ [t]) u s' := by
  refine ⟨conforms, refused_iff.trans orderly.refused_iff, stopAt_eq.trans orderly.stopAt, since,
    fits, ?_, ?_⟩
  · rintro ⟨m, mem, forestalled⟩
    refine stillborn ?_
    rcases List.mem_append.mp mem with old | new
    · exact orderly.forestalled ⟨m, old, forestalled⟩
    · obtain rfl := List.mem_singleton.mp new
      exact orderly.fits.stillborn forestalled
  · intro m mem isOver
    rcases List.mem_append.mp mem with old | new
    · obtain ⟨isOver', opened, follows⟩ := orderly.sequel m old isOver
      obtain ⟨isOver'', opened', follows'⟩ := sequel isOver'
      exact ⟨isOver'', opened'.trans opened, follows' m follows⟩
    · obtain rfl := List.mem_singleton.mp new
      obtain ⟨isOver', opened, follows⟩ := sequel isOver
      exact ⟨isOver', opened, follows m orderly.fits.follows⟩

theorem PoolMoment.Joined.same {ended : Bool} (joined : Joined w t past ended)
    (established : u.site.link.established = t.site.link.established)
    (consumers : u.consumers = t.consumers) : Joined w u (past ++ [t]) ended where
  established := established.trans joined.established
  started := (congrArg (List.map Prod.fst) consumers).trans joined.started
  finished ends := by rw [allOver, consumers]; exact joined.finished ends
  overran runs := by
    obtain ⟨m, mem, late⟩ := joined.overran runs
    exact ⟨m, List.mem_append_left _ mem, late⟩

theorem PoolMoment.Emptied.same {ended : Bool} (emptied : Emptied w t past ended)
    (established : u.site.link.established = t.site.link.established)
    (stored : u.site.link.stored = t.site.link.stored) (consumers : u.consumers = t.consumers) :
    Emptied w u (past ++ [t]) ended where
  toJoined := emptied.toJoined.same established consumers
  missing ends := stored.trans (emptied.missing ends)

theorem PoolMoment.Unready.calm (unready : t.Unready) (calm : t.site.Calm u.site)
    (same : u.consumers = t.consumers) : u.Unready where
  established := calm.established.trans unready.established
  consumers := same.trans unready.consumers
  dialed := calm.dialed.trans unready.dialed

theorem PoolPhase.Fits.calm (fits : s.Fits w past t) (calm : t.site.Calm u.site)
    (same : u.consumers = t.consumers) (since : t.since ≤ u.since) :
    s.Fits w (past ++ [t]) u := by
  have started : u.started = t.started := congrArg (List.map Prod.fst) same
  cases s with
  | refused => exact ⟨fits.1.calm calm same, calm.opened.trans fits.2⟩
  | opening => exact PoolMoment.Unready.calm fits calm same
  | leaving =>
    exact ⟨fits.1.calm calm same, WorkSite.isStopped_mono calm.stopAt calm.now_le fits.2⟩
  | serving => exact ⟨calm.established.trans fits.1, started.trans fits.2.1, fits.2.2⟩
  | stopping =>
    obtain ⟨⟨established, all⟩, moment, fires, early⟩ := fits
    exact ⟨⟨calm.established.trans established, started.trans all⟩, moment,
      calm.stopAt.trans fires, Nat.le_trans early since⟩
  | joined => exact PoolMoment.Joined.same fits calm.established same
  | taken | closed | draining =>
    exact PoolMoment.Emptied.same fits calm.established calm.stored same
  | idle =>
    obtain ⟨emptied, settled⟩ := fits
    exact ⟨emptied.same calm.established calm.stored same,
      fun ends => calm.settled (settled ends)⟩
  | overdue =>
    obtain ⟨emptied, m, mem, waited⟩ := fits
    exact ⟨emptied.same calm.established calm.stored same, m, List.mem_append_left _ mem, waited⟩
  | never => exact fits.elim

theorem PoolPhase.Follows.calm {m : PoolMoment} (follows : s.Follows m t)
    (calm : t.site.Calm u.site) : s.Follows m u := by
  have closed {link : LinkId} (mem : link ∈ t.site.link.closed) : link ∈ u.site.link.closed := by
    rwa [calm.closed]
  cases s with
  | taken ended => cases ended <;> exact follows
  | closed ended | draining ended | idle ended | overdue ended =>
    cases ended with
    | true => exact fun link stored => closed (follows link stored)
    | false => trivial
  | _ => exact follows.trans calm.stored.symm

theorem PoolMoment.Stillborn.calm (stillborn : t.Stillborn w) (calm : t.site.Calm u.site)
    (same : u.consumers = t.consumers) : u.Stillborn w where
  stopped := WorkSite.isStopped_mono calm.stopAt calm.now_le stillborn.stopped
  dialed := calm.dialed.trans stillborn.dialed
  consumers := by rw [same]; exact stillborn.consumers

theorem PoolMoment.IsOver.same (isOver : t.IsOver w) (same : u.consumers = t.consumers) :
    u.IsOver w := by
  rw [IsOver, started, allOver, same]
  exact isOver

theorem Orderly.calm (orderly : Orderly w stopAt past t s)
    (conforms : w.pool.phases.Conforms PoolPhase.Ends s u.pool) (calm : t.site.Calm u.site)
    (same : u.consumers = t.consumers) (later : t.since ≤ u.since)
    (since : u.since ≤ u.site.clock.now) : Orderly w stopAt (past ++ [t]) u s :=
  orderly.advance conforms .rfl calm.stopAt since (orderly.fits.calm calm same later)
    (fun stillborn => stillborn.calm calm same)
    fun isOver => ⟨isOver.same same, calm.opened, fun _ follows => follows.calm calm⟩

section Pool

variable {site site' : WorkSite} {since : Nat} {team team' : List StartedConsumer}
  {r : PoolWork} {k : r.Answer → PoolRun} {a : r.Answer}

/-- What a pool has done after a question is put behind it. -/
theorem Orderly.answered (orderly : Orderly w stopAt past ⟨site, .ask r k, since, team⟩ s)
    (conforms : w.pool.phases.Conforms PoolPhase.Ends s (k a)) (calm : site.Calm site')
    (clock : site'.clock = site.clock) :
    Orderly w stopAt (past ++ [⟨site, .ask r k, since, team⟩])
      ⟨site', k a, site.clock.now, team⟩ s :=
  orderly.calm conforms calm rfl orderly.since
    (Nat.le_of_eq (congrArg Clock.now clock).symm)

theorem WorkerPool.length_consumersOf (p : WorkerPool) (q : WorkQueue) :
    (p.consumersOf q).length = q.workers.toNat := by
  rw [consumersOf, List.length_map, List.length_range]

theorem WorkerPool.toNat_totalWorkers (p : WorkerPool) :
    p.broker.totalWorkers.toNat = p.consumers.length % 2 ^ 64 := by
  rw [p.broker.toNat_totalWorkers, consumers, List.length_flatMap]
  simp only [length_consumersOf]

theorem PoolMoment.Unready.not_isOver (unready : t.Unready)
    (some : w.pool.broker.totalWorkers ≠ 0) : ¬ t.IsOver w := by
  rintro ⟨all, _⟩
  rw [started, unready.consumers] at all
  have none : w.pool.broker.totalWorkers.toNat = 0 := by
    rw [w.pool.toNat_totalWorkers, ← all]
    rfl
  exact some (UInt64.toNat_inj.mp none)

/-- Until there is a link, a step changes nothing that was done. -/
theorem Orderly.opens (orderly : Orderly w stopAt past ⟨site, .ask r k, since, team⟩ .opening)
    (conforms : w.pool.phases.Conforms PoolPhase.Ends s' (k a)) (works : s' ≠ .refused)
    (clock : site'.clock = site.clock) (dialed : site'.dialed = site.dialed)
    (fits : s'.Fits w (past ++ [⟨site, .ask r k, since, team⟩])
      ⟨site', k a, site.clock.now, team⟩) :
    Orderly w stopAt (past ++ [⟨site, .ask r k, since, team⟩])
      ⟨site', k a, site.clock.now, team⟩ s' := by
  have unready : PoolMoment.Unready ⟨site, .ask r k, since, team⟩ := orderly.fits
  have some : w.pool.broker.totalWorkers ≠ 0 := mt orderly.refused_iff.mpr nofun
  refine orderly.advance conforms (iff_of_false works nofun) (congrArg Clock.stopAt clock)
    (Nat.le_of_eq (congrArg Clock.now clock).symm) fits (fun stillborn => ?_)
    fun isOver => absurd isOver (unready.not_isOver some)
  refine ⟨?_, dialed.trans stillborn.dialed, stillborn.consumers⟩
  exact (congrArg Clock.isStopped clock).trans stillborn.stopped

/-- A step that leaves alone whatever is not about the link, and opens none. -/
theorem Orderly.relinks {link : SharedLink}
    (orderly : Orderly w stopAt past ⟨site, .ask r k, since, team⟩ s)
    (conforms : w.pool.phases.Conforms PoolPhase.Ends s' (k a))
    (refused_iff : s' = .refused ↔ s = .refused) (opened : link.opened = site.link.opened)
    (fits : s'.Fits w (past ++ [⟨site, .ask r k, since, team⟩])
      ⟨{ site with link := link }, k a, site.clock.now, team⟩)
    (follows : ∀ m, s.Follows m ⟨site, .ask r k, since, team⟩ →
      s'.Follows m ⟨{ site with link := link }, k a, site.clock.now, team⟩) :
    Orderly w stopAt (past ++ [⟨site, .ask r k, since, team⟩])
      ⟨{ site with link := link }, k a, site.clock.now, team⟩ s' :=
  orderly.advance conforms refused_iff rfl (Nat.le_refl _) fits
    (fun stillborn => ⟨stillborn.stopped, stillborn.dialed, stillborn.consumers⟩)
    fun isOver => ⟨isOver.same rfl, opened, follows⟩

/-- A step that only the pool notices. -/
theorem Orderly.moves (orderly : Orderly w stopAt past ⟨site, .ask r k, since, team⟩ s)
    (conforms : w.pool.phases.Conforms PoolPhase.Ends s' (k a))
    (refused_iff : s' = .refused ↔ s = .refused)
    (fits : s'.Fits w (past ++ [⟨site, .ask r k, since, team⟩])
      ⟨site, k a, site.clock.now, team⟩)
    (follows : ∀ m, s.Follows m ⟨site, .ask r k, since, team⟩ →
      s'.Follows m ⟨site, k a, site.clock.now, team⟩) :
    Orderly w stopAt (past ++ [⟨site, .ask r k, since, team⟩])
      ⟨site, k a, site.clock.now, team⟩ s' :=
  orderly.relinks conforms refused_iff rfl fits follows

/-- The pool starts the next of its consumers. -/
theorem Orderly.spawns {c : Consumer} {begun rest : List Consumer}
    {k : (PoolWork.pool (.spawn c)).Answer → PoolRun}
    (orderly : Orderly w stopAt past ⟨site, .ask (.pool (.spawn c)) k, since, team⟩
      (.serving begun))
    (conforms : w.pool.phases.Conforms PoolPhase.Ends (.serving (begun ++ [c])) (k ()))
    (all : w.pool.consumers = begun ++ c :: rest) :
    Orderly w stopAt (past ++ [⟨site, .ask (.pool (.spawn c)) k, since, team⟩])
      ⟨site, k (), site.clock.now, team ++ [(c, w.consumerTurn c Consumer.start)]⟩
      (.serving (begun ++ [c])) := by
  obtain ⟨established, same, _⟩ := orderly.fits
  have started : (team ++ [(c, w.consumerTurn c Consumer.start)]).map Prod.fst = begun ++ [c] := by
    rw [List.map_append]
    exact congrArg (· ++ [c]) same
  have more : w.pool.consumers = (begun ++ [c]) ++ rest := by
    rw [all, List.append_assoc]
    rfl
  refine orderly.advance conforms (iff_of_false nofun nofun) rfl (Nat.le_refl _)
    ⟨established, started, ⟨rest, more.symm⟩⟩ (fun stillborn => ?_) fun isOver => ?_
  · refine ⟨stillborn.stopped, stillborn.dialed, fun c' mem => ?_⟩
    rcases List.mem_append.mp mem with old | new
    · exact stillborn.consumers c' old
    · obtain rfl := List.mem_singleton.mp new
      exact .inl rfl
  · -- One of them was missing.
    have none : begun = begun ++ c :: rest := same.symm.trans (isOver.1.trans all)
    exact (List.cons_ne_nil _ _ (List.self_eq_append_right.mp none)).elim

theorem SharedLink.calm_of_prompt {s s' : SharedLink} {r : PublisherRequest} {a : r.Answer}
    (allowed : s.Allows r a s') (prompt : r.isPrompt = true) :
    ∃ locks, s' = { s with held := locks } := by
  cases r with
  | broker r =>
    cases r with
    | note => exact ⟨s.held, allowed⟩
    | _ => cases prompt
  | release lock => exact ⟨_, allowed⟩
  | _ => cases prompt

theorem Clock.isOver_mono {c : Clock} {earlier later : Nat} {limit : Duration}
    (le : earlier ≤ later) (isOver : c.isOver later limit = true) :
    c.isOver earlier limit = true := by
  have isOver := of_decide_eq_true isOver
  exact decide_eq_true (Nat.le_trans (Nat.add_le_add_right (Nat.mul_le_mul_right _ le) _) isOver)

theorem Orderly.pool (orderly : Orderly w stopAt past ⟨site, .ask r k, since, team⟩ s)
    (allowed : w.AllowsPool site since team r a site' team') :
    ∃ s', PoolPhase.Allows w.pool s r a s' ∧
      Orderly w stopAt (past ++ [⟨site, .ask r k, since, team⟩])
        ⟨site', k a, site.clock.now, team'⟩ s' := by
  obtain ⟨s', phase, rest⟩ := orderly.conforms a
  refine ⟨s', phase, ?_⟩
  have fits := orderly.fits
  cases phase with
  | notes =>
    obtain ⟨rfl, rfl⟩ := allowed
    exact orderly.answered rest (.refl _) rfl
  | tries other =>
    obtain ⟨_, ⟨link, within, rfl⟩, rfl⟩ := allowed
    obtain ⟨unestablished, none, undialed⟩ := fits
    have unknown := SharedLink.established_of_within within fun same =>
      other (TimedRequest.inTime.inj same)
    exact orderly.opens rest nofun rfl rfl
      ⟨unknown.trans unestablished, none, undialed⟩
  | sets =>
    obtain ⟨_, ⟨link, rfl, rfl⟩, rfl⟩ := allowed
    obtain ⟨_, none, _⟩ := fits
    exact orderly.opens rest nofun rfl rfl
      ⟨rfl, congrArg (List.map Prod.fst) none, List.nil_prefix⟩
  | givesWay =>
    obtain ⟨⟨stopped, _⟩, ⟨link, within, rfl⟩, rfl⟩ := allowed
    obtain ⟨unestablished, none, undialed⟩ := fits
    have unknown : link.established = site.link.established :=
      SharedLink.established_of_within within (by rintro ⟨⟩; exact within)
    exact orderly.opens rest nofun rfl rfl
      ⟨⟨unknown.trans unestablished, none, undialed⟩, stopped⟩
  | givesBack =>
    obtain ⟨_, ⟨link, rfl, rfl⟩, rfl⟩ := allowed
    exact orderly.answered rest (.relocks site _) rfl
  | pauses =>
    obtain ⟨_, rfl, rfl⟩ := allowed
    exact orderly.answered rest (.refl _) rfl
  | isStopped =>
    obtain ⟨yields, rfl, rfl⟩ := allowed
    exact orderly.opens rest nofun rfl rfl ⟨Unready.calm fits (.refl _) rfl, yields rfl⟩
  | finishes prompt =>
    obtain ⟨_, ⟨link, within, rfl⟩, rfl⟩ := allowed
    obtain ⟨locks, rfl⟩ := SharedLink.calm_of_prompt within prompt
    exact orderly.answered rest (.relocks site _) rfl
  | @cannot q _ prompt =>
    obtain ⟨⟨_, isNote⟩, ⟨link, within, _⟩, _⟩ := allowed
    cases q with
    | broker q =>
      cases q with
      | note => cases isNote
      | _ => cases prompt
    | release => exact within.elim
    | _ => cases prompt
  | spawns all =>
    obtain ⟨rfl, rfl⟩ := allowed
    exact orderly.spawns rest all
  | awaits =>
    obtain ⟨stopped, rfl, rfl⟩ := allowed
    obtain ⟨established, all, _⟩ := fits
    obtain ⟨moment, fires, early⟩ := (Option.any_eq_true ..).mp stopped
    exact orderly.moves rest (iff_of_false nofun nofun)
      ⟨⟨established, all⟩, moment, fires, of_decide_eq_true early⟩ fun _ => id
  | joins =>
    obtain ⟨same, late, rfl, rfl⟩ := allowed
    obtain ⟨staffed, moment, fires, early⟩ := fits
    refine orderly.moves rest (iff_of_false nofun nofun) { staffed with
      finished := fun ends => same.symm.trans ends
      overran := fun runs => ?_ } fun _ => id
    refine ⟨_, List.mem_append_right _ (List.mem_singleton_self _), same.symm.trans runs, moment,
      fires, Clock.isOver_mono early (late runs)⟩
  | locks =>
    obtain ⟨⟨link, ⟨_, rfl⟩, rfl⟩, rfl⟩ := allowed
    exact orderly.answered rest (.relocks site _) rfl
  | @takes ended found =>
    obtain ⟨⟨link, ⟨same, rfl⟩, rfl⟩, rfl⟩ := allowed
    refine orderly.relinks rest (iff_of_false nofun nofun) rfl
      { Joined.same fits rfl rfl with missing := fun _ => rfl } fun m follows => ?_
    cases ended with
    | true => exact .inl (Eq.trans follows same.symm)
    | false => trivial
  | @closes ended link =>
    obtain ⟨⟨_, rfl, rfl⟩, rfl⟩ := allowed
    refine orderly.relinks rest (iff_of_false nofun nofun) rfl (Emptied.same fits rfl rfl rfl)
      fun m follows => ?_
    cases ended with
    | false => trivial
    | true =>
      intro link' stored
      rcases follows with found | none
      · obtain rfl := Option.some.inj (found.symm.trans stored)
        exact List.mem_cons_self
      · exact absurd (stored.symm.trans none) (Option.some_ne_none _)
  | releases =>
    obtain ⟨⟨link, rfl, rfl⟩, rfl⟩ := allowed
    exact orderly.answered rest (.relocks site _) rfl
  | @leaves ended =>
    obtain ⟨⟨_, rfl, rfl⟩, rfl⟩ := allowed
    refine orderly.relinks rest (iff_of_false nofun nofun) rfl (Emptied.same fits rfl rfl rfl)
      fun m follows => ?_
    cases ended with
    | false => trivial
    | true =>
      intro link stored
      have none : m.site.link.stored = none := follows.elim id id
      exact absurd (stored.symm.trans none) (Option.some_ne_none _)
  | @settled ended =>
    obtain ⟨none, rfl, rfl⟩ := allowed
    exact orderly.moves rest (iff_of_false nofun nofun)
      ⟨Emptied.same fits rfl rfl rfl, fun _ => Eq.symm none⟩ fun _ => by cases ended <;> exact id
  | @unsettled ended _ some =>
    obtain ⟨_, rfl, rfl⟩ := allowed
    exact orderly.moves rest (iff_of_false nofun nofun) (Emptied.same fits rfl rfl rfl)
      fun _ => by cases ended <;> exact id
  | @drains ended =>
    obtain ⟨idle, _, rfl, rfl⟩ := allowed
    exact orderly.moves rest (iff_of_false nofun nofun)
      ⟨Emptied.same fits rfl rfl rfl, fun _ => idle rfl⟩ fun _ => by cases ended <;> exact id
  | @abandons ended =>
    obtain ⟨_, late, rfl, rfl⟩ := allowed
    exact orderly.moves rest (iff_of_false nofun nofun)
      ⟨Emptied.same fits rfl rfl rfl, _, List.mem_append_right _ (List.mem_singleton_self _),
        ⟨k, rfl⟩, late rfl⟩ fun _ => by cases ended <;> exact id
  | counts =>
    obtain ⟨_, rfl, rfl⟩ := allowed
    exact orderly.answered rest (.refl _) rfl
  | never => exact fits.elim

end Pool

section Consumers

variable {site site' : WorkSite} {r : ConsumerWork} {a : r.Answer}

/-- No consumer moves the clock or forgets that there was a link. -/
theorem WorkSite.kept_by_consumer (allowed : site.AllowsConsumer r a site') :
    site'.clock = site.clock ∧
      (site.link.established = true → site'.link.established = true) := by
  obtain ⟨clock, link⟩ := WorkSite.of_consumer allowed
  refine ⟨clock, fun known => ?_⟩
  cases r with
  | publishing r =>
    obtain ⟨link, within, rfl⟩ := allowed
    exact SharedLink.established_mono within known
  | consumer | job | givenUp =>
    rw [link nofun]
    exact known

/-- The first question of a consumer is whether it has to stop. -/
theorem Workshop.consumerTurn_start (w : Workshop) (c : Consumer) :
    ∃ k, w.consumerTurn c Consumer.start = .ask (.consumer .isStopping) k ∧
      k true = .done (.inr .stopped) :=
  ⟨_, rfl, rfl⟩

theorem PoolMoment.Joined.running {ended : Bool} (joined : Joined w t past ended)
    (runs : t.allOver = false) (started : u.started = t.started)
    (established : t.site.link.established = true → u.site.link.established = true) :
    Joined w u (past ++ [t]) ended where
  established := established joined.established
  started := started.trans joined.started
  finished ends := absurd (runs.symm.trans (joined.finished ends)) Bool.false_ne_true
  overran runs := by
    obtain ⟨m, mem, late⟩ := joined.overran runs
    exact ⟨m, List.mem_append_left _ mem, late⟩

theorem PoolMoment.Emptied.running {ended : Bool} (emptied : Emptied w t past ended)
    (runs : t.allOver = false) (started : u.started = t.started)
    (established : t.site.link.established = true → u.site.link.established = true) :
    Emptied w u (past ++ [t]) ended where
  toJoined := emptied.toJoined.running runs started established
  missing ends := absurd (runs.symm.trans (emptied.finished ends)) Bool.false_ne_true

/-- While a consumer runs, the pool has given it up or not waited for it yet. -/
theorem PoolPhase.Fits.running (fits : s.Fits w past t) (some : t.consumers ≠ [])
    (runs : t.allOver = false) (started : u.started = t.started)
    (established : t.site.link.established = true → u.site.link.established = true)
    (stopAt : u.site.clock.stopAt = t.site.clock.stopAt) (since : u.since = t.since) :
    s.Fits w (past ++ [t]) u := by
  cases s with
  | refused => exact absurd fits.1.consumers some
  | opening => exact absurd (PoolMoment.Unready.consumers fits) some
  | leaving => exact absurd fits.1.consumers some
  | serving => exact ⟨established fits.1, started.trans fits.2.1, fits.2.2⟩
  | stopping =>
    obtain ⟨⟨known, all⟩, moment, fires, early⟩ := fits
    exact ⟨⟨established known, started.trans all⟩, moment, stopAt.trans fires,
      Nat.le_trans early (Nat.le_of_eq since.symm)⟩
  | joined => exact PoolMoment.Joined.running fits runs started established
  | taken | closed | draining => exact PoolMoment.Emptied.running fits runs started established
  | idle =>
    obtain ⟨emptied, _⟩ := fits
    exact ⟨emptied.running runs started established,
      fun ends => absurd (runs.symm.trans (emptied.finished ends)) Bool.false_ne_true⟩
  | overdue =>
    obtain ⟨emptied, m, mem, waited⟩ := fits
    exact ⟨emptied.running runs started established, m, List.mem_append_left _ mem, waited⟩
  | never => exact fits.elim

variable {pool : PoolRun} {since : Nat} {before after : List StartedConsumer} {c : Consumer}

theorem allOver_of_running {p : ConsumerRun} (runs : p.isOver = false) :
    PoolMoment.allOver ⟨site, pool, since, before ++ (c, p) :: after⟩ = false := by
  rw [allOver, List.all_eq_false]
  exact ⟨(c, p), List.mem_append_right _ List.mem_cons_self, by rw [runs]; exact Bool.false_ne_true⟩

theorem started_eq (p q : ConsumerRun) :
    (before ++ (c, q) :: after).map Prod.fst = (before ++ (c, p) :: after).map Prod.fst := by
  rw [List.map_append, List.map_append]
  rfl

/-- A step of a consumer that runs. -/
theorem Orderly.consumes {p q : ConsumerRun}
    (orderly : Orderly w stopAt past ⟨site, pool, since, before ++ (c, p) :: after⟩ s)
    (runs : p.isOver = false) (clock : site'.clock = site.clock)
    (established : site.link.established = true → site'.link.established = true)
    (stillborn : PoolMoment.Stillborn w ⟨site, pool, since, before ++ (c, p) :: after⟩ →
      site'.dialed = 0 ∧ (q = w.consumerTurn c Consumer.start ∨ q = .done (.inr .stopped))) :
    Orderly w stopAt (past ++ [⟨site, pool, since, before ++ (c, p) :: after⟩])
      ⟨site', pool, since, before ++ (c, q) :: after⟩ s := by
  have running : allOver ⟨site, pool, since, before ++ (c, p) :: after⟩ = false :=
    allOver_of_running runs
  refine orderly.advance orderly.conforms .rfl (congrArg Clock.stopAt clock) ?_
    (orderly.fits.running ?_ running (started_eq p q) established (congrArg Clock.stopAt clock) rfl)
    (fun born => ?_) fun isOver => ?_
  · exact Nat.le_trans orderly.since (Nat.le_of_eq (congrArg Clock.now clock).symm)
  · exact List.append_ne_nil_of_right_ne_nil _ (List.cons_ne_nil _ _)
  · obtain ⟨dialed, left⟩ := stillborn born
    refine ⟨(congrArg Clock.isStopped clock).trans born.stopped, dialed, fun c' mem => ?_⟩
    rcases List.mem_append.mp mem with mem | mem
    · exact born.consumers c' (List.mem_append_left _ mem)
    · rcases List.mem_cons.mp mem with rfl | mem
      · exact left
      · exact born.consumers c' (List.mem_append_right _ (List.mem_cons_of_mem _ mem))
  · exact absurd (running.symm.trans isOver.2) Bool.false_ne_true

theorem Orderly.consumer {k : r.Answer → ConsumerRun}
    (orderly : Orderly w stopAt past ⟨site, pool, since, before ++ (c, .ask r k) :: after⟩ s)
    (allowed : site.AllowsConsumer r a site') :
    Orderly w stopAt (past ++ [⟨site, pool, since, before ++ (c, .ask r k) :: after⟩])
      ⟨site', pool, since, before ++ (c, k a) :: after⟩ s := by
  obtain ⟨clock, established⟩ := WorkSite.kept_by_consumer allowed
  refine orderly.consumes rfl clock established fun stillborn => ?_
  rcases stillborn.consumers _ (List.mem_append_right _ List.mem_cons_self) with start | ended
  · obtain ⟨k', asks, stops⟩ := w.consumerTurn_start c
    obtain ⟨rfl, same⟩ := Program.ask.inj (start.trans asks)
    obtain rfl := eq_of_heq same
    obtain ⟨rfl, rfl⟩ := allowed
    refine ⟨stillborn.dialed, .inr ?_⟩
    have stopped : site'.clock.isStopped = true := stillborn.stopped
    rw [stopped, stops]
  · cases ended

theorem Orderly.consumerTurn {x : ConsumerState}
    (orderly : Orderly w stopAt past
      ⟨site, pool, since, before ++ (c, .done (.inl x)) :: after⟩ s) :
    Orderly w stopAt (past ++ [⟨site, pool, since, before ++ (c, .done (.inl x)) :: after⟩])
      ⟨site, pool, since, before ++ (c, w.consumerTurn c x) :: after⟩ s := by
  refine orderly.consumes rfl rfl id fun stillborn => ?_
  rcases stillborn.consumers _ (List.mem_append_right _ List.mem_cons_self) with start | ended
  · obtain ⟨k', asks, _⟩ := w.consumerTurn_start c
    cases start.trans asks
  · cases ended

end Consumers

theorem Orderly.turn {site : WorkSite} {since : Nat} {team : List StartedConsumer} {x : PoolState}
    (orderly : Orderly w stopAt past ⟨site, .done (.inl x), since, team⟩ s) :
    Orderly w stopAt (past ++ [⟨site, .done (.inl x), since, team⟩])
      ⟨site, w.poolTurn x, since, team⟩ s := by
  refine orderly.calm ?_ (.refl site) rfl (Nat.le_refl _) orderly.since
  have ends : s.Ends (.inl x) := orderly.conforms
  cases s with
  | opening =>
    obtain ⟨failures, same⟩ := ends
    obtain rfl := Sum.inl.inj same
    exact Workshop.establish_phases failures
  | never => exact orderly.fits.elim
  | _ => cases ends

theorem Orderly.step (orderly : Orderly w stopAt past t s) (step : w.Step t u) :
    ∃ s', Orderly w stopAt (past ++ [t]) u s' := by
  cases step with
  | pool allowed =>
    obtain ⟨s', _, orderly'⟩ := orderly.pool allowed
    exact ⟨s', orderly'⟩
  | turn => exact ⟨s, orderly.turn⟩
  | consumer allowed => exact ⟨s, orderly.consumer allowed⟩
  | consumerTurn => exact ⟨s, orderly.consumerTurn⟩
  | drifts drifts =>
    have calm := drifts.calm
    exact ⟨s, orderly.calm orderly.conforms calm rfl (Nat.le_refl _)
      (Nat.le_trans orderly.since calm.now_le)⟩

theorem Workshop.Course.orderly (course : w.Course stopAt past t) :
    ∃ s, Orderly w stopAt past t s := by
  induction course with
  | start =>
    refine ⟨Workshop.beginning w.pool, Workshop.fresh_phases, ?_, rfl, Nat.le_refl _, ?_, ?_, ?_⟩
    · unfold Workshop.beginning
      split
      next none => exact iff_of_true rfl none
      next some => exact iff_of_false nofun some
    · have unready : (w.opening stopAt).Unready := ⟨rfl, rfl, rfl⟩
      unfold Workshop.beginning
      split
      · exact ⟨unready, rfl⟩
      · exact unready
    · rintro ⟨m, mem, _⟩
      exact (List.not_mem_nil mem).elim
    · exact fun m mem => (List.not_mem_nil mem).elim
  | step _ step ih =>
    obtain ⟨s, orderly⟩ := ih
    exact orderly.step step

end Steps

end ImageWorker
