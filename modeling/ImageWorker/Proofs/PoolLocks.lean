import ImageWorker.Proofs.PoolLifecycle

/-!
# Locks that are given back

The pool and its consumers lock the place of the link for statuses, and the right to open a new
one. Each of them gives back what it took, also where it is given up on the way. So a lock that is
held is held by somebody who still runs, and while no consumer runs, every lock that the pool asks
for is free.
-/

namespace ImageWorker

open Surroundings

/-- What an exchange makes of the locks that somebody holds. -/
def TimedRequest.locksAfter (held : List PublisherLock) :
    (r : TimedRequest) → r.Answer → List PublisherLock
  | inTime r, some _ => r.heldAfter held
  | inTime _, none => held
  | giveBack lock, _ => held.erase lock

def keeping : Surroundings PublisherRequest PublisherRequest.Answer (List PublisherLock) where
  Allows held r _ held' := (∀ lock, r = .acquire lock → lock ∉ held) ∧ held' = r.heldAfter held
  Drifts before after := after = before

def keepingWithin : Surroundings TimedRequest TimedRequest.Answer (List PublisherLock) where
  Allows held r answer held' := held' = r.locksAfter held answer
  Drifts before after := after = before

def Unlocked {α : Type} (held : List PublisherLock) (_ : α) : Prop := held = []

namespace StatusRoute

open PublisherProgram

variable {α : Type} {r : StatusRoute} {held : List PublisherLock}

theorem ofLink_keeps (p : LinkProgram α) :
    keeping.Conforms (fun held' _ => held' = held) held (ofLink p) := by
  induction p with
  | done a => rfl
  | ask r k ih => exact fun answer => ⟨held, ⟨nofun, rfl⟩, ih answer⟩

theorem holding_keeps {lock : PublisherLock} {p : PublisherProgram α} (free : lock ∉ held)
    (inside : keeping.Conforms (fun held' _ => held' = lock :: held) (lock :: held) p) :
    keeping.Conforms (fun held' _ => held' = held) held (holding lock p) := by
  refine fun _ => ⟨lock :: held, ⟨?_, rfl⟩, inside.bind ?_⟩
  · rintro _ ⟨⟩
    exact free
  · rintro _ a rfl
    exact fun _ => ⟨held, ⟨nofun, (List.erase_cons_head ..).symm⟩, rfl⟩

theorem openInPlace_keeps (free : .place ∉ held) :
    keeping.Conforms (fun held' _ => held' = held) held r.openInPlace := by
  refine (ofLink_keeps _).bind ?_
  rintro held (e | link) rfl
  · rfl
  have placed : keeping.Conforms (fun held' _ => held' = held) held
      (holding .place (.ask (.replace link) .done)) :=
    holding_keeps free fun _ => ⟨_, ⟨nofun, rfl⟩, rfl⟩
  refine placed.bind ?_
  rintro _ (_ | old) rfl
  · exact fun _ => ⟨_, ⟨nofun, rfl⟩, fun _ => ⟨_, ⟨nofun, rfl⟩, rfl⟩⟩
  · exact fun _ => ⟨_, ⟨nofun, rfl⟩, fun _ => ⟨_, ⟨nofun, rfl⟩, fun _ => ⟨_, ⟨nofun, rfl⟩, rfl⟩⟩⟩

theorem establish_keeps : keeping.Conforms Unlocked [] r.establish :=
  holding_keeps List.not_mem_nil (openInPlace_keeps (by decide))

theorem shut_keeps : keeping.Conforms Unlocked [] shut := by
  refine holding_keeps List.not_mem_nil ?_
  rintro (_ | link)
  · exact ⟨_, ⟨nofun, rfl⟩, rfl⟩
  · exact ⟨_, ⟨nofun, rfl⟩, fun _ => ⟨_, ⟨nofun, rfl⟩, rfl⟩⟩

/-- What a publish holds is part of its posture. -/
theorem keeps_of_habits {ends : Posture → α → Prop} (posture : Posture) {p : PublisherProgram α}
    (conforms : habits.Conforms ends posture p)
    (unlocked : ∀ posture' a, ends posture' a → posture'.locks = []) :
    keeping.Conforms Unlocked posture.locks p := by
  induction p generalizing posture with
  | done a => exact unlocked posture a conforms
  | ask r k ih =>
    intro answer
    obtain ⟨posture', allowed, rest⟩ := conforms answer
    refine ⟨posture'.locks, ⟨?_, allowed.locks_eq⟩, ih answer posture' rest⟩
    rintro lock rfl
    cases allowed with
    | acquires free => exact free

theorem publish_keeps (event : StatusEvent) : keeping.Conforms Unlocked [] (r.publish event) :=
  keeps_of_habits .start (publish_habits event rfl) fun _ _ => id

end StatusRoute

namespace TimedProgram

variable {α : Type}

theorem giveUp_keeps (held : List PublisherLock) :
    keepingWithin.Conforms Unlocked held (giveUp held : TimedProgram (Option α)) := by
  induction held with
  | nil => rfl
  | cons lock held ih => exact fun _ => ⟨held, (List.erase_cons_head ..).symm, ih⟩

theorem ofPublisher_keeps (held : List PublisherLock) {p : PublisherProgram α}
    (conforms : keeping.Conforms Unlocked held p) :
    keepingWithin.Conforms Unlocked held (ofPublisher held p) := by
  induction p generalizing held with
  | done a => exact conforms
  | ask r k ih =>
    rw [ofPublisher]
    rintro (_ | answer)
    · exact ⟨held, rfl, giveUp_keeps held⟩
    · obtain ⟨_, ⟨_, rfl⟩, rest⟩ := conforms answer
      exact ⟨_, rfl, ih answer _ rest⟩

end TimedProgram

def ConsumerWork.locksAfter (held : List PublisherLock) :
    (r : ConsumerWork) → r.Answer → List PublisherLock
  | publishing r, answer => r.locksAfter held answer
  | _, _ => held

def consumerKeeping : Surroundings ConsumerWork ConsumerWork.Answer (List PublisherLock) where
  Allows held r answer held' := held' = r.locksAfter held answer
  Drifts before after := after = before

def PoolWork.locksAfter (held : List PublisherLock) :
    (r : PoolWork) → r.Answer → List PublisherLock
  | establishing r, answer => r.locksAfter held answer
  | closing r, _ => r.heldAfter held
  | pool _, _ => held

def poolKeeping : Surroundings PoolWork PoolWork.Answer (List PublisherLock) where
  Allows held r answer held' :=
    (∀ lock, r = .closing (.acquire lock) → lock ∉ held) ∧ held' = r.locksAfter held answer
  Drifts before after := after = before

/-- If nothing is held after each question, nothing is held after a program. -/
theorem keeps_translate {Request Request' α : Type} {Answer : Request → Type}
    {Answer' : Request' → Type} {w : Surroundings Request' Answer' (List PublisherLock)}
    {f : (r : Request) → Program Request' Answer' (Answer r)}
    (each : ∀ r, w.Conforms Unlocked [] (f r)) (p : Program Request Answer α) :
    w.Conforms Unlocked [] (p.translate f) := by
  induction p with
  | done a => rfl
  | ask r k ih =>
    refine (each r).bind ?_
    rintro _ answer rfl
    exact ih answer

namespace Workshop

variable {w : Workshop} {α : Type}

theorem publishing_keeps {held : List PublisherLock} {p : TimedProgram α}
    (conforms : keepingWithin.Conforms Unlocked held p) :
    consumerKeeping.Conforms Unlocked held (publishing p) := by
  induction p generalizing held with
  | done a => exact conforms
  | ask r k ih =>
    intro answer
    obtain ⟨_, rfl, rest⟩ := conforms answer
    exact ⟨_, rfl, ih answer rest⟩

theorem jobWork_keeps (r : JobRequest) : consumerKeeping.Conforms Unlocked [] (w.jobWork r) := by
  have given := StatusRoute.publish_keeps (r := w.route)
  cases r with
  | announce event =>
    refine publishing_keeps ((TimedProgram.ofPublisher_keeps [] (given event)).bind ?_)
    rintro _ (_ | result) rfl <;> rfl
  | announceUnlessStopped event =>
    refine (publishing_keeps (TimedProgram.ofPublisher_keeps [] (given event))).bind ?_
    rintro _ (_ | result) rfl
    · refine fun came => ⟨[], rfl, ?_⟩
      cases came <;> rfl
    · rfl
  | _ => exact fun answer => ⟨[], rfl, rfl⟩

theorem consumerWork_keeps (r : ConsumerRequest) :
    consumerKeeping.Conforms Unlocked [] (w.consumerWork r) := by
  cases r with
  | process body => exact keeps_translate jobWork_keeps _
  | _ => exact fun answer => ⟨[], rfl, rfl⟩

theorem consumerTurn_keeps (c : Consumer) (x : ConsumerState) :
    consumerKeeping.Conforms Unlocked [] (w.consumerTurn c x) :=
  keeps_translate consumerWork_keeps _

theorem establishing_keeps {held : List PublisherLock} {p : TimedProgram α}
    (conforms : keepingWithin.Conforms Unlocked held p) :
    poolKeeping.Conforms Unlocked held
      (p.translate fun r => .ask (.establishing r) .done) := by
  induction p generalizing held with
  | done a => exact conforms
  | ask r k ih =>
    intro answer
    obtain ⟨_, rfl, rest⟩ := conforms answer
    exact ⟨_, ⟨nofun, rfl⟩, ih answer rest⟩

theorem closing_keeps {held : List PublisherLock} {p : PublisherProgram α}
    (conforms : keeping.Conforms Unlocked held p) :
    poolKeeping.Conforms Unlocked held (p.translate fun r => .ask (.closing r) .done) := by
  induction p generalizing held with
  | done a => exact conforms
  | ask r k ih =>
    intro answer
    obtain ⟨_, ⟨free, rfl⟩, rest⟩ := conforms answer
    refine ⟨_, ⟨?_, rfl⟩, ih answer rest⟩
    rintro lock ⟨⟩
    exact free lock rfl

theorem poolWork_keeps (r : PoolRequest) : poolKeeping.Conforms Unlocked [] (w.poolWork r) := by
  cases r with
  | establish =>
    refine (establishing_keeps
      (TimedProgram.ofPublisher_keeps [] StatusRoute.establish_keeps)).bind ?_
    rintro _ (_ | result) rfl <;> rfl
  | shutStatus => exact closing_keeps StatusRoute.shut_keeps
  | _ => exact fun answer => ⟨[], ⟨nofun, rfl⟩, rfl⟩

theorem poolTurn_keeps (x : PoolState) : poolKeeping.Conforms Unlocked [] (w.poolTurn x) :=
  keeps_translate poolWork_keeps _

end Workshop

/-- How the locks that are held change with those of the one who acts. -/
structure LocksMove (held : List PublisherLock)
    (after : List PublisherLock → List PublisherLock) (held' : List PublisherLock) : Prop where
  nodup : held.Nodup → held'.Nodup
  mem : held.Nodup → ∀ lock ∈ held', (∀ own, lock ∈ after own) ∨
    lock ∈ held ∧ ∀ own, lock ∈ own → lock ∈ after own

namespace LocksMove

variable {held : List PublisherLock} {lock : PublisherLock}

theorem same (held : List PublisherLock) : LocksMove held id held :=
  ⟨id, fun _ _ mem => .inr ⟨mem, fun _ => id⟩⟩

theorem takes (free : lock ∉ held) : LocksMove held (lock :: ·) (lock :: held) where
  nodup once := List.nodup_cons.mpr ⟨free, once⟩
  mem _ other mem := by
    rcases List.mem_cons.mp mem with rfl | mem
    · exact .inl fun _ => List.mem_cons_self
    · exact .inr ⟨mem, fun _ => List.mem_cons_of_mem _⟩

theorem frees (held : List PublisherLock) (lock : PublisherLock) :
    LocksMove held (·.erase lock) (held.erase lock) where
  nodup once := once.erase lock
  mem once other mem := by
    obtain ⟨differs, mem⟩ := once.mem_erase_iff.mp mem
    exact .inr ⟨mem, fun _ => (List.mem_erase_of_ne differs).mpr⟩

end LocksMove

namespace SharedLink

variable {s s' : SharedLink}

theorem held_of_broker {r : LinkRequest} {a : r.Answer} (allowed : s.AllowsBroker r a s') :
    s'.held = s.held := by
  have like := like_of_allows (r := .broker r) allowed
  refine like.held.trans ?_
  cases r with
  | connect | publish => cases a <;> rfl
  | _ => rfl

theorem locksMove_of_allows {r : PublisherRequest} {a : r.Answer} (allowed : s.Allows r a s') :
    LocksMove s.held r.heldAfter s'.held := by
  cases r with
  | broker r =>
    rw [held_of_broker allowed]
    exact .same s.held
  | acquire lock =>
    obtain ⟨free, rfl⟩ := allowed
    refine .takes fun mem => ?_
    exact Bool.false_ne_true (free.symm.trans (List.contains_iff_mem.mpr mem))
  | release lock =>
    obtain rfl := allowed
    exact .frees s.held lock
  | setEstablished =>
    obtain rfl := allowed
    exact .same s.held
  | observe =>
    obtain ⟨_, _, rfl⟩ := allowed
    exact .same s'.held
  | wasEstablished | replace | take =>
    obtain ⟨_, rfl⟩ := allowed
    exact .same _

theorem locksMove_of_within {r : TimedRequest} {a : r.Answer} (allowed : s.AllowsWithin r a s') :
    LocksMove s.held (fun own => r.locksAfter own a) s'.held := by
  cases r with
  | giveBack lock =>
    obtain rfl := allowed
    exact .frees s.held lock
  | inTime r =>
    cases a with
    | some a => exact locksMove_of_allows allowed
    | none =>
      have held : s'.held = s.held := by
        cases r with
        | broker r =>
          rcases allowed with rfl | ⟨a, allowed⟩
          · rfl
          · exact held_of_broker allowed
        | observe | acquire => exact congrArg SharedLink.held allowed
        | _ => exact allowed.elim
      rw [held]
      exact .same s.held

end SharedLink

theorem WorkSite.locksMove_of_consumer {site site' : WorkSite} {r : ConsumerWork} {a : r.Answer}
    (allowed : site.AllowsConsumer r a site') :
    LocksMove site.link.held (fun own => r.locksAfter own a) site'.link.held := by
  obtain ⟨_, link⟩ := WorkSite.of_consumer allowed
  cases r with
  | publishing r =>
    obtain ⟨link, within, rfl⟩ := allowed
    exact SharedLink.locksMove_of_within within
  | consumer | job | givenUp =>
    rw [link nofun]
    exact .same _

theorem Workshop.locksMove_of_pool {w : Workshop} {site site' : WorkSite} {since : Nat}
    {team team' : List StartedConsumer} {r : PoolWork} {a : r.Answer}
    (allowed : w.AllowsPool site since team r a site' team') :
    LocksMove site.link.held (fun own => r.locksAfter own a) site'.link.held := by
  cases r with
  | pool r =>
    rw [Workshop.site_of_pool allowed]
    exact .same _
  | establishing r =>
    obtain ⟨_, ⟨link, within, rfl⟩, _⟩ := allowed
    exact SharedLink.locksMove_of_within within
  | closing r =>
    obtain ⟨⟨link, allowed, rfl⟩, _⟩ := allowed
    exact SharedLink.locksMove_of_allows allowed

theorem WorkSite.Drifts.held {site site' : WorkSite} (drifts : site.Drifts site') :
    site'.link.held = site.link.held := by
  cases drifts with
  | passes | cleansUp => rfl
  | dies death =>
    obtain ⟨_, rfl⟩ := death
    rfl

/-- Every lock that is held is held by somebody who gives it back. -/
structure LocksOwned (t : PoolMoment) : Prop where
  nodup : t.site.link.held.Nodup
  pool : ∃ own, poolKeeping.Conforms Unlocked own t.pool
  consumers : ∀ c ∈ t.consumers, ∃ own, consumerKeeping.Conforms Unlocked own c.2
  owner : ∀ lock ∈ t.site.link.held,
    (∃ own, lock ∈ own ∧ poolKeeping.Conforms Unlocked own t.pool) ∨
      ∃ c ∈ t.consumers, ∃ own, lock ∈ own ∧ consumerKeeping.Conforms Unlocked own c.2

section Steps

variable {w : Workshop} {t u : PoolMoment}

/-- A consumer acts. -/
theorem LocksOwned.consumer {site site' : WorkSite} {pool : PoolRun} {since : Nat}
    {before after : List StartedConsumer} {c : Consumer} {p q : ConsumerRun}
    {f : List PublisherLock → List PublisherLock}
    (owned : LocksOwned ⟨site, pool, since, before ++ (c, p) :: after⟩)
    (moves : LocksMove site.link.held f site'.link.held)
    (next : ∀ own, consumerKeeping.Conforms Unlocked own p →
      consumerKeeping.Conforms Unlocked (f own) q) :
    LocksOwned ⟨site', pool, since, before ++ (c, q) :: after⟩ := by
  obtain ⟨nodup, pool, consumers, owner⟩ := owned
  have here : (c, q) ∈ before ++ (c, q) :: after := List.mem_append_right _ List.mem_cons_self
  obtain ⟨own, mine⟩ := consumers (c, p) (List.mem_append_right _ List.mem_cons_self)
  refine ⟨moves.nodup nodup, pool, fun c' mem => ?_, fun lock mem => ?_⟩
  · rcases List.mem_append.mp mem with mem | mem
    · exact consumers c' (List.mem_append_left _ mem)
    · rcases List.mem_cons.mp mem with rfl | mem
      · exact ⟨f own, next own mine⟩
      · exact consumers c' (List.mem_append_right _ (List.mem_cons_of_mem _ mem))
  · rcases moves.mem nodup lock mem with gained | ⟨held, kept⟩
    · exact .inr ⟨_, here, f own, gained own, next own mine⟩
    rcases owner lock held with pools | ⟨c', mem, own', theirs, conforms⟩
    · exact .inl pools
    refine .inr ?_
    rcases List.mem_append.mp mem with mem | mem
    · exact ⟨c', List.mem_append_left _ mem, own', theirs, conforms⟩
    · rcases List.mem_cons.mp mem with rfl | mem
      · exact ⟨_, here, f own', kept own' theirs, next own' conforms⟩
      · exact ⟨c', List.mem_append_right _ (List.mem_cons_of_mem _ mem), own', theirs, conforms⟩

theorem LocksOwned.step (owned : LocksOwned t) (step : w.Step t u) : LocksOwned u := by
  cases step with
  | @pool s s' since team team' r a k allowed =>
    obtain ⟨nodup, ⟨own, pool⟩, consumers, owner⟩ := owned
    have moves := Workshop.locksMove_of_pool allowed
    have next {own : List PublisherLock} (conforms : poolKeeping.Conforms Unlocked own (.ask r k)) :
        poolKeeping.Conforms Unlocked (r.locksAfter own a) (k a) := by
      obtain ⟨_, ⟨_, rfl⟩, rest⟩ := conforms a
      exact rest
    obtain ⟨_, grows⟩ := Workshop.team_of_pool allowed
    have old : ∀ c ∈ team, c ∈ team' := by
      intro c mem
      rcases grows with rfl | ⟨new, rfl⟩
      · exact mem
      · exact List.mem_append_left _ mem
    refine ⟨moves.nodup nodup, ⟨_, next pool⟩, fun c mem => ?_, fun lock mem => ?_⟩
    · rcases grows with rfl | ⟨new, rfl⟩
      · exact consumers c mem
      · rcases List.mem_append.mp mem with mem | mem
        · exact consumers c mem
        · obtain rfl := List.mem_singleton.mp mem
          exact ⟨[], Workshop.consumerTurn_keeps _ _⟩
    · rcases moves.mem nodup lock mem with gained | ⟨held, kept⟩
      · exact .inl ⟨_, gained own, next pool⟩
      · rcases owner lock held with ⟨own, mine, conforms⟩ | ⟨c, mem, theirs⟩
        · exact .inl ⟨_, kept own mine, next conforms⟩
        · exact .inr ⟨c, old c mem, theirs⟩
  | turn =>
    obtain ⟨nodup, _, consumers, owner⟩ := owned
    refine ⟨nodup, ⟨[], Workshop.poolTurn_keeps _⟩, consumers, fun lock mem => ?_⟩
    rcases owner lock mem with ⟨_, mine, rfl⟩ | theirs
    · cases mine
    · exact .inr theirs
  | consumer allowed =>
    refine owned.consumer (WorkSite.locksMove_of_consumer allowed) fun own conforms => ?_
    obtain ⟨_, rfl, rest⟩ := conforms _
    exact rest
  | consumerTurn =>
    refine owned.consumer (.same _) fun own conforms => ?_
    obtain rfl : own = [] := conforms
    exact Workshop.consumerTurn_keeps _ _
  | drifts drifts =>
    obtain ⟨nodup, pool, consumers, owner⟩ := owned
    have same := drifts.held
    exact ⟨same ▸ nodup, pool, consumers, fun lock mem => owner lock (same ▸ mem)⟩

theorem Workshop.Course.locksOwned {stopAt : Option Nat} {past : List PoolMoment}
    (course : w.Course stopAt past t) : LocksOwned t := by
  induction course with
  | start =>
    exact ⟨List.nodup_nil, ⟨[], Workshop.poolTurn_keeps _⟩,
      fun c mem => (List.not_mem_nil mem).elim, fun lock mem => (List.not_mem_nil mem).elim⟩
  | step _ step ih => exact ih.step step

end Steps

end ImageWorker
