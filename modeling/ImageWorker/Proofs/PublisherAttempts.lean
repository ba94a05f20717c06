import ImageWorker.Broker.SharedLink
import ImageWorker.Proofs.LinkCustody
import ImageWorker.Proofs.PublisherHabits

/-!
# Single calls of a publisher

A publisher establishes its link, publishes or closes, while the broker answers as it likes and
links die whenever they like. Each function has one statement about what it leaves behind. The links
are kept tidy: of all links that were opened, the one in place is the only one that was not closed.
-/

namespace ImageWorker

open Surroundings PublisherProgram

abbrev PublisherExchange := Program.Exchange PublisherRequest PublisherRequest.Answer

namespace PublisherTrace

def connects (trace : List PublisherExchange) : Nat := trace.countP (·.request.isConnect)

def published (trace : List PublisherExchange) : List PublisherExchange :=
  trace.filter (·.request.isPublish)

theorem connects_append (trace rest : List PublisherExchange) :
    connects (trace ++ rest) = connects trace + connects rest := List.countP_append

theorem published_append (trace rest : List PublisherExchange) :
    published (trace ++ rest) = published trace ++ published rest := List.filter_append ..

end PublisherTrace

open PublisherTrace

/-- What is asked of the broker, as a publisher asks it. -/
def asked (x : Program.Exchange LinkRequest LinkRequest.Answer) : PublisherExchange :=
  ⟨.broker x.request, x.answer⟩

namespace SharedLink

/-- Links may also die before a question is answered. -/
def restless : Surroundings PublisherRequest PublisherRequest.Answer SharedLink where
  Allows s r answer s' := ∃ more, { s with dead := more ++ s.dead }.Allows r answer s'
  Drifts := Dies

/-- The part of them that concerns the broker. -/
def restlessBroker : Surroundings LinkRequest LinkRequest.Answer SharedLink where
  Allows s r answer s' := ∃ more, { s with dead := more ++ s.dead }.AllowsBroker r answer s'
  Drifts := Dies

theorem ofLink_completes {α : Type} {q : LinkProgram α} {s : SharedLink}
    {ends : List PublisherExchange → SharedLink → α → Prop}
    (completes : restlessBroker.Completes q s fun trace => ends (trace.map asked)) :
    restless.Completes (ofLink q) s ends := by
  induction q generalizing s ends with
  | done a => exact completes
  | ask r k ih =>
    obtain ⟨possible, next⟩ := completes
    exact ⟨possible, fun answer s' allowed => ih answer (next answer s' allowed)⟩

end SharedLink

namespace SharedLink

/-- The states differ at most in which links are dead. -/
structure Like (s s' : SharedLink) : Prop where
  stored : s'.stored = s.stored
  established : s'.established = s.established
  held : s'.held = s.held
  opened : s'.opened = s.opened
  closed : s'.closed = s.closed
  sent : s'.sent = s.sent

variable {s s' t u : SharedLink}

theorem Like.refl (s : SharedLink) : s.Like s := ⟨rfl, rfl, rfl, rfl, rfl, rfl⟩

theorem Like.trans (first : s.Like t) (second : t.Like u) : s.Like u where
  stored := second.stored.trans first.stored
  established := second.established.trans first.established
  held := second.held.trans first.held
  opened := second.opened.trans first.opened
  closed := second.closed.trans first.closed
  sent := second.sent.trans first.sent

theorem Like.isHeld (like : s.Like t) (lock : PublisherLock) : t.isHeld lock = s.isHeld lock := by
  rw [SharedLink.isHeld, like.held, SharedLink.isHeld]

def dropped (s : SharedLink) : SharedLink :=
  { s with opened := s.opened + 1, closed := s.opened :: s.closed }

/-- At most one more link was opened, and if so it was closed. -/
def Spent (s s' : SharedLink) : Prop := s.Like s' ∨ s.dropped.Like s'

/-- The state after an exchange, as far as it is not about deaths. -/
def effect (s : SharedLink) : (r : PublisherRequest) → r.Answer → SharedLink
  | .broker (.connect _), .ok _ => { s with opened := s.opened + 1 }
  | .broker (.publish link _ _ payload), .ok _ => { s with sent := (link, payload) :: s.sent }
  | .broker (.close link), _ | .broker (.closeConnection link), _ =>
    { s with closed := link :: s.closed }
  | .setEstablished, _ => { s with established := true }
  | .acquire lock, _ => { s with held := lock :: s.held }
  | .release lock, _ => { s with held := s.held.erase lock }
  | .replace link, _ => { s with stored := some link }
  | .take, _ => { s with stored := none }
  | _, _ => s

theorem Like.effect (like : s.Like t) (r : PublisherRequest) (answer : r.Answer) :
    (s.effect r answer).Like (t.effect r answer) := by
  obtain ⟨stored, established, held, opened, closed, sent⟩ := like
  cases r with
  | broker r =>
    cases r with
    | connect | publish =>
      cases answer <;> constructor <;> simp only [SharedLink.effect, *]
    | _ => constructor <;> simp only [SharedLink.effect, *]
  | _ => constructor <;> simp only [SharedLink.effect, *]

/-- What is found in the place: nothing, or the link that is there, which works only if it did
before. -/
theorem found_of_allowed {found : LinkState} (allowed : restless.Allows s .observe found s') :
    found = .missing ∧ s.stored = none ∨
      ∃ link, s.stored = some link ∧
        (found = .usable link ∧ s.linkState = .usable link ∨ found = .broken) := by
  obtain ⟨more, _, rfl, _⟩ := allowed
  unfold linkState
  cases stored : s.stored with
  | none => exact .inl ⟨rfl, rfl⟩
  | some link =>
    refine .inr ⟨link, rfl, ?_⟩
    by_cases usable : isUsable { s with dead := more ++ s.dead } link = true
    · have before : s.isUsable link = true := by
        simp only [isUsable, Bool.and_eq_true, Bool.not_eq_true', List.contains_eq_mem,
          List.mem_append, decide_eq_false_iff_not, not_or] at usable ⊢
        exact ⟨⟨usable.1.1, usable.1.2.2⟩, usable.2⟩
      exact .inl ⟨if_pos usable, if_pos before⟩
    · exact .inr (if_neg usable)

theorem like_of_allowed {r : PublisherRequest} {answer : r.Answer}
    (allowed : restless.Allows s r answer s') : (s.effect r answer).Like s' := by
  obtain ⟨more, allowed⟩ := allowed
  cases r with
  | broker r =>
    cases r with
    | close | closeConnection | note =>
      obtain rfl := allowed
      exact ⟨rfl, rfl, rfl, rfl, rfl, rfl⟩
    | isUsable =>
      obtain ⟨_, rfl⟩ := allowed
      exact ⟨rfl, rfl, rfl, rfl, rfl, rfl⟩
    | connect | openChannel | declareExchange | declareQueue | bindQueue | limitPrefetch | consume
    | publish =>
      cases answer with
      | error =>
        obtain rfl := allowed
        exact ⟨rfl, rfl, rfl, rfl, rfl, rfl⟩
      | ok =>
        obtain ⟨_, rfl⟩ := allowed
        exact ⟨rfl, rfl, rfl, rfl, rfl, rfl⟩
  | observe =>
    obtain ⟨_, _, rfl⟩ := allowed
    exact ⟨rfl, rfl, rfl, rfl, rfl, rfl⟩
  | wasEstablished | acquire | replace | take =>
    obtain ⟨_, rfl⟩ := allowed
    exact ⟨rfl, rfl, rfl, rfl, rfl, rfl⟩
  | setEstablished | release =>
    obtain rfl := allowed
    exact ⟨rfl, rfl, rfl, rfl, rfl, rfl⟩

end SharedLink

/-- A trace in which nothing is opened or published. -/
structure PublisherTrace.Quiet (trace : List PublisherExchange) : Prop where
  connects : connects trace = 0
  published : published trace = []

/-- A trace in which one link is opened and nothing is published. -/
structure PublisherTrace.Dials (trace : List PublisherExchange) : Prop where
  connects : connects trace = 1
  published : published trace = []

namespace PublisherTrace

variable {trace rest : List PublisherExchange}

theorem Quiet.append (quiet : Quiet trace) (more : Quiet rest) : Quiet (trace ++ rest) where
  connects := by rw [connects_append, quiet.connects, more.connects]
  published := by rw [published_append, quiet.published, more.published, List.append_nil]

theorem Quiet.append_dials (quiet : Quiet trace) (more : Dials rest) : Dials (trace ++ rest) where
  connects := by rw [connects_append, quiet.connects, more.connects]
  published := by rw [published_append, quiet.published, more.published, List.append_nil]

theorem Dials.append (dials : Dials trace) (more : Quiet rest) : Dials (trace ++ rest) where
  connects := by rw [connects_append, dials.connects, more.connects]
  published := by rw [published_append, dials.published, more.published, List.append_nil]

/-- Locks do not show. -/
theorem Quiet.locked (quiet : Quiet trace) (lock : PublisherLock) :
    Quiet (⟨.acquire lock, ()⟩ :: (trace ++ [⟨.release lock, ()⟩])) := by
  have taken : Quiet [⟨.acquire lock, ()⟩] := ⟨rfl, rfl⟩
  exact taken.append (quiet.append ⟨rfl, rfl⟩)

theorem Dials.locked (dials : Dials trace) (lock : PublisherLock) :
    Dials (⟨.acquire lock, ()⟩ :: (trace ++ [⟨.release lock, ()⟩])) := by
  have taken : Quiet [⟨.acquire lock, ()⟩] := ⟨rfl, rfl⟩
  exact taken.append_dials (dials.append ⟨rfl, rfl⟩)

end PublisherTrace

/-- What declaring something on a link leaves behind. -/
structure DeclareAttempt (s : SharedLink) (trace : List PublisherExchange) (s' : SharedLink)
    (result : Except QueueError Unit) : Prop where
  like : s.Like s'
  quiet : Quiet trace
  fault : ∀ e, result = .error e → ∃ why, e = .link why

/-- What an attempt to open a link leaves behind: the link, or nothing that is open. -/
structure OpenAttempt (s : SharedLink) (trace : List PublisherExchange) (s' : SharedLink)
    (result : Except QueueError LinkId) : Prop where
  dials : Dials trace
  links : result = .ok s.opened ∧ { s with opened := s.opened + 1 }.Like s' ∨
    (∃ e, result = .error (.link e)) ∧ s.Spent s'

/-- The state after a new link has come into its place. -/
def SharedLink.renewed (s : SharedLink) : SharedLink :=
  { s with
    stored := some s.opened
    established := true
    opened := s.opened + 1
    closed := s.stored.toList ++ s.closed }

/-- What an attempt to put a new link into its place leaves behind. -/
structure PlaceAttempt (s : SharedLink) (trace : List PublisherExchange) (s' : SharedLink)
    (result : Except QueueError Unit) : Prop where
  dials : Dials trace
  links : result = .ok () ∧ s.renewed.Like s' ∨ (∃ e, result = .error (.link e)) ∧ s.Spent s'

namespace StatusRoute

variable {r : StatusRoute}

/-- A refusal is always possible. -/
def refusal {α : Type} : Except LinkError α := .error .missingHeartbeat

theorem openLink_completes (label : String) (s : SharedLink) :
    SharedLink.restlessBroker.Completes (LinkProgram.openLink label) s fun trace =>
      OpenAttempt s (trace.map asked) := by
  have closed {s' : SharedLink} (like : s.dropped.Like s') : s.Spent s' := .inr like
  refine ⟨⟨refusal, _, [], rfl⟩, ?_⟩
  rintro (e | link) s' ⟨_, allowed⟩
  · obtain rfl := allowed
    exact ⟨⟨rfl, rfl⟩, .inr ⟨⟨e, rfl⟩, .inl ⟨rfl, rfl, rfl, rfl, rfl, rfl⟩⟩⟩
  obtain ⟨rfl, rfl⟩ := allowed
  refine ⟨⟨refusal, _, [], rfl⟩, ?_⟩
  rintro (e | ⟨⟩) s' ⟨_, allowed⟩
  · obtain rfl := allowed
    refine ⟨⟨refusal, _, [], rfl⟩, ?_⟩
    rintro (why | ⟨⟩) s' ⟨_, rfl⟩
    · refine ⟨⟨(), _, [], rfl⟩, ?_⟩
      rintro ⟨⟩ s' ⟨_, rfl⟩
      exact ⟨⟨rfl, rfl⟩, .inr ⟨⟨e, rfl⟩, closed ⟨rfl, rfl, rfl, rfl, rfl, rfl⟩⟩⟩
    · exact ⟨⟨rfl, rfl⟩, .inr ⟨⟨e, rfl⟩, closed ⟨rfl, rfl, rfl, rfl, rfl, rfl⟩⟩⟩
  · obtain ⟨_, rfl⟩ := allowed
    exact ⟨⟨rfl, rfl⟩, .inl ⟨rfl, rfl, rfl, rfl, rfl, rfl, rfl⟩⟩

theorem declareOn_completes (link : LinkId) (s : SharedLink) :
    SharedLink.restlessBroker.Completes (r.declareOn link) s fun trace =>
      DeclareAttempt s (trace.map asked) := by
  have refused {e : LinkError} {trace : List PublisherExchange} {s' : SharedLink}
      (like : s.Like s') (quiet : Quiet trace) : DeclareAttempt s trace s' (.error (.link e)) :=
    ⟨like, quiet, fun _ same => ⟨e, (Except.error.inj same).symm⟩⟩
  refine ⟨⟨refusal, _, [], rfl⟩, ?_⟩
  rintro (e | ⟨⟩) s' ⟨_, allowed⟩
  · obtain rfl := allowed
    exact refused ⟨rfl, rfl, rfl, rfl, rfl, rfl⟩ ⟨rfl, rfl⟩
  obtain ⟨_, rfl⟩ := allowed
  refine ⟨⟨refusal, _, [], rfl⟩, ?_⟩
  rintro (e | ⟨⟩) s' ⟨_, allowed⟩
  · obtain rfl := allowed
    exact refused ⟨rfl, rfl, rfl, rfl, rfl, rfl⟩ ⟨rfl, rfl⟩
  obtain ⟨_, rfl⟩ := allowed
  refine ⟨⟨refusal, _, [], rfl⟩, ?_⟩
  rintro (e | ⟨⟩) s' ⟨_, allowed⟩
  · obtain rfl := allowed
    exact refused ⟨rfl, rfl, rfl, rfl, rfl, rfl⟩ ⟨rfl, rfl⟩
  · obtain ⟨_, rfl⟩ := allowed
    exact ⟨⟨rfl, rfl, rfl, rfl, rfl, rfl⟩, ⟨rfl, rfl⟩, nofun⟩

/-- A link on which not everything can be declared is closed. -/
theorem openDeclared_completes (s : SharedLink) :
    SharedLink.restlessBroker.Completes r.openDeclared s fun trace =>
      OpenAttempt s (trace.map asked) := by
  refine (openLink_completes label s).bind ?_
  rintro trace t (e | link) ⟨dials, links⟩
  · exact ⟨by rwa [List.append_nil], links⟩
  rcases links with ⟨same, opened⟩ | ⟨⟨_, ⟨⟩⟩, _⟩
  obtain rfl := Except.ok.inj same
  refine (declareOn_completes s.opened t).bind ?_
  rintro rest t' (e | ⟨⟩) ⟨like, quiet, fault⟩
  · obtain ⟨why, rfl⟩ := fault e rfl
    refine ⟨⟨(), _, [], rfl⟩, ?_⟩
    rintro ⟨⟩ s' ⟨_, rfl⟩
    have after := opened.trans like
    refine ⟨?_, .inr ⟨⟨why, rfl⟩, .inr ?_⟩⟩
    · rw [List.map_append, List.map_append]
      exact dials.append (quiet.append ⟨rfl, rfl⟩)
    · exact ⟨after.stored, after.established, after.held, after.opened,
        congrArg (s.opened :: ·) after.closed, after.sent⟩
  · refine ⟨?_, .inl ⟨rfl, opened.trans like⟩⟩
    rw [List.append_nil, List.map_append]
    exact dials.append quiet

/-- Whoever takes a lock gives it back. -/
theorem holding_completes {α : Type} {lock : PublisherLock} {p : PublisherProgram α}
    {s : SharedLink} {ends : List PublisherExchange → SharedLink → α → Prop}
    (between : List PublisherExchange → SharedLink → α → Prop) (free : s.isHeld lock = false)
    (inside : ∀ t, { s with held := lock :: s.held }.Like t →
      SharedLink.restless.Completes p t between)
    (after : ∀ trace t a s', between trace t a → { t with held := t.held.erase lock }.Like s' →
      ends (⟨.acquire lock, ()⟩ :: (trace ++ [⟨.release lock, ()⟩])) s' a) :
    SharedLink.restless.Completes (holding lock p) s ends := by
  refine ⟨⟨(), _, [], free, rfl⟩, fun _ t locked => ?_⟩
  refine (inside t (SharedLink.like_of_allowed locked)).bind fun trace t' a ended => ?_
  refine ⟨⟨(), _, [], rfl⟩, fun _ s' unlocked => ?_⟩
  exact after trace t' a s' ended (SharedLink.like_of_allowed unlocked)

/-- A lock that was held for a time is free again. -/
theorem unlocked_like {lock : PublisherLock} {s t s' : SharedLink}
    (like : { s with held := lock :: s.held }.Like t)
    (unlocked : { t with held := t.held.erase lock }.Like s') : s.Like s' := by
  have after := (like.effect (.release lock) ()).trans unlocked
  exact { after with held := after.held.trans (List.erase_cons_head ..) }

theorem replace_completes {link : LinkId} {s : SharedLink} (free : s.isHeld .place = false) :
    SharedLink.restless.Completes (holding .place (.ask (.replace link) .done)) s
      fun trace s' previous =>
        Quiet trace ∧ previous = s.stored ∧ { s with stored := some link }.Like s' := by
  refine holding_completes
    (fun trace t previous => Quiet trace ∧ previous = s.stored ∧
      { s with stored := some link, held := .place :: s.held }.Like t) free
    (fun t locked => ?_) ?_
  · refine ⟨⟨_, _, [], rfl, rfl⟩, fun previous t' replaced => ⟨⟨rfl, rfl⟩, ?_, ?_⟩⟩
    · obtain ⟨_, same, _⟩ := replaced
      exact same.trans locked.stored
    · exact (locked.effect (.replace link) previous).trans (SharedLink.like_of_allowed replaced)
  · rintro trace t previous s' ⟨quiet, same, replaced⟩ unlocked
    exact ⟨quiet.locked .place, same, unlocked_like replaced unlocked⟩

theorem closeLink_completes (link : LinkId) (s : SharedLink) :
    SharedLink.restless.Completes (closeLink link) s fun trace s' _ =>
      Quiet trace ∧ { s with closed := link :: s.closed }.Like s' :=
  ⟨⟨(), _, [], rfl⟩, fun _ _ closed => ⟨⟨rfl, rfl⟩, SharedLink.like_of_allowed closed⟩⟩

/-- The last steps of putting a link into its place. -/
theorem ready_completes (line : LogLine) (s : SharedLink) :
    SharedLink.restless.Completes
      (.ask .setEstablished fun _ => (log line).bind fun _ => .done (.ok ()) :
        PublisherProgram (Except QueueError Unit))
      s fun trace s' result =>
        Quiet trace ∧ result = .ok () ∧ { s with established := true }.Like s' := by
  refine ⟨⟨(), _, [], rfl⟩, fun _ t established => ?_⟩
  refine ⟨⟨(), _, [], rfl⟩, fun _ s' noted => ?_⟩
  exact ⟨⟨rfl, rfl⟩, rfl,
    (SharedLink.like_of_allowed established).trans (SharedLink.like_of_allowed noted)⟩

theorem openInPlace_completes {s : SharedLink} (free : s.isHeld .place = false) :
    SharedLink.restless.Completes r.openInPlace s (PlaceAttempt s) := by
  refine (SharedLink.ofLink_completes (openDeclared_completes s)).bind ?_
  rintro trace t (e | link) ⟨dials, links⟩
  · rcases links with ⟨⟨⟩, _⟩ | ⟨⟨why, same⟩, spent⟩
    obtain rfl := Except.error.inj same
    exact ⟨by rwa [List.append_nil], .inr ⟨⟨why, rfl⟩, spent⟩⟩
  rcases links with ⟨same, opened⟩ | ⟨⟨_, ⟨⟩⟩, _⟩
  obtain rfl := Except.ok.inj same
  refine (replace_completes ((opened.isHeld .place).trans free)).bind ?_
  rintro rest t' previous ⟨quiet, same, placed⟩
  have previous_eq : previous = s.stored := same.trans opened.stored
  have finish (more : List PublisherExchange) {u : SharedLink} (quiet' : Quiet more)
      (shut : { t' with closed := previous.toList ++ t'.closed }.Like u) (line : LogLine) :
      SharedLink.restless.Completes
        (.ask .setEstablished fun _ => (log line).bind fun _ => .done (.ok ()) :
          PublisherProgram (Except QueueError Unit))
        u fun last => PlaceAttempt s (trace ++ (rest ++ (more ++ last))) := by
    refine (ready_completes line u).mono ?_
    rintro last s' result ⟨quiet'', rfl, ready⟩
    refine ⟨dials.append (quiet.append (quiet'.append quiet'')), .inl ⟨rfl, ?_⟩⟩
    exact {
      stored := ready.stored.trans (shut.stored.trans placed.stored)
      established := ready.established
      held := ready.held.trans (shut.held.trans (placed.held.trans opened.held))
      opened := ready.opened.trans (shut.opened.trans (placed.opened.trans opened.opened))
      closed := by
        rw [ready.closed, shut.closed, placed.closed, previous_eq]
        exact congrArg (s.stored.toList ++ ·) opened.closed
      sent := ready.sent.trans (shut.sent.trans (placed.sent.trans opened.sent)) }
  cases previous with
  | none => exact finish [] ⟨rfl, rfl⟩ (.refl t') _
  | some old =>
    refine (closeLink_completes old t').bind ?_
    rintro more u _ ⟨quiet', shut⟩
    exact finish more quiet' shut _

end StatusRoute

namespace SharedLink

variable {s s' : SharedLink}

/-- Whatever is in place was opened, and of all links that were opened it is the only one that was
not closed. -/
structure Tidy (s : SharedLink) : Prop where
  established : ∀ link, s.stored = some link → s.established = true
  genuine : ∀ link, s.stored = some link → link < s.opened
  closed_lt : ∀ link ∈ s.closed, link < s.opened
  not_closed_iff : ∀ link < s.opened, link ∉ s.closed ↔ s.stored = some link

theorem Tidy.initial : Tidy initial := ⟨nofun, nofun, nofun, nofun⟩

theorem Tidy.like (tidy : s.Tidy) (like : s.Like s') : s'.Tidy := by
  obtain ⟨stored, established, _, opened, closed, _⟩ := like
  refine ⟨?_, ?_, ?_, ?_⟩
  · rw [stored, established]
    exact tidy.established
  · rw [stored, opened]
    exact tidy.genuine
  · rw [closed, opened]
    exact tidy.closed_lt
  · rw [closed, opened, stored]
    exact tidy.not_closed_iff

theorem Tidy.dropped (tidy : s.Tidy) : s.dropped.Tidy := by
  refine ⟨tidy.established, fun link stored => ?_, ?_, fun link below => ?_⟩
  · exact Nat.lt_succ_of_lt (tidy.genuine link stored)
  · refine List.forall_mem_cons.mpr ⟨Nat.lt_succ_self _, fun link mem => ?_⟩
    exact Nat.lt_succ_of_lt (tidy.closed_lt link mem)
  · show link ∉ s.opened :: s.closed ↔ s.stored = some link
    rw [List.mem_cons, not_or]
    rcases Nat.lt_succ_iff_lt_or_eq.mp below with old | rfl
    · rw [tidy.not_closed_iff link old]
      exact ⟨And.right, fun stored => ⟨Nat.ne_of_lt old, stored⟩⟩
    · exact ⟨fun apart => absurd rfl apart.1,
        fun stored => absurd (tidy.genuine _ stored) (Nat.lt_irrefl _)⟩

theorem Tidy.spent (tidy : s.Tidy) (spent : s.Spent s') : s'.Tidy :=
  spent.elim tidy.like tidy.dropped.like

theorem Tidy.mem_closed_or (tidy : s.Tidy) {link : LinkId} (old : link < s.opened) :
    link ∈ s.stored.toList ++ s.closed := by
  rw [List.mem_append, Option.mem_toList]
  by_cases closed : link ∈ s.closed
  · exact .inr closed
  · exact .inl ((tidy.not_closed_iff link old).mp closed)

theorem Tidy.lt_of_mem (tidy : s.Tidy) {link : LinkId}
    (mem : link ∈ s.stored.toList ++ s.closed) : link < s.opened := by
  rw [List.mem_append, Option.mem_toList] at mem
  exact mem.elim (tidy.genuine link) (tidy.closed_lt link)

theorem Tidy.renewed (tidy : s.Tidy) : s.renewed.Tidy := by
  refine ⟨fun _ _ => rfl, ?_, fun link mem => ?_, fun link below => ?_⟩
  · rintro _ ⟨⟩
    exact Nat.lt_succ_self _
  · exact Nat.lt_succ_of_lt (tidy.lt_of_mem mem)
  · show link ∉ s.stored.toList ++ s.closed ↔ some s.opened = some link
    rcases Nat.lt_succ_iff_lt_or_eq.mp below with old | rfl
    · refine ⟨fun unclosed => absurd (tidy.mem_closed_or old) unclosed, fun same => ?_⟩
      exact absurd (Option.some.inj same).symm (Nat.ne_of_lt old)
    · exact ⟨fun _ => rfl, fun _ mem => Nat.lt_irrefl _ (tidy.lt_of_mem mem)⟩

/-- The state after the link was taken out of its place and closed. -/
def emptied (s : SharedLink) : SharedLink :=
  { s with stored := none, closed := s.stored.toList ++ s.closed }

theorem Tidy.emptied (tidy : s.Tidy) : s.emptied.Tidy := by
  refine ⟨nofun, nofun, fun link mem => tidy.lt_of_mem mem, fun link below => ?_⟩
  exact ⟨fun unclosed => absurd (tidy.mem_closed_or below) unclosed, nofun⟩

end SharedLink

namespace SharedLink

variable {s s' t t' : SharedLink}

theorem Like.renewed (like : s.Like t) : s.renewed.Like t.renewed := by
  obtain ⟨stored, established, held, opened, closed, sent⟩ := like
  constructor <;> simp only [SharedLink.renewed, *]

theorem Like.dropped (like : s.Like t) : s.dropped.Like t.dropped := by
  obtain ⟨stored, established, held, opened, closed, sent⟩ := like
  constructor <;> simp only [SharedLink.dropped, *]

theorem Like.emptied (like : s.Like t) : s.emptied.Like t.emptied := by
  obtain ⟨stored, established, held, opened, closed, sent⟩ := like
  constructor <;> simp only [SharedLink.emptied, *]

theorem Spent.unlocked {lock : PublisherLock}
    (locked : { s with held := lock :: s.held }.Like t) (spent : t.Spent t')
    (unlocked : { t' with held := t'.held.erase lock }.Like s') : s.Spent s' := by
  rcases spent with like | like
  · exact .inl (StatusRoute.unlocked_like (locked.trans like) unlocked)
  · exact .inr (StatusRoute.unlocked_like (s := s.dropped) (locked.dropped.trans like) unlocked)

end SharedLink

namespace StatusRoute

variable {r : StatusRoute} {s : SharedLink}

theorem isHeld_of_unlocked (unlocked : s.held = []) (lock : PublisherLock) :
    s.isHeld lock = false := by
  rw [SharedLink.isHeld, unlocked]
  rfl

theorem establish_completes (unlocked : s.held = []) :
    SharedLink.restless.Completes r.establish s (PlaceAttempt s) := by
  refine holding_completes
    (fun trace t' result => ∃ t, { s with held := .reconnect :: s.held }.Like t ∧
      PlaceAttempt t trace t' result)
    (isHeld_of_unlocked unlocked .reconnect) (fun t locked => ?_) ?_
  · have free : t.isHeld .place = false := by
      rw [SharedLink.isHeld, locked.held, unlocked]
      rfl
    exact (openInPlace_completes free).mono fun _ _ _ placed => ⟨t, locked, placed⟩
  · rintro trace t' result s' ⟨t, locked, ⟨dials, links⟩⟩ unlocked'
    refine ⟨dials.locked .reconnect, ?_⟩
    rcases links with ⟨ok, like⟩ | ⟨fault, spent⟩
    · exact .inl ⟨ok, unlocked_like (s := s.renewed) (locked.renewed.trans like) unlocked'⟩
    · exact .inr ⟨fault, spent.unlocked locked unlocked'⟩

theorem discard_completes (line : Option LogLine) (unlocked : s.held = []) :
    SharedLink.restless.Completes (discard line) s fun trace s' _ =>
      Quiet trace ∧ s.emptied.Like s' := by
  refine holding_completes
    (fun trace t _ => Quiet trace ∧
      { s.emptied with held := .place :: s.held }.Like t)
    (isHeld_of_unlocked unlocked .place) (fun t locked => ?_) ?_
  · refine ⟨⟨_, _, [], rfl, rfl⟩, fun found t' taken => ?_⟩
    have same : found = s.stored := taken.elim fun _ allowed => allowed.1.trans locked.stored
    have after := (locked.effect .take found).trans (SharedLink.like_of_allowed taken)
    cases found with
    | none =>
      refine ⟨⟨rfl, rfl⟩, { after with closed := after.closed.trans ?_ }⟩
      show s.closed = s.stored.toList ++ s.closed
      rw [← same]
      rfl
    | some link =>
      have shut (trace : List PublisherExchange) {u : SharedLink} (quiet : Quiet trace)
          (like : t'.Like u) :
          SharedLink.restless.Completes (closeLink link) u fun rest v _ =>
            Quiet (trace ++ rest) ∧ { s.emptied with held := .place :: s.held }.Like v := by
        refine (closeLink_completes link u).mono ?_
        rintro rest v _ ⟨quiet', closed⟩
        have after := ((after.trans like).effect (.broker (.close link)) ()).trans closed
        refine ⟨quiet.append quiet', { after with closed := after.closed.trans ?_ }⟩
        show link :: s.closed = s.stored.toList ++ s.closed
        rw [← same]
        rfl
      cases line with
      | none => exact shut [⟨.take, some link⟩] ⟨rfl, rfl⟩ (.refl t')
      | some line =>
        refine ⟨⟨(), _, [], rfl⟩, fun _ u noted => ?_⟩
        exact shut [⟨.take, some link⟩, ⟨.broker (.note (.log line)), ()⟩] ⟨rfl, rfl⟩
          (SharedLink.like_of_allowed noted)
  · rintro trace t' _ s' ⟨quiet, emptied⟩ unlocked'
    exact ⟨quiet.locked .place, unlocked_like (s := s.emptied) emptied unlocked'⟩

/-- What a reconnect leaves behind: the new link, which may have died at once, or nothing. -/
structure ReconnectAttempt (s : SharedLink) (trace : List PublisherExchange) (s' : SharedLink)
    (result : Except QueueError LinkId) : Prop where
  dials : Dials trace
  links :
    s.renewed.Like s' ∧ (result = .ok s.opened ∨ ∃ why, result = .error (.channelClosed why)) ∨
      (∃ e, result = .error (.link e)) ∧ s.Spent s'

theorem reconnect_completes (unlocked : s.held = []) (missing : s.stored = none) :
    SharedLink.restless.Completes r.reconnect s (ReconnectAttempt s) := by
  refine holding_completes
    (fun trace t' result => ∃ t, { s with held := .reconnect :: s.held }.Like t ∧
      ReconnectAttempt t trace t' result)
    (isHeld_of_unlocked unlocked .reconnect) (fun t locked => ?_) ?_
  · have free {u : SharedLink} (held : u.held = .reconnect :: s.held) :
        u.isHeld .place = false := by
      rw [SharedLink.isHeld, held, unlocked]
      rfl
    refine ⟨⟨t.linkState, _, [], free locked.held, rfl, rfl⟩, fun found u looked => ?_⟩
    have like := SharedLink.like_of_allowed looked
    rcases SharedLink.found_of_allowed looked with ⟨rfl, _⟩ | ⟨link, stored, _⟩
    · have saw : Quiet [⟨.observe, .missing⟩] := ⟨rfl, rfl⟩
      refine (openInPlace_completes (free (like.held.trans locked.held))).bind ?_
      rintro trace v result ⟨dials, links⟩
      rcases links with ⟨rfl, placed⟩ | ⟨⟨e, rfl⟩, spent⟩
      · -- The new link is in its place, and may have died meanwhile.
        have held : v.held = .reconnect :: s.held :=
          placed.held.trans (like.held.trans locked.held)
        refine ⟨⟨v.linkState, _, [], free held, rfl, rfl⟩, fun found' w looked' => ?_⟩
        have renewed : t.renewed.Like w :=
          (like.renewed.trans placed).trans (SharedLink.like_of_allowed looked')
        have quiet : Dials (trace ++ [⟨.observe, found'⟩]) := dials.append ⟨rfl, rfl⟩
        rcases SharedLink.found_of_allowed looked' with ⟨_, none⟩ | ⟨link, stored, states⟩
        · exact absurd (none.symm.trans placed.stored).symm (Option.some_ne_none _)
        · obtain rfl : link = t.opened :=
            Option.some.inj (stored.symm.trans (placed.stored.trans (congrArg some like.opened)))
          rcases states with ⟨rfl, _⟩ | rfl
          · exact ⟨t, locked, saw.append_dials quiet, .inl ⟨renewed, .inl rfl⟩⟩
          · exact ⟨t, locked, saw.append_dials quiet, .inl ⟨renewed, .inr ⟨_, rfl⟩⟩⟩
      · refine ⟨t, locked, saw.append_dials (dials.append ⟨rfl, rfl⟩), .inr ⟨⟨e, rfl⟩, ?_⟩⟩
        rcases spent with same | closed
        · exact .inl (like.trans same)
        · exact .inr (like.dropped.trans closed)
    · exact absurd ((locked.stored.trans missing).symm.trans stored).symm (Option.some_ne_none _)
  · rintro trace t' result s' ⟨t, locked, ⟨dials, links⟩⟩ unlocked'
    refine ⟨dials.locked .reconnect, ?_⟩
    rcases links with ⟨renewed, results⟩ | ⟨fault, spent⟩
    · rw [locked.opened] at results
      exact .inl ⟨unlocked_like (s := s.renewed) (locked.renewed.trans renewed) unlocked', results⟩
    · exact .inr ⟨fault, spent.unlocked locked unlocked'⟩

/-- As a reconnect leaves it, it is left to whoever looked before. -/
theorem ReconnectAttempt.after {before trace : List PublisherExchange} {t s' : SharedLink}
    {result : Except QueueError LinkId} (attempt : ReconnectAttempt t trace s' result)
    (like : s.Like t) (quiet : Quiet before) : ReconnectAttempt s (before ++ trace) s' result := by
  obtain ⟨dials, links⟩ := attempt
  refine ⟨quiet.append_dials dials, ?_⟩
  rcases links with ⟨renewed, results⟩ | ⟨fault, spent⟩
  · rw [like.opened] at results
    exact .inl ⟨like.renewed.trans renewed, results⟩
  · exact .inr ⟨fault, spent.imp like.trans like.dropped.trans⟩

/-- What looking for a link can find, and what it leaves behind then. -/
inductive FindAttempt (s : SharedLink) (trace : List PublisherExchange) (s' : SharedLink) :
    Except QueueError LinkId → Prop where
  | notReady (why : String) : s.stored = none → s.established = false → Quiet trace →
    s.Like s' → FindAttempt s trace s' (.error (.notReady why))
  | usable (link : LinkId) : s.stored = some link → s.linkState = .usable link → Quiet trace →
    s.Like s' → FindAttempt s trace s' (.ok link)
  | broken (link : LinkId) (why : String) : s.stored = some link → Quiet trace →
    s.emptied.Like s' → FindAttempt s trace s' (.error (.channelClosed why))
  | reconnected (result : Except QueueError LinkId) : s.stored = none → s.established = true →
    ReconnectAttempt s trace s' result → FindAttempt s trace s' result

theorem findLink_completes (unlocked : s.held = []) :
    SharedLink.restless.Completes r.findLink s (FindAttempt s) := by
  refine ⟨⟨s.linkState, _, [], isHeld_of_unlocked unlocked .place, rfl, rfl⟩,
    fun found t looked => ?_⟩
  have like := SharedLink.like_of_allowed looked
  rcases SharedLink.found_of_allowed looked with ⟨rfl, missing⟩ | ⟨link, stored, states⟩
  · refine ⟨⟨_, _, [], rfl, rfl⟩, fun known u told => ?_⟩
    have same : known = s.established :=
      told.elim fun _ allowed => allowed.1.trans like.established
    have like' := like.trans (SharedLink.like_of_allowed told)
    cases known with
    | false => exact .notReady _ missing same.symm ⟨rfl, rfl⟩ like'
    | true =>
      refine (reconnect_completes (like'.held.trans unlocked) (like'.stored.trans missing)).mono ?_
      intro trace s' result attempt
      have quiet : Quiet [⟨.observe, .missing⟩, ⟨.wasEstablished, true⟩] := ⟨rfl, rfl⟩
      exact .reconnected result missing same.symm (attempt.after like' quiet)
  · rcases states with ⟨rfl, usable⟩ | rfl
    · exact .usable link stored usable ⟨rfl, rfl⟩ like
    · refine (discard_completes _ (like.held.trans unlocked)).bind ?_
      rintro trace s' _ ⟨quiet, emptied⟩
      have saw : Quiet [⟨.observe, .broken⟩] := ⟨rfl, rfl⟩
      refine .broken link _ stored ?_ (like.emptied.trans emptied)
      rw [List.append_nil]
      exact saw.append quiet

/-- An event sent on a link, and how the broker took it. -/
def sending (r : StatusRoute) (event : StatusEvent) (link : LinkId)
    (answer : Except LinkError Unit) : PublisherExchange :=
  ⟨.broker (.publish link r.exchange r.routingKey (StatusMessage.ofEvent event).toJson), answer⟩

/-- What a publish leaves behind. -/
inductive PublishAttempt (r : StatusRoute) (event : StatusEvent) (s : SharedLink) :
    List PublisherExchange → SharedLink → Except QueueError Unit → Prop where
  | unfound {trace : List PublisherExchange} {s' : SharedLink} {e : QueueError} :
    FindAttempt s trace s' (.error e) → PublishAttempt r event s trace s' (.error e)
  | refused {trace : List PublisherExchange} {t s' : SharedLink} {link : LinkId} {e : LinkError} :
    FindAttempt s trace t (.ok link) → t.Like s' →
    PublishAttempt r event s (trace ++ [r.sending event link (.error e)]) s' (.error (.link e))
  | delivered {trace : List PublisherExchange} {t s' : SharedLink} {link : LinkId} :
    FindAttempt s trace t (.ok link) →
    { t with sent := (link, (StatusMessage.ofEvent event).toJson) :: t.sent }.Like s' →
    PublishAttempt r event s (trace ++ [r.sending event link (.ok ())]) s' (.ok ())

theorem publish_completes (event : StatusEvent) (unlocked : s.held = []) :
    SharedLink.restless.Completes (r.publish event) s (PublishAttempt r event s) := by
  refine (findLink_completes unlocked).bind ?_
  rintro trace t (e | link) found
  · show PublishAttempt r event s (trace ++ []) t (.error e)
    rw [List.append_nil]
    exact .unfound found
  refine ⟨⟨refusal, _, [], rfl⟩, fun answer s' published => ?_⟩
  have like := SharedLink.like_of_allowed published
  cases answer with
  | error e => exact .refused found like
  | ok => exact .delivered found like

theorem shut_completes (unlocked : s.held = []) :
    SharedLink.restless.Completes shut s fun trace s' _ => Quiet trace ∧ s.emptied.Like s' :=
  discard_completes none unlocked

end StatusRoute

/-- The ways in which the links can be left. -/
def SharedLink.Settles (s s' : SharedLink) : Prop :=
  s.Spent s' ∨ s.renewed.Like s' ∨ s.emptied.Like s'

namespace SharedLink

variable {s s' : SharedLink}

theorem Settles.tidy (settles : s.Settles s') (tidy : s.Tidy) : s'.Tidy := by
  rcases settles with spent | renewed | emptied
  · exact tidy.spent spent
  · exact tidy.renewed.like renewed
  · exact tidy.emptied.like emptied

theorem Settles.held (settles : s.Settles s') : s'.held = s.held := by
  rcases settles with (like | dropped) | renewed | emptied
  · exact like.held
  · exact dropped.held
  · exact renewed.held
  · exact emptied.held

theorem Settles.sent (settles : s.Settles s') : s'.sent = s.sent := by
  rcases settles with (like | dropped) | renewed | emptied
  · exact like.sent
  · exact dropped.sent
  · exact renewed.sent
  · exact emptied.sent

theorem Spent.stored (spent : s.Spent s') : s'.stored = s.stored :=
  spent.elim Like.stored Like.stored

theorem Spent.established (spent : s.Spent s') : s'.established = s.established :=
  spent.elim Like.established Like.established

end SharedLink

namespace StatusRoute

variable {r : StatusRoute} {event : StatusEvent} {s s' : SharedLink}
  {trace : List PublisherExchange} {found : Except QueueError LinkId}
  {result : Except QueueError Unit}

theorem PlaceAttempt.settles (attempt : PlaceAttempt s trace s' result) : s.Settles s' := by
  rcases attempt.links with ⟨_, renewed⟩ | ⟨_, spent⟩
  · exact .inr (.inl renewed)
  · exact .inl spent

theorem FindAttempt.settles (attempt : FindAttempt s trace s' found) : s.Settles s' := by
  cases attempt with
  | notReady _ _ _ _ like => exact .inl (.inl like)
  | usable _ _ _ _ like => exact .inl (.inl like)
  | broken _ _ _ _ emptied => exact .inr (.inr emptied)
  | reconnected _ _ _ attempt =>
    rcases attempt.links with ⟨renewed, _⟩ | ⟨_, spent⟩
    · exact .inr (.inl renewed)
    · exact .inl spent

theorem FindAttempt.established (attempt : FindAttempt s trace s' found) :
    s'.established = s.established := by
  cases attempt with
  | notReady _ _ _ _ like => exact like.established
  | usable _ _ _ _ like => exact like.established
  | broken _ _ _ _ emptied => exact emptied.established
  | reconnected _ _ known attempt =>
    rcases attempt.links with ⟨renewed, _⟩ | ⟨_, spent⟩
    · exact renewed.established.trans known.symm
    · exact spent.established

theorem FindAttempt.published (attempt : FindAttempt s trace s' found) : published trace = [] := by
  cases attempt with
  | notReady _ _ _ quiet => exact quiet.published
  | usable _ _ _ quiet => exact quiet.published
  | broken _ _ _ quiet => exact quiet.published
  | reconnected _ _ _ attempt => exact attempt.dials.published

/-- The link that is found is the one in place. -/
theorem FindAttempt.stored {link : LinkId} (attempt : FindAttempt s trace s' (.ok link)) :
    s'.stored = some link := by
  cases attempt with
  | usable _ stored _ _ like => exact like.stored.trans stored
  | reconnected _ _ _ attempt =>
    rcases attempt.links with ⟨renewed, same | ⟨_, ⟨⟩⟩⟩ | ⟨⟨_, ⟨⟩⟩, _⟩
    obtain rfl := Except.ok.inj same
    exact renewed.stored

theorem FindAttempt.of_missing (attempt : FindAttempt s trace s' found) (missing : s.stored = none)
    (known : s.established = true) : connects trace = 1 := by
  cases attempt with
  | notReady _ _ unknown => exact absurd (unknown.symm.trans known) Bool.false_ne_true
  | usable _ stored => exact absurd (stored.symm.trans missing) (Option.some_ne_none _)
  | broken _ _ stored => exact absurd (stored.symm.trans missing) (Option.some_ne_none _)
  | reconnected _ _ _ attempt => exact attempt.dials.connects

theorem FindAttempt.of_broken (attempt : FindAttempt s trace s' found)
    (broken : s.linkState = .broken) :
    (∃ why, found = .error (.channelClosed why)) ∧ s'.stored = none := by
  have present : s.stored ≠ none := by
    intro missing
    rw [SharedLink.linkState, missing] at broken
    cases broken
  cases attempt with
  | notReady _ missing => exact absurd missing present
  | usable _ _ usable => exact nomatch usable.symm.trans broken
  | broken _ why _ _ emptied => exact ⟨⟨why, rfl⟩, emptied.stored⟩
  | reconnected _ missing => exact absurd missing present

/-- A publisher is not ready only before there has been a link, and then it does nothing. -/
theorem FindAttempt.of_notReady {why : String}
    (attempt : FindAttempt s trace s' (.error (.notReady why))) :
    s.established = false ∧ Quiet trace ∧ s.Like s' := by
  cases attempt with
  | notReady _ _ unknown quiet like => exact ⟨unknown, quiet, like⟩
  | reconnected _ _ _ attempt =>
    rcases attempt.links with ⟨_, ⟨⟨⟩⟩ | ⟨_, ⟨⟩⟩⟩ | ⟨⟨_, ⟨⟩⟩, _⟩

theorem FindAttempt.of_unknown (attempt : FindAttempt s trace s' found) (tidy : s.Tidy)
    (unknown : s.established = false) : ∃ why, found = .error (.notReady why) := by
  have absent (link : LinkId) : s.stored ≠ some link := fun stored =>
    Bool.false_ne_true (unknown.symm.trans (tidy.established link stored))
  cases attempt with
  | notReady why => exact ⟨why, rfl⟩
  | usable link stored => exact absurd stored (absent link)
  | broken link _ stored => exact absurd stored (absent link)
  | reconnected _ _ known => exact absurd (unknown.symm.trans known) Bool.false_ne_true

theorem PublishAttempt.keeps (attempt : PublishAttempt r event s trace s' result) (tidy : s.Tidy) :
    s'.Tidy ∧ s'.held = s.held ∧ s'.established = s.established := by
  cases attempt with
  | unfound attempt =>
    exact ⟨attempt.settles.tidy tidy, attempt.settles.held, attempt.established⟩
  | refused attempt like =>
    exact ⟨(attempt.settles.tidy tidy).like like, like.held.trans attempt.settles.held,
      like.established.trans attempt.established⟩
  | @delivered _ t _ link attempt like =>
    have tidy' := attempt.settles.tidy tidy
    have sent : { t with sent := (link, (StatusMessage.ofEvent event).toJson) :: t.sent }.Tidy :=
      ⟨tidy'.established, tidy'.genuine, tidy'.closed_lt, tidy'.not_closed_iff⟩
    exact ⟨sent.like like, like.held.trans attempt.settles.held,
      like.established.trans attempt.established⟩

theorem PublishAttempt.notReady_iff (attempt : PublishAttempt r event s trace s' result)
    (tidy : s.Tidy) : (∃ why, result = .error (.notReady why)) ↔ s.established = false := by
  constructor
  · rintro ⟨why, rfl⟩
    cases attempt with
    | unfound attempt => exact attempt.of_notReady.1
  · intro unknown
    cases attempt with
    | unfound attempt =>
      obtain ⟨why, same⟩ := attempt.of_unknown tidy unknown
      exact ⟨why, congrArg _ (Except.error.inj same)⟩
    | refused attempt => exact nomatch attempt.of_unknown tidy unknown
    | delivered attempt => exact nomatch attempt.of_unknown tidy unknown

theorem PublishAttempt.of_notReady {why : String}
    (attempt : PublishAttempt r event s trace s' (.error (.notReady why))) :
    Quiet trace ∧ s.Like s' := by
  cases attempt with
  | unfound attempt => exact attempt.of_notReady.2

theorem PublishAttempt.of_broken (attempt : PublishAttempt r event s trace s' result)
    (broken : s.linkState = .broken) :
    (∃ why, result = .error (.channelClosed why)) ∧ s'.stored = none := by
  cases attempt with
  | unfound attempt =>
    obtain ⟨⟨why, same⟩, removed⟩ := attempt.of_broken broken
    exact ⟨⟨why, congrArg _ (Except.error.inj same)⟩, removed⟩
  | refused attempt => exact nomatch (attempt.of_broken broken).1
  | delivered attempt => exact nomatch (attempt.of_broken broken).1

theorem PublishAttempt.of_missing (attempt : PublishAttempt r event s trace s' result)
    (missing : s.stored = none) (known : s.established = true) : connects trace = 1 := by
  cases attempt with
  | unfound attempt => exact attempt.of_missing missing known
  | refused attempt | delivered attempt =>
    rw [connects_append, attempt.of_missing missing known]
    rfl

theorem PublishAttempt.of_ok (attempt : PublishAttempt r event s trace s' (.ok ())) :
    ∃ link, s'.stored = some link ∧ published trace = [r.sending event link (.ok ())] ∧
      s'.sent = (link, (StatusMessage.ofEvent event).toJson) :: s.sent := by
  cases attempt with
  | @delivered before t _ link attempt like =>
    refine ⟨link, like.stored.trans attempt.stored, ?_, ?_⟩
    · rw [published_append, attempt.published]
      rfl
    · rw [like.sent]
      exact congrArg _ attempt.settles.sent

end StatusRoute

end ImageWorker
