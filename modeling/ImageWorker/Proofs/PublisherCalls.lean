import ImageWorker.Proofs.PublisherAttempts

/-!
# One call after the other

The calls of a publisher are made one after the other. A history has all of them, with what was
asked and heard in each, and links may die between them. What a single call leaves behind is what
the next one finds; so whether a link was ever established, and what became of a broken link, can be
told from the calls before.
-/

namespace ImageWorker

open Surroundings PublisherProgram PublisherTrace StatusRoute

inductive PublisherCall where
  | establish
  | publish (event : StatusEvent)
  | shut

def PublisherCall.program (r : StatusRoute) :
    PublisherCall → PublisherProgram (Except QueueError Unit)
  | establish => r.establish
  | publish event => r.publish event
  | shut => StatusRoute.shut.bind fun _ => .done (.ok ())

structure CallRecord where
  call : PublisherCall
  before : SharedLink
  trace : List PublisherExchange
  after : SharedLink
  result : Except QueueError Unit

/-- A link was opened and put into its place. -/
def CallRecord.Establishes (c : CallRecord) : Prop := c.call = .establish ∧ c.result = .ok ()

/-- The calls that were made one after the other, and the state in which they left the links. Links
die during the calls and between them. -/
inductive Served (r : StatusRoute) : List CallRecord → SharedLink → Prop where
  | start : Served r [] .initial
  | dies {past : List CallRecord} {s s' : SharedLink} : Served r past s → s.Dies s' →
    Served r past s'
  | call {past : List CallRecord} {c : CallRecord} : Served r past c.before →
    SharedLink.restless.Runs c.before (c.call.program r) c.trace c.after c.result →
    Served r (past ++ [c]) c.after

def CallRecord.Attempt (r : StatusRoute) (c : CallRecord) : Prop :=
  match c.call with
  | .establish => PlaceAttempt c.before c.trace c.after c.result
  | .publish event => PublishAttempt r event c.before c.trace c.after c.result
  | .shut => c.before.emptied.Like c.after

theorem PublisherCall.completes (r : StatusRoute) (call : PublisherCall) {s : SharedLink}
    (unlocked : s.held = []) :
    SharedLink.restless.Completes (call.program r) s fun trace s' result =>
      CallRecord.Attempt r ⟨call, s, trace, s', result⟩ := by
  cases call with
  | establish => exact establish_completes unlocked
  | publish event => exact publish_completes event unlocked
  | shut => exact (shut_completes unlocked).bind fun _ _ _ shut => shut.2

structure InOrder (past : List CallRecord) (s : SharedLink) : Prop where
  tidy : s.Tidy
  unlocked : s.held = []
  established_iff : s.established = true ↔ ∃ c ∈ past, c.Establishes

namespace CallRecord

variable {r : StatusRoute} {c : CallRecord}

theorem Attempt.keeps (attempt : c.Attempt r) (tidy : c.before.Tidy) :
    c.after.Tidy ∧ c.after.held = c.before.held := by
  obtain ⟨call, s, trace, s', result⟩ := c
  cases call with
  | establish =>
    have settles := PlaceAttempt.settles attempt
    exact ⟨settles.tidy tidy, settles.held⟩
  | publish event =>
    obtain ⟨tidy', held, _⟩ := PublishAttempt.keeps attempt tidy
    exact ⟨tidy', held⟩
  | shut => exact ⟨tidy.emptied.like attempt, attempt.held⟩

theorem Attempt.established_iff (attempt : c.Attempt r) (tidy : c.before.Tidy) :
    c.after.established = true ↔ c.before.established = true ∨ c.Establishes := by
  obtain ⟨call, s, trace, s', result⟩ := c
  cases call with
  | establish =>
    rcases PlaceAttempt.links attempt with ⟨rfl, renewed⟩ | ⟨⟨_, rfl⟩, spent⟩
    · exact ⟨fun _ => .inr ⟨rfl, rfl⟩, fun _ => renewed.established⟩
    · show s'.established = true ↔ _
      rw [spent.established]
      exact ⟨.inl, fun known => known.elim id fun establishes => nomatch establishes.2⟩
  | publish event =>
    show s'.established = true ↔ _
    rw [(PublishAttempt.keeps attempt tidy).2.2]
    exact ⟨.inl, fun known => known.elim id fun establishes => nomatch establishes.1⟩
  | shut =>
    show s'.established = true ↔ _
    rw [attempt.established]
    exact ⟨.inl, fun known => known.elim id fun establishes => nomatch establishes.1⟩

/-- Only a publish or a successful establish puts a link where there was none. -/
theorem Attempt.missing (attempt : c.Attempt r) (missing : c.before.stored = none)
    (silent : ∀ event, c.call ≠ .publish event) (fails : ¬ c.Establishes) :
    c.after.stored = none := by
  obtain ⟨call, s, trace, s', result⟩ := c
  cases call with
  | establish =>
    rcases PlaceAttempt.links attempt with ⟨rfl, _⟩ | ⟨_, spent⟩
    · exact absurd ⟨rfl, rfl⟩ fails
    · exact spent.stored.trans missing
  | publish event => exact absurd rfl (silent event)
  | shut => exact attempt.stored

end CallRecord

section Histories

variable {r : StatusRoute} {past : List CallRecord} {s : SharedLink}

theorem Served.inOrder (served : Served r past s) : InOrder past s := by
  induction served with
  | start =>
    refine ⟨.initial, rfl, iff_of_false Bool.false_ne_true ?_⟩
    rintro ⟨_, mem, _⟩
    exact List.not_mem_nil mem
  | dies _ death ih =>
    obtain ⟨link, rfl⟩ := death
    exact ⟨ih.tidy.like ⟨rfl, rfl, rfl, rfl, rfl, rfl⟩, ih.unlocked, ih.established_iff⟩
  | @call past c _ run ih =>
    have attempt : c.Attempt r := (c.call.completes r ih.unlocked).ends run
    obtain ⟨tidy, held⟩ := attempt.keeps ih.tidy
    refine ⟨tidy, held.trans ih.unlocked, ?_⟩
    rw [attempt.established_iff ih.tidy, ih.established_iff]
    simp only [List.mem_append, List.mem_singleton, or_and_right, exists_or, exists_eq_left]

/-- A history that a call has ended, cut at some call. -/
theorem snoc_cut {earlier later : List CallRecord} {c x : CallRecord}
    (cut : past ++ [x] = earlier ++ c :: later) :
    (past = earlier ∧ x = c ∧ later = []) ∨
      ∃ rest, later = rest ++ [x] ∧ past = earlier ++ c :: rest := by
  rcases later.eq_nil_or_concat with rfl | ⟨rest, y, rfl⟩
  · obtain ⟨same, last⟩ := List.append_inj' cut rfl
    exact .inl ⟨same, (List.cons.inj last).1, rfl⟩
  · rw [List.concat_eq_append, ← List.cons_append, ← List.append_assoc] at cut
    obtain ⟨same, last⟩ := List.append_inj' cut rfl
    obtain rfl := (List.cons.inj last).1
    exact .inr ⟨rest, List.concat_eq_append, same⟩

/-- Every call of a history was made in the order of the calls before it. -/
theorem Served.cut {earlier later : List CallRecord} {c : CallRecord} (served : Served r past s)
    (cut : past = earlier ++ c :: later) :
    Served r earlier c.before ∧ InOrder earlier c.before ∧ c.Attempt r := by
  induction served generalizing later with
  | start => exact absurd cut.symm (List.append_ne_nil_of_right_ne_nil _ (List.cons_ne_nil _ _))
  | dies _ _ ih => exact ih cut
  | @call past x served run ih =>
    rcases snoc_cut cut with ⟨rfl, rfl, _⟩ | ⟨rest, _, same⟩
    · exact ⟨served, served.inOrder, (x.call.completes r served.inOrder.unlocked).ends run⟩
    · exact ih same

/-- Where no link is in place, there is none until a publish or an establish. -/
theorem Served.missing {earlier later : List CallRecord} {c : CallRecord} (served : Served r past s)
    (cut : past = earlier ++ c :: later) (missing : c.after.stored = none)
    (silent : ∀ x ∈ later, (∀ event, x.call ≠ .publish event) ∧ ¬ x.Establishes) :
    s.stored = none := by
  induction served generalizing later with
  | start => exact absurd cut.symm (List.append_ne_nil_of_right_ne_nil _ (List.cons_ne_nil _ _))
  | dies _ death ih =>
    obtain ⟨link, rfl⟩ := death
    exact ih cut silent
  | @call past x served run ih =>
    rcases snoc_cut cut with ⟨_, rfl, _⟩ | ⟨rest, rfl, same⟩
    · exact missing
    · have attempt : x.Attempt r := (x.call.completes r served.inOrder.unlocked).ends run
      obtain ⟨publishes, establishes⟩ :=
        silent x (List.mem_append_right _ (List.mem_singleton_self x))
      exact attempt.missing (ih same fun y mem => silent y (List.mem_append_left _ mem)) publishes
        establishes

/-- What holds of a call between the `earlier` and the `later` ones. -/
structure CallInOrder (r : StatusRoute) (earlier : List CallRecord) (c : CallRecord)
    (later : List CallRecord) : Prop where
  notReady_iff : ∀ event, c.call = .publish event →
    ((∃ why, c.result = .error (.notReady why)) ↔ ∀ x ∈ earlier, ¬ x.Establishes)
  notReady_quiet : ∀ event, c.call = .publish event → ∀ why, c.result = .error (.notReady why) →
    connects c.trace = 0 ∧ c.after.opened = c.before.opened
  /-- A publish that starts with a broken link removes it and fails for good. -/
  broken : ∀ event, c.call = .publish event → c.before.linkState = .broken →
    ∃ e, c.result = .error e ∧ (∃ why, e = .channelClosed why) ∧ e.errorClass = .fatal ∧
      c.after.stored = none
  /-- The publish that comes next, unless a link was established before it, opens a new one. -/
  reconnects : ∀ event, c.call = .publish event → c.before.linkState = .broken →
    ∀ between next rest event', later = between ++ next :: rest →
      next.call = .publish event' →
      (∀ x ∈ between, (∀ event, x.call ≠ .publish event) ∧ ¬ x.Establishes) →
      connects next.trace = 1
  delivered : ∀ event, c.call = .publish event → c.result = .ok () →
    ∃ link, c.after.stored = some link ∧ published c.trace = [r.sending event link (.ok ())] ∧
      c.after.sent = (link, (StatusMessage.ofEvent event).toJson) :: c.before.sent
  /-- Whatever is open is in place. -/
  open_iff : ∀ link, link < c.after.opened ∧ link ∉ c.after.closed ↔ c.after.stored = some link

theorem SharedLink.Tidy.open_iff (tidy : s.Tidy) (link : LinkId) :
    link < s.opened ∧ link ∉ s.closed ↔ s.stored = some link := by
  constructor
  · rintro ⟨below, unclosed⟩
    exact (tidy.not_closed_iff link below).mp unclosed
  · intro stored
    have below := tidy.genuine link stored
    exact ⟨below, (tidy.not_closed_iff link below).mpr stored⟩

theorem CallRecord.Attempt.publish {c : CallRecord} (attempt : c.Attempt r) {event : StatusEvent}
    (call : c.call = .publish event) :
    PublishAttempt r event c.before c.trace c.after c.result := by
  rwa [CallRecord.Attempt, call] at attempt

/-- Once a publish has removed a broken link, the next one opens a new one. -/
theorem Served.reconnects {earlier between rest : List CallRecord} {c next : CallRecord}
    {event event' : StatusEvent} (served : Served r past s)
    (cut : past = earlier ++ c :: (between ++ next :: rest)) (call : c.call = .publish event)
    (broken : c.before.linkState = .broken) (call' : next.call = .publish event')
    (silent : ∀ x ∈ between, (∀ event, x.call ≠ .publish event) ∧ ¬ x.Establishes) :
    connects next.trace = 1 := by
  obtain ⟨_, inOrder, attempt⟩ := served.cut cut
  have cut' : past = (earlier ++ c :: between) ++ next :: rest := by
    rw [cut, List.append_assoc, List.cons_append]
  obtain ⟨served', inOrder', attempt'⟩ := served.cut cut'
  have removed := ((attempt.publish call).of_broken broken).2
  have known : c.before.established = true := by
    cases stored : c.before.stored with
    | none =>
      rw [SharedLink.linkState, stored] at broken
      cases broken
    | some link => exact inOrder.tidy.established link stored
  obtain ⟨x, mem, establishes⟩ := inOrder.established_iff.mp known
  have known' : next.before.established = true :=
    inOrder'.established_iff.mpr ⟨x, List.mem_append_left _ mem, establishes⟩
  exact (attempt'.publish call').of_missing (served'.missing rfl removed silent) known'

/-- However the broker answers and whenever links die: every call of a publisher comes to an end,
and what was opened and is not in place was closed. -/
theorem publisher_calls_in_order (served : Served r past s) :
    (∀ earlier c later, past = earlier ++ c :: later → CallInOrder r earlier c later) ∧
      ∀ call : PublisherCall,
        SharedLink.restless.Completes (call.program r) s fun _ _ _ => True := by
  refine ⟨fun earlier c later cut => ?_, fun call => ?_⟩
  · obtain ⟨_, inOrder, attempt⟩ := served.cut cut
    refine {
      notReady_iff := fun event call => ?_
      notReady_quiet := fun event call why same => ?_
      broken := fun event call broken => ?_
      reconnects := fun event call broken between next rest event' cut' call' silent =>
        served.reconnects (cut' ▸ cut) call broken call' silent
      delivered := fun event call ok => ?_
      open_iff := (attempt.keeps inOrder.tidy).1.open_iff }
    · rw [(attempt.publish call).notReady_iff inOrder.tidy, ← Bool.not_eq_true,
        inOrder.established_iff, not_exists]
      exact forall_congr' fun _ => not_and
    · have attempt := attempt.publish call
      rw [same] at attempt
      obtain ⟨quiet, like⟩ := attempt.of_notReady
      exact ⟨quiet.connects, like.opened⟩
    · obtain ⟨⟨why, same⟩, removed⟩ := (attempt.publish call).of_broken broken
      exact ⟨_, same, ⟨why, rfl⟩, rfl, removed⟩
    · have attempt := attempt.publish call
      rw [ok] at attempt
      exact attempt.of_ok
  · exact (call.completes r served.inOrder.unlocked).mono fun _ _ _ _ => trivial

end Histories

namespace SharedLink

/-- Answers that the broker gives as long as it refuses nothing. -/
def answerAlone (s : SharedLink) (r : PublisherRequest) : Option (r.Answer × SharedLink) :=
  match s.answer (.inTime r) with
  | some (some a, s') => some (a, s')
  | _ => none

theorem answerAlone_allowed {s s' : SharedLink} {r : PublisherRequest} {a : r.Answer}
    (answered : s.answerAlone r = some (a, s')) : s.Allows r a s' := by
  unfold answerAlone at answered
  split at answered
  next b t answered' =>
    obtain ⟨rfl, rfl⟩ := Prod.mk.inj (Option.some.inj answered)
    exact answer_allowed answered'
  next => cases answered

end SharedLink

/-- The history in which calls are made and links die in the order given. -/
def serve (r : StatusRoute) : List (LinkId ⊕ PublisherCall) → List CallRecord → SharedLink →
    Option (List CallRecord × SharedLink)
  | [], past, s => some (past, s)
  | .inl link :: rest, past, s => serve r rest past { s with dead := link :: s.dead }
  | .inr call :: rest, past, s =>
    match Surroundings.rehearse SharedLink.answerAlone (call.program r) s with
    | none => none
    | some (trace, s', result) => serve r rest (past ++ [⟨call, s, trace, s', result⟩]) s'

theorem served_of_serve {r : StatusRoute} {order : List (LinkId ⊕ PublisherCall)}
    {past past' : List CallRecord} {s s' : SharedLink} (served : Served r past s)
    (played : serve r order past s = some (past', s')) : Served r past' s' := by
  induction order generalizing past s with
  | nil =>
    obtain ⟨rfl, rfl⟩ := Prod.mk.inj (Option.some.inj played)
    exact served
  | cons step rest ih =>
    cases step with
    | inl link => exact ih (.dies served ⟨link, rfl⟩) played
    | inr call =>
      unfold serve at played
      split at played
      next => cases played
      next trace t result rehearsed =>
        have run := Surroundings.runs_rehearse (w := SharedLink.restless)
          (fun _ _ _ _ answered => ⟨[], SharedLink.answerAlone_allowed answered⟩) rehearsed
        exact ih (.call (c := ⟨call, s, trace, t, result⟩) served run) played

def oneStatus : PublisherCall := .publish ⟨"job-1", "user-1", .processing, "", ""⟩

/-- A publish too early, a link, a publish, the death of the link, the publish that finds that, the
publish that opens a new link, and the end. -/
def dayOfPublisher : List (LinkId ⊕ PublisherCall) :=
  [.inr oneStatus, .inr .establish, .inr oneStatus, .inl 0, .inr oneStatus, .inr oneStatus,
    .inr .shut]

def CallRecord.fault (c : CallRecord) : Option QueueError :=
  match c.result with
  | .ok _ => none
  | .error e => some e

theorem publisher_calls_of_day : ∃ past s, Served statuses past s ∧
    past.map CallRecord.fault =
      [some (.notReady "status channel has not been established"), none, none,
        some (.channelClosed "status channel is closed"), none, none] ∧
    s.sent.map Prod.fst = [1, 0] ∧
    ∀ earlier c later, past = earlier ++ c :: later → CallInOrder statuses earlier c later := by
  have played : (serve statuses dayOfPublisher [] .initial).any (fun (past, s) => decide
      (past.map CallRecord.fault =
        [some (.notReady "status channel has not been established"), none, none,
          some (.channelClosed "status channel is closed"), none, none] ∧
      s.sent.map Prod.fst = [1, 0])) = true := by
    decide +kernel
  obtain ⟨⟨past, s⟩, played, shown⟩ := (Option.any_eq_true ..).mp played
  obtain ⟨faults, sent⟩ := of_decide_eq_true shown
  have served := served_of_serve .start played
  exact ⟨past, s, served, faults, sent, (publisher_calls_in_order served).1⟩

end ImageWorker
