import ImageWorker.Job.CleanupTracker
import ImageWorker.Proofs.CleanupSteps
import ImageWorker.Proofs.SharedHistories

/-!
# Accounts of cleanups

Cleanups are scheduled and end, and others wait for idleness, in any order; a cleanup that brings
the count down to zero wakes the others only later. `TrackerStage` is how far a cleanup or a waiter
has got, and `TrackerStage.Allows` what it does there. From it follow the count of pending cleanups,
what each of them adds to the metrics, and that no waiter is forgotten: whoever waits has seen a
cleanup pending after it got its ticket, so the last one to end calls that ticket.
-/

namespace ImageWorker

open Surroundings

/-- A cleanup that is scheduled at some time, or somebody who waits until none is pending. -/
inductive TrackerParty where
  | cleanup (task : CleanupTask)
  | waiter
  deriving DecidableEq, Repr

def TrackerParty.program : TrackerParty → TrackerProgram
  | cleanup t => TrackerProgram.scheduled t
  | waiter => TrackerProgram.look ()

abbrev TrackerExchange := Program.Exchange TrackerRequest TrackerRequest.Answer

abbrev TrackerHappening := Happening TrackerRequest TrackerRequest.Answer Tracker

abbrev TrackerTogether := Together TrackerRequest TrackerRequest.Answer Tracker Unit Bool

/-- `Unfolding parties events u`: the parties, with nothing scheduled at first, may come to `u` with
just these exchanges, in this order. -/
def Tracker.Unfolding (parties : List TrackerParty) (events : List TrackerHappening)
    (u : TrackerTogether) : Prop :=
  Tracker.surroundings.Unfolds TrackerProgram.look ⟨.initial, parties.map (·.program)⟩ events u

namespace TrackerRequest

def isBegin : TrackerRequest → Bool
  | begin _ => true
  | _ => false

def isDecrement : TrackerRequest → Bool
  | decrement => true
  | _ => false

def note? : TrackerRequest → Option Note
  | note n => some n
  | _ => none

end TrackerRequest

namespace TrackerHistory

def isScheduled (events : List TrackerHappening) (i : Nat) : Bool :=
  (exchangesOf events i).any (·.request.isBegin)

/-- Whether it has given up its place among the pending ones. -/
def isDropped (events : List TrackerHappening) (i : Nat) : Bool :=
  (exchangesOf events i).any (·.request.isDecrement)

def countedBy (events : List TrackerHappening) (i : Nat) : List Series :=
  (Note.metrics ((exchangesOf events i).filterMap (·.request.note?))).flatMap Metric.series

end TrackerHistory

open TrackerHistory

namespace CleanupTask

/-- Whether a step failed, or the time was over before all were taken. -/
def Ending.isFailure : Ending → Bool
  | finished failures => failures ≠ 0
  | timedOut _ => true

/-- The series into which a cleanup with an ending counts. -/
def endSeries (t : CleanupTask) (ending : Ending) : List Series :=
  ⟨"imgflow_cleanup_total", [("mode", t.mode.name)]⟩ ::
    if ending.isFailure then [⟨"imgflow_cleanup_failures_total", [("mode", t.mode.name)]⟩] else []

theorem series_endNotes (t : CleanupTask) (ending : Ending) :
    (Note.metrics (t.endNotes ending)).flatMap Metric.series = t.endSeries ending := by
  match ending with
  | .finished 0 | .finished (n + 1) | .timedOut limit => rfl

/-- A cleanup that finishes has failed if and only if one of its steps has. -/
theorem isFailure_finished_iff {t : CleanupTask} {trace : CleanupTrace} {failures : Nat}
    (run : t.perform.Runs trace failures) :
    (Ending.finished failures).isFailure = true ↔ ∃ x ∈ trace, CleanupTrace.isFailure x = true := by
  rw [Ending.isFailure, perform_failures run, decide_eq_true_iff, ← List.countP_pos_iff]
  omega

end CleanupTask

inductive TrackerStage where
  | unscheduled (task : CleanupTask)
  | running (task : CleanupTask)
  /-- It is carried out; these notes are still to be left. -/
  | ended (task : CleanupTask) (ending : CleanupTask.Ending) (left : List Note)
  /-- It has brought the count down to zero, and has not yet woken the others. -/
  | waking (task : CleanupTask) (ending : CleanupTask.Ending)
  | gone (task : CleanupTask) (ending : CleanupTask.Ending)
  | coming
  | ticketed (ticket : Nat)
  | parked (ticket : Nat)
  | answered (idle : Bool)

namespace TrackerStage

inductive Allows : TrackerStage → (r : TrackerRequest) → r.Answer → TrackerStage → Prop where
  | begins {t : CleanupTask} : Allows (unscheduled t) (.begin t) () (running t)
  | performs {t : CleanupTask} {ending : CleanupTask.Ending} :
      Allows (running t) (.perform t) ending (ended t ending (t.endNotes ending))
  | notes {t : CleanupTask} {ending : CleanupTask.Ending} {n : Note} {left : List Note} :
      Allows (ended t ending (n :: left)) (.note n) () (ended t ending left)
  | empties {t : CleanupTask} {ending : CleanupTask.Ending} :
      Allows (ended t ending []) .decrement (1 : Nat) (waking t ending)
  | leaves {t : CleanupTask} {ending : CleanupTask.Ending} {before : Nat} :
      before ≠ 1 → Allows (ended t ending []) .decrement before (gone t ending)
  | wakes {t : CleanupTask} {ending : CleanupTask.Ending} :
      Allows (waking t ending) .notifyWaiters () (gone t ending)
  | subscribes {ticket : Nat} : Allows coming .subscribe ticket (ticketed ticket)
  | findsNone {ticket : Nat} : Allows (ticketed ticket) .pending (0 : Nat) (answered true)
  | findsSome {ticket count : Nat} :
      count ≠ 0 → Allows (ticketed ticket) .pending count (parked ticket)
  | called {ticket : Nat} : Allows (parked ticket) (.await ticket) (.finished ()) coming
  | givesUp {ticket : Nat} : Allows (parked ticket) (.await ticket) .stopped (answered false)

def protocol : Surroundings TrackerRequest TrackerRequest.Answer TrackerStage where
  Allows := Allows
  Drifts before after := after = before

/-- The stages at which a party may end or look again. -/
def Stands : TrackerStage → Unit ⊕ Bool → Prop
  | gone _ _, .inr _ => True
  | coming, .inl () => True
  | answered idle, .inr b => b = idle
  | _, _ => False

def isPending : TrackerStage → Bool
  | running _ | ended _ _ _ => true
  | _ => false

def ticket? : TrackerStage → Option Nat
  | ticketed ticket | parked ticket => some ticket
  | _ => none

theorem leave_conforms {t : CleanupTask} {ending : CleanupTask.Ending} (left : List Note) :
    protocol.Conforms Stands (ended t ending left)
      (TrackerProgram.leave TrackerProgram.dropGuard left) := by
  induction left with
  | nil =>
    intro (before : Nat)
    by_cases last : before = 1
    · subst last
      exact ⟨_, .empties, fun _ => ⟨_, .wakes, trivial⟩⟩
    · refine ⟨_, .leaves last, ?_⟩
      simp only [if_neg last]
      trivial
  | cons n left ih => exact fun _ => ⟨_, .notes, ih⟩

theorem scheduled_conforms (t : CleanupTask) :
    protocol.Conforms Stands (unscheduled t) (TrackerProgram.scheduled t) :=
  fun _ => ⟨_, .begins, fun ending => ⟨_, .performs, leave_conforms (t.endNotes ending)⟩⟩

theorem look_conforms : protocol.Conforms Stands coming (TrackerProgram.look ()) := by
  intro (ticket : Nat)
  refine ⟨_, .subscribes, fun (count : Nat) => ?_⟩
  by_cases none : count = 0
  · subst none
    exact ⟨_, .findsNone, rfl⟩
  · refine ⟨_, .findsSome none, ?_⟩
    simp only [if_neg none]
    rintro (⟨⟩ | _)
    · exact ⟨_, .called, trivial⟩
    · exact ⟨_, .givesUp, rfl⟩

theorem turns_conform (q : TrackerStage) (x : Unit) (stands : Stands q (.inl x)) :
    protocol.Conforms Stands q (TrackerProgram.look x) := by
  cases q with
  | coming => exact look_conforms
  | _ => exact stands.elim

end TrackerStage

open TrackerStage

def TrackerParty.stage : TrackerParty → TrackerStage
  | cleanup t => unscheduled t
  | waiter => coming

theorem TrackerParty.keep (parties : List TrackerParty) :
    Keep protocol Stands (parties.map (·.stage)) (parties.map (·.program)) := by
  intro i p at_i
  rw [List.getElem?_map, Option.map_eq_some_iff] at at_i
  obtain ⟨party, at_i, rfl⟩ := at_i
  refine ⟨party.stage, by rw [List.getElem?_map, at_i, Option.map_some], ?_⟩
  cases party with
  | cleanup t => exact scheduled_conforms t
  | waiter => exact look_conforms

def noteExchange (n : Note) : TrackerExchange := ⟨.note n, ()⟩

theorem filterMap_noteExchange (ns : List Note) :
    (ns.map noteExchange).filterMap (·.request.note?) = ns := by
  rw [List.filterMap_map]
  exact List.filterMap_some

/-- What a cleanup has asked and heard when it has left some notes. -/
def begun (t : CleanupTask) (ending : CleanupTask.Ending) (told : List Note) :
    List TrackerExchange :=
  ⟨.begin t, ()⟩ :: ⟨.perform t, ending⟩ :: told.map noteExchange

theorem notes_begun (t : CleanupTask) (ending : CleanupTask.Ending) (told : List Note) :
    (begun t ending told).filterMap (·.request.note?) = told := by
  rw [begun, List.filterMap_cons_none rfl, List.filterMap_cons_none rfl, filterMap_noteExchange]

theorem not_isDecrement_begun (t : CleanupTask) (ending : CleanupTask.Ending) (told : List Note) :
    (begun t ending told).any (·.request.isDecrement) = false := by
  rw [begun, List.any_cons, List.any_cons, List.any_map]
  exact List.any_eq_false.mpr fun _ _ => Bool.false_ne_true

namespace TrackerStage

variable {q q' q₀ : TrackerStage} {r : TrackerRequest} {a : r.Answer}

def task? : TrackerStage → Option CleanupTask
  | unscheduled t | running t | ended t _ _ | waking t _ | gone t _ => some t
  | _ => none

def Past : TrackerStage → List TrackerExchange → Prop
  | unscheduled _, trace => trace = []
  | running t, trace => trace = [⟨.begin t, ()⟩]
  | ended t ending left, trace =>
    ∃ told, told ++ left = t.endNotes ending ∧ trace = begun t ending told
  | waking t ending, trace =>
    ∃ before : Nat, trace = begun t ending (t.endNotes ending) ++ [⟨.decrement, before⟩]
  | gone t ending, trace =>
    ∃ (before : Nat) (rest : List TrackerExchange), rest ⊆ [⟨.notifyWaiters, ()⟩] ∧
      trace = begun t ending (t.endNotes ending) ++ ⟨.decrement, before⟩ :: rest
  | answered idle, trace =>
    (trace.any (·.request.isBegin) = false) ∧
      (idle = true → ∃ front, trace = front ++ [⟨.pending, (0 : Nat)⟩])
  | coming, trace | ticketed _, trace | parked _, trace =>
    trace.any (·.request.isBegin) = false

theorem Past.move {trace : List TrackerExchange} (past : Past q trace) (allowed : Allows q r a q') :
    Past q' (trace ++ [⟨r, a⟩]) := by
  cases allowed with
  | begins | performs =>
    obtain rfl := past
    first | rfl | exact ⟨[], rfl, rfl⟩
  | @notes t ending n left =>
    obtain ⟨told, notes_eq, rfl⟩ := past
    exact ⟨told ++ [n], by simpa using notes_eq, by simp [begun, noteExchange]⟩
  | empties =>
    obtain ⟨told, notes_eq, rfl⟩ := past
    exact ⟨1, by rw [← notes_eq, List.append_nil]⟩
  | @leaves t ending before _ =>
    obtain ⟨told, notes_eq, rfl⟩ := past
    exact ⟨before, [], List.nil_subset _, by rw [← notes_eq, List.append_nil]⟩
  | wakes =>
    obtain ⟨before, rfl⟩ := past
    exact ⟨before, _, List.Subset.refl _, List.append_assoc ..⟩
  | findsNone => exact ⟨by simpa [TrackerRequest.isBegin, Past] using past, fun _ => ⟨trace, rfl⟩⟩
  | givesUp => exact ⟨by simpa [TrackerRequest.isBegin, Past] using past, nofun⟩
  | subscribes | findsSome | called => simpa [TrackerRequest.isBegin, Past] using past

theorem Allows.task? (allowed : Allows q r a q') : q'.task? = q.task? := by
  cases allowed <;> rfl

/-- Where a party stands tells what it has asked and heard. -/
theorem past_of_follows {front trace : List TrackerExchange} (past : Past q₀ front)
    (follows : protocol.Follows q₀ trace q) : Past q (front ++ trace) ∧ q.task? = q₀.task? := by
  induction follows generalizing front with
  | start => exact ⟨by rwa [List.append_nil], rfl⟩
  | step allowed _ ih =>
    obtain ⟨later, same⟩ := ih (past.move allowed)
    exact ⟨by simpa using later, same.trans allowed.task?⟩

theorem Past.isPending_eq {trace : List TrackerExchange} (past : Past q trace) :
    q.isPending =
      (trace.any (·.request.isBegin) && !trace.any (·.request.isDecrement)) := by
  cases q with
  | unscheduled | running =>
    obtain rfl := past
    rfl
  | ended =>
    obtain ⟨told, _, rfl⟩ := past
    rw [not_isDecrement_begun]
    rfl
  | waking =>
    obtain ⟨before, rfl⟩ := past
    simp [isPending, TrackerRequest.isDecrement]
  | gone =>
    obtain ⟨before, rest, _, rfl⟩ := past
    simp [isPending, TrackerRequest.isDecrement]
  | answered => rw [past.1]; rfl
  | coming | ticketed | parked => rw [show List.any trace _ = false from past]; rfl

end TrackerStage

/-- How the count, the tickets and the notes go with what has been asked and with the stages of the
parties. -/
structure Accounts (past : List TrackerHappening) (s : Tracker) (stands : List TrackerStage) :
    Prop where
  pending : s.pending = stands.countP (·.isPending)
  given : ∀ (i : Nat) q ticket, stands[i]? = some q → q.ticket? = some ticket →
    ticket < s.called.length
  /-- Whoever waits has been called, or will be. -/
  heard : ∀ (i ticket : Nat), stands[i]? = some (parked ticket) →
    s.called[ticket]? = some true ∨ s.pending ≠ 0 ∨
      ∃ (j : Nat) (t : CleanupTask) (ending : CleanupTask.Ending),
        stands[j]? = some (waking t ending)
  notes : s.notes = (past.filterMap (·.exchange.request.note?)).reverse

namespace Accounts

variable {past : List TrackerHappening} {s s' : Tracker} {stands : List TrackerStage} {i : Nat}
  {q q' : TrackerStage} {r : TrackerRequest} {a : r.Answer}

/-- A cleanup that is pending is counted. -/
theorem pending_pos (accounts : Accounts past s stands) (stood : stands[i]? = some q)
    (counts : q.isPending = true) : 0 < s.pending := by
  rw [accounts.pending, List.countP_pos_iff]
  exact ⟨q, List.mem_of_getElem? stood, counts⟩

theorem await_changes_nothing {ticket : Nat} {race : Race Unit}
    (allowed : Tracker.Allows s (.await ticket) race s') : s' = s := by
  match race, allowed with
  | .finished (), allowed => exact allowed.2
  | .stopped, allowed => exact allowed

/-- Only a beginning and an end change the count. -/
theorem pending_of_allowed (allowed : Tracker.Allows s r a s') :
    s'.pending =
      if r.isBegin then s.pending + 1
      else if r.isDecrement then s.pending - 1
      else s.pending := by
  cases r with
  | begin | perform | note | notifyWaiters =>
    obtain rfl := allowed
    rfl
  | decrement | pending | subscribe =>
    obtain ⟨_, rfl⟩ := allowed
    rfl
  | await =>
    obtain rfl := await_changes_nothing allowed
    rfl

theorem pending_act (accounts : Accounts past s stands) (stood : stands[i]? = some q)
    (allowed : Tracker.Allows s r a s') (habit : TrackerStage.Allows q r a q') :
    s'.pending = (stands.set i q').countP (·.isPending) := by
  have moved : (stands.set i q').countP (·.isPending) + q.isPending.toNat =
      stands.countP (·.isPending) + q'.isPending.toNat := countP_set_add stood
  have pos := accounts.pending_pos stood
  have counts := pending_of_allowed allowed
  rw [← accounts.pending] at moved
  cases habit with
  | empties | leaves =>
    have some : 0 < s.pending := pos rfl
    have left : (stands.set i _).countP (·.isPending) + 1 = s.pending := moved
    have fewer : s'.pending = s.pending - 1 := counts
    omega
  | performs | notes => exact counts.trans (Nat.add_right_cancel moved).symm
  | _ => exact counts.trans moved.symm

theorem called_later (allowed : Tracker.Allows s r a s') :
    s.called.length ≤ s'.called.length ∧
      ∀ ticket : Nat, s.called[ticket]? = some true → s'.called[ticket]? = some true := by
  cases r with
  | begin | perform | note =>
    obtain rfl := allowed
    exact ⟨Nat.le_refl _, fun _ called => called⟩
  | decrement | pending =>
    obtain ⟨_, rfl⟩ := allowed
    exact ⟨Nat.le_refl _, fun _ called => called⟩
  | await =>
    obtain rfl := await_changes_nothing allowed
    exact ⟨Nat.le_refl _, fun _ called => called⟩
  | notifyWaiters =>
    obtain rfl := allowed
    refine ⟨Nat.le_of_eq (List.length_map _).symm, fun ticket called => ?_⟩
    rw [List.getElem?_map, called, Option.map_some]
  | subscribe =>
    obtain ⟨_, rfl⟩ := allowed
    refine ⟨by simp, fun ticket called => ?_⟩
    obtain ⟨inside, _⟩ := List.getElem?_eq_some_iff.mp called
    rw [List.getElem?_append_left inside, called]

theorem given_act (accounts : Accounts past s stands) (stood : stands[i]? = some q)
    (allowed : Tracker.Allows s r a s') (habit : TrackerStage.Allows q r a q') :
    ∀ (j : Nat) q'' ticket, (stands.set i q')[j]? = some q'' → q''.ticket? = some ticket →
      ticket < s'.called.length := by
  intro j q'' ticket stands' holds
  by_cases same : i = j
  · -- The ticket is new, or it was there already.
    subst same
    rw [List.getElem?_set_self (List.getElem?_eq_some_iff.mp stood).1, Option.some.injEq] at stands'
    subst stands'
    cases habit with
    | subscribes =>
      obtain ⟨rfl, rfl⟩ := allowed
      obtain rfl := Option.some.inj holds
      rw [List.length_append]
      exact Nat.lt_succ_self _
    | findsSome =>
      exact Nat.lt_of_lt_of_le (accounts.given i _ ticket stood holds) (called_later allowed).1
    | _ => cases holds
  · rw [List.getElem?_set_ne same] at stands'
    exact Nat.lt_of_lt_of_le (accounts.given j q'' ticket stands' holds) (called_later allowed).1

theorem heard_act (accounts : Accounts past s stands) (stood : stands[i]? = some q)
    (allowed : Tracker.Allows s r a s') (habit : TrackerStage.Allows q r a q') :
    ∀ (j ticket : Nat), (stands.set i q')[j]? = some (parked ticket) →
      s'.called[ticket]? = some true ∨ s'.pending ≠ 0 ∨
        ∃ (k : Nat) (t : CleanupTask) (ending : CleanupTask.Ending),
          (stands.set i q')[k]? = some (waking t ending) := by
  intro j ticket waits
  have inside : i < stands.length := (List.getElem?_eq_some_iff.mp stood).1
  have given := accounts.given_act stood allowed habit j _ ticket waits rfl
  by_cases wakes : ∃ t ending, q = waking t ending
  · -- It calls every ticket that there is.
    obtain ⟨t, ending, rfl⟩ := wakes
    cases habit
    obtain rfl := allowed
    refine .inl ?_
    rw [List.length_map] at given
    rw [List.getElem?_map, List.getElem?_eq_getElem given, Option.map_some]
  by_cases same : i = j
  · -- It has just seen a cleanup pending.
    subst same
    rw [List.getElem?_set_self inside, Option.some.injEq] at waits
    subst waits
    cases habit with
    | findsSome some =>
      obtain ⟨rfl, rfl⟩ := allowed
      exact .inr (.inl some)
  rw [List.getElem?_set_ne same] at waits
  rcases accounts.heard j ticket waits with called | pending | ⟨k, t, ending, waking'⟩
  · exact .inl ((called_later allowed).2 ticket called)
  · -- Only the last one that leaves makes the count zero, and then it has to wake the others.
    right
    have counts := pending_of_allowed allowed
    cases habit with
    | @empties t ending => exact .inr ⟨i, t, ending, List.getElem?_set_self inside⟩
    | leaves last =>
      obtain ⟨rfl, _⟩ := allowed
      have fewer : s'.pending = s.pending - 1 := counts
      exact .inl (by omega)
    | begins => exact .inl fun none => Nat.succ_ne_zero _ (counts.symm.trans none)
    | _ => exact .inl fun none => pending (counts.symm.trans none)
  · have other : i ≠ k := by
      rintro rfl
      exact wakes ⟨t, ending, Option.some.inj (stood.symm.trans waking')⟩
    exact .inr (.inr ⟨k, t, ending, by rw [List.getElem?_set_ne other, waking']⟩)

theorem notes_act (accounts : Accounts past s stands) (allowed : Tracker.Allows s r a s') :
    s'.notes = ((past ++ [(⟨i, ⟨r, a⟩, s⟩ : TrackerHappening)]).filterMap
      (·.exchange.request.note?)).reverse := by
  rw [List.filterMap_append, List.reverse_append, ← accounts.notes]
  cases r with
  | begin | perform | note | notifyWaiters =>
    obtain rfl := allowed
    rfl
  | decrement | pending | subscribe =>
    obtain ⟨_, rfl⟩ := allowed
    rfl
  | await =>
    obtain rfl := await_changes_nothing allowed
    rfl

theorem act (accounts : Accounts past s stands) (stood : stands[i]? = some q)
    (allowed : Tracker.Allows s r a s') (habit : TrackerStage.Allows q r a q') :
    Accounts (past ++ [⟨i, ⟨r, a⟩, s⟩]) s' (stands.set i q') :=
  ⟨accounts.pending_act stood allowed habit, accounts.given_act stood allowed habit,
    accounts.heard_act stood allowed habit, accounts.notes_act allowed⟩

theorem start (parties : List TrackerParty) :
    Accounts [] .initial (parties.map (·.stage)) := by
  have fresh : ∀ party ∈ parties, party.stage.isPending = false ∧ party.stage.ticket? = none :=
    fun party _ => by cases party <;> exact ⟨rfl, rfl⟩
  have none_holds : ∀ (i : Nat) q ticket, (parties.map (·.stage))[i]? = some q →
      q.ticket? ≠ some ticket := by
    intro i q ticket stood
    obtain ⟨party, mem, rfl⟩ := List.mem_map.mp (List.mem_of_getElem? stood)
    rw [(fresh party mem).2]
    nofun
  refine ⟨?_, fun i q ticket stood holds => (none_holds i q ticket stood holds).elim,
    fun i ticket stood => (none_holds i _ ticket stood rfl).elim, rfl⟩
  rw [List.countP_map]
  exact (List.countP_eq_zero.mpr fun party mem => by simp [(fresh party mem).1]).symm

end Accounts

def Tracker.Shows (e : TrackerHappening) : Prop :=
  (∀ count : Nat, e.exchange = ⟨.pending, count⟩ → e.state.pending = count) ∧
    (e.exchange.request = .decrement → 0 < e.state.pending)

theorem Accounts.shows {past : List TrackerHappening} {s s' : Tracker} {stands : List TrackerStage}
    {i : Nat} {q q' : TrackerStage} {r : TrackerRequest} {a : r.Answer}
    (accounts : Accounts past s stands) (stood : stands[i]? = some q)
    (allowed : Tracker.Allows s r a s') (habit : TrackerStage.Allows q r a q') :
    Tracker.Shows ⟨i, ⟨r, a⟩, s⟩ := by
  constructor
  · rintro count ⟨⟩
    exact allowed.1.symm
  · rintro rfl
    cases habit <;> exact accounts.pending_pos stood rfl

namespace Tracker

variable {parties : List TrackerParty} {events : List TrackerHappening} {u : TrackerTogether}

theorem Unfolding.accounts (unfolds : Unfolding parties events u) :
    (∃ stands, Keep protocol Stands stands u.programs ∧
      Followed protocol (parties.map (·.stage)) events stands ∧ Accounts events u.state stands) ∧
      ∀ past e later, events = past ++ e :: later → Shows e :=
  Surroundings.Unfolds.followed Accounts (fun _ => Shows) turns_conform
    (fun accounts stood allowed habit =>
      ⟨accounts.act stood allowed habit, accounts.shows stood allowed habit⟩)
    (fun _ drifts => False.elim drifts) unfolds (TrackerParty.keep parties) (.start parties)

end Tracker

theorem TrackerStage.past_of_followed {parties : List TrackerParty}
    {events : List TrackerHappening} {stands : List TrackerStage}
    (followed : Followed protocol (parties.map (·.stage)) events stands) {i : Nat}
    {q : TrackerStage} (stood : stands[i]? = some q) :
    Past q (exchangesOf events i) ∧
      ∃ party, parties[i]? = some party ∧ q.task? = party.stage.task? := by
  obtain ⟨q₀, began, follows⟩ := followed.2 i q stood
  rw [List.getElem?_map, Option.map_eq_some_iff] at began
  obtain ⟨party, at_i, rfl⟩ := began
  have fresh : Past party.stage [] := by cases party <;> rfl
  obtain ⟨past, same⟩ := past_of_follows fresh follows
  exact ⟨past, party, at_i, same⟩

/-- The pending stages are those of the cleanups that are scheduled and have not left. -/
theorem TrackerStage.countP_of_followed {parties : List TrackerParty}
    {events : List TrackerHappening} {stands : List TrackerStage}
    (followed : Followed protocol (parties.map (·.stage)) events stands) :
    stands.countP (·.isPending) =
      (List.range parties.length).countP fun i => isScheduled events i && !isDropped events i := by
  have length : stands.length = parties.length := followed.1.trans (List.length_map _)
  have same : stands.map (·.isPending) =
      (List.range parties.length).map fun i => isScheduled events i && !isDropped events i := by
    refine List.ext_getElem (by simp [length]) fun i inside _ => ?_
    rw [List.length_map] at inside
    rw [List.getElem_map, List.getElem_map, List.getElem_range]
    exact (past_of_followed followed (List.getElem?_eq_getElem inside)).1.isPending_eq
  have counted := congrArg (List.countP id) same
  rwa [List.countP_map, List.countP_map] at counted

/-- A cleanup that has left its place has counted what goes with its ending. -/
theorem TrackerStage.counted_of_past {events : List TrackerHappening} {i : Nat} {q : TrackerStage}
    {t : CleanupTask} (past : Past q (exchangesOf events i)) (task : q.task? = some t)
    (dropped : isDropped events i = true) :
    ∃ ending, ⟨.perform t, ending⟩ ∈ exchangesOf events i ∧
      countedBy events i = t.endSeries ending := by
  have counted {ending : CleanupTask.Ending} {rest : List TrackerExchange}
      (part : exchangesOf events i = begun t ending (t.endNotes ending) ++ rest)
      (silent : rest.filterMap (·.request.note?) = []) :
      ∃ ending, ⟨.perform t, ending⟩ ∈ exchangesOf events i ∧
        countedBy events i = t.endSeries ending := by
    refine ⟨ending, by simp [part, begun], ?_⟩
    rw [countedBy, part, List.filterMap_append, silent, List.append_nil, notes_begun,
      t.series_endNotes]
  have undropped (none : (exchangesOf events i).any (·.request.isDecrement) = false) : False :=
    Bool.false_ne_true (none.symm.trans dropped)
  cases q with
  | unscheduled => exact (undropped (by rw [show exchangesOf events i = _ from past]; rfl)).elim
  | running => exact (undropped (by rw [show exchangesOf events i = _ from past]; rfl)).elim
  | ended =>
    obtain ⟨told, _, part⟩ := past
    exact (undropped (by rw [part, not_isDecrement_begun])).elim
  | waking t' ending =>
    obtain rfl := Option.some.inj task
    obtain ⟨before, part⟩ := past
    exact counted part rfl
  | gone t' ending =>
    obtain rfl := Option.some.inj task
    obtain ⟨before, rest, called, part⟩ := past
    refine counted part ?_
    rw [List.filterMap_cons_none rfl, List.filterMap_eq_nil_iff]
    intro x mem
    rw [List.mem_singleton.mp (called mem)]
    rfl
  | coming | ticketed | parked | answered => cases task

/-- The counters count what each party has counted. -/
theorem count_of_parts {events : List TrackerHappening} {n : Nat}
    (inside : ∀ e ∈ events, e.who < n) (series : Series) :
    (Tally.ofMetrics (Note.metrics (events.filterMap (·.exchange.request.note?)))).count series =
      ((List.range n).flatMap (countedBy events)).count series := by
  have parts := filterMap_perm_parts (·.request.note?) inside
  rw [Tally.count_ofMetrics, Note.metrics,
    ((parts.filterMap _).flatMap_right Metric.series).count_eq, List.filterMap_flatMap,
    List.flatMap_assoc]
  rfl

namespace TrackerStage

variable {q : TrackerStage} {p : TrackerProgram}

theorem nonempty_answer : (r : TrackerRequest) → Nonempty r.Answer
  | .begin _ | .note _ | .notifyWaiters => ⟨()⟩
  | .perform _ => ⟨.finished 0⟩
  | .decrement | .subscribe | .pending => ⟨(0 : Nat)⟩
  | .await _ => ⟨.stopped⟩

theorem parked_of_awaits {ticket : Nat} {k : Race Unit → TrackerProgram}
    (conforms : protocol.Conforms Stands q (.ask (.await ticket) k)) : q = parked ticket := by
  obtain ⟨_, allowed, _⟩ := conforms .stopped
  cases allowed
  rfl

theorem wakes_of_waking {t : CleanupTask} {ending : CleanupTask.Ending}
    (conforms : protocol.Conforms Stands (waking t ending) p) :
    ∃ k, p = .ask .notifyWaiters k := by
  cases p with
  | done result => exact conforms.elim
  | ask r k =>
    obtain ⟨a⟩ := nonempty_answer r
    obtain ⟨_, allowed, _⟩ := conforms a
    cases allowed
    exact ⟨k, rfl⟩

end TrackerStage

/-- Whatever the order is, the count is that of the cleanups that are scheduled and have not left,
each of which still has its place when it leaves; each that has left has counted as its ending
says; whoever finds idleness has last seen that none is pending; and when none is pending, whoever
waits has been called, or somebody is about to call. -/
theorem cleanups_accounted {parties : List TrackerParty} {events : List TrackerHappening}
    {u : TrackerTogether} (unfolds : Tracker.Unfolding parties events u) :
    (u.state.pending =
        (List.range parties.length).countP fun i => isScheduled events i && !isDropped events i) ∧
      (∀ e ∈ events, e.exchange.request = .decrement → 0 < e.state.pending) ∧
      (∀ (i : Nat) t, parties[i]? = some (.cleanup t) → isDropped events i = true →
        ∃ ending, ⟨.perform t, ending⟩ ∈ exchangesOf events i ∧
          countedBy events i = t.endSeries ending ∧
          ∀ trace failures, ending = .finished failures → t.perform.Runs trace failures →
            (ending.isFailure = true ↔ ∃ x ∈ trace, CleanupTrace.isFailure x = true)) ∧
      (∀ series, (Tally.ofMetrics (Note.metrics u.state.notes.reverse)).count series =
        ((List.range parties.length).flatMap (countedBy events)).count series) ∧
      (∀ i : Nat, parties[i]? = some .waiter → u.programs[i]? = some (.done (.inr true)) →
        ∃ past e later, events = past ++ e :: later ∧ e.who = i ∧
          e.exchange = ⟨.pending, (0 : Nat)⟩ ∧ e.state.pending = 0 ∧ ∀ d ∈ later, d.who ≠ i) ∧
      (u.state.pending = 0 → ∀ (i ticket : Nat) k,
        u.programs[i]? = some (.ask (.await ticket) k) →
          u.state.called[ticket]? = some true ∨
            ∃ (j : Nat) (k' : Unit → TrackerProgram),
              u.programs[j]? = some (.ask .notifyWaiters k')) := by
  obtain ⟨⟨stands, keep, followed, accounts⟩, shown⟩ := unfolds.accounts
  have inside : ∀ e ∈ events, e.who < parties.length := fun e mem => by
    simpa using Surroundings.Unfolds.who_lt unfolds e mem
  have length : u.programs.length = stands.length := by
    rw [Surroundings.Unfolds.length_eq unfolds, followed.1, List.length_map, List.length_map]
  refine ⟨accounts.pending.trans (countP_of_followed followed), fun e mem decrements => ?_,
    fun i t at_i dropped => ?_, fun series => ?_, fun i at_i ended => ?_,
    fun none i ticket k waits => ?_⟩
  · obtain ⟨past, later, cut⟩ := List.append_of_mem mem
    exact (shown past e later cut).2 decrements
  · have below : i < stands.length := by
      rw [followed.1, List.length_map]
      exact (List.getElem?_eq_some_iff.mp at_i).1
    obtain ⟨past, party, at_i', task⟩ :=
      past_of_followed followed (List.getElem?_eq_getElem below)
    obtain rfl : party = .cleanup t := Option.some.inj (at_i'.symm.trans at_i)
    obtain ⟨ending, performed, counted⟩ := counted_of_past past task dropped
    refine ⟨ending, performed, counted, ?_⟩
    rintro trace failures rfl run
    exact CleanupTask.isFailure_finished_iff run
  · rw [accounts.notes, List.reverse_reverse]
    exact count_of_parts inside series
  · obtain ⟨q, stood, conforms⟩ := keep i _ ended
    obtain ⟨past, party, at_i', task⟩ := past_of_followed followed stood
    obtain rfl : party = .waiter := Option.some.inj (at_i'.symm.trans at_i)
    cases q with
    | gone => cases task
    | answered idle =>
      obtain rfl : true = idle := conforms
      obtain ⟨front, part⟩ := past.2 rfl
      obtain ⟨before, e, later, cut, mine, same, last⟩ := exists_last_of_exchangesOf part
      exact ⟨before, e, later, cut, mine, same, (shown before e later cut).1 0 same, last⟩
    | _ => exact conforms.elim
  · obtain ⟨q, stood, conforms⟩ := keep i _ waits
    obtain rfl := parked_of_awaits conforms
    rcases accounts.heard i ticket stood with called | some | ⟨j, t, ending, stood'⟩
    · exact .inl called
    · exact absurd none some
    · have below : j < u.programs.length := length ▸ (List.getElem?_eq_some_iff.mp stood').1
      obtain ⟨q, stood'', conforms'⟩ := keep j _ (List.getElem?_eq_getElem below)
      obtain rfl : waking t ending = q := Option.some.inj (stood'.symm.trans stood'')
      obtain ⟨k', wakes⟩ := wakes_of_waking conforms'
      exact .inr ⟨j, k', by rw [List.getElem?_eq_getElem below, wakes]⟩

namespace Tracker

/-- Answers where no cleanup is done in time, and whoever waits does so until it is called. -/
def answer (s : Tracker) : (r : TrackerRequest) → Option (r.Answer × Tracker)
  | .begin _ => some ((), { s with pending := s.pending + 1 })
  | .perform _ => some (.timedOut (.ofSeconds 30), s)
  | .note n => some ((), { s with notes := n :: s.notes })
  | .decrement => some (s.pending, { s with pending := s.pending - 1 })
  | .notifyWaiters => some ((), { s with called := s.called.map fun _ => true })
  | .subscribe => some (s.called.length, { s with called := s.called ++ [false] })
  | .pending => some (s.pending, s)
  | .await ticket => if s.called[ticket]? = some true then some (.finished (), s) else none

theorem answer_allowed (s : Tracker) (r : TrackerRequest) (a : r.Answer) (s' : Tracker)
    (answered : s.answer r = some (a, s')) : s.Allows r a s' := by
  cases r with
  | await ticket =>
    rw [answer] at answered
    split at answered
    next called => cases answered; exact ⟨called, rfl⟩
    next => cases answered
  | decrement | subscribe | pending => cases answered; exact ⟨rfl, rfl⟩
  | begin | perform | note | notifyWaiters => cases answered; rfl

end Tracker

def lateCleanup : CleanupTask := ⟨.deleteSource, "raw/a.png", none, none⟩

/-- The cleanup begins, the first waiter sees it and waits, the cleanup leaves, and before it calls
anybody the second waiter comes and sees that none is pending. -/
def leavingFirst : List Nat := [0, 0, 1, 1, 0, 0, 0, 2, 2]

/-- The ticket with which a program waits to be called. -/
def TrackerProgram.awaited? : TrackerProgram → Option Nat
  | .ask (.await ticket) _ => some ticket
  | _ => none

theorem TrackerProgram.eq_ask_of_awaited {p : TrackerProgram} {ticket : Nat}
    (awaits : awaited? p = some ticket) : ∃ k, p = .ask (.await ticket) k := by
  cases p with
  | done result => cases awaits
  | ask r k =>
    cases r with
    | await other =>
      obtain rfl := Option.some.inj awaits
      exact ⟨k, rfl⟩
    | _ => cases awaits

theorem cleanups_accounted_before_call :
    ∃ events u k, Tracker.Unfolding [.cleanup lateCleanup, .waiter, .waiter] events u ∧
      u.state.pending = 0 ∧ u.programs[1]? = some (.ask (.await (0 : Nat)) k) ∧
        (u.state.called[0]? = some true ∨
          ∃ (j : Nat) (k' : Unit → TrackerProgram),
            u.programs[j]? = some (.ask .notifyWaiters k')) := by
  have played : (Surroundings.play Tracker.answer leavingFirst
      ⟨Tracker.initial, [.cleanup lateCleanup, .waiter, .waiter].map TrackerParty.program⟩).any
        (fun (_, u) => u.state.pending = 0 &&
          u.programs[1]?.any fun p => TrackerProgram.awaited? p = some 0) = true := by
    decide +kernel
  obtain ⟨⟨events, u⟩, played, shown⟩ := (Option.any_eq_true ..).mp played
  simp only [Bool.and_eq_true, decide_eq_true_eq] at shown
  obtain ⟨none, waits⟩ := shown
  obtain ⟨p, stands, waits⟩ := (Option.any_eq_true ..).mp waits
  obtain ⟨k, rfl⟩ := TrackerProgram.eq_ask_of_awaited (of_decide_eq_true waits)
  have unfolding : Tracker.Unfolding [.cleanup lateCleanup, .waiter, .waiter] events u := by
    unfold Tracker.Unfolding
    exact (Surroundings.Unfolds.start _).play Tracker.answer_allowed played
  exact ⟨events, u, k, unfolding, none, stands,
    (cleanups_accounted unfolding).2.2.2.2.2 none 1 0 k stands⟩

end ImageWorker
