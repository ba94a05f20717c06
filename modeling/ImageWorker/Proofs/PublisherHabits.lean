import ImageWorker.Broker.TimedPublish
import ImageWorker.Proofs.ConsumerProtocol

/-!
# What a publish does with the shared link

`Posture` is what a publish holds and what it has last seen, and `Posture.Allows` is what it may do
there: it closes only a link that it has in its hand, it puts one in place only if it has looked
while it held the reconnect lock, and it takes one out only if it has seen a broken one before. A
publish does nothing else, whatever it is answered and whenever its time is over.
-/

namespace ImageWorker

def LinkState.works : LinkState → Bool
  | usable _ => true
  | broken | missing => false

/-- What is known of a publish from what it has asked and heard. -/
structure Posture where
  locks : List PublisherLock
  /-- The link that it has opened or taken out of the place, up to when it puts it there or closes
  it. -/
  hand : Option LinkId
  /-- It has last seen a broken link. -/
  doubts : Bool
  /-- It has last seen no link that works, and has held the reconnect lock since. -/
  sure : Bool

/-- Whether a request to the broker neither opens nor closes a link. -/
def LinkRequest.leavesLinks : LinkRequest → Bool
  | connect _ | closeConnection _ | close _ => false
  | _ => true

namespace PublisherRequest

def isConnect : PublisherRequest → Bool
  | broker (.connect _) => true
  | _ => false

def isPublish : PublisherRequest → Bool
  | broker (.publish _ _ _ _) => true
  | _ => false

end PublisherRequest

namespace Posture

def start : Posture := ⟨[], none, false, false⟩

def seeing (p : Posture) (found : LinkState) : Posture :=
  { p with doubts := found == .broken, sure := p.locks.contains .reconnect && !found.works }

def without (p : Posture) (lock : PublisherLock) : Posture :=
  { p with locks := p.locks.erase lock, sure := false }

theorem locks_without {p : Posture} {lock : PublisherLock} {others : List PublisherLock}
    (locked : p.locks = lock :: others) : (p.without lock).locks = others := by
  rw [without, locked, List.erase_cons_head]

/-- What a publish may ask, and hear, in a posture. -/
inductive Allows : Posture → (r : PublisherRequest) → r.Answer → Posture → Prop where
  | connects {p : Posture} {label : String} {link : LinkId} :
      Allows p (.broker (.connect label)) (.ok link) { p with hand := some link }
  | refused {p : Posture} {label : String} {e : LinkError} :
      Allows p (.broker (.connect label)) (.error e) p
  | closes {p : Posture} {link : LinkId} :
      p.hand = some link → Allows p (.broker (.close link)) () { p with hand := none }
  | closesConnection {p : Posture} {link : LinkId} {answer : Except LinkError Unit} :
      p.hand = some link →
        Allows p (.broker (.closeConnection link)) answer { p with hand := none }
  | uses {p : Posture} {r : LinkRequest} {answer : r.Answer} :
      r.leavesLinks = true → Allows p (.broker r) answer p
  | observes {p : Posture} {found : LinkState} : Allows p .observe found (p.seeing found)
  | remembers {p : Posture} {established : Bool} : Allows p .wasEstablished established p
  | establishes {p : Posture} : Allows p .setEstablished () p
  | acquires {p : Posture} {lock : PublisherLock} :
      lock ∉ p.locks → Allows p (.acquire lock) () { p with locks := lock :: p.locks }
  | releases {p : Posture} {lock : PublisherLock} :
      lock ∈ p.locks → Allows p (.release lock) () (p.without lock)
  | replaces {p : Posture} {link : LinkId} {previous : Option LinkId} :
      p.hand = some link → .reconnect ∈ p.locks → p.sure = true →
        Allows p (.replace link) previous
          { p with hand := previous, doubts := false, sure := false }
  | takes {p : Posture} {found : Option LinkId} :
      p.doubts = true → Allows p .take found { p with hand := found, doubts := false }

theorem Allows.locks_eq {p p' : Posture} {r : PublisherRequest} {answer : r.Answer}
    (allowed : p.Allows r answer p') : p'.locks = r.heldAfter p.locks := by
  cases allowed <;> rfl

end Posture

def habits : Surroundings PublisherRequest PublisherRequest.Answer Posture where
  Allows := Posture.Allows
  Drifts before after := after = before

/-- The part of it that concerns the broker. -/
def brokerHabits : Surroundings LinkRequest LinkRequest.Answer Posture where
  Allows p r answer p' := p.Allows (.broker r) answer p'
  Drifts before after := after = before

/-- After an attempt to open a link only the hand has changed, and a success is in it. -/
def Posture.Opened (p p' : Posture) (result : Except QueueError LinkId) : Prop :=
  p' = { p with hand := p'.hand } ∧ ∀ link, result = .ok link → p'.hand = some link

namespace LinkProgram

variable {p : Posture}

theorem openLink_habits (label : String) :
    brokerHabits.Conforms p.Opened p (openLink label) := by
  rintro (e | link)
  · exact ⟨p, .refused, rfl, nofun⟩
  · refine ⟨{ p with hand := some link }, .connects, ?_⟩
    rintro (e | ⟨⟩)
    · refine ⟨_, .uses rfl, ?_⟩
      rintro (why | ⟨⟩)
      · exact ⟨_, .closesConnection rfl, fun _ => ⟨_, .uses rfl, rfl, nofun⟩⟩
      · exact ⟨_, .closesConnection rfl, rfl, nofun⟩
    · exact ⟨_, .uses rfl, rfl, fun _ same => congrArg some (Except.ok.inj same)⟩

theorem declareOn_habits (r : StatusRoute) (link : LinkId) :
    brokerHabits.Conforms (fun p' _ => p' = p) p (r.declareOn link) := by
  rintro (e | ⟨⟩)
  · exact ⟨p, .uses rfl, rfl⟩
  · refine ⟨p, .uses rfl, ?_⟩
    rintro (e | ⟨⟩)
    · exact ⟨p, .uses rfl, rfl⟩
    · exact ⟨p, .uses rfl, fun answer => ⟨p, .uses rfl, rfl⟩⟩

/-- A link on which not everything can be declared is closed. -/
theorem openDeclared_habits (r : StatusRoute) :
    brokerHabits.Conforms p.Opened p r.openDeclared := by
  refine (openLink_habits StatusRoute.label).bind ?_
  rintro p' (e | link) ⟨same, hand⟩
  · exact ⟨same, nofun⟩
  · have held : p'.hand = some link := hand link rfl
    refine (declareOn_habits r link).bind ?_
    rintro p'' (e | ⟨⟩) rfl
    · refine fun _ => ⟨_, .closes held, ?_, nofun⟩
      rw [same]
    · exact ⟨same, fun _ eq => Except.ok.inj eq ▸ held⟩

end LinkProgram

namespace StatusRoute

open PublisherProgram

variable {α : Type} {p : Posture} {r : StatusRoute}

theorem ofLink_habits {ends : Posture → α → Prop} {q : LinkProgram α}
    (conforms : brokerHabits.Conforms ends p q) : habits.Conforms ends p (ofLink q) := by
  induction q generalizing p with
  | done a => exact conforms
  | ask request k ih =>
    intro answer
    obtain ⟨p', allowed, rest⟩ := conforms answer
    exact ⟨p', allowed, ih answer rest⟩

/-- A look that finds no working link makes sure of it, as long as the reconnect lock is held. -/
theorem sure_of_seeing {found : LinkState} (locked : p.locks = [.reconnect])
    (fails : found.works = false) : (p.seeing found).sure = true := by
  simp [Posture.seeing, locked, fails]

/-- A lock that is taken is given back. -/
theorem holding_habits {ends : Posture → α → Prop} {lock : PublisherLock} {q : PublisherProgram α}
    (free : lock ∉ p.locks)
    (inside : habits.Conforms (fun p' a => p'.locks = lock :: p.locks ∧ ends (p'.without lock) a)
      { p with locks := lock :: p.locks } q) :
    habits.Conforms ends p (holding lock q) := by
  refine fun _ => ⟨_, .acquires free, inside.bind ?_⟩
  rintro p' a ⟨locked, ended⟩
  have mine : lock ∈ p'.locks := by simp [locked]
  exact fun _ => ⟨_, .releases mine, ended⟩

theorem openInPlace_habits (locked : p.locks = [.reconnect]) (sure : p.sure = true) :
    habits.Conforms (fun p' _ => p'.locks = [.reconnect]) p r.openInPlace := by
  refine (ofLink_habits (LinkProgram.openDeclared_habits r)).bind ?_
  rintro p' (e | link) ⟨same, hand⟩
  · rw [same]
    exact locked
  · have held : p'.hand = some link := hand link rfl
    have locked' : p'.locks = [.reconnect] := by rw [same]; exact locked
    have sure' : p'.sure = true := by rw [same]; exact sure
    have replaces : habits.Conforms
        (fun (p'' : Posture) (previous : Option LinkId) =>
          p''.locks = [.reconnect] ∧ p''.hand = previous)
        p' (holding .place (.ask (.replace link) .done)) := by
      refine holding_habits (by simp [locked']) fun previous => ?_
      have swaps : Posture.Allows { p' with locks := .place :: p'.locks } (.replace link) previous
          { locks := .place :: p'.locks, hand := previous, doubts := false, sure := false } :=
        .replaces held (by simp [locked']) sure'
      exact ⟨_, swaps, rfl, (Posture.locks_without rfl).trans locked', rfl⟩
    refine replaces.bind ?_
    rintro p'' (⟨⟩ | old) ⟨locked'', held'⟩
    · exact fun _ => ⟨_, .establishes, fun _ => ⟨_, .uses rfl, locked''⟩⟩
    · refine fun _ => ⟨_, .closes held', fun _ => ?_⟩
      exact ⟨_, .establishes, fun _ => ⟨_, .uses rfl, locked''⟩⟩

theorem discard_habits (line : Option LogLine) (unlocked : p.locks = [])
    (doubts : p.doubts = true) : habits.Conforms (fun p' _ => p'.locks = []) p (discard line) := by
  refine holding_habits (by simp [unlocked]) ?_
  have unlocks {p' : Posture} (locked : p'.locks = .place :: p.locks) :
      p'.locks = .place :: p.locks ∧ (p'.without .place).locks = [] :=
    ⟨locked, (Posture.locks_without locked).trans unlocked⟩
  rintro (⟨⟩ | link)
  · exact ⟨_, .takes doubts, unlocks rfl⟩
  · refine ⟨_, .takes doubts, ?_⟩
    cases line with
    | none => exact fun _ => ⟨_, .closes rfl, unlocks rfl⟩
    | some line => exact fun _ => ⟨_, .uses rfl, fun _ => ⟨_, .closes rfl, unlocks rfl⟩⟩

/-- A link is opened only after another look under the reconnect lock. -/
theorem reconnect_habits (unlocked : p.locks = []) :
    habits.Conforms (fun p' _ => p'.locks = []) p r.reconnect := by
  refine holding_habits (by simp [unlocked]) ?_
  rw [unlocked]
  have unlocks {p' : Posture} (locked : p'.locks = [.reconnect]) :
      p'.locks = [.reconnect] ∧ (p'.without .reconnect).locks = [] :=
    ⟨locked, Posture.locks_without locked⟩
  have reopens {found : LinkState} (fails : found.works = false) :=
    openInPlace_habits (r := r) (p := Posture.seeing { p with locks := [.reconnect] } found) rfl
      (sure_of_seeing rfl fails)
  rintro (link | _ | _)
  · exact ⟨_, .observes, unlocks rfl⟩
  all_goals
    refine ⟨_, .observes, (reopens rfl).bind ?_⟩
    rintro p' (e | ⟨⟩) locked
    · exact unlocks locked
    · rintro (link | _ | _) <;> exact ⟨_, .observes, unlocks locked⟩

theorem findLink_habits (unlocked : p.locks = []) :
    habits.Conforms (fun p' _ => p'.locks = []) p r.findLink := by
  rintro (link | _ | _)
  · exact ⟨_, .observes, unlocked⟩
  · refine ⟨_, .observes, (discard_habits (p := p.seeing .broken) _ unlocked rfl).bind ?_⟩
    exact fun p' _ unlocked' => unlocked'
  · refine ⟨_, .observes, fun established => ⟨_, .remembers, ?_⟩⟩
    cases established with
    | true => exact reconnect_habits unlocked
    | false => exact unlocked

theorem publish_habits (event : StatusEvent) (unlocked : p.locks = []) :
    habits.Conforms (fun p' _ => p'.locks = []) p (r.publish event) := by
  refine (findLink_habits unlocked).bind ?_
  rintro p' (e | link) unlocked'
  · exact unlocked'
  · exact fun answer => ⟨p', .uses rfl, unlocked'⟩

end StatusRoute

theorem PublisherRequest.nonempty_answer : (r : PublisherRequest) → Nonempty r.Answer
  | broker r => ⟨r.granted⟩
  | observe => ⟨.missing⟩
  | wasEstablished => ⟨false⟩
  | setEstablished | acquire _ | release _ => ⟨()⟩
  | replace _ | take => ⟨none⟩

inductive Posture.AllowsWithin :
    Posture → (r : TimedRequest) → r.Answer → Posture → Prop where
  | inTime {p p' : Posture} {r : PublisherRequest} {answer : r.Answer} :
      p.Allows r answer p' → AllowsWithin p (.inTime r) (some answer) p'
  /-- It has asked what it may ask, and does not learn what came of it. -/
  | tooLate {p p' : Posture} {r : PublisherRequest} {answer : r.Answer} :
      p.Allows r answer p' → AllowsWithin p (.inTime r) none p
  | givesBack {p : Posture} {lock : PublisherLock} :
      lock ∈ p.locks → AllowsWithin p (.giveBack lock) () (p.without lock)

def habitsWithin : Surroundings TimedRequest TimedRequest.Answer Posture where
  Allows := Posture.AllowsWithin
  Drifts before after := after = before

namespace TimedProgram

variable {α : Type} {p : Posture} {held : List PublisherLock}

theorem giveUp_habits (locked : p.locks = held) :
    habitsWithin.Conforms (fun _ _ => True) p (giveUp held : TimedProgram (Option α)) := by
  induction held generalizing p with
  | nil => trivial
  | cons lock held ih =>
    have mine : lock ∈ p.locks := by simp [locked]
    exact fun _ => ⟨_, .givesBack mine, ih (Posture.locks_without locked)⟩

theorem ofPublisher_habits {ends : Posture → α → Prop} {q : PublisherProgram α}
    (locked : p.locks = held) (conforms : habits.Conforms ends p q) :
    habitsWithin.Conforms (fun _ _ => True) p (ofPublisher held q) := by
  induction q generalizing p held with
  | done a => trivial
  | ask r k ih =>
    rw [ofPublisher]
    rintro (_ | answer)
    · obtain ⟨answer⟩ := r.nonempty_answer
      obtain ⟨p', allowed, _⟩ := conforms answer
      exact ⟨p, .tooLate allowed, giveUp_habits locked⟩
    · obtain ⟨p', allowed, rest⟩ := conforms answer
      have locked' : p'.locks = r.heldAfter held := by rw [allowed.locks_eq, locked]
      exact ⟨p', .inTime allowed, ih answer locked' rest⟩

end TimedProgram

theorem StatusRoute.publishWithin_habits (r : StatusRoute) (limit : Duration)
    (event : StatusEvent) :
    habitsWithin.Conforms (fun _ _ => True) .start (r.publishWithin limit event) := by
  have within := TimedProgram.ofPublisher_habits rfl
    (publish_habits (p := .start) (r := r) event rfl)
  refine within.bind ?_
  rintro p (_ | result) _ <;> trivial

end ImageWorker
