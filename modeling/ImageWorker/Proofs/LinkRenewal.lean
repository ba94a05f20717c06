import ImageWorker.Proofs.PublishSteps

/-!
# The renewal of a link

What each step of a publish does to the shared link, and what stays true of it while any number of
publishes take such steps: at most one of them stands where a link is opened, and as soon as it has
put the new link into its place, all others find it there.
-/

namespace ImageWorker

open Surroundings

/-- The publisher was established before, and its link is missing. -/
structure SharedLink.Vacant (s : SharedLink) : Prop where
  stored : s.stored = none
  established : s.established = true
  held : s.held = []
  closed : ∀ link ∈ s.closed, link < s.opened

/-- The first connection is not refused, and neither is what is declared on it. -/
def SharedLink.grants (first : LinkId) (s : SharedLink) : (r : LinkRequest) → r.Answer → Bool
  | .connect _, .error _ => s.opened ≠ first
  | .openChannel link, .error _ | .declareExchange link _, .error _
  | .declareQueue link _, .error _ | .bindQueue link _ _ _, .error _ => link ≠ first
  | _, _ => true

/-- And no time is over. -/
def SharedLink.favours (first : LinkId) (s : SharedLink) : (r : TimedRequest) → r.Answer → Bool
  | .inTime _, none => false
  | .inTime (.broker r), some answer => s.grants first r answer
  | _, _ => true

def PublishHappening.Favours (first : LinkId) (e : PublishHappening) : Prop :=
  e.state.favours first e.exchange.request e.exchange.answer = true

namespace SharedLink

/-- The first link is to be opened, is opened, or is in place. -/
structure Renewing (first : LinkId) (s : SharedLink) : Prop where
  established : s.established = true
  unclosed : first ∉ s.closed
  phase : s.stored = none ∧ s.opened = first ∨ s.stored = none ∧ s.opened = first + 1 ∨
    s.stored = some first ∧ s.opened = first + 1

structure Alike (s s' : SharedLink) : Prop where
  stored : s'.stored = s.stored
  established : s'.established = s.established
  held : s'.held = s.held
  opened : s'.opened = s.opened
  closed : s'.closed = s.closed

theorem Alike.refl (s : SharedLink) : s.Alike s := ⟨rfl, rfl, rfl, rfl, rfl⟩

theorem Renewing.usable {first : LinkId} {s : SharedLink} (renewing : s.Renewing first)
    (alive : first ∉ s.dead) (opened : s.opened = first + 1) : s.isUsable first = true := by
  simp [isUsable, opened, alive, renewing.unclosed]

/-- Whoever looks finds no link, or the first one. -/
theorem Renewing.linkState {first : LinkId} {s : SharedLink} (renewing : s.Renewing first)
    (alive : first ∉ s.dead) :
    s.linkState = .missing ∧ s.stored = none ∨
      s.linkState = .usable first ∧ s.stored = some first := by
  rcases renewing.phase with ⟨stored, _⟩ | ⟨stored, _⟩ | ⟨stored, opened⟩
  · exact .inl ⟨by rw [SharedLink.linkState, stored], stored⟩
  · exact .inl ⟨by rw [SharedLink.linkState, stored], stored⟩
  · exact .inr ⟨linkState_eq_usable_iff.mpr ⟨stored, renewing.usable alive opened⟩, stored⟩

theorem Renewing.not_broken {first : LinkId} {s : SharedLink} (renewing : s.Renewing first)
    (alive : first ∉ s.dead) : s.linkState ≠ .broken := by
  rcases renewing.linkState alive with ⟨missing, _⟩ | ⟨usable, _⟩
  · rw [missing]
    nofun
  · rw [usable]
    nofun

end SharedLink

namespace PublishStep

/-- What holds of the shared state when a publish stands at a step. -/
def Fits (first : LinkId) (s : SharedLink) : PublishStep → Prop
  | fresh | linkless | queueing | checking => True
  | dialing => s.opened = first ∧ s.stored = none
  | connected link | undeclared link | queueless link | unbound link | declared link
  | placing link => link = first ∧ s.opened = first + 1 ∧ s.stored = none
  | placed | unmarked | unannounced | reopened => s.stored = some first
  | found link | ready link | ended link _ => link = first ∧ s.stored = some first
  | stray => False

/-- What an exchange of a publish does to the shared state and to its own step, as long as all goes
well. -/
inductive Move (first : LinkId) (s : SharedLink) :
    PublishStep → SharedLink → PublishStep → Prop where
  | stays {q q' : PublishStep} {s' : SharedLink} :
      s.Alike s' → (∀ lock, q'.holds lock = q.holds lock) →
        (q.carries = false ∨ q'.carries = true) → q'.Fits first s → Move first s q s' q'
  | locks {q q' : PublishStep} {lock : PublisherLock} :
      lock ∉ s.held → (∀ other, q'.holds other = (other == lock || q.holds other)) →
        (q.carries = false ∨ q'.carries = true) → q'.Fits first s →
          Move first s q { s with held := lock :: s.held } q'
  | unlocks {q q' : PublishStep} {lock : PublisherLock} :
      (∀ other, q.holds other = (other == lock || q'.holds other)) → q'.holds lock = false →
        (q.carries = false ∨ q'.carries = true) → q'.Fits first s →
          Move first s q { s with held := s.held.erase lock } q'
  | opens : s.opened = first → s.stored = none →
      Move first s dialing { s with opened := s.opened + 1 } (connected first)
  | puts : s.opened = first + 1 →
      Move first s (placing first) { s with stored := some first } placed

variable {r : StatusRoute} {payload : Bytes} {first : LinkId} {s s' : SharedLink}
  {q q' : PublishStep} {request : PublisherRequest} {answer : request.Answer}

theorem move_of_allowed (renewing : s.Renewing first) (alive : first ∉ s.dead)
    (fits : q.Fits first s)
    (alone : q = checking → s.stored = none → s.opened = first)
    (favours : s.favours first (.inTime request) (some answer) = true)
    (allowed : s.Allows request answer s') (habit : q.Allows r payload request answer q') :
    Move first s q s' q' := by
  have looks := renewing.linkState alive
  cases habit with
  | finds | findsAnother | findsItsOwn =>
    obtain ⟨_, seen, rfl⟩ := allowed
    rw [← seen] at looks
    rcases looks with ⟨⟨⟩, _⟩ | ⟨same, stored⟩
    obtain rfl := LinkState.usable.inj same
    exact .stays (.refl _) (fun lock => by cases lock <;> rfl) (.inl rfl) ⟨rfl, stored⟩
  | misses =>
    obtain ⟨_, seen, rfl⟩ := allowed
    exact .stays (.refl _) (fun lock => by cases lock <;> rfl) (.inl rfl) trivial
  | missesStill =>
    obtain ⟨_, seen, rfl⟩ := allowed
    rw [← seen] at looks
    rcases looks with ⟨_, stored⟩ | ⟨⟨⟩, _⟩
    exact .stays (.refl _) (fun lock => by cases lock <;> rfl) (.inl rfl) ⟨alone rfl stored, stored⟩
  | remembers =>
    obtain ⟨_, rfl⟩ := allowed
    exact .stays (.refl _) (fun lock => by cases lock <;> rfl) (.inl rfl) trivial
  | enters =>
    obtain ⟨free, rfl⟩ := allowed
    exact .locks (by simpa [SharedLink.isHeld] using free) (fun other => by cases other <;> rfl)
      (.inl rfl) trivial
  | connects =>
    obtain ⟨rfl, rfl⟩ := allowed
    obtain ⟨rfl, stored⟩ := fits
    exact .opens rfl stored
  | opensChannel | declaresExchange | declaresQueue | binds =>
    obtain ⟨_, rfl⟩ := allowed
    exact .stays (.refl _) (fun lock => by cases lock <;> rfl) (.inr rfl) fits
  | reachesOut =>
    obtain ⟨free, rfl⟩ := allowed
    exact .locks (by simpa [SharedLink.isHeld] using free) (fun other => by cases other <;> rfl)
      (.inr rfl) fits
  | puts =>
    obtain ⟨_, rfl⟩ := allowed
    obtain ⟨rfl, opened, _⟩ := fits
    exact .puts opened
  | letsGo =>
    obtain rfl := allowed
    exact .unlocks (fun other => by cases other <;> rfl) rfl (.inl rfl) fits
  | marks =>
    obtain rfl := allowed
    exact .stays ⟨rfl, renewing.established.symm, rfl, rfl, rfl⟩
      (fun lock => by cases lock <;> rfl) (.inl rfl) fits
  | announces =>
    obtain rfl := allowed
    exact .stays (.refl _) (fun lock => by cases lock <;> rfl) (.inl rfl) fits
  | leaves =>
    obtain rfl := allowed
    exact .unlocks (fun other => by cases other <;> rfl) rfl (.inl rfl) fits
  | @sends _ answer =>
    cases answer with
    | error =>
      obtain rfl := allowed
      exact .stays (.refl _) (fun lock => by cases lock <;> rfl) (.inl rfl) fits
    | ok =>
      obtain ⟨_, rfl⟩ := allowed
      exact .stays ⟨rfl, rfl, rfl, rfl, rfl⟩ (fun lock => by cases lock <;> rfl) (.inl rfl) fits
  | findsBroken => exact absurd allowed.2.1.symm (renewing.not_broken alive)
  | losesItsOwn =>
    rw [← allowed.2.1] at looks
    rcases looks with ⟨_, stored⟩ | ⟨⟨⟩, _⟩
    exact absurd (fits.symm.trans stored) (Option.some_ne_none _)
  | forgets => exact absurd (allowed.1.trans renewing.established) Bool.false_ne_true
  | refused => exact absurd fits.1 (of_decide_eq_true favours)
  | noChannel | noExchange | noQueue | noBinding => exact absurd fits.1 (of_decide_eq_true favours)
  | displaces => exact absurd (allowed.1.trans fits.2.2) (Option.some_ne_none _)
  | strays => exact fits.elim

theorem Fits.same (fits : q.Fits first s) (stored : s'.stored = s.stored)
    (opened : s'.opened = s.opened) : q.Fits first s' := by
  cases q <;> simp only [Fits, stored, opened] at fits ⊢ <;> exact fits

/-- Without the reconnect lock, a publish only minds that the new link stays in its place. -/
theorem Fits.unlocked (fits : q.Fits first s) (free : q.holds .reconnect = false)
    (stays : s.stored = some first → s'.stored = some first) : q.Fits first s' := by
  cases q with
  | fresh | linkless | queueing => trivial
  | ready | ended => exact ⟨fits.1, stays fits.2⟩
  | stray => exact fits.elim
  | _ => cases free

namespace Move

variable {other : PublishStep}

theorem fits (move : Move first s q s' q') : q'.Fits first s' := by
  cases move with
  | stays alike _ _ fits => exact fits.same alike.stored alike.opened
  | locks _ _ _ fits | unlocks _ _ _ fits => exact fits.same rfl rfl
  | opens opened stored => exact ⟨rfl, congrArg (· + 1) opened, stored⟩
  | puts => rfl

/-- Two publishes never hold the same lock, so whatever one of them does suits the others. -/
theorem fits_other (move : Move first s q s' q') (fits : other.Fits first s)
    (apart : ∀ lock, q.holds lock = true → other.holds lock = false) : other.Fits first s' := by
  cases move with
  | stays alike => exact fits.same alike.stored alike.opened
  | locks | unlocks => exact fits.same rfl rfl
  | opens => exact fits.unlocked (apart .reconnect rfl) id
  | puts => exact fits.unlocked (apart .reconnect rfl) fun _ => rfl

theorem renewing (move : Move first s q s' q') (renewing : s.Renewing first) :
    s'.Renewing first := by
  obtain ⟨established, unclosed, phase⟩ := renewing
  cases move with
  | stays alike =>
    refine ⟨alike.established ▸ established, alike.closed ▸ unclosed, ?_⟩
    rw [alike.stored, alike.opened]
    exact phase
  | locks | unlocks => exact ⟨established, unclosed, phase⟩
  | opens opened stored =>
    exact ⟨established, unclosed, .inr (.inl ⟨stored, congrArg (· + 1) opened⟩)⟩
  | puts opened => exact ⟨established, unclosed, .inr (.inr ⟨rfl, opened⟩)⟩

/-- The locks change with what the publish holds. -/
theorem count_held (move : Move first s q s' q')
    (held : ∀ lock, q.holds lock = true → lock ∈ s.held) (lock : PublisherLock) :
    s'.held.count lock + (q.holds lock).toNat = s.held.count lock + (q'.holds lock).toNat := by
  cases move with
  | stays alike same => rw [alike.held, same]
  | @locks _ _ taken free more =>
    rw [List.count_cons, more]
    by_cases same : lock = taken
    · subst same
      have none : q.holds lock = false := by
        cases h : q.holds lock with
        | false => rfl
        | true => exact absurd (held lock h) free
      simp [none]
    · have other : (lock == taken) = false := by simpa using same
      have other' : (taken == lock) = false := by simpa using Ne.symm same
      simp [other, other']
  | @unlocks _ _ given more gone =>
    by_cases same : lock = given
    · subst same
      have here : lock ∈ s.held := held lock (by simp [more])
      have : 0 < s.held.count lock := List.count_pos_iff.mpr here
      rw [List.count_erase_self, more, gone]
      simp
      omega
    · have other : (lock == given) = false := by simpa using same
      rw [List.count_erase_of_ne same, more, other, Bool.false_or]
  | opens => cases lock <;> rfl
  | puts => cases lock <;> rfl

theorem single (move : Move first s q s' q') (single : ∀ lock, s.held.count lock ≤ 1)
    (lock : PublisherLock) : s'.held.count lock ≤ 1 := by
  cases move with
  | stays alike => exact alike.held ▸ single lock
  | @locks _ _ taken free =>
    rw [List.count_cons]
    by_cases same : taken = lock
    · subst same
      rw [List.count_eq_zero.mpr free]
      simp
    · have other : (taken == lock) = false := by simpa using same
      rw [other]
      exact single lock
  | unlocks => exact Nat.le_trans (List.erase_sublist.count_le lock) (single lock)
  | opens | puts => exact single lock

end Move

end PublishStep

/-- How the shared state goes with the steps of the publishes. -/
structure Renewal (first : LinkId) (s : SharedLink) (stands : List PublishStage) : Prop where
  renewing : s.Renewing first
  fits : ∀ (i : Nat) q, stands[i]? = some q → q.step.Fits first s
  holders : ∀ lock, s.held.count lock = stands.countP (·.step.holds lock)
  single : ∀ lock, s.held.count lock ≤ 1
  /-- A link that is opened and not in place yet is carried there. -/
  carried : s.stored = none → s.opened = first + 1 →
    ∃ (i : Nat) (q : PublishStage), stands[i]? = some q ∧ q.step.carries = true

namespace Renewal

variable {first : LinkId} {s s' : SharedLink} {stands : List PublishStage} {i j : Nat}
  {q q' : PublishStage} {step' : PublishStep}

/-- No two publishes hold the same lock. -/
theorem holder_unique (renewal : Renewal first s stands) {lock : PublisherLock}
    (at_i : stands[i]? = some q) (at_j : stands[j]? = some q') (mine : q.step.holds lock = true)
    (yours : q'.step.holds lock = true) : i = j := by
  have few := renewal.single lock
  rw [renewal.holders] at few
  exact eq_of_countP_le_one few at_i at_j mine yours

/-- Whoever holds the reconnect lock and carries no link is the one to open it. -/
theorem alone (renewal : Renewal first s stands) (at_i : stands[i]? = some q)
    (checks : q.step = .checking) (missing : s.stored = none) : s.opened = first := by
  rcases renewal.renewing.phase with ⟨_, opened⟩ | ⟨_, opened⟩ | ⟨stored, _⟩
  · exact opened
  · obtain ⟨j, carrier, at_j, carries⟩ := renewal.carried missing opened
    have locked := PublishStep.holds_of_carries carries
    obtain rfl := renewal.holder_unique at_i at_j (by rw [checks]; rfl) locked
    obtain rfl : q = carrier := Option.some.inj (at_i.symm.trans at_j)
    rw [checks] at carries
    cases carries
  · exact absurd (missing.symm.trans stored) nofun

theorem move (renewal : Renewal first s stands) (stood : stands[i]? = some q)
    (move : q.step.Move first s s' step') :
    Renewal first s' (stands.set i ⟨q.payload, step'⟩) := by
  have inside : i < stands.length := (List.getElem?_eq_some_iff.mp stood).1
  have here : (stands.set i ⟨q.payload, step'⟩)[i]? = some ⟨q.payload, step'⟩ :=
    List.getElem?_set_self inside
  have there {j : Nat} (differ : i ≠ j) :
      (stands.set i ⟨q.payload, step'⟩)[j]? = stands[j]? := List.getElem?_set_ne differ
  have held (lock : PublisherLock) (holds : q.step.holds lock = true) : lock ∈ s.held := by
    rw [← List.count_pos_iff, renewal.holders, List.countP_pos_iff]
    exact ⟨q, List.mem_of_getElem? stood, holds⟩
  refine ⟨move.renewing renewal.renewing, fun j q'' at_j => ?_, fun lock => ?_,
    move.single renewal.single, fun missing opened => ?_⟩
  · by_cases same : i = j
    · subst same
      obtain rfl := Option.some.inj (here.symm.trans at_j)
      exact move.fits
    · rw [there same] at at_j
      refine move.fits_other (renewal.fits j q'' at_j) fun lock mine => ?_
      refine Bool.eq_false_iff.mpr fun yours => same ?_
      exact renewal.holder_unique stood at_j mine yours
  · have counted : (stands.set i ⟨q.payload, step'⟩).countP (·.step.holds lock) +
        (q.step.holds lock).toNat =
          stands.countP (·.step.holds lock) + (step'.holds lock).toNat := countP_set_add stood
    have := move.count_held held lock
    have := renewal.holders lock
    omega
  · -- Whoever carries the link still does, or has just opened it.
    have stay (old : s.stored = none) (opened : s.opened = first + 1)
        (keeps : q.step.carries = false ∨ step'.carries = true) :
        ∃ (k : Nat) (q'' : PublishStage), (stands.set i ⟨q.payload, step'⟩)[k]? = some q'' ∧
          q''.step.carries = true := by
      obtain ⟨k, carrier, at_k, carries⟩ := renewal.carried old opened
      by_cases same : i = k
      · subst same
        obtain rfl := Option.some.inj (stood.symm.trans at_k)
        refine ⟨i, _, here, keeps.resolve_left fun empty => ?_⟩
        exact Bool.false_ne_true (empty.symm.trans carries)
      · exact ⟨k, carrier, (there same).trans at_k, carries⟩
    obtain ⟨payload, step⟩ := q
    cases move with
    | stays alike _ keeps =>
      rw [alike.stored] at missing
      rw [alike.opened] at opened
      exact stay missing opened keeps
    | locks _ _ keeps | unlocks _ _ keeps => exact stay missing opened keeps
    | opens => exact ⟨i, _, here, rfl⟩
    | puts => cases missing

end Renewal

end ImageWorker
