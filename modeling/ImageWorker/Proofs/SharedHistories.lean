import ImageWorker.Proofs.Conformance

/-!
# Histories of programs side by side

A history of programs that run side by side tells which of them asked what, what it was answered,
and in which state. What each program may do is given by a protocol of its own, so a property of
all histories follows from three facts: every program conforms to the protocol, every exchange that
both the shared state and the protocol allow keeps an invariant, and so does every change that the
state makes by itself.
-/

namespace ImageWorker

namespace Surroundings

variable {Request : Type} {Answer : Request → Type} {S L σ β : Type}

/-- An exchange of one of the programs, and the state in which it was made. -/
structure Happening (Request : Type) (Answer : Request → Type) (S : Type) where
  who : Nat
  exchange : Program.Exchange Request Answer
  state : S

/-- `w.Unfolds turn t events u`: with just these exchanges, in this order, the programs come from
`t` to `u`. -/
inductive Unfolds (w : Surroundings Request Answer S) (turn : Turn Request Answer σ β) :
    Together Request Answer S σ β → List (Happening Request Answer S) →
      Together Request Answer S σ β → Prop where
  | start (t : Together Request Answer S σ β) : Unfolds w turn t [] t
  | answer {t : Together Request Answer S σ β} {events : List (Happening Request Answer S)}
      {s s' : S} {r : Request} {a : Answer r} {k : Answer r → Program Request Answer (σ ⊕ β)}
      {before after : List (Program Request Answer (σ ⊕ β))} :
      Unfolds w turn t events ⟨s, before ++ .ask r k :: after⟩ → w.Allows s r a s' →
        Unfolds w turn t (events ++ [⟨before.length, ⟨r, a⟩, s⟩]) ⟨s', before ++ k a :: after⟩
  | again {t : Together Request Answer S σ β} {events : List (Happening Request Answer S)}
      {s : S} {x : σ} {before after : List (Program Request Answer (σ ⊕ β))} :
      Unfolds w turn t events ⟨s, before ++ .done (.inl x) :: after⟩ →
        Unfolds w turn t events ⟨s, before ++ turn x :: after⟩
  | drift {t : Together Request Answer S σ β} {events : List (Happening Request Answer S)}
      {s s' : S} {programs : List (Program Request Answer (σ ⊕ β))} :
      Unfolds w turn t events ⟨s, programs⟩ → w.Drifts s s' →
        Unfolds w turn t events ⟨s', programs⟩

variable {w : Surroundings Request Answer S} {turn : Turn Request Answer σ β}
  {t u v : Together Request Answer S σ β}

/-- Each program conforms to a protocol from where it stands. -/
def Keep (l : Surroundings Request Answer L) (ends : L → σ ⊕ β → Prop) (stands : List L)
    (programs : List (Program Request Answer (σ ⊕ β))) : Prop :=
  ∀ (i : Nat) p, programs[i]? = some p → ∃ q, stands[i]? = some q ∧ l.Conforms ends q p

variable {l : Surroundings Request Answer L} {ends : L → σ ⊕ β → Prop} {stands : List L}
  {before after : List (Program Request Answer (σ ⊕ β))} {p p' : Program Request Answer (σ ⊕ β)}

theorem Keep.here (keep : Keep l ends stands (before ++ p :: after)) :
    ∃ q, stands[before.length]? = some q ∧ l.Conforms ends q p :=
  keep before.length p (by simp)

/-- A program that moves takes its place in the protocol with it. -/
theorem Keep.move (keep : Keep l ends stands (before ++ p :: after)) {q : L}
    (conforms : l.Conforms ends q p') :
    Keep l ends (stands.set before.length q) (before ++ p' :: after) := by
  obtain ⟨old, stood, _⟩ := keep.here
  have inside : before.length < stands.length := (List.getElem?_eq_some_iff.mp stood).1
  intro i r at_i
  by_cases same : i = before.length
  · subst same
    have r_eq : p' = r := by simpa using at_i
    exact ⟨q, by simp [inside], r_eq ▸ conforms⟩
  · have moved : before ++ p' :: after = (before ++ p :: after).set before.length p' := by simp
    rw [moved, List.getElem?_set_ne (Ne.symm same)] at at_i
    obtain ⟨q', stands', conforms'⟩ := keep i r at_i
    exact ⟨q', by rw [List.getElem?_set_ne (Ne.symm same), stands'], conforms'⟩

/-- What every allowed exchange and every change of the state keeps holds after each history, and
what it shows of an exchange is so for each of its exchanges. -/
theorem Unfolds.invariant
    (Fits : List (Happening Request Answer S) → S → List L → Prop)
    (Shows : List (Happening Request Answer S) → Happening Request Answer S → Prop)
    (turns : ∀ q x, ends q (.inl x) → l.Conforms ends q (turn x))
    (acts : ∀ {past : List (Happening Request Answer S)} {s s' : S} {stands : List L} {i : Nat}
      {q q' : L} {r : Request} {a : Answer r}, Fits past s stands → stands[i]? = some q →
      w.Allows s r a s' → l.Allows q r a q' →
        Fits (past ++ [⟨i, ⟨r, a⟩, s⟩]) s' (stands.set i q') ∧ Shows past ⟨i, ⟨r, a⟩, s⟩)
    (drifts : ∀ {past : List (Happening Request Answer S)} {s s' : S} {stands : List L},
      Fits past s stands → w.Drifts s s' → Fits past s' stands)
    {events : List (Happening Request Answer S)} (unfolds : w.Unfolds turn t events u)
    (keep : Keep l ends stands t.programs) (fits : Fits [] t.state stands) :
    (∃ stands', Keep l ends stands' u.programs ∧ Fits events u.state stands') ∧
      ∀ past e later, events = past ++ e :: later → Shows past e := by
  induction unfolds with
  | start => exact ⟨⟨stands, keep, fits⟩, fun past e later cut => by cases past <;> cases cut⟩
  | @answer events s s' r a k before after _ allowed ih =>
    obtain ⟨⟨stands', keep', fits'⟩, shown⟩ := ih
    obtain ⟨q, stood, conforms⟩ := keep'.here
    obtain ⟨q', habit, later⟩ := conforms a
    obtain ⟨fits'', shows_⟩ := acts fits' stood allowed habit
    refine ⟨⟨_, keep'.move later, fits''⟩, fun past e rest cut => ?_⟩
    -- The exchange is an earlier one, or this one, which is the last.
    rcases List.eq_nil_or_concat rest with rfl | ⟨front, last, rfl⟩
    · obtain ⟨rfl, same⟩ := List.append_inj' cut rfl
      cases same
      exact shows_
    · rw [List.concat_eq_append, ← List.cons_append, ← List.append_assoc] at cut
      exact shown past e front (List.append_inj' cut rfl).1
  | again _ ih =>
    obtain ⟨⟨stands', keep', fits'⟩, shown⟩ := ih
    obtain ⟨q, stood, conforms⟩ := keep'.here
    refine ⟨⟨_, keep'.move (turns q _ conforms), ?_⟩, shown⟩
    obtain ⟨inside, rfl⟩ := List.getElem?_eq_some_iff.mp stood
    rwa [List.set_getElem_self inside]
  | drift _ drifted ih =>
    obtain ⟨⟨stands', keep', fits'⟩, shown⟩ := ih
    exact ⟨⟨stands', keep', drifts fits' drifted⟩, shown⟩

/-- One program that moves changes how many stand somewhere by its own part. -/
theorem countP_set_add {f : L → Bool} {i : Nat} {q q' : L} (stood : stands[i]? = some q) :
    (stands.set i q').countP f + (f q).toNat = stands.countP f + (f q').toNat := by
  obtain ⟨inside, rfl⟩ := List.getElem?_eq_some_iff.mp stood
  have counted : (f stands[i]).toNat ≤ stands.countP f := by
    cases counts : f stands[i] with
    | false => exact Nat.zero_le _
    | true => exact List.countP_pos_iff.mpr ⟨_, List.getElem_mem inside, counts⟩
  have toNat_eq (b : Bool) : (if b = true then 1 else 0) = b.toNat := by cases b <;> rfl
  rw [List.countP_set inside, toNat_eq, toNat_eq]
  omega

/-- Where no more than one stands, two that stand there are the same. -/
theorem eq_of_countP_le_one {f : L → Bool} {i j : Nat} {q q' : L} (few : stands.countP f ≤ 1)
    (at_i : stands[i]? = some q) (at_j : stands[j]? = some q') (here : f q = true)
    (there : f q' = true) : i = j := by
  have counted {l : List L} {k : Nat} {x : L} (at_k : l[k]? = some x) (holds : f x = true) :
      0 < l.countP f := List.countP_pos_iff.mpr ⟨x, List.mem_of_getElem? at_k, holds⟩
  induction stands generalizing i j with
  | nil => cases at_i
  | cons x rest ih =>
    match i, j with
    | 0, 0 => rfl
    | 0, j + 1 =>
      obtain rfl := Option.some.inj at_i
      have := counted (l := rest) at_j there
      rw [List.countP_cons_of_pos here] at few
      omega
    | i + 1, 0 =>
      obtain rfl := Option.some.inj at_j
      have := counted (l := rest) at_i here
      rw [List.countP_cons_of_pos there] at few
      omega
    | i + 1, j + 1 =>
      have fewer : rest.countP f ≤ 1 := by
        rw [List.countP_cons] at few
        omega
      exact congrArg (· + 1) (ih fewer at_i at_j)

def exchangesOf (events : List (Happening Request Answer S)) (i : Nat) :
    List (Program.Exchange Request Answer) :=
  (events.filter (·.who == i)).map (·.exchange)

theorem exchangesOf_concat_self (past : List (Happening Request Answer S)) (i : Nat)
    (x : Program.Exchange Request Answer) (s : S) :
    exchangesOf (past ++ [⟨i, x, s⟩]) i = exchangesOf past i ++ [x] := by
  simp [exchangesOf]

theorem exchangesOf_concat_other (past : List (Happening Request Answer S)) {i j : Nat}
    (differ : i ≠ j) (x : Program.Exchange Request Answer) (s : S) :
    exchangesOf (past ++ [⟨i, x, s⟩]) j = exchangesOf past j := by
  simp [exchangesOf, differ]

/-- The last thing that a program has asked and heard stands in the history after all else that it
has. -/
theorem exists_last_of_exchangesOf {events : List (Happening Request Answer S)} {i : Nat}
    {front : List (Program.Exchange Request Answer)} {x : Program.Exchange Request Answer}
    (part : exchangesOf events i = front ++ [x]) :
    ∃ past e later, events = past ++ e :: later ∧ e.who = i ∧ e.exchange = x ∧
      ∀ d ∈ later, d.who ≠ i := by
  rw [exchangesOf, List.map_eq_append_iff] at part
  obtain ⟨_, _, cut, _, last⟩ := part
  obtain ⟨e, rfl, rfl⟩ := List.map_eq_singleton_iff.mp last
  obtain ⟨past, rest, rfl, _, kept⟩ := List.filter_eq_append_iff.mp cut
  obtain ⟨skipped, later, rfl, _, mine, none⟩ := List.filter_eq_cons_iff.mp kept
  refine ⟨past ++ skipped, e, later, by simp, by simpa using mine, rfl, fun d mem => ?_⟩
  simpa using List.filter_eq_nil_iff.mp none d mem

theorem Unfolds.length_eq {events : List (Happening Request Answer S)}
    (unfolds : w.Unfolds turn t events u) : u.programs.length = t.programs.length := by
  induction unfolds with
  | start => rfl
  | answer _ _ ih | again _ ih => simpa using ih
  | drift _ _ ih => exact ih

theorem Unfolds.who_lt {events : List (Happening Request Answer S)}
    (unfolds : w.Unfolds turn t events u) : ∀ e ∈ events, e.who < t.programs.length := by
  induction unfolds with
  | start => exact List.forall_mem_nil _
  | answer before _ ih =>
    refine List.forall_mem_append.mpr ⟨ih, List.forall_mem_singleton.mpr ?_⟩
    rw [← before.length_eq]
    simp
  | again _ ih | drift _ _ ih => exact ih

/-- What is picked from a history is what is picked from its parts. -/
theorem filterMap_perm_parts {β : Type} (f : Program.Exchange Request Answer → Option β)
    {events : List (Happening Request Answer S)} {n : Nat} (inside : ∀ e ∈ events, e.who < n) :
    (events.filterMap (f ·.exchange)).Perm
      ((List.range n).flatMap fun i => (exchangesOf events i).filterMap f) := by
  induction n generalizing events with
  | zero =>
    obtain rfl : events = [] :=
      List.eq_nil_iff_forall_not_mem.mpr fun e mem => Nat.not_lt_zero _ (inside e mem)
    exact .refl _
  | succ n ih =>
    -- The part of the last program is split off, and the others have theirs in the rest.
    have rest := @ih (events.filter (·.who != n)) fun e mem => by
      have := inside e (List.mem_filter.mp mem).1
      have := (List.mem_filter.mp mem).2
      simp only [bne_iff_ne] at this
      omega
    have others : ((List.range n).flatMap fun i => (exchangesOf events i).filterMap f) =
        (List.range n).flatMap fun i =>
          (exchangesOf (events.filter (·.who != n)) i).filterMap f := by
      rw [List.flatMap_def, List.flatMap_def]
      refine congrArg List.flatten (List.map_congr_left fun i mem => ?_)
      have below : i ≠ n := Nat.ne_of_lt (List.mem_range.mp mem)
      rw [exchangesOf, exchangesOf, List.filter_filter]
      congr 2
      refine List.filter_congr fun e _ => ?_
      by_cases same : e.who = i <;> simp [same, below]
    have mine : (exchangesOf events n).filterMap f =
        (events.filter (·.who == n)).filterMap (f ·.exchange) := by
      rw [exchangesOf, List.filterMap_map]
      rfl
    have cut := (List.filter_append_perm (·.who != n) events).filterMap (f ·.exchange)
    simp only [bne, Bool.not_not, List.filterMap_append] at cut rest others
    rw [List.range_succ, List.flatMap_append, List.flatMap_singleton, others, mine]
    exact cut.symm.trans (rest.append_right _)

/-- A history is no longer than its parts together. -/
theorem length_le_of_parts {events : List (Happening Request Answer S)} {n d : Nat}
    (inside : ∀ e ∈ events, e.who < n) (few : ∀ i < n, (exchangesOf events i).length ≤ d) :
    events.length ≤ d * n := by
  have parts := (filterMap_perm_parts some inside).length_eq
  have whole : (events.filterMap fun e => some e.exchange).length = events.length := by simp
  rw [← whole, parts]
  clear parts whole inside
  induction n with
  | zero => exact Nat.le_refl _
  | succ n ih =>
    have before := ih fun i below => few i (Nat.lt_succ_of_lt below)
    have last := few n (Nat.lt_succ_self n)
    rw [List.range_succ, List.flatMap_append, List.flatMap_singleton, List.length_append,
      List.filterMap_some, Nat.mul_succ]
    exact Nat.add_le_add before last

/-- Each program has come by what the protocol allows from where it stood at first to where it
stands. -/
def Followed (l : Surroundings Request Answer L) (starts : List L)
    (past : List (Happening Request Answer S)) (stands : List L) : Prop :=
  stands.length = starts.length ∧
    ∀ (i : Nat) q, stands[i]? = some q →
      ∃ q₀, starts[i]? = some q₀ ∧ l.Follows q₀ (exchangesOf past i) q

theorem Followed.start (l : Surroundings Request Answer L) (starts : List L) :
    Followed l starts ([] : List (Happening Request Answer S)) starts :=
  ⟨rfl, fun _ q stood => ⟨q, stood, .start q⟩⟩

theorem Followed.move {starts : List L} {past : List (Happening Request Answer S)} {i : Nat}
    {q q' : L} {r : Request} {a : Answer r} {s : S} (followed : Followed l starts past stands)
    (stood : stands[i]? = some q) (allowed : l.Allows q r a q') :
    Followed l starts (past ++ [⟨i, ⟨r, a⟩, s⟩]) (stands.set i q') := by
  obtain ⟨length, each⟩ := followed
  refine ⟨(List.length_set ..).trans length, fun j q'' stands' => ?_⟩
  by_cases same : i = j
  · subst same
    have inside : i < stands.length := (List.getElem?_eq_some_iff.mp stood).1
    rw [List.getElem?_set_self inside, Option.some.injEq] at stands'
    subst stands'
    obtain ⟨q₀, began, follows⟩ := each i q stood
    rw [exchangesOf_concat_self]
    exact ⟨q₀, began, follows_append_iff.mpr ⟨q, follows, .step allowed (.start _)⟩⟩
  · rw [List.getElem?_set_ne same] at stands'
    rw [exchangesOf_concat_other past same]
    exact each j q'' stands'

/-- As `Unfolds.invariant`, together with the way of each program through the protocol. -/
theorem Unfolds.followed
    (Fits : List (Happening Request Answer S) → S → List L → Prop)
    (Shows : List (Happening Request Answer S) → Happening Request Answer S → Prop)
    (turns : ∀ q x, ends q (.inl x) → l.Conforms ends q (turn x))
    (acts : ∀ {past : List (Happening Request Answer S)} {s s' : S} {stands : List L} {i : Nat}
      {q q' : L} {r : Request} {a : Answer r}, Fits past s stands → stands[i]? = some q →
      w.Allows s r a s' → l.Allows q r a q' →
        Fits (past ++ [⟨i, ⟨r, a⟩, s⟩]) s' (stands.set i q') ∧ Shows past ⟨i, ⟨r, a⟩, s⟩)
    (drifts : ∀ {past : List (Happening Request Answer S)} {s s' : S} {stands : List L},
      Fits past s stands → w.Drifts s s' → Fits past s' stands)
    {events : List (Happening Request Answer S)} (unfolds : w.Unfolds turn t events u)
    (keep : Keep l ends stands t.programs) (fits : Fits [] t.state stands) :
    (∃ stands', Keep l ends stands' u.programs ∧ Followed l stands events stands' ∧
      Fits events u.state stands') ∧
      ∀ past e later, events = past ++ e :: later → Shows past e := by
  refine unfolds.invariant
    (fun past s stands' => Followed l stands past stands' ∧ Fits past s stands') Shows turns
    (fun fits stood allowed habit => ?_) (fun fits drifts' => ⟨fits.1, drifts fits.2 drifts'⟩)
    keep ⟨.start l stands, fits⟩
  obtain ⟨fits', shows_⟩ := acts fits.2 stood allowed habit
  exact ⟨⟨fits.1.move stood habit, fits'⟩, shows_⟩

/-- The next exchange of one of the programs, with the answer that a state gives. -/
def act (answer : S → (r : Request) → Option (Answer r × S)) (t : Together Request Answer S σ β)
    (i : Nat) : Option (Happening Request Answer S × Together Request Answer S σ β) :=
  match t.programs[i]? with
  | some (.ask r k) =>
    match answer t.state r with
    | some (a, s) => some (⟨i, ⟨r, a⟩, t.state⟩, ⟨s, t.programs.set i (k a)⟩)
    | none => none
  | _ => none

/-- The history in which the programs move in a given order. -/
def play (answer : S → (r : Request) → Option (Answer r × S)) :
    List Nat → Together Request Answer S σ β →
      Option (List (Happening Request Answer S) × Together Request Answer S σ β)
  | [], t => some ([], t)
  | i :: order, t =>
    match act answer t i with
    | none => none
    | some (e, u) => (play answer order u).map fun (events, v) => (e :: events, v)

variable {answer : S → (r : Request) → Option (Answer r × S)}

theorem Unfolds.act (allowed : ∀ s r a s', answer s r = some (a, s') → w.Allows s r a s')
    {past : List (Happening Request Answer S)} (unfolds : w.Unfolds turn t past u) {i : Nat}
    {e : Happening Request Answer S} (acted : act answer u i = some (e, v)) :
    w.Unfolds turn t (past ++ [e]) v := by
  obtain ⟨s, programs⟩ := u
  unfold Surroundings.act at acted
  split at acted
  next r k asks =>
    split at acted
    next a s' answered =>
      cases acted
      obtain ⟨inside, at_i⟩ := List.getElem?_eq_some_iff.mp asks
      have cut : programs = programs.take i ++ .ask r k :: programs.drop (i + 1) := by
        rw [← at_i, List.getElem_cons_drop inside, List.take_append_drop]
      have length : (programs.take i).length = i := List.length_take_of_le (Nat.le_of_lt inside)
      have moved : programs.set i (k a) = programs.take i ++ k a :: programs.drop (i + 1) :=
        List.set_eq_take_append_cons_drop.trans (if_pos inside)
      rw [cut] at unfolds
      have next := Unfolds.answer unfolds (allowed _ _ _ _ answered)
      rwa [length, ← moved] at next
    next => cases acted
  next => cases acted

theorem Unfolds.play (allowed : ∀ s r a s', answer s r = some (a, s') → w.Allows s r a s')
    {past events : List (Happening Request Answer S)} (unfolds : w.Unfolds turn t past u)
    {order : List Nat} (played : play answer order u = some (events, v)) :
    w.Unfolds turn t (past ++ events) v := by
  induction order generalizing past u events with
  | nil =>
    cases played
    rwa [List.append_nil]
  | cons i order ih =>
    rw [Surroundings.play] at played
    split at played
    · cases played
    next e u' acted =>
      obtain ⟨⟨rest, v'⟩, later, same⟩ := Option.map_eq_some_iff.mp played
      cases same
      have onwards := ih (unfolds.act allowed acted) later
      rwa [List.append_assoc] at onwards

end Surroundings

end ImageWorker
