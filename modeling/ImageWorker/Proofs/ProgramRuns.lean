import ImageWorker.Flow.Interleaving

/-!
# Runs of composed programs

A run of a sequence is a run of its first part and then one of its second part, and a run of a
translation in which each question becomes one other question is the translated run. A run in
surroundings with a state is a run whose exchanges the states allow one after the other, and every
program has one where every state has an answer to every question. Two worlds can surround one
program.
-/

namespace ImageWorker

namespace Program

variable {Request Request' : Type} {Answer : Request → Type} {Answer' : Request' → Type}
  {α β : Type}

@[simp] theorem bind_eq (p : Program Request Answer α) (f : α → Program Request Answer β) :
    p >>= f = p.bind f := rfl

@[simp] theorem pure_eq (a : α) : (pure a : Program Request Answer α) = done a := rfl

theorem runs_done_iff {a b : α} {trace : List (Exchange Request Answer)} :
    (done a).Runs trace b ↔ trace = [] ∧ b = a := by
  constructor
  · intro run
    cases run
    exact ⟨rfl, rfl⟩
  · rintro ⟨rfl, rfl⟩
    exact .done b

theorem runs_ask_iff {r : Request} {k : Answer r → Program Request Answer α}
    {trace : List (Exchange Request Answer)} {b : α} :
    (ask r k).Runs trace b ↔
      ∃ answer rest, trace = ⟨r, answer⟩ :: rest ∧ (k answer).Runs rest b := by
  constructor
  · intro run
    cases run with
    | ask rest => exact ⟨_, _, rfl, rest⟩
  · rintro ⟨answer, rest, rfl, run⟩
    exact .ask run

theorem runs_bind_iff {p : Program Request Answer α} {f : α → Program Request Answer β}
    {trace : List (Exchange Request Answer)} {b : β} :
    (p.bind f).Runs trace b ↔
      ∃ first a second, trace = first ++ second ∧ p.Runs first a ∧ (f a).Runs second b := by
  induction p generalizing trace with
  | done a =>
    constructor
    · intro run
      exact ⟨[], a, trace, rfl, .done a, run⟩
    · rintro ⟨first, a', second, rfl, run, next⟩
      obtain ⟨rfl, rfl⟩ := runs_done_iff.mp run
      exact next
  | ask r k ih =>
    constructor
    · intro run
      obtain ⟨answer, rest, rfl, later⟩ := runs_ask_iff.mp run
      obtain ⟨first, a, second, rfl, inner, next⟩ := (ih answer).mp later
      exact ⟨⟨r, answer⟩ :: first, a, second, rfl, .ask inner, next⟩
    · rintro ⟨first, a, second, rfl, run, next⟩
      obtain ⟨answer, rest, rfl, later⟩ := runs_ask_iff.mp run
      exact .ask ((ih answer).mpr ⟨rest, a, second, rfl, later, next⟩)

theorem translate_bind (f : (r : Request) → Program Request' Answer' (Answer r))
    (p : Program Request Answer α) (g : α → Program Request Answer β) :
    (p.bind g).translate f = (p.translate f).bind fun a => (g a).translate f := by
  induction p with
  | done a => rfl
  | ask r k ih =>
    show (f r).bind _ = ((f r).bind _).bind _
    rw [bind_assoc]
    exact congrArg _ (funext ih)

/-- If the translation of each question asks one question, a translated run is mapped exchange by
exchange. -/
theorem runs_translate_iff {f : (r : Request) → Program Request' Answer' (Answer r)}
    {g : Exchange Request Answer → Exchange Request' Answer'}
    (one : ∀ r trace a, (f r).Runs trace a ↔ trace = [g ⟨r, a⟩])
    {p : Program Request Answer α} {trace : List (Exchange Request' Answer')} {a : α} :
    (p.translate f).Runs trace a ↔ ∃ inner, p.Runs inner a ∧ trace = inner.map g := by
  induction p generalizing trace with
  | done b =>
    constructor
    · intro run
      obtain ⟨rfl, rfl⟩ := runs_done_iff.mp run
      exact ⟨[], .done a, rfl⟩
    · rintro ⟨inner, run, rfl⟩
      obtain ⟨rfl, rfl⟩ := runs_done_iff.mp run
      exact .done a
  | ask r k ih =>
    constructor
    · intro run
      obtain ⟨first, answer, second, rfl, asked, next⟩ := runs_bind_iff.mp run
      obtain rfl := (one r first answer).mp asked
      obtain ⟨inner, later, rfl⟩ := (ih answer).mp next
      exact ⟨⟨r, answer⟩ :: inner, .ask later, rfl⟩
    · rintro ⟨inner, run, rfl⟩
      obtain ⟨answer, rest, rfl, later⟩ := runs_ask_iff.mp run
      have asked := (one r [g ⟨r, answer⟩] answer).mpr rfl
      have next := (ih answer).mpr ⟨rest, later, rfl⟩
      exact runs_bind_iff.mpr ⟨_, answer, _, rfl, asked, next⟩

/-- Where every question has some answer, a program always comes to an end. -/
theorem exists_runs [∀ r, Nonempty (Answer r)] (p : Program Request Answer α) :
    ∃ trace a, p.Runs trace a := by
  induction p with
  | done a => exact ⟨[], a, .done a⟩
  | ask r k ih =>
    obtain ⟨answer⟩ := ‹∀ r, Nonempty (Answer r)› r
    obtain ⟨trace, a, run⟩ := ih answer
    exact ⟨⟨r, answer⟩ :: trace, a, .ask run⟩

/-- What a program has done so far is the beginning of a whole run. -/
theorem Reaches.exists_runs [∀ r, Nonempty (Answer r)] {p q : Program Request Answer α}
    {trace : List (Exchange Request Answer)} (h : p.Reaches trace q) :
    ∃ rest a, p.Runs (trace ++ rest) a := by
  induction h with
  | start p => exact p.exists_runs
  | ask _ ih =>
    obtain ⟨rest, a, run⟩ := ih
    exact ⟨rest, a, .ask run⟩

/-- A whole run is one of the things that a program can have done so far. -/
theorem Runs.reaches {p : Program Request Answer α} {trace : List (Exchange Request Answer)}
    {a : α} (run : p.Runs trace a) : p.Reaches trace (.done a) := by
  induction run with
  | done a => exact .start (.done a)
  | ask _ ih => exact .ask ih

/-- The run of a program whose questions are answered from a state. -/
def replies {S : Type} (answer : S → (r : Request) → Answer r × S) :
    Program Request Answer α → S → List (Exchange Request Answer) × S × α
  | done a, s => ([], s, a)
  | ask r k, s =>
    let reply := answer s r
    let (trace, rest) := (k reply.1).replies answer reply.2
    (⟨r, reply.1⟩ :: trace, rest)

theorem runs_replies {S : Type} (answer : S → (r : Request) → Answer r × S)
    (p : Program Request Answer α) (s : S) :
    p.Runs (p.replies answer s).1 (p.replies answer s).2.2 := by
  induction p generalizing s with
  | done a => exact .done a
  | ask r k ih => exact .ask (ih (answer s r).1 (answer s r).2)

end Program

namespace Surroundings

variable {Request : Type} {Answer : Request → Type} {S α : Type}

/-- States that follow each other as the exchanges of a trace are made. -/
inductive Follows (w : Surroundings Request Answer S) :
    S → List (Program.Exchange Request Answer) → S → Prop where
  | start (s : S) : Follows w s [] s
  | step {s s' s'' : S} {r : Request} {answer : Answer r}
      {trace : List (Program.Exchange Request Answer)} :
      w.Allows s r answer s' → Follows w s' trace s'' → Follows w s (⟨r, answer⟩ :: trace) s''

variable {w : Surroundings Request Answer S}

theorem follows_append_iff {s s'' : S} {first second : List (Program.Exchange Request Answer)} :
    w.Follows s (first ++ second) s'' ↔ ∃ s', w.Follows s first s' ∧ w.Follows s' second s'' := by
  constructor
  · intro h
    induction first generalizing s with
    | nil => exact ⟨s, .start s, h⟩
    | cons x first ih =>
      cases h with
      | step allowed h =>
        obtain ⟨s', before, after⟩ := ih h
        exact ⟨s', .step allowed before, after⟩
  · rintro ⟨s', before, after⟩
    induction before with
    | start s => exact after
    | step allowed _ ih => exact .step allowed (ih after)

/-- An invariant that every harmless exchange keeps holds after harmless exchanges, and what follows
from it for one exchange follows for each of them. -/
theorem Follows.invariant {Holds : S → Prop}
    {Harmless Shown : Program.Exchange Request Answer → Prop}
    (step : ∀ {s s' : S} {r : Request} {answer : Answer r}, Holds s → w.Allows s r answer s' →
      Harmless ⟨r, answer⟩ → Holds s' ∧ Shown ⟨r, answer⟩)
    {s s' : S} {trace : List (Program.Exchange Request Answer)} (follows : w.Follows s trace s')
    (holds : Holds s) (harmless : ∀ x ∈ trace, Harmless x) :
    Holds s' ∧ ∀ x ∈ trace, Shown x := by
  induction follows with
  | start s => exact ⟨holds, List.forall_mem_nil _⟩
  | step allowed _ ih =>
    rw [List.forall_mem_cons] at harmless
    obtain ⟨later, here⟩ := step holds allowed harmless.1
    obtain ⟨final, rest⟩ := ih later harmless.2
    exact ⟨final, List.forall_mem_cons.mpr ⟨here, rest⟩⟩

/-- What each state tells about the past holds along a history, if every exchange carries it on. -/
theorem Follows.history {Told : List (Program.Exchange Request Answer) → S → Prop}
    (step : ∀ {past : List (Program.Exchange Request Answer)} {s s' : S} {r : Request}
      {answer : Answer r}, Told past s → w.Allows s r answer s' → Told (past ++ [⟨r, answer⟩]) s')
    {s s' : S} {trace : List (Program.Exchange Request Answer)} (follows : w.Follows s trace s')
    (told : Told [] s) : Told trace s' := by
  have onwards : ∀ past, Told past s → Told (past ++ trace) s' := by
    clear told
    induction follows with
    | start s =>
      intro past told
      rwa [List.append_nil]
    | step allowed _ ih =>
      intro past told
      have later := ih _ (step told allowed)
      rwa [List.append_assoc] at later
  exact onwards [] told

theorem runs_iff {s s' : S} {p : Program Request Answer α}
    {trace : List (Program.Exchange Request Answer)} {a : α} :
    w.Runs s p trace s' a ↔ p.Runs trace a ∧ w.Follows s trace s' := by
  constructor
  · intro run
    induction run with
    | done s a => exact ⟨.done a, .start s⟩
    | ask allowed _ ih => exact ⟨.ask ih.1, .step allowed ih.2⟩
  · rintro ⟨run, follows⟩
    induction run generalizing s with
    | done a =>
      cases follows
      exact .done _ a
    | ask _ ih =>
      cases follows with
      | step allowed later => exact .ask allowed (ih later)

/-- Exchanges that leave every state as it is can be passed over. -/
theorem Follows.filter {p : Program.Exchange Request Answer → Bool} {s s' : S}
    {trace : List (Program.Exchange Request Answer)} (follows : w.Follows s trace s')
    (idle : ∀ s x s', p x = false → w.Allows s x.request x.answer s' → s' = s) :
    w.Follows s (trace.filter p) s' := by
  induction follows with
  | start s => exact .start s
  | @step s s' s'' r answer trace allowed _ ih =>
    cases h : p ⟨r, answer⟩ with
    | true =>
      rw [List.filter_cons_of_pos h]
      exact .step allowed ih
    | false =>
      rw [List.filter_cons_of_neg (Bool.eq_false_iff.mp h)]
      obtain rfl := idle s _ s' h allowed
      exact ih

/-- Answers that the states allow make a run. -/
theorem runs_replies {answer : S → (r : Request) → Answer r × S}
    (allowed : ∀ s r, w.Allows s r (answer s r).1 (answer s r).2)
    (p : Program Request Answer α) (s : S) :
    w.Runs s p (p.replies answer s).1 (p.replies answer s).2.1 (p.replies answer s).2.2 := by
  induction p generalizing s with
  | done a => exact .done s a
  | ask r k ih => exact .ask (allowed s r) (ih (answer s r).1 (answer s r).2)

/-- The run of a program whose questions are answered from a state, as long as they are. -/
def rehearse (answer : S → (r : Request) → Option (Answer r × S)) :
    Program Request Answer α → S → Option (List (Program.Exchange Request Answer) × S × α)
  | .done a, s => some ([], s, a)
  | .ask r k, s =>
    match answer s r with
    | none => none
    | some (a, s') => (rehearse answer (k a) s').map fun (trace, ended) => (⟨r, a⟩ :: trace, ended)

theorem runs_rehearse {answer : S → (r : Request) → Option (Answer r × S)}
    (allowed : ∀ s r a s', answer s r = some (a, s') → w.Allows s r a s')
    {p : Program Request Answer α} {s s' : S} {trace : List (Program.Exchange Request Answer)}
    {a : α} (rehearsed : rehearse answer p s = some (trace, s', a)) : w.Runs s p trace s' a := by
  induction p generalizing s trace with
  | done b =>
    obtain ⟨rfl, rfl, rfl⟩ : [] = trace ∧ s = s' ∧ b = a := by
      simpa only [rehearse, Option.some.injEq, Prod.mk.injEq] using rehearsed
    exact .done s b
  | ask r k ih =>
    unfold rehearse at rehearsed
    split at rehearsed
    next => cases rehearsed
    next b t answered =>
      obtain ⟨⟨rest, ended⟩, later, same⟩ := Option.map_eq_some_iff.mp rehearsed
      obtain ⟨rfl, rfl⟩ := Prod.mk.inj same
      exact .ask (allowed s r b t answered) (ih b later)

/-- Two worlds that see the same questions and answers. -/
def beside {T : Type} (w : Surroundings Request Answer S) (w' : Surroundings Request Answer T) :
    Surroundings Request Answer (S × T) where
  Allows before r answer after :=
    w.Allows before.1 r answer after.1 ∧ w'.Allows before.2 r answer after.2
  Drifts before after := w.Drifts before.1 after.1 ∧ w'.Drifts before.2 after.2

theorem follows_beside_iff {T : Type} {w' : Surroundings Request Answer T} {s s' : S × T}
    {trace : List (Program.Exchange Request Answer)} :
    (w.beside w').Follows s trace s' ↔ w.Follows s.1 trace s'.1 ∧ w'.Follows s.2 trace s'.2 := by
  constructor
  · intro follows
    induction follows with
    | start s => exact ⟨.start s.1, .start s.2⟩
    | step allowed _ ih => exact ⟨.step allowed.1 ih.1, .step allowed.2 ih.2⟩
  · obtain ⟨s, t⟩ := s
    obtain ⟨s', t'⟩ := s'
    rintro ⟨first, second⟩
    simp only at first second
    induction first generalizing t with
    | start s =>
      cases second
      exact .start _
    | step allowed _ ih =>
      cases second with
      | step allowed' later => exact .step ⟨allowed, allowed'⟩ (ih _ later)

/-- Running alone from a state, the program always has an answer to its question, and whatever it is
answered, it ends as `ends` says of what it has asked and heard. -/
def Completes (w : Surroundings Request Answer S) :
    Program Request Answer α → S →
      (List (Program.Exchange Request Answer) → S → α → Prop) → Prop
  | .done a, s, ends => ends [] s a
  | .ask r k, s, ends =>
    (∃ answer s', w.Allows s r answer s') ∧
      ∀ answer s', w.Allows s r answer s' →
        Completes w (k answer) s' fun trace => ends (⟨r, answer⟩ :: trace)

theorem Completes.bind {β : Type} {p : Program Request Answer α}
    {f : α → Program Request Answer β} {s : S}
    {between : List (Program.Exchange Request Answer) → S → α → Prop}
    {ends : List (Program.Exchange Request Answer) → S → β → Prop}
    (first : w.Completes p s between)
    (second : ∀ trace s' a, between trace s' a →
      w.Completes (f a) s' fun rest => ends (trace ++ rest)) :
    w.Completes (p.bind f) s ends := by
  induction p generalizing s between ends with
  | done a => exact second [] s a first
  | ask r k ih =>
    obtain ⟨possible, next⟩ := first
    exact ⟨possible, fun answer s' allowed =>
      ih answer (next answer s' allowed) fun trace => second (⟨r, answer⟩ :: trace)⟩

theorem Completes.mono {p : Program Request Answer α} {s : S}
    {ends ends' : List (Program.Exchange Request Answer) → S → α → Prop}
    (completes : w.Completes p s ends)
    (weaker : ∀ trace s' a, ends trace s' a → ends' trace s' a) : w.Completes p s ends' := by
  induction p generalizing s ends ends' with
  | done a => exact weaker [] s a completes
  | ask r k ih =>
    obtain ⟨possible, next⟩ := completes
    exact ⟨possible, fun answer s' allowed =>
      ih answer (next answer s' allowed) fun trace => weaker (⟨r, answer⟩ :: trace)⟩

/-- A program always comes to an end where every question has an answer, so it is enough to know
its runs. -/
theorem completes_of_runs {p : Program Request Answer α} {s : S}
    {ends : List (Program.Exchange Request Answer) → S → α → Prop}
    (possible : ∀ s r, ∃ answer s', w.Allows s r answer s')
    (run : ∀ trace s' a, w.Runs s p trace s' a → ends trace s' a) : w.Completes p s ends := by
  induction p generalizing s ends with
  | done a => exact run [] s a (.done s a)
  | ask r k ih =>
    exact ⟨possible s r, fun answer s' allowed =>
      ih answer fun trace t a later => run _ t a (.ask allowed later)⟩

/-- Every run ends as it should. -/
theorem Completes.ends {p : Program Request Answer α} {s s' : S} {a : α}
    {trace : List (Program.Exchange Request Answer)}
    {ends : List (Program.Exchange Request Answer) → S → α → Prop}
    (completes : w.Completes p s ends) (run : w.Runs s p trace s' a) : ends trace s' a := by
  induction run generalizing ends with
  | done => exact completes
  | ask allowed _ ih => exact ih (completes.2 _ _ allowed)

end Surroundings

end ImageWorker
