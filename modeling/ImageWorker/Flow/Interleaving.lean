import ImageWorker.Flow.Loop

/-!
# Programs side by side

Several programs share a state. At each step one of them has its next question answered, and the
answer and the new state are as the state allows; nothing else happens in between. The state may
also change by itself. A program that ends a turn of a loop goes on with the next turn.
-/

namespace ImageWorker

/-- What a state allows: which answers a question can have, which state follows, and how the state
changes by itself. -/
structure Surroundings (Request : Type) (Answer : Request → Type) (S : Type) where
  Allows : (before : S) → (request : Request) → Answer request → (after : S) → Prop
  Drifts : (before after : S) → Prop

namespace Surroundings

variable {Request : Type} {Answer : Request → Type} {S σ β : Type}

/-- A shared state, and what is left of each program. -/
structure Together (Request : Type) (Answer : Request → Type) (S σ β : Type) where
  state : S
  programs : List (Program Request Answer (σ ⊕ β))

inductive Step (w : Surroundings Request Answer S) (turn : Turn Request Answer σ β) :
    Together Request Answer S σ β → Together Request Answer S σ β → Prop where
  | answer {s s' : S} {r : Request} {a : Answer r}
      {k : Answer r → Program Request Answer (σ ⊕ β)}
      {before after : List (Program Request Answer (σ ⊕ β))} :
      w.Allows s r a s' →
        Step w turn ⟨s, before ++ .ask r k :: after⟩ ⟨s', before ++ k a :: after⟩
  | again {s : S} {x : σ} {before after : List (Program Request Answer (σ ⊕ β))} :
      Step w turn ⟨s, before ++ .done (.inl x) :: after⟩ ⟨s, before ++ turn x :: after⟩
  | drift {s s' : S} {programs : List (Program Request Answer (σ ⊕ β))} :
      w.Drifts s s' → Step w turn ⟨s, programs⟩ ⟨s', programs⟩

/-- What programs that run side by side can come to. -/
inductive Reaches (w : Surroundings Request Answer S) (turn : Turn Request Answer σ β) :
    Together Request Answer S σ β → Together Request Answer S σ β → Prop where
  | start (t : Together Request Answer S σ β) : Reaches w turn t t
  | step {t u v : Together Request Answer S σ β} :
      Reaches w turn t u → Step w turn u v → Reaches w turn t v

/-- `w.Runs s p trace s' a`: the program, running alone from `s`, asks the questions of `trace`,
has their answers, and ends with `a` in `s'`. -/
inductive Runs {α : Type} (w : Surroundings Request Answer S) :
    S → Program Request Answer α → List (Program.Exchange Request Answer) → S → α → Prop where
  | done (s : S) (a : α) : Runs w s (.done a) [] s a
  | ask {s s' s'' : S} {r : Request} {answer : Answer r}
      {k : Answer r → Program Request Answer α}
      {trace : List (Program.Exchange Request Answer)} {a : α} :
      w.Allows s r answer s' → Runs w s' (k answer) trace s'' a →
        Runs w s (.ask r k) (⟨r, answer⟩ :: trace) s'' a

end Surroundings

end ImageWorker
