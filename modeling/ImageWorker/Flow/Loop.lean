import ImageWorker.Flow.Program

/-!
# Loops

A loop takes one turn after the other. Each turn is a program that either leaves a state for the
next turn or ends the loop. A loop may go on forever, so it is given by its turns, and its runs by
a relation.
-/

namespace ImageWorker

/-- The turns of a loop, by the state in which each begins. -/
abbrev Turn (Request : Type) (Answer : Request → Type) (σ β : Type) :=
  σ → Program Request Answer (σ ⊕ β)

namespace Turn

variable {Request : Type} {Answer : Request → Type} {σ β : Type}

/-- `turn.Ends s trace b`: with the answers of `trace` the loop asks just its questions, and ends
with `b`. -/
inductive Ends (turn : Turn Request Answer σ β) :
    σ → List (Program.Exchange Request Answer) → β → Prop where
  | stop {s : σ} {trace : List (Program.Exchange Request Answer)} {b : β} :
      (turn s).Runs trace (.inr b) → Ends turn s trace b
  | again {s s' : σ} {trace rest : List (Program.Exchange Request Answer)} {b : β} :
      (turn s).Runs trace (.inl s') → Ends turn s' rest b → Ends turn s (trace ++ rest) b

/-- `turn.Reaches s trace p`: after the questions and answers of `trace` the loop is in the middle
of a turn, of which `p` is left. -/
inductive Reaches (turn : Turn Request Answer σ β) :
    σ → List (Program.Exchange Request Answer) → Program Request Answer (σ ⊕ β) → Prop where
  | inside {s : σ} {trace : List (Program.Exchange Request Answer)}
      {p : Program Request Answer (σ ⊕ β)} :
      (turn s).Reaches trace p → Reaches turn s trace p
  | again {s s' : σ} {trace rest : List (Program.Exchange Request Answer)}
      {p : Program Request Answer (σ ⊕ β)} :
      (turn s).Runs trace (.inl s') → Reaches turn s' rest p → Reaches turn s (trace ++ rest) p

/-- Takes turns in a monad, `fuel` of them at most. -/
def runWithin {m : Type → Type} [Monad m] (turn : Turn Request Answer σ β)
    (answer : (r : Request) → m (Answer r)) : (fuel : Nat) → σ → m (Option β)
  | 0, _ => pure none
  | fuel + 1, s => do
    match ← (turn s).run answer with
    | .inl s => turn.runWithin answer fuel s
    | .inr b => pure (some b)

end Turn

end ImageWorker
