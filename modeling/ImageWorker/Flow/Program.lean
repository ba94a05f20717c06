/-!
# Computations that ask their environment

A program is a tree of questions: it either is done or asks something and goes on with the answer.
What the environment does is left open, so a statement about every path through the tree is a
statement about every behaviour of the environment. A run takes one answer for each question.
-/

namespace ImageWorker

/-- A computation that asks `Request`s, each with answers of its own type, and ends with a value. -/
inductive Program (Request : Type) (Answer : Request → Type) (α : Type) where
  | done (result : α)
  | ask (request : Request) (next : Answer request → Program Request Answer α)

namespace Program

variable {Request : Type} {Answer : Request → Type} {α β : Type}

def bind (p : Program Request Answer α) (f : α → Program Request Answer β) :
    Program Request Answer β :=
  match p with
  | done a => f a
  | ask request next => ask request fun answer => (next answer).bind f

instance : Monad (Program Request Answer) where
  pure := done
  bind := bind

@[simp] theorem bind_done (a : α) (f : α → Program Request Answer β) : (done a).bind f = f a := rfl

@[simp] theorem bind_ask (r : Request) (k : Answer r → Program Request Answer α)
    (f : α → Program Request Answer β) : (ask r k).bind f = ask r fun a => (k a).bind f := rfl

theorem bind_assoc {γ : Type} (p : Program Request Answer α) (f : α → Program Request Answer β)
    (g : β → Program Request Answer γ) : (p.bind f).bind g = p.bind fun a => (f a).bind g := by
  induction p with
  | done a => rfl
  | ask r k ih => simp [ih]

def request (r : Request) : Program Request Answer (Answer r) := ask r done

/-- Replaces every question by a program that finds its answer. -/
def translate {Request' : Type} {Answer' : Request' → Type}
    (f : (r : Request) → Program Request' Answer' (Answer r)) :
    Program Request Answer α → Program Request' Answer' α
  | done a => done a
  | ask r k => (f r).bind fun answer => (k answer).translate f

/-- Answers the questions one after the other in a monad. -/
def run {m : Type → Type} [Monad m] (answer : (r : Request) → m (Answer r)) :
    Program Request Answer α → m α
  | done a => pure a
  | ask r k => do
    let a ← answer r
    (k a).run answer

structure Exchange (Request : Type) (Answer : Request → Type) where
  request : Request
  answer : Answer request

/-- `p.Runs trace a`: with the answers of `trace` the program asks just its questions, and ends
with `a`. -/
inductive Runs : Program Request Answer α → List (Exchange Request Answer) → α → Prop where
  | done (a : α) : Runs (done a) [] a
  | ask {r : Request} {k : Answer r → Program Request Answer α} {answer : Answer r}
      {trace : List (Exchange Request Answer)} {a : α} :
      Runs (k answer) trace a → Runs (ask r k) (⟨r, answer⟩ :: trace) a

/-- A program that has asked a number of questions and may ask more. -/
inductive Reaches :
    Program Request Answer α → List (Exchange Request Answer) →
      Program Request Answer α → Prop where
  | start (p : Program Request Answer α) : Reaches p [] p
  | ask {r : Request} {k : Answer r → Program Request Answer α} {answer : Answer r}
      {trace : List (Exchange Request Answer)} {q : Program Request Answer α} :
      Reaches (k answer) trace q → Reaches (ask r k) (⟨r, answer⟩ :: trace) q

end Program

end ImageWorker
