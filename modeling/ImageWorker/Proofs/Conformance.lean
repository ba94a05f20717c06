import ImageWorker.Proofs.ProgramRuns

/-!
# Programs that keep to a protocol

Surroundings can stand for a protocol: a state says how far a program has got, and what is allowed
there is what the program may do and hear. A program conforms if every exchange is allowed whatever
the answer is. A loop conforms if each of its turns does and leaves a state in which the next one
conforms, and then all that it ever does is allowed.
-/

namespace ImageWorker

namespace Surroundings

variable {Request : Type} {Answer : Request → Type} {S σ α β : Type}

/-- Whatever the answers are, each exchange of the program is allowed, and it ends as `ends`
says. -/
def Conforms (w : Surroundings Request Answer S) (ends : S → α → Prop) :
    S → Program Request Answer α → Prop
  | s, .done a => ends s a
  | s, .ask r k => ∀ answer, ∃ s', w.Allows s r answer s' ∧ Conforms w ends s' (k answer)

variable {w : Surroundings Request Answer S}

theorem Conforms.bind {between : S → α → Prop} {ends : S → β → Prop} {s : S}
    {p : Program Request Answer α} {f : α → Program Request Answer β}
    (first : w.Conforms between s p) (second : ∀ s' a, between s' a → w.Conforms ends s' (f a)) :
    w.Conforms ends s (p.bind f) := by
  induction p generalizing s with
  | done a => exact second s a first
  | ask r k ih =>
    intro answer
    obtain ⟨s', allowed, rest⟩ := first answer
    exact ⟨s', allowed, ih answer rest⟩

theorem Conforms.mono {ends ends' : S → α → Prop} {s : S} {p : Program Request Answer α}
    (conforms : w.Conforms ends s p) (weaker : ∀ s' a, ends s' a → ends' s' a) :
    w.Conforms ends' s p := by
  induction p generalizing s with
  | done a => exact weaker s a conforms
  | ask r k ih =>
    intro answer
    obtain ⟨s', allowed, rest⟩ := conforms answer
    exact ⟨s', allowed, ih answer rest⟩

theorem Conforms.translate_bind {Request' : Type} {Answer' : Request' → Type}
    {f : (r : Request') → Program Request Answer (Answer' r)} {between : S → α → Prop}
    {ends : S → β → Prop} {s : S} {p : Program Request' Answer' α}
    {g : α → Program Request' Answer' β} (first : w.Conforms between s (p.translate f))
    (second : ∀ s' a, between s' a → w.Conforms ends s' ((g a).translate f)) :
    w.Conforms ends s ((p.bind g).translate f) := by
  rw [Program.translate_bind]
  exact first.bind second

/-- What a conforming program has done is allowed, and what is left of it conforms. -/
theorem Conforms.follows {ends : S → α → Prop} {s : S} {p q : Program Request Answer α}
    {trace : List (Program.Exchange Request Answer)} (conforms : w.Conforms ends s p)
    (reached : p.Reaches trace q) : ∃ s', w.Follows s trace s' ∧ w.Conforms ends s' q := by
  induction reached generalizing s with
  | start p => exact ⟨s, .start s, conforms⟩
  | ask _ ih =>
    obtain ⟨s', allowed, rest⟩ := conforms _
    obtain ⟨s'', follows, left⟩ := ih rest
    exact ⟨s'', .step allowed follows, left⟩

/-- A loop whose turns conform is allowed all that it does. -/
theorem follows_of_turns {turn : Turn Request Answer σ β} {ends : S → σ ⊕ β → Prop}
    (turns : ∀ s x, ends s (.inl x) → w.Conforms ends s (turn x)) {s : S} {x : σ}
    {trace : List (Program.Exchange Request Answer)} {q : Program Request Answer (σ ⊕ β)}
    (stands : ends s (.inl x)) (reached : turn.Reaches x trace q) :
    ∃ s', w.Follows s trace s' ∧ w.Conforms ends s' q := by
  induction reached generalizing s with
  | inside inner => exact (turns s _ stands).follows inner
  | again run _ ih =>
    obtain ⟨s', before, next⟩ := (turns s _ stands).follows run.reaches
    obtain ⟨s'', after, left⟩ := ih next
    exact ⟨s'', follows_append_iff.mpr ⟨s', before, after⟩, left⟩

end Surroundings

end ImageWorker
