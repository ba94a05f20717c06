/-!
# Scripts

A script says, call by call, how long a collaborator takes and whether it fails. Calls after the
end of the script succeed at once.
-/

namespace ImageWorker

/-- How one call goes. -/
structure Cue (ε : Type) where
  /-- Milliseconds until the answer. -/
  takes : Nat
  fault : Option ε
  deriving Repr

abbrev Script (ε : Type) := List (Cue ε)

def Script.next {ε : Type} : Script ε → Cue ε × Script ε
  | [] => (⟨0, none⟩, [])
  | cue :: rest => (cue, rest)

def Cue.answer {ε α : Type} (cue : Cue ε) (value : α) : Except ε α :=
  match cue.fault with
  | some e => .error e
  | none => .ok value

end ImageWorker
