import ImageWorker.Text.Bytes
import ImageWorker.Text.Count

/-!
# Settings from the environment

A setting is the text of an environment variable. A variable that is unset or not UTF-8 gives no
text. A count that is missing or not readable falls back to a default.
-/

namespace ImageWorker

abbrev Environment := String → Option String

namespace Environment

/-- The environment with the given variables; of two with one name the first counts. -/
def ofVariables (entries : List (String × Bytes)) : Environment := fun name =>
  (entries.find? (·.1 == name)).bind fun (_, value) => value.text?

def countOr (env : Environment) (bound : Nat) (name : String) (fallback : Nat) : Nat :=
  ((env name).bind (count? bound)).getD fallback

def count64Or (env : Environment) (name : String) (fallback : Nat) : Nat :=
  env.countOr (2 ^ 64) name fallback

end Environment

end ImageWorker
