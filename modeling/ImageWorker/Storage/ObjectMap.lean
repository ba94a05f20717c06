import ImageWorker.Keyed
import ImageWorker.Text.Bytes

/-!
# Objects by key

What an object store holds: bytes under keys. Storing replaces what was there, and no operation
touches another key.
-/

namespace ImageWorker

structure ObjectMap where
  entries : List (String × Bytes)
  deriving DecidableEq, Repr

namespace ObjectMap

def get? (m : ObjectMap) (key : String) : Option Bytes :=
  (m.entries.find? (·.1 == key)).map (·.2)

def erase (m : ObjectMap) (key : String) : ObjectMap := ⟨m.entries.filter (·.1 != key)⟩

def put (m : ObjectMap) (key : String) (content : Bytes) : ObjectMap :=
  ⟨(key, content) :: (m.erase key).entries⟩

def keys (m : ObjectMap) : List String := (m.entries.map (·.1)).mergeSort (· ≤ ·)

theorem get?_erase (m : ObjectMap) (key other : String) :
    (m.erase key).get? other = if other = key then none else m.get? other := by
  split
  next same =>
    rw [same, get?, erase, find?_without_self]
    rfl
  next distinct => rw [get?, erase, find?_without_other _ distinct, get?]

theorem get?_put (m : ObjectMap) (key other : String) (content : Bytes) :
    (m.put key content).get? other = if other = key then some content else m.get? other := by
  split
  next same => simp [get?, put, same]
  next distinct =>
    have skipped : (m.put key content).get? other = (m.erase key).get? other := by
      simp [get?, put, Ne.symm distinct]
    rw [skipped, get?_erase, if_neg distinct]

end ObjectMap

end ImageWorker
