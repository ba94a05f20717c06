/-!
# Entries with keys

What is found under a key after the entries of one key are taken out.
-/

namespace ImageWorker

variable {α β : Type} [BEq α] [LawfulBEq α]

theorem find?_without_self (entries : List (α × β)) (key : α) :
    (entries.filter (·.1 != key)).find? (·.1 == key) = none := by
  simp [List.find?_eq_none]

theorem find?_without_other (entries : List (α × β)) {key other : α} (distinct : other ≠ key) :
    (entries.filter (·.1 != key)).find? (·.1 == other) = entries.find? (·.1 == other) := by
  rw [List.find?_filter]
  congr 1
  funext entry
  by_cases h : entry.1 = other <;> simp [h, distinct]

end ImageWorker
