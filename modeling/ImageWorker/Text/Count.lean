import ImageWorker.Power

/-!
# Written counts

A count is written in decimal digits, with at most one plus sign before them, and has an upper
bound.
-/

namespace ImageWorker

/-- The value of decimal digits; nothing if there are none or one of them is something else. -/
def digitsValue? (cs : List Char) : Option Nat :=
  if cs.isEmpty || !cs.all Char.isDigit then none
  else some (cs.foldl (fun n c => n * 10 + (c.toNat - 48)) 0)

/-- The count that a text writes, if it is below the bound. -/
def count? (bound : Nat) (s : String) : Option Nat :=
  let digits := match s.toList with
    | '+' :: r => r
    | cs => cs
  (digitsValue? digits).filter (· < bound)

/-- A count of at most 64 bits. -/
def count64? (s : String) : Option Nat := count? (2 ^ 64) s

theorem digitsValue?_eq_some_iff {cs : List Char} {n : Nat} :
    digitsValue? cs = some n ↔
      cs ≠ [] ∧ (∀ c ∈ cs, c.isDigit = true) ∧ Nat.ofDigitChars 10 cs 0 = n := by
  have value : Nat.ofDigitChars 10 cs 0 = cs.foldl (fun n c => n * 10 + (c.toNat - 48)) 0 := by
    simp [Nat.ofDigitChars_eq_foldl, Nat.mul_comm]
  rw [digitsValue?, value]
  by_cases digits : cs ≠ [] ∧ ∀ c ∈ cs, c.isDigit = true
  · have accepted : (cs.isEmpty || !cs.all Char.isDigit) = false := by simpa using digits
    simp only [accepted, Bool.false_eq_true, if_false, Option.some.injEq]
    exact ⟨fun same => ⟨digits.1, digits.2, same⟩, fun h => h.2.2⟩
  · have refused : (cs.isEmpty || !cs.all Char.isDigit) = true := by
      rw [← Bool.not_eq_false]
      simpa using digits
    rw [if_pos refused]
    simp only [reduceCtorEq, false_iff]
    exact fun ⟨some_digit, all, _⟩ => digits ⟨some_digit, all⟩

/-- Decimal digits, perhaps after a plus sign, that write a count of at most 64 bits. -/
def IsCount (cs : List Char) (n : Nat) : Prop :=
  ∃ ds, (cs = ds ∨ cs = '+' :: ds) ∧ ds ≠ [] ∧ (∀ c ∈ ds, c.isDigit = true) ∧
    Nat.ofDigitChars 10 ds 0 = n ∧ n < 2 ^ 64

theorem IsCount.toNat_toUInt64 {cs : List Char} {n : Nat} (counts : IsCount cs n) :
    n.toUInt64.toNat = n :=
  let ⟨_, _, _, _, _, small⟩ := counts
  UInt64.toNat_ofNat_of_lt' small

theorem count64?_eq_some_iff {cs : List Char} {n : Nat} :
    count64? (String.ofList cs) = some n ↔ IsCount cs n := by
  obtain ⟨digits, written, unsigned⟩ : ∃ digits, (cs = digits ∨ cs = '+' :: digits) ∧
      (match cs with
        | '+' :: r => r
        | cs => cs) = digits := by
    split
    · exact ⟨_, .inr rfl, rfl⟩
    · exact ⟨cs, .inl rfl, rfl⟩
  simp only [count64?, count?, String.toList_ofList, unsigned, Option.filter_eq_some_iff,
    digitsValue?_eq_some_iff, decide_eq_true_eq]
  constructor
  · intro ⟨⟨some_digit, all, value⟩, small⟩
    exact ⟨digits, written, some_digit, all, value, small⟩
  · intro ⟨ds, written', some_digit, all, value, small⟩
    have same : ds = digits := by
      cases written' with
      | inl plain =>
        subst plain
        rw [← unsigned]
        split
        · exact absurd (all '+' List.mem_cons_self) (by decide)
        · rfl
      | inr signed =>
        subst signed
        exact unsigned
    subst same
    exact ⟨⟨some_digit, all, value⟩, small⟩

theorem isCount_repr {n : Nat} (small : n < 2 ^ 64) : IsCount n.repr.toList n := by
  rw [Nat.toList_repr]
  exact ⟨_, .inl rfl, Nat.toDigits_ne_nil, fun c mem => Nat.isDigit_of_mem_toDigits (by omega)
    (by omega) mem, Nat.ofDigitChars_ten_toDigits, small⟩

end ImageWorker
