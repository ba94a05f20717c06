import ImageWorker.Json.Codec

/-!
# Strings, one step at a time

What the two string scanners do with each thing that can stand inside a string: the closing quote,
an octet that stands for itself, a short escape, a code unit in hexadecimal digits and a surrogate
pair. No other proof opens the scanners. The written form of a text is read back by these steps.
-/

namespace ImageWorker.Json

/-- The answer of a string scanner with octets put before the content. -/
def prepended (lead : Bytes) (answer : Except Error (Bytes × Bytes)) :
    Except Error (Bytes × Bytes) :=
  answer.map fun (octets, rest) => (lead ++ octets, rest)

@[simp] theorem prepended_ok (lead octets rest : Bytes) :
    prepended lead (.ok (octets, rest)) = .ok (lead ++ octets, rest) := rfl

theorem prepended_singleton (b : UInt8) (answer : Except Error (Bytes × Bytes)) :
    prepended [b] answer =
      match answer with
      | .ok (octets, rest) => .ok (b :: octets, rest)
      | .error e => .error e := by
  cases answer <;> rfl

/-- The letters of the short escapes. -/
theorem letter_of_shortEscape? {e b : UInt8} (h : shortEscape? e = some b) :
    e = 0x22 ∨ e = 0x5C ∨ e = 0x2F ∨ e = 0x62 ∨ e = 0x66 ∨ e = 0x6E ∨ e = 0x72 ∨ e = 0x74 := by
  simp only [shortEscape?] at h
  grind

section StringOctets

variable {s : Bytes}

theorem stringOctets_quote : stringOctets (0x22 :: s) = .ok ([], s) := rfl

theorem stringOctets_plain {b : UInt8} (quote : b ≠ 0x22) (escape : b ≠ 0x5C)
    (visible : ¬b < 0x20) : stringOctets (b :: s) = prepended [b] (stringOctets s) := by
  rw [stringOctets.eq_def]
  split
  case h_7 same =>
    obtain ⟨rfl, rfl⟩ := List.cons.inj same
    rw [if_neg visible]
    exact (prepended_singleton _ _).symm
  all_goals grind

theorem stringOctets_short {e b : UInt8} (h : shortEscape? e = some b) :
    stringOctets (0x5C :: e :: s) = prepended [b] (stringOctets s) := by
  rcases letter_of_shortEscape? h with rfl | rfl | rfl | rfl | rfl | rfl | rfl | rfl <;>
    · obtain rfl := Option.some.inj h
      exact (prepended_singleton _ _).symm

theorem stringOctets_unit {a b c d : UInt8} {n : Nat} (h : hexValue4? a b c d = some n)
    (low : isLowSurrogate n = false) (high : isHighSurrogate n = false) :
    stringOctets (0x5C :: 0x75 :: a :: b :: c :: d :: s) =
      prepended (codePoint n) (stringOctets s) := by
  rw [stringOctets.eq_def]
  simp only [h, low, high, Bool.false_eq_true, if_false]
  cases stringOctets s <;> rfl

theorem stringOctets_pair {a b c d a' b' c' d' : UInt8} {n m : Nat}
    (h : hexValue4? a b c d = some n) (h' : hexValue4? a' b' c' d' = some m)
    (high : isHighSurrogate n = true) (low : isLowSurrogate m = true) :
    stringOctets
        (0x5C :: 0x75 :: a :: b :: c :: d :: 0x5C :: 0x75 :: a' :: b' :: c' :: d' :: s) =
      prepended (codePoint (0x10000 + (n - 0xD800) * 0x400 + (m - 0xDC00))) (stringOctets s) := by
  have hn : isLowSurrogate n = false := by
    simp [isHighSurrogate, isLowSurrogate] at high ⊢
    omega
  rw [stringOctets.eq_def]
  simp only [h, hn, high, h', low, Bool.false_eq_true, if_false, if_true]
  cases stringOctets s <;> rfl

/-- A surrogate that closes a pair is refused where none is open. -/
theorem stringOctets_low {a b c d : UInt8} {n : Nat} (h : hexValue4? a b c d = some n)
    (low : isLowSurrogate n = true) :
    stringOctets (0x5C :: 0x75 :: a :: b :: c :: d :: s) = .error .loneSurrogate := by
  rw [stringOctets.eq_def]
  simp only [h, low, if_true]

/-- A surrogate that opens a pair is refused unless one that closes it follows. -/
theorem stringOctets_high {a b c d : UInt8} {n : Nat} (h : hexValue4? a b c d = some n)
    (high : isHighSurrogate n = true)
    (alone : ∀ a' b' c' d' m s', s = 0x5C :: 0x75 :: a' :: b' :: c' :: d' :: s' →
      hexValue4? a' b' c' d' = some m → isLowSurrogate m = false) :
    (stringOctets (0x5C :: 0x75 :: a :: b :: c :: d :: s)).toOption = none := by
  have low : isLowSurrogate n = false := by
    simp [isHighSurrogate, isLowSurrogate] at high ⊢
    omega
  rw [stringOctets.eq_def]
  simp only [h, high, low, Bool.false_eq_true, if_false, if_true]
  split
  case h_3 =>
    split
    · rfl
    next value =>
      simp only [alone _ _ _ _ _ _ rfl value, Bool.false_eq_true, if_false]
      rfl
  all_goals rfl

end StringOctets

section SkipString

variable {s : Bytes}

theorem skipString_quote : skipString (0x22 :: s) = .ok s := rfl

theorem skipString_plain {b : UInt8} (quote : b ≠ 0x22) (escape : b ≠ 0x5C) (visible : ¬b < 0x20) :
    skipString (b :: s) = skipString s := by
  rw [skipString.eq_def]
  split
  case h_7 same =>
    obtain ⟨rfl, rfl⟩ := List.cons.inj same
    rw [if_neg visible]
  all_goals grind

theorem skipString_short {e b : UInt8} (h : shortEscape? e = some b) :
    skipString (0x5C :: e :: s) = skipString s := by
  rcases letter_of_shortEscape? h with rfl | rfl | rfl | rfl | rfl | rfl | rfl | rfl <;> rfl

theorem skipString_unit {a b c d : UInt8} {n : Nat} (h : hexValue4? a b c d = some n) :
    skipString (0x5C :: 0x75 :: a :: b :: c :: d :: s) = skipString s := by
  rw [skipString.eq_def]
  simp only [h]

end SkipString

/-- A control character is written by a short escape or by its code unit. -/
theorem escaped_control {b : UInt8} (control : b < 0x20) :
    (∃ e, escaped b = [0x5C, e] ∧ shortEscape? e = some b) ∨
      ∃ x y, escaped b = [0x5C, 0x75, 0x30, 0x30, x, y] ∧
        hexValue4? 0x30 0x30 x y = some b.toNat ∧ codePoint b.toNat = [b] := by
  have all : ∀ n < 0x20, (∃ e ∈ [0x62, 0x66, 0x6E, 0x72, 0x74],
        escaped (UInt8.ofNat n) = [0x5C, e] ∧ shortEscape? e = some (UInt8.ofNat n)) ∨
      ∃ x ∈ [0x30, 0x31], ∃ y ∈ (escaped (UInt8.ofNat n)).getLast?,
        escaped (UInt8.ofNat n) = [0x5C, 0x75, 0x30, 0x30, x, y] ∧
        hexValue4? 0x30 0x30 x y = some n ∧ codePoint n = [UInt8.ofNat n] := by
    decide
  have here := all b.toNat control
  rw [UInt8.ofNat_toNat] at here
  rcases here with ⟨e, _, short⟩ | ⟨x, _, y, _, unit⟩
  · exact .inl ⟨e, short⟩
  · exact .inr ⟨x, y, unit⟩

/-- What is special inside a string is written as an escape of itself, so each octet comes back. -/
theorem stringOctets_escaped (b : UInt8) (s : Bytes) :
    stringOctets (escaped b ++ s) = prepended [b] (stringOctets s) := by
  by_cases control : b < 0x20
  · rcases escaped_control control with ⟨e, written, short⟩ | ⟨x, y, written, unit, point⟩
    · rw [written]
      exact stringOctets_short short
    · have small : b.toNat < 0x20 := control
      rw [written, ← point]
      refine stringOctets_unit unit ?_ ?_
      · simp only [isLowSurrogate, Bool.and_eq_false_iff, decide_eq_false_iff_not]
        omega
      · simp only [isHighSurrogate, Bool.and_eq_false_iff, decide_eq_false_iff_not]
        omega
  by_cases quote : b = 0x22
  · subst quote
    exact stringOctets_short (by decide)
  by_cases escape : b = 0x5C
  · subst escape
    exact stringOctets_short (by decide)
  have written : escaped b = [b] := by
    have h (c : UInt8) (hc : c < 0x20) : b ≠ c := fun h => control (h ▸ hc)
    simp [escaped, quote, escape, control, h]
  rw [written]
  exact stringOctets_plain quote escape control

theorem stringOctets_written (octets s : Bytes) :
    stringOctets (octets.flatMap escaped ++ 0x22 :: s) = .ok (octets, s) := by
  induction octets with
  | nil => exact stringOctets_quote
  | cons b octets ih =>
    rw [List.flatMap_cons, List.append_assoc, stringOctets_escaped, ih]
    rfl

theorem string_written (t : String) (s : Bytes) :
    string ((Bytes.ofText t).flatMap escaped ++ 0x22 :: s) = .ok (t, s) := by
  rw [string, stringOctets_written]
  simp only [Bytes.text?_ofText]

end ImageWorker.Json
