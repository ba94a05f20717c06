import ImageWorker.Proofs.JsonScanning

/-!
# Numbers and the grammar

A number is passed over exactly when it follows the grammar. The scanner takes every digit that it
meets, so it stops where the spelling ends only if the number could not go on there.
-/

namespace ImageWorker.Json

variable {cs rest : List Char} {r : Bytes}

/-- A number would not go on here. -/
def Ends (rest : List Char) : Prop :=
  ∀ c ∈ rest.head?, c.isDigit = false ∧ c ≠ '.' ∧ c ≠ 'e' ∧ c ≠ 'E'

theorem isDigit_narrow {c : Char} (h : c.isDigit = true) : c.toNat < 0x80 := by
  simp only [Char.isDigit, Bool.and_eq_true, decide_eq_true_eq] at h
  exact Nat.lt_of_le_of_lt h.2 (by decide)

theorem isDigit_tests : Tests isDigit Char.isDigit where
  ascii _ h := forall_ascii (P := fun c => isDigit (octet c) = c.isDigit) (by decide) h
  wide b h := by
    have above : ¬b ≤ 0x39 := fun hb => absurd (UInt8.le_trans h hb) (by decide)
    simp [isDigit, above]
  narrow _ h := isDigit_narrow h

def digitValue (c : Char) : Nat := (octet c).toNat - 0x30

theorem eq_zero_of_digitValue {c : Char} (digit : c.isDigit = true) (h : digitValue c = 0) :
    c = '0' := by
  have all : c.isDigit = true ∧ digitValue c = 0 → c = '0' :=
    forall_ascii (P := fun c => c.isDigit = true ∧ digitValue c = 0 → c = '0') (by decide)
      (isDigit_narrow digit)
  exact all ⟨digit, h⟩

theorem digits_utf8 (cs : List Char) : digits (utf8 cs) =
    ((cs.takeWhile Char.isDigit).map digitValue, utf8 (cs.dropWhile Char.isDigit)) := by
  obtain ⟨taken, left⟩ := isDigit_tests.span cs
  simp only [digits, taken, left, List.map_map]
  rfl

/-- All the digits at the front are taken. -/
theorem digits_spelled {ds : List Char} (all : ∀ c ∈ ds, c.isDigit = true)
    (stop : ∀ c ∈ rest.head?, c.isDigit = false) :
    digits (utf8 (ds ++ rest)) = (ds.map digitValue, utf8 rest) := by
  have none_taken : rest.takeWhile Char.isDigit = [] ∧ rest.dropWhile Char.isDigit = rest := by
    cases rest with
    | nil => exact ⟨rfl, rfl⟩
    | cons c rest => simp [stop c rfl]
  rw [digits_utf8, List.takeWhile_append_of_pos all, List.dropWhile_append_of_pos all,
    none_taken.1, none_taken.2, List.append_nil]

/-- Digits at the front begin with the octet of a digit. -/
theorem exists_of_digits {s left : Bytes} {d : Nat} {ds : List Nat}
    (h : digits s = (d :: ds, left)) :
    ∃ b s', s = b :: s' ∧ isDigit b = true := by
  cases s with
  | nil => cases h
  | cons b s =>
    refine ⟨b, s, rfl, ?_⟩
    cases digit : isDigit b with
    | true => rfl
    | false => simp [digits, digit] at h

theorem skipExponent_digits {s left : Bytes} {d : Nat} {ds : List Nat}
    (h : digits s = (d :: ds, left)) :
    skipExponent s = .ok left ∧ skipExponent (0x2B :: s) = .ok left ∧
      skipExponent (0x2D :: s) = .ok left := by
  have signed : skipExponent (0x2B :: s) = .ok left ∧ skipExponent (0x2D :: s) = .ok left := by
    simp only [skipExponent, h, and_self]
  refine ⟨?_, signed⟩
  obtain ⟨b, s, rfl, digit⟩ := exists_of_digits h
  have plus : b ≠ 0x2B := fun hb => by rw [hb] at digit; cases digit
  have minus : b ≠ 0x2D := fun hb => by rw [hb] at digit; cases digit
  unfold skipExponent
  split
  · rename_i at_sign
    exact absurd (List.cons.inj at_sign).1 plus
  · rename_i at_sign
    exact absurd (List.cons.inj at_sign).1 minus
  · simp only [h]

theorem skipExponent_spelled {sign ds : List Char} (signed : sign ∈ [[], ['+'], ['-']])
    (number : Digits ds) (stop : ∀ c ∈ rest.head?, c.isDigit = false) :
    skipExponent (utf8 (sign ++ (ds ++ rest))) = .ok (utf8 rest) := by
  obtain ⟨some_digit, all⟩ := number
  have counted := digits_spelled all stop
  cases ds with
  | nil => exact absurd rfl some_digit
  | cons d ds =>
    obtain ⟨plain, plus, minus⟩ := skipExponent_digits counted
    simp only [List.mem_cons, List.not_mem_nil, or_false] at signed
    rcases signed with rfl | rfl | rfl
    · exact plain
    · exact plus
    · exact minus

/-- The octets after an exponent, if there is one. -/
def skipScale (s : Bytes) : Except Error Bytes :=
  match s with
  | 0x65 :: r => skipExponent r
  | 0x45 :: r => skipExponent r
  | _ => .ok s

/-- The octets after a fraction and an exponent, as far as there are. -/
def skipFraction (s : Bytes) : Except Error Bytes :=
  match s with
  | 0x2E :: r =>
    match digits r with
    | ([], _) => .error .invalidNumber
    | (_, rest) => skipScale rest
  | _ => skipScale s

theorem skipScale_other {s : Bytes} (lower : ∀ s', s ≠ 0x65 :: s') (upper : ∀ s', s ≠ 0x45 :: s') :
    skipScale s = .ok s := by
  unfold skipScale
  split
  · exact absurd rfl (lower _)
  · exact absurd rfl (upper _)
  · rfl

theorem skipFraction_other {s : Bytes} (dot : ∀ s', s ≠ 0x2E :: s') :
    skipFraction s = skipScale s := by
  unfold skipFraction
  split
  · exact absurd rfl (dot _)
  · rfl

/-- Behind digits without a leading zero a number may have a fraction and an exponent. -/
theorem skipNumber_digits {s left : Bytes} {ds : List Nat} (found : digits s = (ds, left))
    (some_digit : ds ≠ []) (leading : ∀ d ds', ds ≠ 0 :: d :: ds') :
    skipNumber s = skipFraction left := by
  unfold skipNumber
  rw [found]
  split
  · rename_i none_found
    injection none_found with no_digit _
    exact absurd no_digit some_digit
  · rename_i zero_found
    injection zero_found with zero _
    exact absurd zero (leading _ _)
  · rename_i same
    cases same
    split
    · rfl
    · rfl
    · rfl
    · rename_i dot lower upper
      rw [skipFraction_other dot, skipScale_other lower upper]

theorem skipNumber_eq_ok {s : Bytes} (h : skipNumber s = .ok r) :
    ∃ ds left, digits s = (ds, left) ∧ ds ≠ [] ∧ (∀ d ds', ds ≠ 0 :: d :: ds') ∧
      skipFraction left = .ok r := by
  have found : ∃ ds left, digits s = (ds, left) ∧ ds ≠ [] ∧ ∀ d ds', ds ≠ 0 :: d :: ds' := by
    unfold skipNumber at h
    split at h
    · cases h
    · cases h
    · rename_i some_digit leading found
      exact ⟨_, _, found, some_digit, leading⟩
  obtain ⟨ds, left, found, some_digit, leading⟩ := found
  rw [skipNumber_digits found some_digit leading] at h
  exact ⟨ds, left, found, some_digit, leading, h⟩

theorem Ends.other (h : Ends rest) {c : Char} (ascii : c.toNat < 0x80)
    (stops : c = '.' ∨ c = 'e' ∨ c = 'E') (s : Bytes) : utf8 rest ≠ octet c :: s := by
  intro at_c
  obtain ⟨rest, rfl, _⟩ := (utf8_eq_cons_iff ascii).mp at_c
  obtain ⟨_, dot, lower, upper⟩ := h c rfl
  rcases stops with rfl | rfl | rfl
  · exact dot rfl
  · exact lower rfl
  · exact upper rfl

theorem skipScale_spelled {exponent : List Char} (h : Exponent exponent) (ends : Ends rest) :
    skipScale (utf8 (exponent ++ rest)) = .ok (utf8 rest) := by
  cases h with
  | none =>
    exact skipScale_other (ends.other (c := 'e') (by decide) (by simp))
      (ends.other (c := 'E') (by decide) (by simp))
  | @digits e sign ds letter signed number =>
    have skipped : skipExponent (utf8 (sign ++ (ds ++ rest))) = .ok (utf8 rest) :=
      skipExponent_spelled signed number fun c hc => (ends c hc).1
    simp only [List.mem_cons, List.not_mem_nil, or_false] at letter
    rw [List.cons_append, List.append_assoc]
    rcases letter with rfl | rfl
    · exact skipped
    · exact skipped

/-- A number starts with its sign or with a digit. -/
theorem Numeral.head {sign whole fraction exponent : List Char}
    (h : Numeral sign whole fraction exponent) :
    sign = ['-'] ∨ sign = [] ∧ ∃ d ds, whole = d :: ds ∧ d.isDigit = true := by
  have signed := h.signed
  simp only [List.mem_cons, List.not_mem_nil, or_false] at signed
  rcases signed with unsigned | minus
  · obtain ⟨some_digit, all⟩ := h.digits
    cases whole with
    | nil => exact absurd rfl some_digit
    | cons d ds => exact .inr ⟨unsigned, d, ds, rfl, all d List.mem_cons_self⟩
  · exact .inl minus

/-- The values of the digits do not begin with a zero unless it is the only one. -/
theorem Numeral.values {sign whole fraction exponent : List Char}
    (h : Numeral sign whole fraction exponent) :
    whole.map digitValue ≠ [] ∧ ∀ d ds, whole.map digitValue ≠ 0 :: d :: ds := by
  obtain ⟨some_digit, all⟩ := h.digits
  constructor
  · exact fun none_taken => some_digit (List.map_eq_nil_iff.mp none_taken)
  · intro d ds values
    cases whole with
    | nil => cases values
    | cons c cs =>
      injection values with zero more
      have alone := h.leading (by rw [eq_zero_of_digitValue (all c List.mem_cons_self) zero]; rfl)
      injection alone with _ alone
      rw [alone] at more
      cases more

/-- What may stand behind digits is no digit. -/
theorem Exponent.stop {exponent : List Char} (h : Exponent exponent) (ends : Ends rest) :
    ∀ c ∈ (exponent ++ rest).head?, c.isDigit = false := by
  cases h with
  | none => exact fun c hc => (ends c hc).1
  | @digits e sign ds letter signed number =>
    intro c hc
    cases hc
    simp only [List.mem_cons, List.not_mem_nil, or_false] at letter
    rcases letter with rfl | rfl <;> decide

theorem Fraction.stop {fraction exponent : List Char} (h : Fraction fraction)
    (h' : Exponent exponent) (ends : Ends rest) :
    ∀ c ∈ (fraction ++ (exponent ++ rest)).head?, c.isDigit = false := by
  cases h with
  | none => exact h'.stop ends
  | digits number =>
    intro c hc
    cases hc
    decide

theorem skipFraction_spelled {fraction exponent : List Char} (h : Fraction fraction)
    (h' : Exponent exponent) (ends : Ends rest) :
    skipFraction (utf8 (fraction ++ (exponent ++ rest))) = .ok (utf8 rest) := by
  cases h with
  | none =>
    rw [List.nil_append]
    refine (skipFraction_other fun s at_dot => ?_).trans (skipScale_spelled h' ends)
    obtain ⟨left, at_dot, _⟩ := (utf8_eq_cons_iff (c := '.') (by decide)).mp at_dot
    cases h' with
    | none => exact (ends '.' (by rw [← List.nil_append rest, at_dot]; rfl)).2.1 rfl
    | digits letter =>
      injection at_dot with letter_dot
      rw [letter_dot] at letter
      simp at letter
  | @digits ds number =>
    obtain ⟨some_digit, all⟩ := number
    have counted := digits_spelled all (h'.stop ends)
    have scaled := skipScale_spelled h' ends
    cases ds with
    | nil => exact absurd rfl some_digit
    | cons d ds =>
      have dotted : utf8 ('.' :: (d :: ds) ++ (exponent ++ rest)) =
          0x2E :: utf8 ((d :: ds) ++ (exponent ++ rest)) := utf8_cons_ascii (by decide) _
      rw [dotted, skipFraction, counted]
      exact scaled

/-- A number is passed over, from after its sign. -/
theorem skipNumber_spelled {sign whole fraction exponent : List Char}
    (h : Numeral sign whole fraction exponent) (ends : Ends rest) :
    skipNumber (utf8 (whole ++ (fraction ++ (exponent ++ rest)))) = .ok (utf8 rest) := by
  have counted := digits_spelled h.digits.2 (h.broken.stop h.scaled ends)
  have skipped := skipFraction_spelled h.broken h.scaled ends
  exact (skipNumber_digits counted h.values.1 h.values.2).trans skipped

theorem exists_digits {ds : List Nat} {left : Bytes} (h : digits (utf8 cs) = (ds, left))
    (some_digit : ds ≠ []) :
    ∃ whole rest, Digits whole ∧ cs = whole ++ rest ∧ ds = whole.map digitValue ∧
      left = utf8 rest := by
  rw [digits_utf8] at h
  injection h with taken stays
  refine ⟨cs.takeWhile Char.isDigit, cs.dropWhile Char.isDigit, ⟨?_, ?_⟩,
    List.takeWhile_append_dropWhile.symm, taken.symm, stays.symm⟩
  · intro none_taken
    rw [none_taken] at taken
    exact some_digit taken.symm
  · exact List.all_eq_true.mp List.all_takeWhile

theorem exponent_of_skipExponent {e : Char} (letter : e ∈ ['e', 'E'])
    (h : skipExponent (utf8 cs) = .ok r) :
    ∃ exponent rest, Exponent exponent ∧ e :: cs = exponent ++ rest ∧ r = utf8 rest := by
  -- the sign, if any, and the digits behind it
  have signed : ∃ sign cs', sign ∈ [[], ['+'], ['-']] ∧ cs = sign ++ cs' ∧
      ∃ ds, digits (utf8 cs') = (ds, r) ∧ ds ≠ [] := by
    have counted {s : Bytes} (found : (match digits s with
        | ([], _) => (.error .invalidNumber : Except Error Bytes)
        | (_, rest) => .ok rest) = .ok r) : ∃ ds, digits s = (ds, r) ∧ ds ≠ [] := by
      split at found
      · cases found
      · rename_i ds left some_digit counted
        cases found
        exact ⟨ds, counted, some_digit⟩
    unfold skipExponent at h
    split at h
    · rename_i at_sign
      obtain ⟨cs, rfl, rfl⟩ := (utf8_eq_cons_iff (c := '+') (by decide)).mp at_sign
      exact ⟨['+'], cs, by simp, rfl, counted h⟩
    · rename_i at_sign
      obtain ⟨cs, rfl, rfl⟩ := (utf8_eq_cons_iff (c := '-') (by decide)).mp at_sign
      exact ⟨['-'], cs, by simp, rfl, counted h⟩
    · exact ⟨[], cs, by simp, rfl, counted h⟩
  obtain ⟨sign, cs, sign_mem, rfl, ds, counted, some_digit⟩ := signed
  obtain ⟨ds, rest, number, rfl, _, hr⟩ := exists_digits counted some_digit
  exact ⟨e :: (sign ++ ds), rest, .digits letter sign_mem number, by simp, hr⟩

theorem exponent_of_skipScale (h : skipScale (utf8 cs) = .ok r) :
    ∃ exponent rest, Exponent exponent ∧ cs = exponent ++ rest ∧ r = utf8 rest := by
  unfold skipScale at h
  split at h
  · rename_i at_letter
    obtain ⟨cs, rfl, rfl⟩ := (utf8_eq_cons_iff (c := 'e') (by decide)).mp at_letter
    exact exponent_of_skipExponent (by simp) h
  · rename_i at_letter
    obtain ⟨cs, rfl, rfl⟩ := (utf8_eq_cons_iff (c := 'E') (by decide)).mp at_letter
    exact exponent_of_skipExponent (by simp) h
  · cases h
    exact ⟨[], cs, .none, rfl, rfl⟩

theorem fraction_of_skipFraction (h : skipFraction (utf8 cs) = .ok r) :
    ∃ fraction exponent rest, Fraction fraction ∧ Exponent exponent ∧
      cs = fraction ++ (exponent ++ rest) ∧ r = utf8 rest := by
  unfold skipFraction at h
  split at h
  · rename_i at_dot
    obtain ⟨cs, rfl, rfl⟩ := (utf8_eq_cons_iff (c := '.') (by decide)).mp at_dot
    split at h
    · cases h
    · rename_i ds left some_digit counted
      obtain ⟨ds, cs, number, rfl, _, rfl⟩ := exists_digits counted some_digit
      obtain ⟨exponent, rest, scaled, rfl, hr⟩ := exponent_of_skipScale h
      exact ⟨'.' :: ds, exponent, rest, .digits number, scaled, rfl, hr⟩
  · obtain ⟨exponent, rest, scaled, rfl, hr⟩ := exponent_of_skipScale h
    exact ⟨[], exponent, rest, .none, scaled, rfl, hr⟩

theorem numeral_of_skipNumber (sign : List Char) (signed : sign ∈ [[], ['-']])
    (h : skipNumber (utf8 cs) = .ok r) :
    ∃ whole fraction exponent rest, Numeral sign whole fraction exponent ∧
      cs = whole ++ (fraction ++ (exponent ++ rest)) ∧ r = utf8 rest := by
  obtain ⟨values, left, counted, some_digit, leading, behind⟩ := skipNumber_eq_ok h
  obtain ⟨whole, cs, number, rfl, rfl, rfl⟩ := exists_digits counted some_digit
  obtain ⟨fraction, exponent, rest, broken, scaled, rfl, hr⟩ := fraction_of_skipFraction behind
  refine ⟨whole, fraction, exponent, rest, ⟨signed, number, ?_, broken, scaled⟩, rfl, hr⟩
  intro zero
  cases whole with
  | nil => cases zero
  | cons d ds =>
    cases zero
    cases ds with
    | nil => rfl
    | cons d ds => exact absurd rfl (leading _ _)

end ImageWorker.Json
