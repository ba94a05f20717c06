import ImageWorker.Proofs.JsonAcceptance
import ImageWorker.Text.Count

/-!
# Integers among the numbers

A number is read as an integer of 64 bits exactly if it is spelled as integers are written: digits
without a leading zero, with a minus sign below zero, no fraction and no exponent. So a negative
zero is none, and neither is a number whose value is whole but that is spelled otherwise. What lies
beyond 64 bits becomes a double on the way and is refused.
-/

namespace ImageWorker.Json

variable {τ : Type} {cs rest ds : List Char} {s r : Bytes}

def valueOf (ds : List Char) : Nat := Nat.ofDigitChars 10 ds 0

theorem ofDigits_digitValue (digits : ∀ c ∈ ds, c.isDigit = true) :
    ofDigits (ds.map digitValue) = valueOf ds := by
  have same : ∀ c ∈ ds, digitValue c = c.toNat - '0'.toNat := fun c mem => by
    rw [digitValue, toNat_octet (isDigit_narrow (digits c mem))]
    rfl
  rw [List.map_congr_left same, valueOf, Nat.ofDigitChars_eq_foldl, ofDigits, List.foldl_map]
  simp only [Nat.mul_comm]

theorem digitChar_digitValue {c : Char} (digit : c.isDigit = true) :
    digitValue c < 10 ∧ (digitValue c).digitChar = c := by
  have all : c.isDigit = true → digitValue c < 10 ∧ (digitValue c).digitChar = c :=
    forall_ascii (P := fun c => c.isDigit = true → digitValue c < 10 ∧
      (digitValue c).digitChar = c) (by decide) (isDigit_narrow digit)
  exact all digit

theorem valueOf_concat (front : List Char) (d : Char) (digit : d.isDigit = true) :
    valueOf (front ++ [d]) = 10 * valueOf front + digitValue d := by
  have value : digitValue d = d.toNat - '0'.toNat := by
    rw [digitValue, toNat_octet (isDigit_narrow digit)]
    rfl
  rw [valueOf, Nat.ofDigitChars_append, value]
  rfl

/-- Without a leading zero the digits are those of their value. -/
theorem toDigits_valueOf (digits : Digits ds) (leading : ds.head? = some '0' → ds = ['0']) :
    Nat.toDigits 10 (valueOf ds) = ds := by
  obtain ⟨some_digit, all⟩ := digits
  induction size : ds.length generalizing ds with
  | zero => exact absurd (List.eq_nil_of_length_eq_zero size) some_digit
  | succ n ih =>
    obtain ⟨front, d, rfl⟩ := (List.eq_nil_or_concat ds).resolve_left some_digit
    rw [List.concat_eq_append] at *
    rw [List.forall_mem_append, List.forall_mem_singleton] at all
    obtain ⟨small, written⟩ := digitChar_digitValue all.2
    have last : Nat.toDigits 10 (digitValue d) = [d] := by
      rw [Nat.toDigits_of_lt_base small, written]
    rw [valueOf_concat front d all.2]
    by_cases alone : front = []
    · have nothing : valueOf [] = 0 := rfl
      rw [alone, nothing, Nat.mul_zero, Nat.zero_add, List.nil_append]
      exact last
    · have no_zero : front.head? ≠ some '0' := by
        intro zero
        have whole := leading (by
          rw [List.head?_append, zero]
          rfl)
        have length := congrArg List.length whole
        rw [List.length_append] at length
        exact alone (List.eq_nil_of_length_eq_zero (by simpa using length))
      have same : Nat.toDigits 10 (valueOf front) = front :=
        ih (fun zero => absurd zero no_zero) alone all.1 (by simpa using size)
      have positive : 0 < valueOf front := by
        refine Nat.pos_of_ne_zero fun zero => no_zero ?_
        rw [← same, zero]
        rfl
      rw [← Nat.toDigits_append_toDigits (by decide) positive small, same, last]

def Tree.integer (n : Int) : Tree τ := .number (toString n).toList

theorem toString_natCast (n : Nat) : (toString (n : Int)).toList = Nat.toDigits 10 n := by
  rw [Int.toString_eq_repr, Int.repr_eq_if, if_pos (Int.natCast_nonneg n), Int.toNat_natCast,
    Nat.toList_repr]

theorem toString_neg {n : Nat} (positive : 0 < n) :
    (toString (-(n : Int))).toList = '-' :: Nat.toDigits 10 n := by
  have negative : ¬0 ≤ -(n : Int) := by omega
  rw [Int.toString_eq_repr, Int.repr_eq_if, if_neg negative, Int.neg_neg, Int.toNat_natCast,
    String.toList_append, Nat.toList_repr]
  rfl

/-- The integer that some digits give, perhaps behind a minus sign. -/
def integer? : List Char → Option Int
  | '-' :: ds => (digitsValue? ds).map fun n => -(n : Int)
  | ds => (digitsValue? ds).map fun n => (n : Int)

theorem digitsValue?_toDigits (n : Nat) : digitsValue? (Nat.toDigits 10 n) = some n :=
  digitsValue?_eq_some_iff.mpr ⟨Nat.toDigits_ne_nil,
    fun _ mem => Nat.isDigit_of_mem_toDigits (by decide) (by decide) mem,
    Nat.ofDigitChars_ten_toDigits⟩

theorem integer?_of_digits (digits : Digits ds) : integer? ds = some (valueOf ds : Int) := by
  obtain ⟨some_digit, all⟩ := digits
  unfold integer?
  split
  · exact absurd (all '-' List.mem_cons_self) (by decide)
  · rw [digitsValue?_eq_some_iff.mpr ⟨some_digit, all, rfl⟩]
    rfl

theorem integer?_toString (n : Int) : integer? (toString n).toList = some n := by
  cases n with
  | ofNat m =>
    have written := digitsValue?_eq_some_iff.mp (digitsValue?_toDigits m)
    rw [Int.ofNat_eq_natCast, toString_natCast, integer?_of_digits ⟨written.1, written.2.1⟩,
      valueOf, written.2.2]
  | negSucc m =>
    rw [Int.negSucc_eq, ← Int.natCast_add_one, toString_neg m.succ_pos, integer?,
      digitsValue?_toDigits]
    rfl

/-- The integer of 64 bits that a tree is, if it is written as integers are. -/
def Tree.int64? : Tree τ → Option Int
  | .number cs => (integer? cs).filter fun n =>
      (toString n).toList = cs ∧ -2 ^ 63 ≤ n ∧ n ≤ 2 ^ 63 - 1
  | _ => none

theorem Tree.int64?_eq_some_iff {t : Tree τ} {n : Int} :
    t.int64? = some n ↔ t = .integer n ∧ -2 ^ 63 ≤ n ∧ n ≤ 2 ^ 63 - 1 := by
  cases t with
  | number cs =>
    simp only [int64?, integer, Option.filter_eq_some_iff, decide_eq_true_eq, Tree.number.injEq]
    constructor
    · rintro ⟨_, rfl, range⟩
      exact ⟨rfl, range⟩
    · rintro ⟨rfl, range⟩
      exact ⟨integer?_toString n, rfl, range⟩
  | _ => simp [int64?, integer]

theorem le_foldl_digits (n : Nat) (ds : List Nat) :
    n ≤ ds.foldl (fun n d => n * 10 + d) n := by
  induction ds generalizing n with
  | nil => exact Nat.le_refl n
  | cons d ds ih => exact Nat.le_trans (by omega) (ih (n * 10 + d))

theorem appendDigits_cases (n : Nat) (ds : List Nat) (small : n < 2 ^ 64) :
    (ds.foldl (fun n d => n * 10 + d) n < 2 ^ 64 ∧
      appendDigits n ds = (ds.foldl (fun n d => n * 10 + d) n, [])) ∨
      2 ^ 64 ≤ ds.foldl (fun n d => n * 10 + d) n ∧ (appendDigits n ds).2.isEmpty = false := by
  induction ds generalizing n with
  | nil => exact .inl ⟨small, rfl⟩
  | cons d ds ih =>
    rw [appendDigits]
    split
    next fits => exact ih (n * 10 + d) fits
    next large =>
      have le := le_foldl_digits (n * 10 + d) ds
      exact .inr ⟨Nat.le_trans (Nat.not_lt.mp large) le, rfl⟩

/-- Digits are left over just if their value does not fit 64 bits. -/
theorem appendDigits_zero (ds : List Nat) :
    (ofDigits ds < 2 ^ 64 ∧ appendDigits 0 ds = (ofDigits ds, [])) ∨
      2 ^ 64 ≤ ofDigits ds ∧ (appendDigits 0 ds).2.isEmpty = false :=
  appendDigits_cases 0 ds (by decide)

/-- What follows the digits of a number that is read. -/
def numberBehind (negative : Bool) (ds : List Nat) (s : Bytes) : Except Error (Number × Bytes) :=
  let (n, dropped) := appendDigits 0 ds
  match s with
  | 0x2E :: r => fraction negative n dropped.length r
  | 0x65 :: r => exponent negative n dropped.length r
  | 0x45 :: r => exponent negative n dropped.length r
  | _ =>
    if dropped.isEmpty && !negative then .ok (.integer n, s)
    else if dropped.isEmpty && decide (0 < n) && decide (n ≤ 2 ^ 63) then .ok (.integer (-n), s)
    else signed negative n dropped.length s

theorem number_digits {negative : Bool} {values : List Nat} {left : Bytes}
    (found : digits s = (values, left)) (some_digit : values ≠ [])
    (leading : ∀ d ds', values ≠ 0 :: d :: ds') :
    number negative s = numberBehind negative values left := by
  unfold number
  rw [found]
  split
  next none_found => exact absurd (Prod.mk.inj none_found).1 some_digit
  next none_found => exact absurd (Prod.mk.inj none_found).1 some_digit
  next zero_found => exact absurd (Prod.mk.inj zero_found).1 (leading _ _)
  next same =>
    cases same
    rfl

def IsFloat (answer : Except Error (Number × Bytes)) : Prop := ∀ n r, answer ≠ .ok (.integer n, r)

theorem signed_isFloat (negative : Bool) (n : Nat) (e : Int) (s : Bytes) :
    IsFloat (signed negative n e s) := by
  intro m r same
  unfold signed at same
  split at same <;> cases same

theorem exponent_isFloat (negative : Bool) (n : Nat) (e : Int) (s : Bytes) :
    IsFloat (exponent negative n e s) := by
  intro m r same
  unfold exponent at same
  split at same
  split at same
  · cases same
  · cases same
  · exact signed_isFloat _ _ _ _ m r same

theorem fraction_isFloat (negative : Bool) (n : Nat) (e : Int) (s : Bytes) :
    IsFloat (fraction negative n e s) := by
  intro m r same
  unfold fraction at same
  split at same
  · cases same
  · cases same
  · split at same
    split at same
    · exact exponent_isFloat _ _ _ _ m r same
    · exact exponent_isFloat _ _ _ _ m r same
    · exact signed_isFloat _ _ _ _ m r same

section Spelled

variable {sign whole fraction exponent : List Char}

/-- With a fraction or an exponent a number is no integer. -/
theorem numberBehind_isFloat {negative : Bool} {values : List Nat} (broken : Fraction fraction)
    (scaled : Exponent exponent) (more : ¬(fraction = [] ∧ exponent = [])) (rest : List Char) :
    IsFloat (numberBehind negative values (utf8 (fraction ++ (exponent ++ rest)))) := by
  cases broken with
  | digits number =>
    rw [List.cons_append, utf8_cons_ascii (by decide)]
    exact fraction_isFloat _ _ _ _
  | none =>
    cases scaled with
    | none => exact absurd ⟨rfl, rfl⟩ more
    | digits letter signed number =>
      rw [List.nil_append, List.cons_append]
      simp only [List.mem_cons, List.not_mem_nil, or_false] at letter
      rcases letter with rfl | rfl
      · rw [utf8_cons_ascii (by decide)]
        exact exponent_isFloat _ _ _ _
      · rw [utf8_cons_ascii (by decide)]
        exact exponent_isFloat _ _ _ _

theorem numberBehind_last {negative : Bool} {values : List Nat} (ends : Ends rest) :
    numberBehind negative values (utf8 rest) =
      if (appendDigits 0 values).2.isEmpty && !negative then
        .ok (.integer (appendDigits 0 values).1, utf8 rest)
      else if (appendDigits 0 values).2.isEmpty && decide (0 < (appendDigits 0 values).1) &&
          decide ((appendDigits 0 values).1 ≤ 2 ^ 63) then
        .ok (.integer (-(appendDigits 0 values).1), utf8 rest)
      else signed negative (appendDigits 0 values).1 (appendDigits 0 values).2.length
        (utf8 rest) := by
  simp only [numberBehind]
  split
  next at_dot => exact absurd at_dot (ends.other (c := '.') (by decide) (by simp) _)
  next at_e => exact absurd at_e (ends.other (c := 'e') (by decide) (by simp) _)
  next at_e => exact absurd at_e (ends.other (c := 'E') (by decide) (by simp) _)
  next => rfl

/-- The integer that a number without fraction and exponent is read as: none if it is too large or a
negative zero. -/
def integerOf? (negative : Bool) (n : Nat) : Option Int :=
  if negative then if 0 < n ∧ n ≤ 2 ^ 63 then some (-n) else none
  else if n < 2 ^ 64 then some n else none

theorem numberBehind_ends (negative : Bool) (values : List Nat) (ends : Ends rest) :
    match integerOf? negative (ofDigits values) with
    | some n => numberBehind negative values (utf8 rest) = .ok (.integer n, utf8 rest)
    | none => IsFloat (numberBehind negative values (utf8 rest)) := by
  rw [numberBehind_last ends]
  rcases appendDigits_zero values with ⟨small, kept⟩ | ⟨large, dropped⟩
  · simp only [kept, List.isEmpty_nil, Bool.true_and, Bool.and_eq_true, decide_eq_true_eq]
    cases negative with
    | false =>
      rw [integerOf?, if_neg Bool.false_ne_true, if_pos small]
      rfl
    | true =>
      rw [integerOf?, if_pos rfl]
      by_cases range : 0 < ofDigits values ∧ ofDigits values ≤ 2 ^ 63
      · rw [if_pos range, if_pos range]
        rfl
      · rw [if_neg range, if_neg range]
        exact signed_isFloat _ _ _ _
  · have double : integerOf? negative (ofDigits values) = none := by
      have beyond : ¬(0 < ofDigits values ∧ ofDigits values ≤ 2 ^ 63) := by omega
      rw [integerOf?, if_neg beyond, if_neg (Nat.not_lt.mpr large), ite_self]
    rw [double]
    simp only [dropped, Bool.false_and, Bool.false_eq_true, if_false]
    exact signed_isFloat _ _ _ _

theorem number_spelled (form : Numeral sign whole fraction exponent) (ends : Ends rest)
    (negative : Bool) :
    number negative (utf8 (whole ++ (fraction ++ (exponent ++ rest)))) =
      numberBehind negative (whole.map digitValue) (utf8 (fraction ++ (exponent ++ rest))) :=
  number_digits (digits_spelled form.digits.2 (form.broken.stop form.scaled ends)) form.values.1
    form.values.2

/-- Signed digits are an integer as it is written just if the scanner takes them for it. -/
theorem eq_toString_iff (form : Numeral sign whole [] []) {n : Int}
    (range : -2 ^ 63 ≤ n ∧ n ≤ 2 ^ 63 - 1) :
    sign ++ whole = (toString n).toList ↔ integerOf? (sign == ['-']) (valueOf whole) = some n := by
  have written := toDigits_valueOf form.digits form.leading
  have signed := form.signed
  simp only [List.mem_cons, List.not_mem_nil, or_false] at signed
  rcases signed with rfl | rfl
  · rw [List.nil_append, integerOf?, if_neg (by decide)]
    constructor
    · intro same
      have value : some (valueOf whole : Int) = some n := by
        rw [← integer?_of_digits form.digits, same, integer?_toString]
      have small := Option.some.inj value
      rw [if_pos (by omega), value]
    · intro taken
      split at taken
      · rw [← Option.some.inj taken, toString_natCast, written]
      · cases taken
  · rw [List.singleton_append, integerOf?, if_pos (by decide)]
    constructor
    · intro same
      have value : integer? ('-' :: whole) = some (-(valueOf whole : Int)) := by
        rw [integer?, digitsValue?_eq_some_iff.mpr ⟨form.digits.1, form.digits.2, rfl⟩]
        rfl
      have negated : n = -(valueOf whole : Int) := by
        rw [same, integer?_toString] at value
        exact Option.some.inj value
      have positive : valueOf whole ≠ 0 := by
        intro zero
        rw [negated, zero] at same
        cases same
      rw [if_pos (by omega), negated]
    · intro taken
      split at taken
      · rename_i positive
        rw [← Option.some.inj taken, toString_neg positive.1, written]
      · cases taken

theorem int64?_whole (form : Numeral sign whole [] []) :
    Tree.int64? (.number (sign ++ whole) : Tree τ) =
      (integerOf? (sign == ['-']) (valueOf whole)).filter fun n =>
        -2 ^ 63 ≤ n ∧ n ≤ 2 ^ 63 - 1 := by
  refine Option.ext fun n => ?_
  rw [Tree.int64?_eq_some_iff, Tree.integer, Tree.number.injEq, Option.filter_eq_some_iff,
    decide_eq_true_eq]
  exact and_congr_left fun range => eq_toString_iff form range

theorem mem_toString {n : Int} {c : Char} (mem : c ∈ (toString n).toList) :
    c = '-' ∨ c.isDigit = true := by
  have digit {m : Nat} (mem : c ∈ Nat.toDigits 10 m) : c.isDigit = true :=
    Nat.isDigit_of_mem_toDigits (by decide) (by decide) mem
  cases n with
  | ofNat m =>
    rw [Int.ofNat_eq_natCast, toString_natCast] at mem
    exact .inr (digit mem)
  | negSucc m =>
    rw [Int.negSucc_eq, ← Int.natCast_add_one, toString_neg m.succ_pos, List.mem_cons] at mem
    exact mem.imp id digit

/-- With a fraction or an exponent it is not written as integers are. -/
theorem ne_toString (broken : Fraction fraction) (scaled : Exponent exponent)
    (more : ¬(fraction = [] ∧ exponent = [])) (n : Int) :
    sign ++ (whole ++ (fraction ++ exponent)) ≠ (toString n).toList := by
  intro same
  have mark : ∃ c ∈ fraction ++ exponent, ¬(c = '-' ∨ c.isDigit = true) := by
    cases broken with
    | digits number => exact ⟨'.', by simp, by decide⟩
    | none =>
      cases scaled with
      | none => exact absurd ⟨rfl, rfl⟩ more
      | @digits e _ _ letter _ _ =>
        refine ⟨e, by simp, ?_⟩
        simp only [List.mem_cons, List.not_mem_nil, or_false] at letter
        rcases letter with rfl | rfl <;> decide
  obtain ⟨c, mem, other⟩ := mark
  refine other (mem_toString (n := n) ?_)
  rw [← same]
  exact List.mem_append_right _ (List.mem_append_right _ mem)

end Spelled

section Integers

variable {low high : Int} {expected : String}

/-- What becomes of a number where an integer is expected. -/
def acceptInteger (low high : Int) (expected : String) :
    Except Error (Number × Bytes) → Except Error (Int × Bytes)
  | .error e => .error e
  | .ok (.float x, _) => .error (.wrongType (.float (floatText x)) expected)
  | .ok (.integer n, rest) =>
    if low ≤ n ∧ n ≤ high then .ok (n, rest) else .error (.wrongInteger n expected)

theorem readInteger_minus (found : skipSpace s = 0x2D :: r) :
    readInteger low high expected s = acceptInteger low high expected (number true r) := by
  simp only [readInteger, found, beq_self_eq_true, if_true]
  rcases number true r with e | ⟨n | x, rest⟩ <;> rfl

theorem readInteger_digit {b : UInt8} (found : skipSpace s = b :: r) (digit : isDigit b = true) :
    readInteger low high expected s = acceptInteger low high expected (number false (b :: r)) := by
  have sign : (b == 0x2D) = false := by
    refine beq_eq_false_iff_ne.mpr fun minus => ?_
    rw [minus] at digit
    cases digit
  simp only [readInteger, found, sign, digit, Bool.false_eq_true, if_false, if_true]
  rcases number false (b :: r) with e | ⟨n | x, rest⟩ <;> rfl

theorem readInteger_other {b : UInt8} (found : skipSpace s = b :: r) (sign : b ≠ 0x2D)
    (digit : isDigit b = false) : (readInteger low high expected s).toOption = none := by
  have sign : (b == 0x2D) = false := beq_eq_false_iff_ne.mpr sign
  simp only [readInteger, found, sign, digit, Bool.false_eq_true, if_false]
  exact wrongType_fails _ _

theorem acceptInteger_isFloat {answer : Except Error (Number × Bytes)} (float : IsFloat answer) :
    (acceptInteger low high expected answer).toOption = none := by
  rcases answer with e | ⟨n | x, rest⟩
  · rfl
  · exact absurd rfl (float n rest)
  · rfl

theorem acceptInteger_integer (n : Int) (s : Bytes) :
    (acceptInteger low high expected (.ok (.integer n, s))).toOption =
      if low ≤ n ∧ n ≤ high then some (n, s) else none := by
  rw [acceptInteger]
  split <;> rfl

theorem acceptInteger_spelled {sign whole fraction exponent : List Char}
    (form : Numeral sign whole fraction exponent) (ends : Ends rest) :
    (acceptInteger (-2 ^ 63) (2 ^ 63 - 1) expected
        (number (sign == ['-']) (utf8 (whole ++ (fraction ++ (exponent ++ rest)))))).toOption =
      (Tree.int64? (.number (sign ++ (whole ++ (fraction ++ exponent))) : Tree τ)).map
        fun n => (n, utf8 rest) := by
  rw [number_spelled form ends]
  by_cases plain : fraction = [] ∧ exponent = []
  · obtain ⟨rfl, rfl⟩ := plain
    have read := numberBehind_ends (sign == ['-']) (whole.map digitValue) ends
    rw [ofDigits_digitValue form.digits.2] at read
    simp only [List.append_nil, List.nil_append]
    rw [int64?_whole form]
    cases found : integerOf? (sign == ['-']) (valueOf whole) with
    | none =>
      rw [found] at read
      exact acceptInteger_isFloat read
    | some m =>
      rw [found] at read
      simp only [read]
      rw [acceptInteger_integer, Option.filter_some]
      by_cases range : -2 ^ 63 ≤ m ∧ m ≤ 2 ^ 63 - 1
      · rw [if_pos range, if_pos (decide_eq_true range)]
        rfl
      · rw [if_neg range, if_neg (by simpa using range)]
        rfl
  · have no_integer : Tree.int64? (.number (sign ++ (whole ++ (fraction ++ exponent))) : Tree τ) =
        none := by
      refine Option.eq_none_iff_forall_ne_some.mpr fun n found => ?_
      have same := (Tree.int64?_eq_some_iff.mp found).1
      exact ne_toString form.broken form.scaled plain n (Tree.number.inj same)
    rw [no_integer]
    exact acceptInteger_isFloat (numberBehind_isFloat form.broken form.scaled plain rest)

/-- Where an integer is expected, a spelled tree is read as the integer that it is. -/
theorem readInteger_spelled [Reading τ] {t : Tree τ} {cs' : List Char} (blanks : Blanks cs cs')
    (h : Spells Reading.named (.value t) cs' rest) (ends : Ends rest) :
    (readInteger (-2 ^ 63) (2 ^ 63 - 1) expected (utf8 cs)).toOption =
      t.int64?.map fun n => (n, utf8 rest) := by
  obtain ⟨c, left, rfl, ascii, found⟩ := h.found blanks
  have other (digit : c.isDigit = false) (minus : c ≠ '-') :
      (readInteger (-2 ^ 63) (2 ^ 63 - 1) expected (utf8 cs)).toOption = none := by
    refine readInteger_other found (fun same => minus (octet_inj ascii (by decide) same)) ?_
    rw [isDigit_tests.ascii c ascii, digit]
  generalize start : c :: left = cs₀ at h
  cases h with
  | null | yes | no | text _ | list _ | object _ =>
    injection start with same _
    subst same
    exact other (by decide) (by decide)
  | @number sign whole fraction exponent _ form =>
    have signed := form.signed
    simp only [List.mem_cons, List.not_mem_nil, or_false] at signed
    rcases signed with rfl | rfl
    · have digit : c.isDigit = true := by
        obtain ⟨some_digit, all⟩ := form.digits
        cases whole with
        | nil => exact absurd rfl some_digit
        | cons d ds =>
          injection start with same _
          exact same ▸ all d List.mem_cons_self
      have at_digit : isDigit (octet c) = true := by rw [isDigit_tests.ascii c ascii, digit]
      rw [readInteger_digit found at_digit, ← utf8_cons_ascii ascii, start]
      exact acceptInteger_spelled form ends
    · injection start with same behind
      subst same behind
      rw [readInteger_minus found]
      exact acceptInteger_spelled form ends

end Integers

def Codec.Meaning.int64 [Reading τ] : Codec.int64.Meaning τ where
  value := Tree.int64?
  Known _ := True
  reads _ blanks h ends := readInteger_spelled blanks h ends

theorem signed_eq_ok {negative : Bool} {n : Nat} {e : Int} {x : Number}
    (h : signed negative n e s = .ok (x, r)) : s = r := by
  unfold signed at h
  split at h <;> cases h
  rfl

/-- What is neither the end of the text nor something else than a digit is a digit. -/
theorem some_digit_of_found {values : List Nat} {left : Bytes}
    (ended : values = [] → left = [] → False)
    (other : ∀ b r, values = [] → left = b :: r → False) : values ≠ [] := by
  intro none
  cases left with
  | nil => exact ended none rfl
  | cons b r => exact other b r none rfl

theorem exponent_eq_ok {negative : Bool} {n : Nat} {e : Int} {x : Number}
    (h : exponent negative n e s = .ok (x, r)) : skipExponent s = .ok r := by
  unfold exponent at h
  split at h
  next down s' at_sign =>
    split at h
    · cases h
    · cases h
    next values left ended other found =>
      obtain rfl := signed_eq_ok h
      have some_digit := some_digit_of_found ended other
      cases values with
      | nil => exact absurd rfl some_digit
      | cons d ds =>
        obtain ⟨plain, plus, minus⟩ := skipExponent_digits found
        split at at_sign <;> cases at_sign
        · exact plus
        · exact minus
        · exact plain

theorem fraction_eq_ok {negative : Bool} {n : Nat} {e : Int} {x : Number}
    (h : fraction negative n e s = .ok (x, r)) : skipFraction (0x2E :: s) = .ok r := by
  unfold fraction at h
  split at h
  · cases h
  · cases h
  next values left ended other found =>
    have some_digit := some_digit_of_found ended other
    have behind : skipScale left = .ok r := by
      split at h
      split at h
      · exact exponent_eq_ok h
      · exact exponent_eq_ok h
      next lower upper =>
        obtain rfl := signed_eq_ok h
        exact skipScale_other lower upper
    cases values with
    | nil => exact absurd rfl some_digit
    | cons d ds =>
      rw [skipFraction, found]
      exact behind

theorem number_eq_ok {negative : Bool} {x : Number} (h : number negative s = .ok (x, r)) :
    skipNumber s = .ok r := by
  unfold number at h
  split at h
  · cases h
  · cases h
  · cases h
  next values left ended other leading found =>
    rw [skipNumber_digits found (some_digit_of_found ended other) leading]
    split at h
    split at h
    · exact fraction_eq_ok h
    · exact exponent_eq_ok h
    · exact exponent_eq_ok h
    next dot lower upper =>
      have kept : left = r := by
        split at h
        · cases h
          rfl
        split at h
        · cases h
          rfl
        · exact signed_eq_ok h
      rw [skipFraction_other dot, skipScale_other lower upper, kept]

theorem acceptInteger_eq_ok {low high : Int} {expected : String} {n : Int}
    {answer : Except Error (Number × Bytes)}
    (h : acceptInteger low high expected answer = .ok (n, r)) : answer = .ok (.integer n, r) := by
  unfold acceptInteger at h
  split at h
  · cases h
  · cases h
  · split at h <;> cases h
    rfl

theorem Codec.int64_strict : Codec.int64.Strict := by
  intro cs n r h
  change readInteger _ _ _ _ = _ at h
  cases found : skipSpace (utf8 cs) with
  | nil =>
    simp only [readInteger, found] at h
    cases h
  | cons b left =>
    by_cases minus : b = 0x2D
    · subst minus
      rw [readInteger_minus found] at h
      exact spells_of_skipScalar found (number_eq_ok (acceptInteger_eq_ok h))
    cases digit : isDigit b with
    | true =>
      rw [readInteger_digit found digit] at h
      refine spells_of_skipScalar found ?_
      rw [skipScalar_digit digit]
      exact number_eq_ok (acceptInteger_eq_ok h)
    | false =>
      have fails : (readInteger (-2 ^ 63) (2 ^ 63 - 1) "i64" (utf8 cs)).toOption = none :=
        readInteger_other found minus digit
      rw [h] at fails
      cases fails

end ImageWorker.Json
