/-!
# Blank characters

Names, counts and identifiers are compared after blanks around them are cut off. Blank are the
characters with the Unicode property `White_Space`.
-/

namespace ImageWorker

/-- The characters with the Unicode property `White_Space`. -/
def isBlank (c : Char) : Bool :=
  (9 ≤ c.val && c.val ≤ 13) || c.val == 0x20 || c.val == 0x85 || c.val == 0xA0 ||
  c.val == 0x1680 || (0x2000 ≤ c.val && c.val ≤ 0x200A) || c.val == 0x2028 || c.val == 0x2029 ||
  c.val == 0x202F || c.val == 0x205F || c.val == 0x3000

def trimBlanks (cs : List Char) : List Char :=
  ((cs.dropWhile isBlank).reverse.dropWhile isBlank).reverse

def trimmed (s : String) : String := String.ofList (trimBlanks s.toList)

def isAllBlank (s : String) : Bool := s.toList.all isBlank

theorem trimBlanks_of_all {cs : List Char} (h : cs.all isBlank = true) : trimBlanks cs = [] := by
  have : cs.dropWhile isBlank = [] := by
    induction cs with
    | nil => rfl
    | cons c r ih =>
      simp only [List.all_cons, Bool.and_eq_true] at h
      simp [h.1, ih h.2]
  simp [trimBlanks, this]

/-- Neither end of a text is blank. -/
structure IsTrim (cs : List Char) : Prop where
  first : ∀ c ∈ cs.head?, isBlank c = false
  last : ∀ c ∈ cs.getLast?, isBlank c = false

/-- What is left of a text without the blanks around it. -/
def Trims (cs t : List Char) : Prop :=
  ∃ before after, before.all isBlank = true ∧ after.all isBlank = true ∧
    cs = before ++ t ++ after ∧ IsTrim t

theorem dropWhile_isBlank {cs : List Char} (first : ∀ c ∈ cs.head?, isBlank c = false) :
    cs.dropWhile isBlank = cs := by
  cases cs with
  | nil => rfl
  | cons c cs => simp [first c rfl]

theorem dropWhile_isBlank_append {before : List Char} (blank : before.all isBlank = true)
    (cs : List Char) : (before ++ cs).dropWhile isBlank = cs.dropWhile isBlank :=
  List.dropWhile_append_of_pos (List.all_eq_true.mp blank)

theorem trimBlanks_eq {cs t : List Char} (h : Trims cs t) : trimBlanks cs = t := by
  obtain ⟨before, after, blank, blank', rfl, trim⟩ := h
  by_cases nothing : t = []
  · subst nothing
    apply trimBlanks_of_all
    simp [blank, blank']
  have start : ∀ c ∈ (t ++ after).head?, isBlank c = false := by
    intro c found
    apply trim.first c
    rwa [List.head?_append, Option.or_of_isSome (by simpa using nothing)] at found
  have stop : ∀ c ∈ t.reverse.head?, isBlank c = false := by
    rw [List.head?_reverse]
    exact trim.last
  have blank_reverse : after.reverse.all isBlank = true := by simpa using blank'
  rw [trimBlanks, List.append_assoc, dropWhile_isBlank_append blank, dropWhile_isBlank start,
    List.reverse_append, dropWhile_isBlank_append blank_reverse, dropWhile_isBlank stop,
    List.reverse_reverse]

theorem head?_dropWhile_isBlank (cs : List Char) :
    ∀ c ∈ (cs.dropWhile isBlank).head?, isBlank c = false := by
  intro c found
  have black := List.head?_dropWhile_not isBlank cs
  rw [Option.mem_def.mp found] at black
  exact black

theorem trims_trimBlanks (cs : List Char) : Trims cs (trimBlanks cs) := by
  have whole : cs.dropWhile isBlank = trimBlanks cs ++
      ((cs.dropWhile isBlank).reverse.takeWhile isBlank).reverse := by
    rw [trimBlanks, ← List.reverse_append, List.takeWhile_append_dropWhile, List.reverse_reverse]
  refine ⟨cs.takeWhile isBlank, ((cs.dropWhile isBlank).reverse.takeWhile isBlank).reverse,
    List.all_takeWhile, ?_, ?_, ?_, ?_⟩
  · simp only [List.all_reverse, List.all_takeWhile]
  · rw [List.append_assoc, ← whole, List.takeWhile_append_dropWhile]
  · intro c found
    apply head?_dropWhile_isBlank cs c
    rw [whole, List.head?_append, Option.mem_def.mp found]
    rfl
  · intro c found
    rw [trimBlanks, List.getLast?_reverse] at found
    exact head?_dropWhile_isBlank _ c found

/-- Blanks around a text do not change what is left of it without them. -/
theorem trimBlanks_between {before after : List Char} (blank : before.all isBlank = true)
    (blank' : after.all isBlank = true) (cs : List Char) :
    trimBlanks (before ++ cs ++ after) = trimBlanks cs := by
  obtain ⟨left, right, blank_left, blank_right, whole, trim⟩ := trims_trimBlanks cs
  apply trimBlanks_eq
  refine ⟨before ++ left, right ++ after, ?_, ?_, ?_, trim⟩
  · simp [blank, blank_left]
  · simp [blank', blank_right]
  · generalize trimBlanks cs = t at whole
    simp [whole]

theorem trimBlanks_eq_nil_iff {cs : List Char} :
    trimBlanks cs = [] ↔ cs.all isBlank = true := by
  constructor
  · intro nothing
    obtain ⟨before, after, blank, blank', whole, _⟩ := trims_trimBlanks cs
    rw [nothing] at whole
    simp [whole, blank, blank']
  · exact trimBlanks_of_all

theorem isBlank_of_isDigit {c : Char} (digit : c.isDigit = true) : isBlank c = false := by
  have all : ∀ n < 58, 48 ≤ n → isBlank (Char.ofNat n) = false := by decide
  simp only [Char.isDigit, Bool.and_eq_true, decide_eq_true_eq] at digit
  have low : 48 ≤ c.toNat := UInt32.le_iff_toNat_le.mp digit.1
  have high : c.toNat ≤ 57 := UInt32.le_iff_toNat_le.mp digit.2
  simpa using all c.toNat (by omega) low

end ImageWorker
