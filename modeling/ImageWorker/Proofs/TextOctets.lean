import ImageWorker.Text.Bytes

/-!
# Texts as octets

A reader that goes over the UTF-8 octets of a text and stops at ASCII characters only goes over the
characters of the text: such a character is one octet, and every octet of another character is
above them. So what is found among the octets is found among the characters.
-/

namespace ImageWorker

def utf8 (cs : List Char) : Bytes := cs.flatMap String.utf8EncodeChar

theorem ofText_eq_utf8 (s : String) : Bytes.ofText s = utf8 s.toList := by
  have h : s.toByteArray = (utf8 s.toList).toByteArray := String.utf8Encode_toList.symm
  rw [Bytes.ofText, h, List.toList_data_toByteArray]

theorem text?_utf8 (s : String) : (utf8 s.toList).text? = some s := by
  rw [← ofText_eq_utf8, Bytes.text?_ofText]

@[simp] theorem utf8_nil : utf8 [] = [] := rfl

theorem utf8_cons (c : Char) (cs : List Char) :
    utf8 (c :: cs) = String.utf8EncodeChar c ++ utf8 cs := rfl

@[simp] theorem utf8_append (cs ds : List Char) : utf8 (cs ++ ds) = utf8 cs ++ utf8 ds :=
  List.flatMap_append

theorem length_le_utf8 (cs : List Char) : cs.length ≤ (utf8 cs).length := by
  induction cs with
  | nil => exact Nat.le_refl _
  | cons c cs ih =>
    have hc : 0 < (String.utf8EncodeChar c).length := by
      rw [String.length_utf8EncodeChar]
      exact c.utf8Size_pos
    rw [utf8_cons, List.length_append, List.length_cons]
    omega

/-- The octet of an ASCII character. -/
def octet (c : Char) : UInt8 := UInt8.ofNat c.toNat

theorem encode_ascii {c : Char} (ascii : c.toNat < 0x80) : String.utf8EncodeChar c = [octet c] := by
  have h : c.val.toNat ≤ 127 := Nat.le_of_lt_succ ascii
  simp only [String.utf8EncodeChar, if_pos h]
  rfl

theorem utf8_cons_ascii {c : Char} (ascii : c.toNat < 0x80) (cs : List Char) :
    utf8 (c :: cs) = octet c :: utf8 cs := by rw [utf8_cons, encode_ascii ascii]; rfl

theorem toNat_octet {c : Char} (ascii : c.toNat < 0x80) : (octet c).toNat = c.toNat := by
  simp only [octet, UInt8.toNat_ofNat']
  omega

theorem octet_lt {c : Char} (ascii : c.toNat < 0x80) : octet c < 0x80 :=
  UInt8.lt_iff_toNat_lt.mpr (toNat_octet ascii ▸ ascii)

/-- Different ASCII characters have different octets. -/
theorem octet_inj {c d : Char} (hc : c.toNat < 0x80) (hd : d.toNat < 0x80) (h : octet c = octet d) :
    c = d := by
  have same : c.toNat = d.toNat := by rw [← toNat_octet hc, ← toNat_octet hd, h]
  exact Char.toNat_inj.mp same

theorem octet_ne {c d : Char} (hc : c.toNat < 0x80) (hd : d.toNat < 0x80) (differ : c ≠ d) :
    (octet c == octet d) = false :=
  beq_eq_false_iff_ne.mpr fun same => differ (octet_inj hc hd same)

/-- A character beyond ASCII has octets of which none is the octet of an ASCII character. -/
theorem encode_wide {c : Char} (wide : 0x80 ≤ c.toNat) :
    ∃ b bs, String.utf8EncodeChar c = b :: bs ∧ ∀ x ∈ b :: bs, 0x80 ≤ x := by
  have high (n m : Nat) (hn : 0x80 ≤ m) (hm : n + m < 0x100) : 0x80 ≤ UInt8.ofNat (n + m) := by
    rw [UInt8.le_iff_toNat_le, UInt8.toNat_ofNat']
    simp only [UInt8.reduceToNat]
    omega
  have h : ¬c.val.toNat ≤ 127 := Nat.not_le.mpr wide
  simp only [String.utf8EncodeChar, if_neg h]
  split
  · refine ⟨_, _, rfl, ?_⟩
    simp only [List.forall_mem_cons, List.not_mem_nil, false_imp_iff, implies_true, and_true]
    exact ⟨high _ _ (by omega) (by omega), high _ _ (by omega) (by omega)⟩
  split
  · refine ⟨_, _, rfl, ?_⟩
    simp only [List.forall_mem_cons, List.not_mem_nil, false_imp_iff, implies_true, and_true]
    exact ⟨high _ _ (by omega) (by omega), high _ _ (by omega) (by omega),
      high _ _ (by omega) (by omega)⟩
  · refine ⟨_, _, rfl, ?_⟩
    simp only [List.forall_mem_cons, List.not_mem_nil, false_imp_iff, implies_true, and_true]
    exact ⟨high _ _ (by omega) (by omega), high _ _ (by omega) (by omega),
      high _ _ (by omega) (by omega), high _ _ (by omega) (by omega)⟩

/-- An ASCII octet at the front is the first character. -/
theorem exists_of_utf8_eq_cons {cs : List Char} {b : UInt8} {r : Bytes} (h : utf8 cs = b :: r)
    (ascii : b < 0x80) : ∃ c cs', cs = c :: cs' ∧ c.toNat < 0x80 ∧ b = octet c ∧ r = utf8 cs' := by
  cases cs with
  | nil => cases h
  | cons c cs =>
    by_cases hc : c.toNat < 0x80
    · rw [utf8_cons_ascii hc] at h
      injection h with hb hr
      exact ⟨c, cs, rfl, hc, hb.symm, hr.symm⟩
    · obtain ⟨b', bs, encoded, high⟩ := encode_wide (Nat.le_of_not_lt hc)
      rw [utf8_cons, encoded] at h
      injection h with hb _
      have hb' : 0x80 ≤ b' := high b' List.mem_cons_self
      exact absurd (hb ▸ hb') (UInt8.not_le.mpr ascii)

theorem utf8_eq_cons_iff {c : Char} (ascii : c.toNat < 0x80) {cs : List Char} {r : Bytes} :
    utf8 cs = octet c :: r ↔ ∃ cs', cs = c :: cs' ∧ r = utf8 cs' := by
  constructor
  · intro h
    obtain ⟨d, cs', rfl, hd, same, rfl⟩ := exists_of_utf8_eq_cons h (octet_lt ascii)
    exact ⟨cs', by rw [octet_inj ascii hd same], rfl⟩
  · rintro ⟨cs', rfl, rfl⟩
    exact utf8_cons_ascii ascii cs'

/-- A test of octets that holds for the ASCII characters of a test of characters and no others. -/
structure Tests (p : UInt8 → Bool) (q : Char → Bool) : Prop where
  ascii : ∀ c : Char, c.toNat < 0x80 → p (octet c) = q c
  wide : ∀ b : UInt8, 0x80 ≤ b → p b = false
  narrow : ∀ c : Char, q c = true → c.toNat < 0x80

namespace Tests

variable {p : UInt8 → Bool} {q : Char → Bool}

/-- The octets of a text at which the test fails first are those of its first character that
fails. -/
theorem span (h : Tests p q) (cs : List Char) :
    (utf8 cs).takeWhile p = (cs.takeWhile q).map octet ∧
      (utf8 cs).dropWhile p = utf8 (cs.dropWhile q) := by
  induction cs with
  | nil => exact ⟨rfl, rfl⟩
  | cons c cs ih =>
    by_cases hc : c.toNat < 0x80
    · rw [utf8_cons_ascii hc, List.takeWhile_cons, List.dropWhile_cons, List.takeWhile_cons,
        List.dropWhile_cons, h.ascii c hc]
      cases q c
      · exact ⟨rfl, (utf8_cons_ascii hc cs).symm⟩
      · simpa using ih
    · obtain ⟨b, bs, encoded, high⟩ := encode_wide (Nat.le_of_not_lt hc)
      have fails : q c = false := Bool.eq_false_iff.mpr fun hq => hc (h.narrow c hq)
      have stops : p b = false := h.wide b (high b List.mem_cons_self)
      rw [utf8_cons, encoded, List.takeWhile_cons, List.dropWhile_cons, fails]
      simp [stops, utf8_cons, encoded]

end Tests

end ImageWorker
