import ImageWorker.Json.Skip
import ImageWorker.Proofs.JsonGrammar
import ImageWorker.Proofs.JsonStrings

/-!
# Scanners and the grammar

The scanners below values, over the octets of a text, against the grammar over its characters. What
is spelled at the front is scanned, up to where its spelling ends; and where a scanner gets
through, it has gone over a spelling.
-/

namespace ImageWorker.Json

variable {cs rest : List Char} {r : Bytes}

/-- What holds of the first 128 code points holds of every ASCII character. -/
theorem forall_ascii {P : Char → Prop} (h : ∀ n < 0x80, P (Char.ofNat n)) {c : Char}
    (ascii : c.toNat < 0x80) : P c := Char.ofNat_toNat c ▸ h c.toNat ascii

theorem isSpace_tests : Tests isSpace isWhite where
  ascii _ h := forall_ascii (P := fun c => isSpace (octet c) = isWhite c) (by decide) h
  wide b h := by
    have differ (c : UInt8) (hc : c < 0x80) : b ≠ c :=
      fun hb => absurd (hb ▸ h) (UInt8.not_le.mpr hc)
    simp [isSpace, differ]
  narrow c h := by
    simp only [isWhite, Bool.or_eq_true, beq_iff_eq] at h
    rcases h with ((rfl | rfl) | rfl) | rfl <;> decide

theorem skipSpace_utf8 (cs : List Char) : skipSpace (utf8 cs) = utf8 (cs.dropWhile isWhite) :=
  (isSpace_tests.span cs).2

theorem Blanks.refl (cs : List Char) : Blanks cs cs := ⟨[], by simp, rfl⟩

theorem blanks_dropWhile (cs : List Char) : Blanks cs (cs.dropWhile isWhite) :=
  ⟨cs.takeWhile isWhite, List.all_eq_true.mp List.all_takeWhile,
    List.takeWhile_append_dropWhile.symm⟩

theorem Blanks.length_le (h : Blanks cs rest) : rest.length ≤ cs.length := by
  obtain ⟨ws, _, rfl⟩ := h
  simp

theorem Separated.length_le {first : Bool} (h : Separated first cs rest) :
    rest.length ≤ cs.length := by
  cases h with
  | first blanks => exact blanks.length_le
  | comma comma blanks =>
    have less := comma.length_le
    have less' := blanks.length_le
    rw [List.length_cons] at less
    omega

theorem Blanks.dropWhile {c : Char} (h : Blanks cs (c :: rest)) (black : isWhite c = false) :
    cs.dropWhile isWhite = c :: rest := by
  obtain ⟨ws, white, rfl⟩ := h
  rw [List.dropWhile_append_of_pos white, List.dropWhile_cons, black]
  rfl

/-- Blanks are skipped up to a character that is none. -/
theorem skipSpace_of_blanks {c : Char} (h : Blanks cs (c :: rest)) (black : isWhite c = false) :
    skipSpace (utf8 cs) = utf8 (c :: rest) := by rw [skipSpace_utf8, h.dropWhile black]

/-- Where the octet of an ASCII character is left after blanks, that character stands there. -/
theorem exists_of_skipSpace {b : UInt8} (h : skipSpace (utf8 cs) = b :: r) (ascii : b < 0x80) :
    ∃ c cs', Blanks cs (c :: cs') ∧ c.toNat < 0x80 ∧ b = octet c ∧ r = utf8 cs' := by
  rw [skipSpace_utf8] at h
  obtain ⟨c, cs', at_c, hc, hb, hr⟩ := exists_of_utf8_eq_cons h ascii
  exact ⟨c, cs', at_c ▸ blanks_dropWhile cs, hc, hb, hr⟩

theorem blanks_of_skipSpace {c : Char} (ascii : c.toNat < 0x80)
    (h : skipSpace (utf8 cs) = octet c :: r) : ∃ cs', Blanks cs (c :: cs') ∧ r = utf8 cs' := by
  rw [skipSpace_utf8] at h
  obtain ⟨cs', at_c, hr⟩ := (utf8_eq_cons_iff ascii).mp h
  exact ⟨cs', at_c ▸ blanks_dropWhile cs, hr⟩

/-- Where a scanner finds the octet of a character, the character stands behind the blanks. -/
theorem blanks_of_found {c : Char} {b : UInt8} (ascii : c.toNat < 0x80)
    (same : (b == octet c) = true) (found : skipSpace (utf8 cs) = b :: r) :
    ∃ cs', Blanks cs (c :: cs') ∧ r = utf8 cs' := by
  rw [eq_of_beq same] at found
  exact blanks_of_skipSpace ascii found

theorem hexValue?_octet {c : Char} (ascii : c.toNat < 0x80) : hexValue? (octet c) = hexDigit? c :=
  forall_ascii (P := fun c => hexValue? (octet c) = hexDigit? c) (by decide) ascii

theorem hexDigit?_ascii {c : Char} {n : Nat} (h : hexDigit? c = some n) : c.toNat < 0x80 := by
  have below {d : Char} (hd : d.toNat < 0x80) (hc : c ≤ d) : c.toNat < 0x80 :=
    Nat.lt_of_le_of_lt hc hd
  unfold hexDigit? at h
  split at h
  · rename_i hc
    exact below (by decide) hc.2
  split at h
  · rename_i hc
    exact below (by decide) hc.2
  split at h
  · rename_i hc
    exact below (by decide) hc.2
  · cases h

theorem hexValue?_ascii {b : UInt8} {n : Nat} (h : hexValue? b = some n) : b < 0x80 := by
  simp only [hexValue?, Bool.and_eq_true, decide_eq_true_eq] at h
  split at h
  · rename_i hb
    exact UInt8.lt_of_le_of_lt hb.2 (by decide)
  split at h
  · rename_i hb
    exact UInt8.lt_of_le_of_lt hb.2 (by decide)
  split at h
  · rename_i hb
    exact UInt8.lt_of_le_of_lt hb.2 (by decide)
  · cases h

theorem shortEscape?_octet {c : Char} (ascii : c.toNat < 0x80) :
    shortEscape? (octet c) = (shortForm? c).map octet :=
  forall_ascii (P := fun c => shortEscape? (octet c) = (shortForm? c).map octet) (by decide) ascii

theorem shortForm?_ascii {e c : Char} (h : shortForm? e = some c) :
    e.toNat < 0x80 ∧ c.toNat < 0x80 := by
  unfold shortForm? at h
  split at h <;> cases h <;> decide

theorem shortEscape?_ascii {e b : UInt8} (h : shortEscape? e = some b) : e < 0x80 := by
  by_cases he : e < 0x80
  · exact he
  · have differ (c : UInt8) (hc : c < 0x80) : e ≠ c := fun h => he (h ▸ hc)
    simp [shortEscape?, differ] at h

/-- A unit by its four digits, as characters and as octets. -/
theorem hexValue4?_octets {a b c d : Char} {n : Nat} (h : unit? a b c d = some n) (cs : List Char) :
    hexValue4? (octet a) (octet b) (octet c) (octet d) = some n ∧
      utf8 ('\\' :: 'u' :: a :: b :: c :: d :: cs) =
        0x5C :: 0x75 :: octet a :: octet b :: octet c :: octet d :: utf8 cs := by
  simp only [unit?, bind, Option.bind_eq_some_iff, pure, Option.some.injEq] at h
  obtain ⟨i, ha, j, hb, k, hc, l, hd, value⟩ := h
  have ascii {c : Char} {n : Nat} (h : hexDigit? c = some n) := hexDigit?_ascii h
  constructor
  · simp only [hexValue4?, hexValue?_octet (ascii ha), hexValue?_octet (ascii hb),
      hexValue?_octet (ascii hc), hexValue?_octet (ascii hd), ha, hb, hc, hd, value]
  · rw [utf8_cons_ascii (by decide), utf8_cons_ascii (by decide), utf8_cons_ascii (ascii ha),
      utf8_cons_ascii (ascii hb), utf8_cons_ascii (ascii hc), utf8_cons_ascii (ascii hd)]
    rfl

theorem special_of_wide {b : UInt8} (wide : 0x80 ≤ b) : b ≠ 0x22 ∧ b ≠ 0x5C ∧ ¬b < 0x20 := by
  have above : ¬b < 0x80 := UInt8.not_lt.mpr wide
  have below {c : UInt8} (hc : c < 0x80) : b ≠ c := fun h => above (h ▸ hc)
  exact ⟨below (by decide), below (by decide), fun h => above (UInt8.lt_trans h (by decide))⟩

theorem special_of_ascii {c : Char} (ascii : c.toNat < 0x80) (quote : c ≠ '"') (escape : c ≠ '\\')
    (visible : 0x20 ≤ c.toNat) : octet c ≠ 0x22 ∧ octet c ≠ 0x5C ∧ ¬octet c < 0x20 := by
  have all : c ≠ '"' ∧ c ≠ '\\' ∧ 0x20 ≤ c.toNat →
      octet c ≠ 0x22 ∧ octet c ≠ 0x5C ∧ ¬octet c < 0x20 :=
    forall_ascii (P := fun c => c ≠ '"' ∧ c ≠ '\\' ∧ 0x20 ≤ c.toNat →
      octet c ≠ 0x22 ∧ octet c ≠ 0x5C ∧ ¬octet c < 0x20) (by decide) ascii
  exact all ⟨quote, escape, visible⟩

theorem prepended_append (lead lead' : Bytes) (answer : Except Error (Bytes × Bytes)) :
    prepended lead (prepended lead' answer) = prepended (lead ++ lead') answer := by
  cases answer with
  | error e => rfl
  | ok found => simp [prepended, Except.map]

/-- A character that needs no escape stands for its octets. -/
theorem stringOctets_char {c : Char} (quote : c ≠ '"') (escape : c ≠ '\\')
    (visible : 0x20 ≤ c.toNat)
    (cs : List Char) :
    stringOctets (utf8 (c :: cs)) =
      prepended (String.utf8EncodeChar c) (stringOctets (utf8 cs)) := by
  by_cases ascii : c.toNat < 0x80
  · obtain ⟨hq, he, hv⟩ := special_of_ascii ascii quote escape visible
    rw [utf8_cons, encode_ascii ascii]
    exact stringOctets_plain hq he hv
  have run (bs s : Bytes) (wide : ∀ b ∈ bs, 0x80 ≤ b) :
      stringOctets (bs ++ s) = prepended bs (stringOctets s) := by
    induction bs with
    | nil => cases h : stringOctets s <;> simp [prepended, Except.map, h]
    | cons b bs ih =>
      obtain ⟨hq, he, hv⟩ := special_of_wide (wide b List.mem_cons_self)
      rw [List.cons_append, stringOctets_plain hq he hv,
        ih fun x hx => wide x (List.mem_cons_of_mem _ hx), prepended_append]
      rfl
  obtain ⟨b, bs, encoded, wide⟩ := encode_wide (Nat.le_of_not_lt ascii)
  rw [utf8_cons, encoded]
  exact run (b :: bs) (utf8 cs) wide

theorem skipString_wide {bs : Bytes} (wide : ∀ b ∈ bs, 0x80 ≤ b) (s : Bytes) :
    skipString (bs ++ s) = skipString s := by
  induction bs with
  | nil => rfl
  | cons b bs ih =>
    obtain ⟨hq, he, hv⟩ := special_of_wide (wide b List.mem_cons_self)
    rw [List.cons_append, skipString_plain hq he hv]
    exact ih fun x hx => wide x (List.mem_cons_of_mem _ hx)

theorem skipString_char {c : Char} (quote : c ≠ '"') (escape : c ≠ '\\') (visible : 0x20 ≤ c.toNat)
    (cs : List Char) : skipString (utf8 (c :: cs)) = skipString (utf8 cs) := by
  by_cases ascii : c.toNat < 0x80
  · obtain ⟨hq, he, hv⟩ := special_of_ascii ascii quote escape visible
    rw [utf8_cons_ascii ascii, skipString_plain hq he hv]
  · obtain ⟨b, bs, encoded, wide⟩ := encode_wide (Nat.le_of_not_lt ascii)
    rw [utf8_cons, encoded, skipString_wide wide]

theorem prepended_char {c : Char} {answer : Except Error (Bytes × Bytes)}
    {t? : Option (List Char)} {r : Bytes}
    (h : answer.toOption = t?.map fun t => (utf8 t, r)) :
    (prepended (String.utf8EncodeChar c) answer).toOption =
      (t?.map (c :: ·)).map fun t => (utf8 t, r) := by
  cases answer with
  | error e =>
    cases t? with
    | none => rfl
    | some t => cases h
  | ok read =>
    cases t? with
    | none => cases h
    | some t =>
      cases h
      rfl

/-- A string is read as the characters that its pieces stand for, and is not read if a surrogate
among them stands outside of pairs. -/
theorem stringOctets_literal {ps : List Piece} (h : Literal ps cs rest) :
    (stringOctets (utf8 cs)).toOption = (chars? ps).map fun t => (utf8 t, utf8 rest) := by
  fun_induction chars? ps generalizing cs with
  | case1 =>
    cases h
    exact congrArg Except.toOption stringOctets_quote
  | case2 c ps ih =>
    cases h with
    | plain quote escape visible content =>
      rw [stringOctets_char quote escape visible]
      exact prepended_char (ih content)
    | short form content =>
      obtain ⟨he, hc⟩ := shortForm?_ascii form
      have escape : shortEscape? (octet _) = some (octet c) :=
        (shortEscape?_octet he).trans (by rw [form]; rfl)
      rw [utf8_cons_ascii (by decide), utf8_cons_ascii he]
      refine (congrArg Except.toOption (stringOctets_short escape)).trans ?_
      rw [← encode_ascii hc]
      exact prepended_char (ih content)
  | case3 n m ps low =>
    cases h with
    | unit digits content =>
      obtain ⟨value, octets⟩ := hexValue4?_octets digits _
      rw [octets, stringOctets_low value low]
      rfl
  | case4 n m ps low high low' ih =>
    cases h with
    | unit digits content =>
    cases content with
    | unit digits' content =>
      obtain ⟨high_value, high_octets⟩ := hexValue4?_octets digits ('\\' :: 'u' :: _)
      obtain ⟨low_value, low_octets⟩ := hexValue4?_octets digits' _
      rw [high_octets, low_octets, stringOctets_pair high_value low_value high low']
      exact prepended_char (ih content)
  | case5 n m ps low high low' =>
    cases h with
    | unit digits content =>
    cases content with
    | unit digits' content =>
      obtain ⟨high_value, high_octets⟩ := hexValue4?_octets digits ('\\' :: 'u' :: _)
      obtain ⟨low_value, low_octets⟩ := hexValue4?_octets digits' _
      rw [high_octets, low_octets]
      refine stringOctets_high high_value high fun a' b' c' d' m' s' same value => ?_
      cases same
      rw [low_value] at value
      cases value
      exact Bool.eq_false_iff.mpr low'
  | case6 n m ps low high ih =>
    cases h with
    | unit digits content =>
      obtain ⟨value, octets⟩ := hexValue4?_octets digits _
      rw [octets, stringOctets_unit value (Bool.eq_false_iff.mpr low) (Bool.eq_false_iff.mpr high)]
      exact prepended_char (ih content)
  | case7 n ps other surrogate =>
    cases h with
    | unit digits content =>
      obtain ⟨value, octets⟩ := hexValue4?_octets digits _
      rw [octets]
      rcases Bool.or_eq_true _ _ ▸ surrogate with low | high
      · rw [stringOctets_low value low]
        rfl
      refine stringOctets_high value high fun a' b' c' d' m s' same _ => ?_
      -- Another unit would have to stand here, and none does.
      obtain ⟨cs', rfl, at_u⟩ := (utf8_eq_cons_iff (c := '\\') (by decide)).mp same
      obtain ⟨cs'', rfl, _⟩ := (utf8_eq_cons_iff (c := 'u') (by decide)).mp at_u.symm
      cases content with
      | plain _ escape _ _ => exact absurd rfl escape
      | short form _ => cases form
      | unit _ _ => exact absurd rfl (other _ _)
  | case8 n ps other surrogate ih =>
    simp only [Bool.or_eq_true, not_or, Bool.not_eq_true] at surrogate
    cases h with
    | unit digits content =>
      obtain ⟨value, octets⟩ := hexValue4?_octets digits _
      rw [octets, stringOctets_unit value surrogate.1 surrogate.2]
      exact prepended_char (ih content)

/-- What a string is read as: the text that its pieces give, if they give one. -/
theorem string_literal {ps : List Piece} (h : Literal ps cs rest) :
    (string (utf8 cs)).toOption = (chars? ps).map fun t => (String.ofList t, utf8 rest) := by
  have octets := stringOctets_literal h
  unfold string
  cases chars : chars? ps with
  | none =>
    cases read : stringOctets (utf8 cs) with
    | error e => rfl
    | ok found => simp [read, chars, Except.toOption] at octets
  | some t =>
    have text : (utf8 t).text? = some (String.ofList t) := by
      rw [← text?_utf8, String.toList_ofList]
    cases read : stringOctets (utf8 cs) with
    | error e => simp [read, chars, Except.toOption] at octets
    | ok found =>
      rw [read, chars] at octets
      cases octets
      simp only [text]
      rfl

/-- Every string is passed over. -/
theorem skipString_literal {ps : List Piece} (h : Literal ps cs rest) :
    skipString (utf8 cs) = .ok (utf8 rest) := by
  induction h with
  | close => exact skipString_quote
  | plain quote escape visible _ ih => rw [skipString_char quote escape visible, ih]
  | @short e c ps cs rest form _ ih =>
    obtain ⟨he, hc⟩ := shortForm?_ascii form
    have escape : shortEscape? (octet e) = some (octet c) :=
      (shortEscape?_octet he).trans (by rw [form]; rfl)
    rw [utf8_cons_ascii (by decide), utf8_cons_ascii he]
    exact (skipString_short escape).trans ih
  | unit digits _ ih =>
    obtain ⟨value, octets⟩ := hexValue4?_octets digits _
    rw [octets, skipString_unit value, ih]

/-- An octet is no reverse solidus when it is none with something behind it and none at the end. -/
theorem not_escape {b : UInt8} {s : Bytes} (last : b = 0x5C → s = [] → False)
    (inner : ∀ e s', b = 0x5C → s = e :: s' → False) : b ≠ 0x5C := by
  intro hb
  cases s with
  | nil => exact last hb rfl
  | cons e s => exact inner e s hb rfl

/-- Where a string is passed over, it ends at once or goes on behind one thing of it. -/
theorem skipString_cases {s : Bytes} (h : skipString s = .ok r) :
    s = 0x22 :: r ∨
      (∃ b s', s = b :: s' ∧ (b ≠ 0x22 ∧ b ≠ 0x5C ∧ ¬b < 0x20) ∧ skipString s' = .ok r) ∨
      (∃ e b s', s = 0x5C :: e :: s' ∧ shortEscape? e = some b ∧ skipString s' = .ok r) ∨
      ∃ a b c d n s', s = 0x5C :: 0x75 :: a :: b :: c :: d :: s' ∧ hexValue4? a b c d = some n ∧
        skipString s' = .ok r := by
  rw [skipString.eq_def] at h
  split at h
  · cases h
  · cases h
    exact .inl rfl
  · split at h
    · cases h
    · rename_i value
      exact .inr (.inr (.inr ⟨_, _, _, _, _, _, rfl, value, h⟩))
  · cases h
  · cases h
  · split at h
    · cases h
    · rename_i escape
      exact .inr (.inr (.inl ⟨_, _, _, rfl, escape, h⟩))
  · split at h
    · cases h
    · rename_i b s quote _ _ last escape visible
      exact .inr (.inl ⟨b, s, rfl, ⟨quote, not_escape last escape, visible⟩, h⟩)

/-- An octet that stands for itself is part of a character that does. -/
theorem plain_of_octet {b : UInt8} {s : Bytes} (h : utf8 cs = b :: s)
    (plain : b ≠ 0x22 ∧ b ≠ 0x5C ∧ ¬b < 0x20) :
    ∃ c cs', cs = c :: cs' ∧ (c ≠ '"' ∧ c ≠ '\\' ∧ 0x20 ≤ c.toNat) ∧
      skipString s = skipString (utf8 cs') := by
  by_cases narrow : b < 0x80
  · obtain ⟨c, cs', rfl, ascii, rfl, rfl⟩ := exists_of_utf8_eq_cons h narrow
    refine ⟨c, cs', rfl, ⟨fun hc => plain.1 (hc ▸ rfl), fun hc => plain.2.1 (hc ▸ rfl), ?_⟩, rfl⟩
    have visible := UInt8.le_iff_toNat_le.mp (UInt8.not_lt.mp plain.2.2)
    rwa [toNat_octet ascii] at visible
  · cases cs with
    | nil => cases h
    | cons c cs' =>
      have wide : 0x80 ≤ c.toNat := by
        refine Nat.le_of_not_lt fun ascii => narrow ?_
        rw [utf8_cons_ascii ascii] at h
        injection h with hb _
        exact hb ▸ octet_lt ascii
      obtain ⟨b', bs, encoded, high⟩ := encode_wide wide
      rw [utf8_cons, encoded] at h
      injection h with _ hs
      have differ {d : Char} (hd : d.toNat < 0x80) : c ≠ d :=
        fun hc => absurd (hc ▸ wide) (Nat.not_le.mpr hd)
      refine ⟨c, cs', rfl, ⟨differ (by decide), differ (by decide), by omega⟩, ?_⟩
      rw [← hs]
      exact skipString_wide (fun x hx => high x (List.mem_cons_of_mem _ hx)) _

/-- The four digits of a unit, from their octets. -/
theorem unit_of_octets {a b c d : UInt8} {n : Nat} {s : Bytes}
    (h : utf8 cs = 0x5C :: 0x75 :: a :: b :: c :: d :: s) (value : hexValue4? a b c d = some n) :
    ∃ a b c d cs', cs = '\\' :: 'u' :: a :: b :: c :: d :: cs' ∧ unit? a b c d = some n ∧
      s = utf8 cs' := by
  unfold hexValue4? at value
  split at value
  · rename_i i j k l ha hb hc hd
    cases value
    obtain ⟨cs, rfl, at_u⟩ := (utf8_eq_cons_iff (c := '\\') (by decide)).mp h
    obtain ⟨cs, rfl, at_a⟩ := (utf8_eq_cons_iff (c := 'u') (by decide)).mp at_u.symm
    obtain ⟨a, cs, rfl, asciiA, rfl, at_b⟩ := exists_of_utf8_eq_cons at_a.symm (hexValue?_ascii ha)
    obtain ⟨b, cs, rfl, asciiB, rfl, at_c⟩ := exists_of_utf8_eq_cons at_b.symm (hexValue?_ascii hb)
    obtain ⟨c, cs, rfl, asciiC, rfl, at_d⟩ := exists_of_utf8_eq_cons at_c.symm (hexValue?_ascii hc)
    obtain ⟨d, cs, rfl, asciiD, rfl, left⟩ := exists_of_utf8_eq_cons at_d.symm (hexValue?_ascii hd)
    rw [hexValue?_octet asciiA] at ha
    rw [hexValue?_octet asciiB] at hb
    rw [hexValue?_octet asciiC] at hc
    rw [hexValue?_octet asciiD] at hd
    refine ⟨a, b, c, d, cs, rfl, ?_, left⟩
    simp [unit?, ha, hb, hc, hd]
  · cases value

/-- What was passed over is a string. -/
theorem literal_of_skipString (h : skipString (utf8 cs) = .ok r) :
    ∃ ps rest, Literal ps cs rest ∧ r = utf8 rest := by
  induction hn : cs.length using Nat.strongRecOn generalizing cs with
  | _ n ih =>
    subst hn
    rcases skipString_cases h with at_quote | ⟨b, s, at_b, plain, later⟩ |
      ⟨e, b, s, at_e, escape, later⟩ | ⟨a, b, c, d, n, s, at_u, value, later⟩
    · obtain ⟨rest, rfl, hr⟩ := (utf8_eq_cons_iff (c := '"') (by decide)).mp at_quote
      exact ⟨[], rest, .close, hr⟩
    · obtain ⟨c, cs, rfl, ⟨quote, escape, visible⟩, same⟩ := plain_of_octet at_b plain
      obtain ⟨ps, rest, content, hr⟩ := ih cs.length (by simp) (same ▸ later) rfl
      exact ⟨.char c :: ps, rest, .plain quote escape visible content, hr⟩
    · obtain ⟨cs, rfl, behind⟩ := (utf8_eq_cons_iff (c := '\\') (by decide)).mp at_e
      obtain ⟨e, cs, rfl, ascii, rfl, rfl⟩ :=
        exists_of_utf8_eq_cons behind.symm (shortEscape?_ascii escape)
      rw [shortEscape?_octet ascii] at escape
      obtain ⟨c, form, _⟩ := Option.map_eq_some_iff.mp escape
      obtain ⟨ps, rest, content, hr⟩ :=
        ih cs.length (by simp only [List.length_cons]; omega) later rfl
      exact ⟨.char c :: ps, rest, .short form content, hr⟩
    · obtain ⟨a, b, c, d, cs, rfl, digits, rfl⟩ := unit_of_octets at_u value
      obtain ⟨ps, rest, content, hr⟩ :=
        ih cs.length (by simp only [List.length_cons]; omega) later rfl
      exact ⟨.unit n :: ps, rest, .unit digits content, hr⟩

/-- A string that can be read can be passed over. -/
theorem skipString_of_stringOctets {s octets : Bytes} (h : stringOctets s = .ok (octets, r)) :
    skipString s = .ok r := by
  fun_induction stringOctets s generalizing octets r
  -- the cases in which it fails are gone after this
  all_goals simp only [reduceCtorEq, Except.ok.injEq, Prod.mk.injEq] at h
  all_goals obtain ⟨rfl, rfl⟩ := h
  case case2 => exact skipString_quote
  case case8 value _ _ _ _ _ _ _ _ value' _ _ _ found ih =>
    rw [skipString_unit value, skipString_unit value']
    exact ih found
  case case13 value _ _ _ _ found ih =>
    rw [skipString_unit value]
    exact ih found
  case case18 escape _ _ found ih =>
    rw [skipString_short escape]
    exact ih found
  case case21 quote _ _ last escape visible _ _ found ih =>
    rw [skipString_plain quote (not_escape last escape) visible]
    exact ih found

theorem literal_of_string {t : String} (h : string (utf8 cs) = .ok (t, r)) :
    ∃ ps rest, Literal ps cs rest ∧ r = utf8 rest := by
  unfold string at h
  split at h
  · cases h
  · rename_i octets rest' found
    split at h
    · cases h
      exact literal_of_skipString (skipString_of_stringOctets found)
    · cases h

end ImageWorker.Json
