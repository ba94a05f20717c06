import ImageWorker.Proofs.JsonMeaning

/-!
# What a codec accepts is grammatical

A codec that reads a value has gone over a spelling of one, though it may be stricter than the
grammar. A record is read from an object or from a list, and both its known and its unknown members
have to be spelled. So a text that breaks the grammar is never accepted.
-/

namespace ImageWorker.Json

variable {α β : Type} {cs : List Char} {r : Bytes}

/-- A value is spelled after blanks, and `r` is left behind it. -/
def SpelledUpTo (cs : List Char) (r : Bytes) : Prop :=
  ∃ t cs' rest, Blanks cs cs' ∧ Spells Literal (.value t) cs' rest ∧ r = utf8 rest

/-- What the codec reads is a value of the grammar. -/
def Codec.Strict (c : Codec α) : Prop :=
  ∀ cs v r, c.read (utf8 cs) = .ok (v, r) → SpelledUpTo cs r

theorem wrongType_ne_ok {expected : String} {s : Bytes} {v : α} : wrongType expected s ≠ .ok v := by
  intro h
  have fails : (wrongType expected s : Except Error α).toOption = none := wrongType_fails expected s
  rw [h] at fails
  cases fails

theorem readText_strict {expected : String} {v : String}
    (h : readText expected (utf8 cs) = .ok (v, r)) : SpelledUpTo cs r := by
  unfold readText at h
  split at h
  · cases h
  · rename_i found
    split at h
    · rename_i quote
      obtain ⟨cs', blanks, rfl⟩ := blanks_of_found (c := '"') (by decide) quote found
      obtain ⟨ps, rest, content, hr⟩ := literal_of_string h
      exact ⟨.text ps, _, rest, blanks, .text content, hr⟩
    · exact absurd h wrongType_ne_ok

theorem Codec.text_strict : Codec.text.Strict := fun _ _ _ => readText_strict

theorem Codec.textOr_strict (absent : String) : (Codec.textOr absent).Strict :=
  fun _ _ _ => readText_strict

theorem Codec.optionalText_strict : Codec.optionalText.Strict := by
  intro cs v r h
  simp only [Codec.optionalText, readOptional] at h
  split at h
  · rename_i found
    obtain ⟨cs', blanks, rfl⟩ := blanks_of_skipSpace (c := 'n') (by decide) found
    split at h
    · rename_i null
      cases h
      obtain ⟨rest, rfl, hr⟩ := exists_of_word (r := r) ['u', 'l', 'l'] (by decide)
        (by rw [show (['u', 'l', 'l'].map octet) = [0x75, 0x6C, 0x6C] from rfl, null]; rfl)
      exact ⟨.null, _, rest, blanks, .null, hr⟩
    · cases h
  · split at h
    · rename_i read
      cases h
      rw [skipSpace_utf8] at read
      obtain ⟨t, cs', rest, blanks, value, hr⟩ := readText_strict read
      exact ⟨t, cs', rest, (blanks_dropWhile cs).trans blanks, value, hr⟩
    · cases h

theorem Codec.Strict.map {c : Codec α} (h : c.Strict) (f : α → β) (g : β → α) :
    (c.map f g).Strict := by
  intro cs v r read
  simp only [Codec.map] at read
  split at read
  · rename_i read'
    cases read
    exact h _ _ _ read'
  · cases read

namespace Fields

variable {ρ : Type}

def Strict : {ρ : Type} → Fields ρ → Prop
  | _, nil => True
  | _, cons _ codec rest => codec.Strict ∧ rest.Strict

/-- Where the object ends, its closing brace stands there. -/
theorem closed_of_nextMember {first : Bool} {s : Bytes}
    (h : nextMember first (utf8 cs) = .ok (.closed s)) :
    ∃ cs', Blanks cs ('}' :: cs') ∧ s = utf8 cs' := by
  unfold nextMember at h
  split at h
  · cases h
  rename_i found
  split at h
  · rename_i brace
    cases h
    exact blanks_of_found (c := '}') (by decide) brace found
  split at h
  · split at h <;> cases h
  split at h
  · split at h
    · cases h
    split at h
    · cases h
    · split at h <;> cases h
  · cases h

/-- Where the next member is found, its name is separated from what stands before it. -/
theorem item_of_nextMember {first : Bool} {s : Bytes}
    (h : nextMember first (utf8 cs) = .ok (.item s)) :
    ∃ cs', Separated first cs ('"' :: cs') ∧ s = utf8 cs' := by
  unfold nextMember at h
  split at h
  · cases h
  rename_i found
  split at h
  · cases h
  split at h
  · rename_i is_first
    subst is_first
    split at h
    · rename_i quote
      cases h
      obtain ⟨cs', blanks, hs⟩ := blanks_of_found (c := '"') (by decide) quote found
      exact ⟨cs', .first blanks, hs⟩
    · cases h
  rename_i not_first
  rw [Bool.not_eq_true] at not_first
  subst not_first
  split at h
  · rename_i comma
    obtain ⟨cs', blanks, rfl⟩ := blanks_of_found (c := ',') (by decide) comma found
    split at h
    · cases h
    rename_i found'
    split at h
    · rename_i quote
      cases h
      obtain ⟨cs'', blanks', hs⟩ := blanks_of_found (c := '"') (by decide) quote found'
      exact ⟨cs'', .comma blanks blanks', hs⟩
    split at h <;> cases h
  · cases h

/-- A member is a colon and a value, whether its name is known or not. -/
theorem readMember_strict (fs : Fields ρ) (strict : fs.Strict) {key : String} {d d' : fs.Draft}
    (h : fs.readMember key d (utf8 cs) = .ok (d', r)) :
    ∃ start, Blanks cs (':' :: start) ∧ SpelledUpTo start r := by
  induction fs with
  | nil =>
    simp only [readMember] at h
    split at h
    · cases h
    rename_i found
    obtain ⟨start, at_colon, rfl⟩ := colon_eq_ok found
    split at h
    · cases h
    rename_i passed
    cases h
    exact ⟨start, at_colon, spells_of_skipAny passed⟩
  | cons name codec fs ih =>
    simp only [readMember] at h
    split at h
    · split at h
      · cases h
      split at h
      · cases h
      rename_i found
      obtain ⟨start, at_colon, rfl⟩ := colon_eq_ok found
      split at h
      · cases h
      rename_i read
      cases h
      exact ⟨start, at_colon, strict.1 _ _ _ read⟩
    · split at h
      · cases h
      rename_i read
      cases h
      exact ih strict.2 read

theorem readMembers_strict (fs : Fields ρ) (strict : fs.Strict) {fuel : Nat} {first : Bool}
    {d d' : fs.Draft} (h : fs.readMembers fuel first d (utf8 cs) = .ok (d', r)) :
    ∃ ms rest, Spells Literal (.members first ms) cs rest ∧ r = utf8 rest := by
  induction fuel generalizing first d cs with
  | zero => cases h
  | succ fuel ih =>
    simp only [readMembers] at h
    split at h
    · cases h
    · rename_i closed
      cases h
      obtain ⟨rest, blanks, hr⟩ := closed_of_nextMember closed
      exact ⟨[], rest, .endMembers blanks, hr⟩
    · rename_i found
      obtain ⟨cs', separated, rfl⟩ := item_of_nextMember found
      split at h
      · cases h
      rename_i named
      obtain ⟨ps, cs'', name, rfl⟩ := literal_of_string named
      split at h
      · cases h
      rename_i read
      obtain ⟨start, at_colon, t, value, behind, blanks, spelled, rfl⟩ :=
        fs.readMember_strict strict read
      obtain ⟨ms, rest, members, hr⟩ := ih h
      exact ⟨_, rest, .member separated name at_colon blanks spelled members, hr⟩

theorem item_of_nextElement {first : Bool} {s : Bytes}
    (h : nextElement first (utf8 cs) = .ok (.item s)) :
    ∃ cs', Separated first cs cs' ∧ s = utf8 cs' := by
  unfold nextElement at h
  split at h
  · cases h
  rename_i found
  split at h
  · cases h
  split at h
  · rename_i is_first
    subst is_first
    cases h
    rw [skipSpace_utf8] at found
    exact ⟨_, .first (blanks_dropWhile cs), found.symm⟩
  rename_i not_first
  rw [Bool.not_eq_true] at not_first
  subst not_first
  split at h
  · rename_i comma
    obtain ⟨cs', blanks, rfl⟩ := blanks_of_found (c := ',') (by decide) comma found
    split at h
    · cases h
    rename_i found'
    split at h
    · cases h
    · cases h
      rw [skipSpace_utf8] at found'
      exact ⟨_, .comma blanks (blanks_dropWhile cs'), found'.symm⟩
  · cases h

theorem endElements_eq_ok {s : Bytes} (h : endElements (utf8 cs) = .ok s) :
    ∃ rest, Blanks cs (']' :: rest) ∧ s = utf8 rest := by
  unfold endElements at h
  split at h
  · cases h
  rename_i found
  split at h
  · rename_i bracket
    cases h
    exact blanks_of_found (c := ']') (by decide) bracket found
  split at h
  · split at h <;> cases h
  · cases h

/-- The elements that were read and the closing bracket behind them are what is left of a list. -/
theorem readElements_strict (fs : Fields ρ) (strict : fs.Strict) {expected : String} {index : Nat}
    {first : Bool} {v : ρ} {s : Bytes}
    (h : fs.readElements expected index first (utf8 cs) = .ok (v, s))
    (closed : endElements s = .ok r) :
    ∃ ts rest, Spells Literal (.items first ts) cs rest ∧ r = utf8 rest := by
  induction fs generalizing index first cs with
  | nil =>
    simp only [readElements] at h
    cases h
    obtain ⟨rest, blanks, hr⟩ := endElements_eq_ok closed
    exact ⟨[], rest, .endItems blanks, hr⟩
  | cons name codec fs ih =>
    simp only [readElements] at h
    split at h
    · cases h
    · rename_i found
      obtain ⟨cs', separated, rfl⟩ := item_of_nextElement found
      split at h
      · cases h
      rename_i read
      obtain ⟨t, value, behind, blanks, spelled, rfl⟩ := strict.1 _ _ _ read
      split at h
      · cases h
      rename_i others
      cases h
      obtain ⟨ts, rest, items, hr⟩ := ih strict.2 others
      exact ⟨t :: ts, rest, .item (separated.trans blanks) spelled items, hr⟩
    · split at h
      · cases h
      split at h
      · cases h
      rename_i others
      cases h
      exact ih strict.2 others

end Fields

theorem Codec.record_strict {ρ : Type} (name : String) {fs : Fields ρ} (strict : fs.Strict) :
    (Codec.record name fs).Strict := by
  intro cs v r h
  simp only [Codec.record, Fields.read] at h
  split at h
  · cases h
  rename_i found
  split at h
  · rename_i brace
    obtain ⟨cs', blanks, rfl⟩ := blanks_of_found (c := '{') (by decide) brace found
    split at h
    · cases h
    rename_i read
    split at h
    · cases h
    cases h
    obtain ⟨ms, rest, members, hr⟩ := fs.readMembers_strict strict read
    exact ⟨.object ms, _, rest, blanks, .object members, hr⟩
  split at h
  · rename_i bracket
    obtain ⟨cs', blanks, rfl⟩ := blanks_of_found (c := '[') (by decide) bracket found
    split at h
    · cases h
    rename_i read
    split at h
    · cases h
    rename_i closed
    cases h
    obtain ⟨ts, rest, items, hr⟩ := fs.readElements_strict strict read closed
    exact ⟨.list ts, _, rest, blanks, .list items, hr⟩
  · exact absurd h wrongType_ne_ok

/-- A text that a codec decodes follows the grammar. -/
theorem Codec.Strict.grammatical {c : Codec α} (h : c.Strict) {text : String} {v : α}
    (decoded : c.decode (Bytes.ofText text) = .ok v) : Grammatical text := by
  rw [ofText_eq_utf8, Codec.decode] at decoded
  split at decoded
  · cases decoded
  rename_i read
  obtain ⟨t, cs', rest, before, value, rfl⟩ := h _ _ _ read
  split at decoded
  · rename_i finished
    rw [skipSpace_utf8, List.isEmpty_iff] at finished
    have nothing_left : rest.dropWhile isWhite = [] := by
      have short := length_le_utf8 (rest.dropWhile isWhite)
      rw [finished] at short
      exact List.eq_nil_of_length_eq_zero (Nat.le_zero.mp short)
    exact ⟨t, cs', rest, before, value, nothing_left ▸ blanks_dropWhile rest⟩
  · cases decoded

end ImageWorker.Json
