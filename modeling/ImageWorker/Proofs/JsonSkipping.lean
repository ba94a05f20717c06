import ImageWorker.Proofs.JsonNumerals

/-!
# Passing over values

A value of any shape is passed over when it is spelled at the front, up to where its spelling ends,
and only then. The scanner keeps the open lists and objects as a stack, so what it does is said for
a value under any stack: it goes on with what follows in the innermost of them.
-/

namespace ImageWorker.Json

variable {cs rest : List Char} {r s : Bytes} {fuel : Nat} {frame : Frame} {frames : List Frame}

/-- What the scanner does behind an opening bracket. -/
def skipOpened (fuel : Nat) (frames : List Frame) (frame : Frame) (s : Bytes) :
    Except Error Bytes :=
  match skipSpace s with
  | [] => .error frame.unfinished
  | b :: r =>
    if b == frame.close then skipAfter fuel frames r
    else
      match frame.nextValue (b :: r) with
      | .ok r => skipValue fuel (frame :: frames) r
      | .error e => .error e

/-- One step of the scanner where a value is due. -/
theorem skipValue_step {b : UInt8} (h : skipSpace s = b :: r) :
    skipValue (fuel + 1) frames s =
      match Frame.ofOpening? b with
      | some frame => skipOpened fuel frames frame r
      | none => (skipScalar b r).bind (skipAfter fuel frames) := by
  simp only [skipValue, h]
  cases Frame.ofOpening? b with
  | some frame => rfl
  | none => cases skipScalar b r <;> rfl

/-- One step of the scanner behind a value in a list or an object. -/
theorem skipAfter_step {b : UInt8} (h : skipSpace s = b :: r) :
    skipAfter (fuel + 1) (frame :: frames) s =
      if b = 0x2C then (frame.nextValue r).bind (skipValue fuel (frame :: frames))
      else if b = frame.close then skipAfter fuel frames r
      else .error frame.separator := by
  simp only [skipAfter, h, beq_iff_eq]
  cases frame.nextValue r <;> rfl

theorem skipValue_opening {b : UInt8} (h : skipSpace s = b :: r)
    (opens : Frame.ofOpening? b = some frame) :
    skipValue (fuel + 1) frames s = skipOpened fuel frames frame r := by
  rw [skipValue_step h, opens]

theorem skipValue_scalar {b : UInt8} {left : Bytes} (h : skipSpace s = b :: r)
    (plain : Frame.ofOpening? b = none) (scanned : skipScalar b r = .ok left) :
    skipValue (fuel + 1) frames s = skipAfter fuel frames left := by
  rw [skipValue_step h, plain, scanned]
  rfl

theorem skipValue_failed {b : UInt8} {e : Error} (h : skipSpace s = b :: r)
    (plain : Frame.ofOpening? b = none) (scanned : skipScalar b r = .error e) :
    skipValue (fuel + 1) frames s = .error e := by
  rw [skipValue_step h, plain, scanned]
  rfl

theorem skipAfter_nil (fuel : Nat) (s : Bytes) : skipAfter fuel [] s = .ok s := by
  cases fuel <;> rfl

theorem skipAfter_comma {left : Bytes} (h : skipSpace s = 0x2C :: r)
    (next : frame.nextValue r = .ok left) :
    skipAfter (fuel + 1) (frame :: frames) s = skipValue fuel (frame :: frames) left := by
  rw [skipAfter_step h, if_pos rfl, next]
  rfl

theorem skipAfter_close (h : skipSpace s = frame.close :: r) :
    skipAfter (fuel + 1) (frame :: frames) s = skipAfter fuel frames r := by
  rw [skipAfter_step h, if_neg (by cases frame <;> decide), if_pos rfl]

theorem skipOpened_close (h : skipSpace s = frame.close :: r) :
    skipOpened fuel frames frame s = skipAfter fuel frames r := by
  simp only [skipOpened, h, beq_self_eq_true, if_true]

def Frame.closing : Frame → Char
  | .list => ']'
  | .object => '}'

theorem Frame.octet_closing (frame : Frame) : octet frame.closing = frame.close := by
  cases frame <;> rfl

theorem Frame.closing_ascii (frame : Frame) : frame.closing.toNat < 0x80 := by
  cases frame <;> decide

theorem Frame.closing_black (frame : Frame) : isWhite frame.closing = false := by
  cases frame <;> decide

/-- A character that a value can begin with. -/
def Begins (c : Char) : Prop := c ∈ ['n', 't', 'f', '"', '[', '{', '-'] ∨ c.isDigit = true

instance (c : Char) : Decidable (Begins c) := inferInstanceAs (Decidable (_ ∨ _))

theorem Begins.ascii {c : Char} (h : Begins c) : c.toNat < 0x80 := by
  rcases h with h | h
  · have all : ['n', 't', 'f', '"', '[', '{', '-'].all (fun c => c.toNat < 0x80) = true := by
      decide
    exact of_decide_eq_true (List.all_eq_true.mp all c h)
  · exact isDigit_narrow h

theorem Begins.black {c : Char} (h : Begins c) : isWhite c = false ∧ c ≠ ']' := by
  have all : Begins c → isWhite c = false ∧ c ≠ ']' :=
    forall_ascii (P := fun c => Begins c → isWhite c = false ∧ c ≠ ']') (by decide) h.ascii
  exact all h

section Spelling

variable {τ : Type} {named : τ → List Char → List Char → Prop}

theorem Spells.begins {t : Tree τ} (h : Spells named (.value t) cs rest) :
    ∃ c cs', cs = c :: cs' ∧ Begins c := by
  cases h with
  | null | yes | no | text _ | list _ | object _ => exact ⟨_, _, rfl, .inl (by simp)⟩
  | @number sign whole fraction exponent _ form =>
    rcases form.head with rfl | ⟨rfl, d, ds, rfl, digit⟩
    · exact ⟨'-', _, rfl, .inl (by simp)⟩
    · exact ⟨d, _, rfl, .inr digit⟩

/-- A comma and the closing brackets end a number. -/
theorem ends_cons {c : Char} (stops : c ∈ [',', ']', '}']) : Ends (c :: rest) := by
  intro d hd
  cases hd
  simp only [List.mem_cons, List.not_mem_nil, or_false] at stops
  rcases stops with rfl | rfl | rfl <;> decide

theorem ends_of_white {c : Char} (white : isWhite c = true) :
    c.isDigit = false ∧ c ≠ '.' ∧ c ≠ 'e' ∧ c ≠ 'E' := by
  have all : isWhite c = true → c.isDigit = false ∧ c ≠ '.' ∧ c ≠ 'e' ∧ c ≠ 'E' :=
    forall_ascii (P := fun c => isWhite c = true →
      c.isDigit = false ∧ c ≠ '.' ∧ c ≠ 'e' ∧ c ≠ 'E') (by decide) (isSpace_tests.narrow c white)
  exact all white

/-- Blanks end a number. -/
theorem Blanks.ends (h : Blanks cs rest) (ends : Ends rest) : Ends cs := by
  obtain ⟨ws, white, rfl⟩ := h
  cases ws with
  | nil => exact ends
  | cons w ws =>
    intro d hd
    cases hd
    exact ends_of_white (white _ List.mem_cons_self)

theorem Spells.ends_items {ts : List (Tree τ)} (h : Spells named (.items false ts) cs rest) :
    Ends cs := by
  cases h with
  | endItems closed => exact closed.ends (ends_cons (by simp))
  | item separated =>
    cases separated with
    | comma comma _ => exact comma.ends (ends_cons (by simp))

theorem Spells.ends_members {ms : List (τ × Tree τ)}
    (h : Spells named (.members false ms) cs rest) : Ends cs := by
  cases h with
  | endMembers closed => exact closed.ends (ends_cons (by simp))
  | member separated =>
    cases separated with
    | comma comma _ => exact comma.ends (ends_cons (by simp))

theorem colon_blanks (h : Blanks cs (':' :: rest)) : colon (utf8 cs) = .ok (utf8 rest) := by
  have found := skipSpace_of_blanks h (by decide)
  rw [utf8_cons_ascii (by decide)] at found
  simp only [colon, found]
  rfl

/-- The scanner behind an opening bracket, or behind an item. -/
def skipInside (first : Bool) (fuel : Nat) (frames : List Frame) (frame : Frame) (s : Bytes) :
    Except Error Bytes :=
  if first then skipOpened fuel frames frame s else skipAfter fuel (frame :: frames) s

/-- The scanner gets from `cs` to the closing bracket of the frame, in at most as many steps as
there are characters. -/
def Leaves (frame : Frame) (first : Bool) (cs rest : List Char) : Prop :=
  ∃ k, k + rest.length ≤ cs.length ∧ ∀ fuel frames,
    skipInside first (fuel + k) frames frame (utf8 cs) = skipAfter fuel frames (utf8 rest)

/-- The scanner gets from a value at `cs` to what follows it, in at most as many steps as there are
characters. -/
def Passes (cs rest : List Char) : Prop :=
  ∃ k, k + rest.length ≤ cs.length ∧ ∀ fuel frames cs₀, Blanks cs₀ cs →
    skipValue (fuel + k) frames (utf8 cs₀) = skipAfter fuel frames (utf8 rest)

theorem leaves_close {first : Bool} (closed : Blanks cs (frame.closing :: rest)) :
    Leaves frame first cs rest := by
  have found := skipSpace_of_blanks closed frame.closing_black
  rw [utf8_cons_ascii frame.closing_ascii, frame.octet_closing] at found
  have shorter := closed.length_le
  rw [List.length_cons] at shorter
  cases first with
  | true => exact ⟨0, by omega, fun fuel frames => skipOpened_close found⟩
  | false => exact ⟨1, by omega, fun fuel frames => skipAfter_close found⟩

/-- One item more. `start` is where it starts, and `value` where its value does. -/
theorem leaves_item {first : Bool} {start value cs' : List Char}
    (separated : Separated first cs start)
    (head : ∃ c start', start = c :: start' ∧ c.toNat < 0x80 ∧ isWhite c = false ∧
      c ≠ frame.closing)
    (next : ∀ cs₀, Blanks cs₀ start →
      ∃ cs₁, frame.nextValue (utf8 cs₀) = .ok (utf8 cs₁) ∧ Blanks cs₁ value)
    (shorter : value.length ≤ start.length) (passes : Passes value cs')
    (leaves : Leaves frame false cs' rest) : Leaves frame first cs rest := by
  obtain ⟨k, short, passes⟩ := passes
  obtain ⟨k', short', leaves⟩ := leaves
  obtain ⟨c, start, rfl, ascii, black, other⟩ := head
  cases separated with
  | first blanks =>
    have less := blanks.length_le
    refine ⟨k' + k, by omega, fun fuel frames => ?_⟩
    have found := skipSpace_of_blanks blanks black
    obtain ⟨cs₁, at_value, blanks⟩ := next _ (Blanks.refl _)
    rw [utf8_cons_ascii ascii] at found at_value
    have open_ : (octet c == frame.close) = false := by
      rw [← frame.octet_closing]
      exact octet_ne ascii frame.closing_ascii other
    have passed := passes (fuel + k') (frame :: frames) cs₁ blanks
    rw [Nat.add_assoc] at passed
    simp only [skipInside, if_true, skipOpened, found, open_, at_value, passed]
    exact leaves fuel frames
  | @comma _ behind _ comma blanks =>
    have less := comma.length_le
    have less' := blanks.length_le
    rw [List.length_cons] at less
    refine ⟨k' + k + 1, by omega, fun fuel frames => ?_⟩
    have found := skipSpace_of_blanks comma (by decide)
    rw [utf8_cons_ascii (by decide)] at found
    obtain ⟨cs₁, at_value, blanks⟩ := next _ blanks
    have passed := passes (fuel + k') (frame :: frames) cs₁ blanks
    rw [Nat.add_assoc] at passed
    exact (skipAfter_comma found at_value).trans (passed.trans (leaves fuel frames))

/-- A scalar takes one step. -/
theorem passes_scalar {c : Char} (begins : Begins c) (plain : Frame.ofOpening? (octet c) = none)
    (shorter : rest.length ≤ cs.length)
    (scanned : skipScalar (octet c) (utf8 cs) = .ok (utf8 rest)) : Passes (c :: cs) rest := by
  refine ⟨1, by rw [List.length_cons]; omega, fun fuel frames cs₀ blanks => ?_⟩
  have found := skipSpace_of_blanks blanks begins.black.1
  rw [utf8_cons_ascii begins.ascii] at found
  exact skipValue_scalar found plain scanned

/-- The bracket of a list or an object takes one step. -/
theorem passes_opening {c : Char} (begins : Begins c)
    (opens : Frame.ofOpening? (octet c) = some frame) (leaves : Leaves frame true cs rest) :
    Passes (c :: cs) rest := by
  obtain ⟨k, short, leaves⟩ := leaves
  refine ⟨k + 1, by rw [List.length_cons]; omega, fun fuel frames cs₀ blanks => ?_⟩
  have found := skipSpace_of_blanks blanks begins.black.1
  rw [utf8_cons_ascii begins.ascii] at found
  exact (skipValue_opening found opens).trans (leaves fuel frames)

theorem skipScalar_digit {b : UInt8} (digit : isDigit b = true) (s : Bytes) :
    skipScalar b s = skipNumber (b :: s) := by
  have differ (c : UInt8) (hc : isDigit c = false) : b ≠ c := by
    intro h
    rw [h, hc] at digit
    cases digit
  simp [skipScalar, digit, differ 0x6E (by decide), differ 0x74 (by decide),
    differ 0x66 (by decide), differ 0x2D (by decide)]

theorem passes_number {sign whole fraction exponent : List Char}
    (h : Numeral sign whole fraction exponent) (ends : Ends rest) :
    Passes (sign ++ (whole ++ (fraction ++ (exponent ++ rest)))) rest := by
  have skipped := skipNumber_spelled h ends
  rcases h.head with rfl | ⟨rfl, d, ds, rfl, digit⟩
  · rw [List.cons_append, List.nil_append]
    refine passes_scalar (.inl (by simp)) (by decide) ?_ skipped
    simp only [List.length_append]
    omega
  · have narrow := isDigit_narrow digit
    have octet_digit : isDigit (octet d) = true := (isDigit_tests.ascii d narrow).trans digit
    have plain : d.isDigit = true → Frame.ofOpening? (octet d) = none :=
      forall_ascii (P := fun d => d.isDigit = true → Frame.ofOpening? (octet d) = none)
        (by decide) narrow
    rw [List.cons_append, utf8_cons_ascii narrow] at skipped
    rw [List.nil_append, List.cons_append]
    refine passes_scalar (.inr digit) (plain digit) ?_
      ((skipScalar_digit octet_digit _).trans skipped)
    simp only [List.length_append]
    omega

def Phrase.Passed : Phrase τ → List Char → List Char → Prop
  | .value _, cs, rest => Ends rest → Passes cs rest
  | .items first _, cs, rest => Leaves .list first cs rest
  | .members first _, cs, rest => Leaves .object first cs rest

theorem Literal.length_lt {ps : List Piece} (h : Literal ps cs rest) : rest.length < cs.length := by
  induction h with
  | close => simp
  | plain _ _ _ _ ih => exact Nat.lt_succ_of_lt ih
  | short _ _ ih => simp only [List.length_cons]; omega
  | unit _ _ ih => simp only [List.length_cons]; omega

/-- The name of a member and the colon behind it are passed over. -/
theorem nextValue_object {cs₀ cs' : List Char} {ps : List Piece} (start : Blanks cs₀ ('"' :: cs))
    (content : Literal ps cs cs') (at_colon : Blanks cs' (':' :: rest)) :
    Frame.object.nextValue (utf8 cs₀) = .ok (utf8 rest) := by
  have found := skipSpace_of_blanks start (by decide)
  have name := skipString_literal content
  have behind := colon_blanks at_colon
  rw [utf8_cons_ascii (by decide)] at found
  have quote : (octet '"' == 0x22) = true := by decide
  simp only [Frame.nextValue, found, quote, if_true, name, behind]

theorem Spells.passed (strings : ∀ {t cs rest}, named t cs rest → ∃ ps, Literal ps cs rest)
    {phrase : Phrase τ} (h : Spells named phrase cs rest) : phrase.Passed cs rest := by
  induction h with
  | null => exact fun _ => passes_scalar (.inl (by simp)) (by decide) (by simp; omega) rfl
  | yes => exact fun _ => passes_scalar (.inl (by simp)) (by decide) (by simp; omega) rfl
  | no => exact fun _ => passes_scalar (.inl (by simp)) (by decide) (by simp; omega) rfl
  | number form => exact fun ends => passes_number form ends
  | text content =>
    obtain ⟨ps, content⟩ := strings content
    exact fun _ => passes_scalar (.inl (by simp)) (by decide) (Nat.le_of_lt content.length_lt)
      (skipString_literal content)
  | list _ ih => exact fun _ => passes_opening (.inl (by simp)) (by decide) ih
  | object _ ih => exact fun _ => passes_opening (.inl (by simp)) (by decide) ih
  | endItems closed => exact leaves_close closed
  | item separated value items ih ih' =>
    obtain ⟨c, start, rfl, begins⟩ := value.begins
    exact leaves_item separated ⟨c, start, rfl, begins.ascii, begins.black⟩
      (fun cs₀ blanks => ⟨cs₀, rfl, blanks⟩) (Nat.le_refl _) (ih items.ends_items) ih'
  | endMembers closed => exact leaves_close closed
  | member separated name at_colon blanks value members ih ih' =>
    obtain ⟨ps, name⟩ := strings name
    have shorter := name.length_lt
    have shorter' := at_colon.length_le
    have shorter'' := blanks.length_le
    simp only [List.length_cons] at shorter'
    exact leaves_item separated ⟨'"', _, rfl, by decide, by decide, by decide⟩
      (fun cs₀ start => ⟨_, nextValue_object start name at_colon, blanks⟩)
      (by rw [List.length_cons]; omega) (ih members.ends_members) ih'

/-- A spelled value is passed over, with the blanks before it. -/
theorem Spells.skipAny (strings : ∀ {t cs rest}, named t cs rest → ∃ ps, Literal ps cs rest)
    {t : Tree τ} (h : Spells named (.value t) cs rest) (ends : Ends rest) {cs₀ : List Char}
    (blanks : Blanks cs₀ cs) : skipAny (utf8 cs₀) = .ok (utf8 rest) := by
  obtain ⟨k, short, passes⟩ := h.passed strings ends
  have enough := length_le_utf8 cs₀
  have shorter := blanks.length_le
  have counted : (utf8 cs₀).length + 1 = ((utf8 cs₀).length + 1 - k) + k := by omega
  rw [Json.skipAny, counted, passes _ _ _ blanks, skipAfter_nil]

end Spelling

theorem Blanks.trans {cs' : List Char} (h : Blanks cs cs') (h' : Blanks cs' rest) :
    Blanks cs rest := by
  obtain ⟨ws, white, rfl⟩ := h
  obtain ⟨ws', white', rfl⟩ := h'
  refine ⟨ws ++ ws', fun c hc => ?_, by rw [List.append_assoc]⟩
  rcases List.mem_append.mp hc with hc | hc
  · exact white c hc
  · exact white' c hc

theorem Separated.trans {first : Bool} {cs' : List Char} (h : Separated first cs cs')
    (h' : Blanks cs' rest) : Separated first cs rest := by
  cases h with
  | first blanks => exact .first (blanks.trans h')
  | comma comma blanks => exact .comma comma (blanks.trans h')

theorem word_eq_ok {ws : Bytes} {u : Unit} (h : word ws s = .ok (u, r)) : s = ws ++ r := by
  induction ws generalizing s with
  | nil =>
    cases h
    rfl
  | cons w ws ih =>
    cases s with
    | nil => cases h
    | cons b s =>
      simp only [word] at h
      split at h
      · rename_i same
        rw [eq_of_beq same, ih h]
        rfl
      · cases h

/-- The rest of a word such as null stands there in its characters. -/
theorem exists_of_word (ws : List Char) (ascii : ws.all (·.toNat < 0x80) = true)
    (h : (word (ws.map octet) (utf8 cs)).map (·.2) = .ok r) :
    ∃ rest, cs = ws ++ rest ∧ r = utf8 rest := by
  have behind : utf8 cs = ws.map octet ++ r := by
    cases found : word (ws.map octet) (utf8 cs) with
    | error e =>
      rw [found] at h
      cases h
    | ok answer =>
      rw [found] at h
      cases h
      exact word_eq_ok found
  clear h
  induction ws generalizing cs with
  | nil => exact ⟨cs, rfl, behind.symm⟩
  | cons w ws ih =>
    simp only [List.all_cons, Bool.and_eq_true, decide_eq_true_eq] at ascii
    obtain ⟨cs, rfl, left⟩ := (utf8_eq_cons_iff ascii.1).mp behind
    obtain ⟨rest, rfl, hr⟩ := ih ascii.2 left.symm
    exact ⟨rest, rfl, hr⟩

theorem spells_of_skipScalar {b : UInt8} (found : skipSpace (utf8 cs) = b :: s)
    (scanned : skipScalar b s = .ok r) :
    ∃ t cs' rest, Blanks cs cs' ∧ Spells Literal (.value t) cs' rest ∧ r = utf8 rest := by
  unfold skipScalar at scanned
  split at scanned
  · rename_i letter
    obtain ⟨cs', blanks, rfl⟩ := blanks_of_found (c := 'n') (by decide) letter found
    obtain ⟨rest, rfl, hr⟩ := exists_of_word ['u', 'l', 'l'] (by decide) scanned
    exact ⟨.null, _, rest, blanks, .null, hr⟩
  split at scanned
  · rename_i letter
    obtain ⟨cs', blanks, rfl⟩ := blanks_of_found (c := 't') (by decide) letter found
    obtain ⟨rest, rfl, hr⟩ := exists_of_word ['r', 'u', 'e'] (by decide) scanned
    exact ⟨.bool true, _, rest, blanks, .yes, hr⟩
  split at scanned
  · rename_i letter
    obtain ⟨cs', blanks, rfl⟩ := blanks_of_found (c := 'f') (by decide) letter found
    obtain ⟨rest, rfl, hr⟩ := exists_of_word ['a', 'l', 's', 'e'] (by decide) scanned
    exact ⟨.bool false, _, rest, blanks, .no, hr⟩
  split at scanned
  · rename_i minus
    obtain ⟨cs', blanks, rfl⟩ := blanks_of_found (c := '-') (by decide) minus found
    obtain ⟨whole, fraction, exponent, rest, form, rfl, hr⟩ :=
      numeral_of_skipNumber ['-'] (by simp) scanned
    exact ⟨_, _, rest, blanks, .number form, hr⟩
  split at scanned
  · rename_i digit
    have narrow : b < 0x80 := by
      refine UInt8.not_le.mp fun wide => ?_
      rw [isDigit_tests.wide b wide] at digit
      cases digit
    obtain ⟨d, cs', blanks, ascii, rfl, rfl⟩ := exists_of_skipSpace found narrow
    rw [← utf8_cons_ascii ascii] at scanned
    obtain ⟨whole, fraction, exponent, rest, form, at_d, hr⟩ :=
      numeral_of_skipNumber [] (by simp) scanned
    rw [at_d] at blanks
    exact ⟨_, _, rest, blanks, .number form, hr⟩
  split at scanned
  · rename_i quote
    obtain ⟨cs', blanks, rfl⟩ := blanks_of_found (c := '"') (by decide) quote found
    obtain ⟨ps, rest, content, hr⟩ := literal_of_skipString scanned
    exact ⟨.text ps, _, rest, blanks, .text content, hr⟩
  · cases scanned

def Frame.Spelled : Frame → Bool → List Char → List Char → Prop
  | .list, first, cs, rest => ∃ ts, Spells Literal (.items first ts) cs rest
  | .object, first, cs, rest => ∃ ms, Spells Literal (.members first ms) cs rest

theorem Frame.spelled_close {first : Bool} (h : Blanks cs (frame.closing :: rest)) :
    frame.Spelled first cs rest := by
  cases frame with
  | list => exact ⟨[], .endItems h⟩
  | object => exact ⟨[], .endMembers h⟩

theorem colon_eq_ok (h : colon (utf8 cs) = .ok r) :
    ∃ rest, Blanks cs (':' :: rest) ∧ r = utf8 rest := by
  unfold colon at h
  split at h
  · cases h
  · rename_i found
    split at h
    · rename_i at_colon
      cases h
      exact blanks_of_found (c := ':') (by decide) at_colon found
    · cases h

/-- Where the scanner finds the next value of a frame, a spelling of that value and of what follows
completes one of what is left of the frame. -/
theorem Frame.spelled_item (h : frame.nextValue (utf8 cs) = .ok r) :
    ∃ start, r = utf8 start ∧ ∀ {first : Bool} {cs₀ value behind rest : List Char}
      {t : Tree (List Piece)}, Separated first cs₀ cs → Blanks start value →
        Spells Literal (.value t) value behind → frame.Spelled false behind rest →
        frame.Spelled first cs₀ rest := by
  cases frame with
  | list =>
    cases h
    refine ⟨cs, rfl, fun separated blanks value ⟨ts, items⟩ => ?_⟩
    exact ⟨_, .item (separated.trans blanks) value items⟩
  | object =>
    simp only [Frame.nextValue] at h
    split at h
    · cases h
    · rename_i found
      split at h
      · rename_i quote
        obtain ⟨cs', blanks, rfl⟩ := blanks_of_found (c := '"') (by decide) quote found
        split at h
        · rename_i named
          obtain ⟨ps, cs', name, rfl⟩ := literal_of_skipString named
          obtain ⟨start, at_colon, hr⟩ := colon_eq_ok h
          refine ⟨start, hr, fun separated blanks' value ⟨ms, members⟩ => ?_⟩
          exact ⟨_, .member (separated.trans blanks) name at_colon blanks' value members⟩
        · cases h
      · cases h

/-- A bracket opens what is left of a frame, and the two are a value. -/
theorem Frame.opened {b : UInt8} (found : skipSpace (utf8 cs) = b :: s)
    (opens : Frame.ofOpening? b = some frame) :
    ∃ cs' value, Blanks cs value ∧ s = utf8 cs' ∧ ∀ {rest : List Char},
      frame.Spelled true cs' rest → ∃ t, Spells Literal (.value t) value rest := by
  unfold Frame.ofOpening? at opens
  split at opens
  · rename_i bracket
    cases opens
    obtain ⟨cs', blanks, hs⟩ := blanks_of_found (c := '[') (by decide) bracket found
    exact ⟨cs', _, blanks, hs, fun ⟨ts, items⟩ => ⟨.list ts, .list items⟩⟩
  split at opens
  · rename_i bracket
    cases opens
    obtain ⟨cs', blanks, hs⟩ := blanks_of_found (c := '{') (by decide) bracket found
    exact ⟨cs', _, blanks, hs, fun ⟨ms, members⟩ => ⟨.object ms, .object members⟩⟩
  · cases opens

/-- Where the scanner gets through, it has passed a value, or what was left of the innermost frame,
and then gets through from there in fewer steps. -/
theorem skip_sound (fuel : Nat) :
    (∀ frames cs r, skipValue fuel frames (utf8 cs) = .ok r →
      ∃ t cs' rest fuel', fuel' < fuel ∧ Blanks cs cs' ∧ Spells Literal (.value t) cs' rest ∧
        skipAfter fuel' frames (utf8 rest) = .ok r) ∧
    ∀ frame frames cs r, skipAfter fuel (frame :: frames) (utf8 cs) = .ok r →
      ∃ rest fuel', fuel' < fuel ∧ frame.Spelled false cs rest ∧
        skipAfter fuel' frames (utf8 rest) = .ok r := by
  induction fuel using Nat.strongRecOn with
  | _ fuel ih =>
  -- an item whose value starts at `s`, and all that follows in its frame
  have item {fuel' : Nat} (less : fuel' < fuel) {frame : Frame} {frames : List Frame}
      {first : Bool} {cs cs₁ : List Char} {r s : Bytes} (separated : Separated first cs cs₁)
      (next : frame.nextValue (utf8 cs₁) = .ok s)
      (scanned : skipValue fuel' (frame :: frames) s = .ok r) :
      ∃ rest fuel'', fuel'' < fuel' ∧ frame.Spelled first cs rest ∧
        skipAfter fuel'' frames (utf8 rest) = .ok r := by
    obtain ⟨start, rfl, complete⟩ := Frame.spelled_item next
    obtain ⟨t, value, behind, fuel₁, less₁, blanks, spelled, after⟩ :=
      (ih fuel' less).1 _ _ _ scanned
    obtain ⟨rest, fuel₂, less₂, tail, done⟩ := (ih fuel₁ (by omega)).2 _ _ _ _ after
    exact ⟨rest, fuel₂, by omega, complete separated blanks spelled tail, done⟩
  cases fuel with
  | zero =>
    constructor
    · intro frames cs r h
      simp only [skipValue] at h
      cases h
    · intro frame frames cs r h
      simp only [skipAfter] at h
      cases h
  | succ fuel =>
  constructor
  · intro frames cs r h
    cases found : skipSpace (utf8 cs) with
    | nil =>
      simp only [skipValue, found] at h
      cases h
    | cons b s =>
    cases opening : Frame.ofOpening? b with
    | none =>
      cases scanned : skipScalar b s with
      | error e =>
        rw [skipValue_failed found opening scanned] at h
        cases h
      | ok left =>
        rw [skipValue_scalar found opening scanned] at h
        obtain ⟨t, cs', rest, blanks, spelled, rfl⟩ := spells_of_skipScalar found scanned
        exact ⟨t, cs', rest, fuel, Nat.lt_succ_self _, blanks, spelled, h⟩
    | some frame =>
      rw [skipValue_opening found opening] at h
      obtain ⟨cs', value, blanks, rfl, complete⟩ := Frame.opened found opening
      have passed : ∃ rest fuel', fuel' < fuel + 1 ∧ frame.Spelled true cs' rest ∧
          skipAfter fuel' frames (utf8 rest) = .ok r := by
        unfold skipOpened at h
        split at h
        · cases h
        · rename_i behind
          split at h
          · rename_i closed
            rw [eq_of_beq closed, ← frame.octet_closing] at behind
            obtain ⟨rest, blanks, rfl⟩ := blanks_of_skipSpace frame.closing_ascii behind
            exact ⟨rest, fuel, Nat.lt_succ_self _, Frame.spelled_close blanks, h⟩
          · split at h
            · rename_i next
              rw [← behind, skipSpace_utf8] at next
              obtain ⟨rest, fuel', less, spelled, after⟩ :=
                item (Nat.lt_succ_self fuel) (.first (blanks_dropWhile cs')) next h
              exact ⟨rest, fuel', by omega, spelled, after⟩
            · cases h
      obtain ⟨rest, fuel', less, spelled, after⟩ := passed
      obtain ⟨t, whole⟩ := complete spelled
      exact ⟨t, value, rest, fuel', less, blanks, whole, after⟩
  · intro frame frames cs r h
    cases found : skipSpace (utf8 cs) with
    | nil =>
      simp only [skipAfter, found] at h
      cases h
    | cons b s =>
    rw [skipAfter_step found] at h
    split at h
    · rename_i comma
      subst comma
      obtain ⟨cs', blanks, rfl⟩ := blanks_of_skipSpace (c := ',') (by decide) found
      cases next : frame.nextValue (utf8 cs') with
      | error e =>
        rw [next] at h
        cases h
      | ok left =>
        rw [next] at h
        obtain ⟨rest, fuel', less, spelled, after⟩ :=
          item (Nat.lt_succ_self fuel) (.comma blanks (Blanks.refl _)) next h
        exact ⟨rest, fuel', by omega, spelled, after⟩
    split at h
    · rename_i closed
      rw [closed, ← frame.octet_closing] at found
      obtain ⟨rest, blanks, rfl⟩ := blanks_of_skipSpace frame.closing_ascii found
      exact ⟨rest, fuel, Nat.lt_succ_self _, Frame.spelled_close blanks, h⟩
    · cases h

/-- What was passed over is a value, with blanks before it. -/
theorem spells_of_skipAny (h : skipAny (utf8 cs) = .ok r) :
    ∃ t cs' rest, Blanks cs cs' ∧ Spells Literal (.value t) cs' rest ∧ r = utf8 rest := by
  obtain ⟨t, cs', rest, fuel, _, blanks, spelled, after⟩ := (skip_sound _).1 _ _ _ h
  rw [skipAfter_nil] at after
  cases after
  exact ⟨t, cs', rest, blanks, spelled, rfl⟩

end ImageWorker.Json
