import ImageWorker.Proofs.CodecRoundTrip
import ImageWorker.Proofs.JsonSkipping

/-!
# What a codec makes of a spelled value

A codec reads a value of the tree that is spelled, whatever the spelling is. For a record the tree
is an object, and what is read of it depends on the members with the names of its fields only: each
field has the value that its member has for the field's codec, or the one that stands for a missing
member. Member names that occur twice are left out of account. The strings of the tree are texts, or
anything that the grammar allows; then those that are no texts are never read, though unknown
members may hold them.
-/

namespace ImageWorker.Json

/-- A reading of the grammar: what its strings name, and which of that are texts. -/
class Reading (τ : Type) where
  named : τ → List Char → List Char → Prop
  text? : τ → Option String
  literal : ∀ {t cs rest}, named t cs rest → ∃ ps, Literal ps cs rest
  string_named : ∀ {t cs rest}, named t cs rest →
    (string (utf8 cs)).toOption = (text? t).map fun s => (s, utf8 rest)

open Reading (named)

instance : Reading String where
  named := Names
  text? := some
  literal h := ⟨h.choose, h.choose_spec.1⟩
  string_named h := by
    obtain ⟨ps, content, chars⟩ := h
    rw [string_literal content, chars, Option.map_some, String.ofList_toList]
    rfl

/-- A string names a text if its surrogates stand in pairs, and nothing otherwise. -/
instance : Reading (Option String) where
  named t cs rest := ∃ ps, Literal ps cs rest ∧ (chars? ps).map String.ofList = t
  text? := id
  literal := fun ⟨ps, content, _⟩ => ⟨ps, content⟩
  string_named := by
    rintro t cs rest ⟨ps, content, rfl⟩
    rw [string_literal content]
    cases chars? ps <;> rfl

@[simp] theorem Reading.text?_string (s : String) : Reading.text? s = some s := rfl

/-- A phrase of the same kind is spelled by the same characters. -/
def Respelled {σ : Type} (names : σ → List Char → List Char → Prop) {τ : Type} :
    Phrase τ → List Char → List Char → Prop
  | .value _, cs, rest => ∃ t, Spells names (.value t) cs rest
  | .items first _, cs, rest => ∃ ts, Spells names (.items first ts) cs rest
  | .members first _, cs, rest => ∃ ms, Spells names (.members first ms) cs rest

/-- What strings name is a matter of the reading; what is spelled by the grammar is not. -/
theorem Spells.respelled {σ τ : Type} {names : τ → List Char → List Char → Prop}
    (names' : σ → List Char → List Char → Prop)
    (strings : ∀ {t cs rest}, names t cs rest → ∃ t', names' t' cs rest) {p : Phrase τ}
    {cs rest : List Char} (h : Spells names p cs rest) : Respelled names' p cs rest := by
  induction h with
  | null => exact ⟨_, .null⟩
  | yes => exact ⟨_, .yes⟩
  | no => exact ⟨_, .no⟩
  | number form => exact ⟨_, .number form⟩
  | text content =>
    obtain ⟨t, content⟩ := strings content
    exact ⟨_, .text content⟩
  | list _ items =>
    obtain ⟨ts, items⟩ := items
    exact ⟨_, .list items⟩
  | object _ members =>
    obtain ⟨ms, members⟩ := members
    exact ⟨_, .object members⟩
  | endItems closed => exact ⟨_, .endItems closed⟩
  | item separated _ _ value items =>
    obtain ⟨t, value⟩ := value
    obtain ⟨ts, items⟩ := items
    exact ⟨_, .item separated value items⟩
  | endMembers closed => exact ⟨_, .endMembers closed⟩
  | member separated name at_colon blanks _ _ value members =>
    obtain ⟨name, content⟩ := strings name
    obtain ⟨t, value⟩ := value
    obtain ⟨ms, members⟩ := members
    exact ⟨_, .member separated content at_colon blanks value members⟩

/-- Every text of the grammar has a tree in which the strings that are no texts name nothing. -/
theorem grammatical_iff {text : String} :
    Grammatical text ↔ ∃ t : Tree (Option String), Whole named t text.toList := by
  constructor
  · rintro ⟨t, cs, cs', before, value, after⟩
    obtain ⟨t', value'⟩ := value.respelled (@named (Option String) _)
      fun {ps _ _} content => ⟨_, ps, content, rfl⟩
    exact ⟨t', cs, cs', before, value', after⟩
  · rintro ⟨t, cs, cs', before, value, after⟩
    obtain ⟨t', value'⟩ := value.respelled Literal Reading.literal
    exact ⟨t', cs, cs', before, value', after⟩

variable {α β τ : Type} [Reading τ] {cs rest : List Char} {s : Bytes}

/-- What a codec makes of a tree, as far as that is known. -/
structure Codec.Meaning (c : Codec α) (τ : Type) [Reading τ] where
  value : Tree τ → Option α
  Known : Tree τ → Prop
  reads : ∀ {t cs cs' rest}, Known t → Blanks cs cs' → Spells named (.value t) cs' rest →
    Ends rest → (c.read (utf8 cs)).toOption = (value t).map fun v => (v, utf8 rest)

/-- A scanner has either found what it should, or failed where nothing should be found. -/
theorem found_or_failed {answer : Except Error (α × Bytes)} {wanted : Option α} {r : Bytes}
    (h : answer.toOption = wanted.map fun v => (v, r)) :
    (∃ v, answer = .ok (v, r) ∧ wanted = some v) ∨ ∃ e, answer = .error e ∧ wanted = none := by
  cases answer with
  | error e =>
    cases wanted with
    | none => exact .inr ⟨e, rfl, rfl⟩
    | some v => cases h
  | ok found =>
    cases wanted with
    | none => cases h
    | some v =>
      cases h
      exact .inl ⟨v, rfl, rfl⟩

theorem wrongType_fails (expected : String) (s : Bytes) :
    (wrongType expected s : Except Error α).toOption = none := by
  unfold wrongType
  cases s with
  | nil => rfl
  | cons b s => repeat (first | rfl | split)

/-- The first character of a value tells some of the shapes of the tree. -/
theorem Spells.shape {σ : Type} {names : σ → List Char → List Char → Prop} {t : Tree σ} {c : Char}
    (h : Spells names (.value t) (c :: cs) rest) :
    (c = '"' ↔ ∃ s, t = .text s) ∧ (c = 'n' ↔ t = .null) ∧ (c = '[' ↔ ∃ ts, t = .list ts) ∧
      (c = '{' ↔ ∃ ms, t = .object ms) := by
  generalize start : c :: cs = cs₀ at h
  cases h with
  | null | yes | no | text _ | list _ | object _ =>
    injection start with hc
    subst hc
    simp
  | @number sign whole fraction exponent _ form =>
    rcases form.head with rfl | ⟨rfl, d, ds, rfl, digit⟩
    · injection start with hc
      subst hc
      simp
    · injection start with hc
      subst hc
      have differ {e : Char} (he : e.isDigit = false) : c ≠ e := by
        intro h
        rw [h, he] at digit
        cases digit
      simp [differ (e := '"') (by decide), differ (e := 'n') (by decide),
        differ (e := '[') (by decide), differ (e := '{') (by decide)]

/-- Where a value is spelled, its first character is found, and the octet tells the shape. -/
theorem Spells.found {t : Tree τ} {cs' : List Char} (blanks : Blanks cs cs')
    (h : Spells named (.value t) cs' rest) :
    ∃ c left, cs' = c :: left ∧ c.toNat < 0x80 ∧ skipSpace (utf8 cs) = octet c :: utf8 left := by
  obtain ⟨c, left, rfl, begins⟩ := h.begins
  have found := skipSpace_of_blanks blanks begins.black.1
  rw [utf8_cons_ascii begins.ascii] at found
  exact ⟨c, left, rfl, begins.ascii, found⟩

def Tree.text? : Tree τ → Option String
  | .text s => Reading.text? s
  | _ => none

theorem readText_spelled (expected : String) {t : Tree τ} {cs' : List Char}
    (blanks : Blanks cs cs') (h : Spells named (.value t) cs' rest) :
    (readText expected (utf8 cs)).toOption = t.text?.map fun s => (s, utf8 rest) := by
  obtain ⟨c, left, rfl, ascii, found⟩ := h.found blanks
  by_cases quote : c = '"'
  · obtain ⟨text, rfl⟩ := h.shape.1.mp quote
    subst quote
    cases h with
    | text content =>
      have at_quote : (octet '"' == 0x22) = true := by decide
      simp only [readText, found, at_quote, if_true]
      exact Reading.string_named content
  · have at_other : (octet c == 0x22) = false := octet_ne (d := '"') ascii (by decide) quote
    have no_text : t.text? = none := by
      cases t with
      | text text => exact absurd (h.shape.1.mpr ⟨text, rfl⟩) quote
      | _ => rfl
    simp only [readText, found, at_other, no_text, Bool.false_eq_true, if_false]
    exact wrongType_fails expected _

def Codec.Meaning.text : Codec.text.Meaning τ where
  value := Tree.text?
  Known _ := True
  reads _ blanks h _ := readText_spelled "a string" blanks h

def Codec.Meaning.textOr (absent : String) : (Codec.textOr absent).Meaning τ where
  value := Tree.text?
  Known _ := True
  reads _ blanks h _ := readText_spelled "a string" blanks h

/-- The text that a tree is, or no text for null. -/
def Tree.optionalText? : Tree τ → Option (Option String)
  | .null => some none
  | .text s => (Reading.text? s).map some
  | _ => none

theorem readOptional_spelled {t : Tree τ} {cs' : List Char} (blanks : Blanks cs cs')
    (h : Spells named (.value t) cs' rest) :
    (Codec.optionalText.read (utf8 cs)).toOption = t.optionalText?.map fun v => (v, utf8 rest) := by
  obtain ⟨c, left, rfl, ascii, found⟩ := h.found blanks
  by_cases null : c = 'n'
  · have shape := h.shape.2.1.mp null
    subst shape null
    cases h with
    | null =>
      simp only [Codec.optionalText, readOptional, found]
      rfl
  · have read := readText_spelled "a string" (Blanks.refl _) h
    rw [utf8_cons_ascii ascii] at read
    have other : octet c ≠ 0x6E := fun same => null (octet_inj ascii (by decide) same)
    have optional : t.optionalText? = t.text?.map some := by
      cases t with
      | null => exact absurd (h.shape.2.1.mpr rfl) null
      | _ => rfl
    simp only [Codec.optionalText, readOptional, found]
    split
    · rename_i at_n
      exact absurd (List.cons.inj at_n).1 other
    · rw [optional]
      rcases found_or_failed read with ⟨text, answer, is_text⟩ | ⟨e, answer, no_text⟩
      · simp only [answer, is_text]
        rfl
      · simp only [answer, no_text]
        rfl

def Codec.Meaning.optionalText : Codec.optionalText.Meaning τ where
  value := Tree.optionalText?
  Known _ := True
  reads _ blanks h _ := readOptional_spelled blanks h

def Codec.Meaning.map {c : Codec α} (m : c.Meaning τ) (f : α → β) (g : β → α) :
    (c.map f g).Meaning τ where
  value t := (m.value t).map f
  Known := m.Known
  reads known blanks h ends := by
    have read := m.reads known blanks h ends
    rcases found_or_failed read with ⟨v, answer, wanted⟩ | ⟨e, answer, wanted⟩
    · simp only [Codec.map, answer, wanted]
      rfl
    · simp only [Codec.map, answer, wanted]
      rfl

namespace Fields

def Meanings (τ : Type) [Reading τ] : {ρ : Type} → Fields ρ → Type
  | _, nil => Unit
  | _, cons _ codec rest => codec.Meaning τ × rest.Meanings τ

/-- The tree is one of which it is known what the field `key` makes, if there is that field. -/
def Known : {ρ : Type} → (fs : Fields ρ) → fs.Meanings τ → (key : String) → Tree τ → Prop
  | _, nil, _, _, _ => True
  | _, cons name _ rest, m, key, t => if key = name then m.1.Known t else rest.Known m.2 key t

/-- Of every field it is known what it makes of any tree. -/
def Total : {ρ : Type} → (fs : Fields ρ) → fs.Meanings τ → Prop
  | _, nil, _ => True
  | _, cons _ _ rest, m => (∀ t, m.1.Known t) ∧ rest.Total m.2

theorem Total.known {ρ : Type} {fs : Fields ρ} {m : fs.Meanings τ} (h : fs.Total m) (key : String)
    (t : Tree τ) : fs.Known m key t := by
  induction fs with
  | nil => trivial
  | cons name codec rest ih =>
    rw [Known]
    split
    · exact h.1 t
    · exact ih h.2

def meet : {ρ : Type} → (fs : Fields ρ) → fs.Meanings τ → String × Tree τ → fs.Draft →
    Option fs.Draft
  | _, nil, _, _, d => some d
  | _, cons name _ rest, m, member, d =>
    if member.1 = name then
      if d.1.isSome then none else (m.1.value member.2).map fun v => (some v, d.2)
    else (rest.meet m.2 member d.2).map fun d' => (d.1, d')

def meetAll {ρ : Type} (fs : Fields ρ) (m : fs.Meanings τ) :
    List (String × Tree τ) → fs.Draft → Option fs.Draft
  | [], d => some d
  | member :: ms, d => (fs.meet m member d).bind (meetAll fs m ms)

/-- The record that members give, looked up by their names. -/
def gather : {ρ : Type} → (fs : Fields ρ) → fs.Meanings τ → (String → Option (Tree τ)) →
    Option ρ
  | _, nil, _, _ => some ()
  | _, cons name codec rest, m, look =>
    match (look name).elim codec.absent m.1.value, rest.gather m.2 look with
    | some v, some vs => some (v, vs)
    | _, _ => none

theorem gather_cons_eq_some {name : String} {codec : Codec α} {fs : Fields β}
    {m : (cons name codec fs).Meanings τ} {look : String → Option (Tree τ)} {v : α} {vs : β} :
    (cons name codec fs).gather m look = some (v, vs) ↔
      (look name).elim codec.absent m.1.value = some v ∧ fs.gather m.2 look = some vs := by
  simp only [gather]
  split <;> simp_all

theorem nextMember_spelled {first : Bool} (h : Separated first cs ('"' :: rest)) :
    nextMember first (utf8 cs) = .ok (.item (utf8 rest)) := by
  cases h with
  | first blanks =>
    have found := skipSpace_of_blanks blanks (by decide)
    rw [utf8_cons_ascii (by decide)] at found
    simp only [nextMember, found]
    rfl
  | comma comma blanks =>
    have found := skipSpace_of_blanks comma (by decide)
    have found' := skipSpace_of_blanks blanks (by decide)
    rw [utf8_cons_ascii (by decide)] at found found'
    have at_comma : nextMember false (utf8 cs) = nextMember true (octet '"' :: utf8 rest) := by
      simp only [nextMember, found, found']
      rfl
    rw [at_comma]
    rfl

theorem nextMember_close {first : Bool} (h : Blanks cs ('}' :: rest)) :
    nextMember first (utf8 cs) = .ok (.closed (utf8 rest)) := by
  have found := skipSpace_of_blanks h (by decide)
  rw [utf8_cons_ascii (by decide)] at found
  simp only [nextMember, found]
  rfl

variable {ρ : Type}

/-- A member is read by its field, or passed over. -/
theorem readMember_spelled (fs : Fields ρ) (m : fs.Meanings τ) {key : String} {t : Tree τ}
    (known : fs.Known m key t) (d : fs.Draft) {start value : List Char}
    (at_colon : Blanks cs (':' :: start)) (blanks : Blanks start value)
    (h : Spells named (.value t) value rest) (ends : Ends rest) :
    (fs.readMember key d (utf8 cs)).toOption =
      (fs.meet m (key, t) d).map fun d => (d, utf8 rest) := by
  have behind := colon_blanks at_colon
  induction fs with
  | nil =>
    have passed := h.skipAny Reading.literal ends blanks
    simp only [readMember, behind, passed]
    rfl
  | cons name codec fs ih =>
    simp only [readMember, meet, Known] at known ⊢
    split
    · rename_i same
      rw [if_pos same] at known
      split
      · rfl
      · have read := m.1.reads known blanks h ends
        rcases found_or_failed read with ⟨v, answer, wanted⟩ | ⟨e, answer, wanted⟩
        · simp only [behind, answer, wanted]
          rfl
        · simp only [behind, answer, wanted]
          rfl
    · rename_i other
      rw [if_neg other] at known
      rcases found_or_failed (ih m.2 known d.2) with ⟨d', answer, wanted⟩ | ⟨e, answer, wanted⟩
      · simp only [answer, wanted]
        rfl
      · simp only [answer, wanted]
        rfl

/-- The members with the texts that their names are, if all of them are texts. -/
def withTexts? : List (τ × Tree τ) → Option (List (String × Tree τ))
  | [] => some []
  | (name, t) :: ms => (Reading.text? name).bind fun key => (withTexts? ms).map ((key, t) :: ·)

@[simp] theorem withTexts?_string (ms : List (String × Tree String)) : withTexts? ms = some ms := by
  induction ms with
  | nil => rfl
  | cons member ms ih => simp [withTexts?, ih]

/-- All the members of an object are read, in their order. -/
theorem readMembers_spelled (fs : Fields ρ) (m : fs.Meanings τ) {ms : List (τ × Tree τ)}
    (known : ∀ member ∈ ms, ∀ key, Reading.text? member.1 = some key → fs.Known m key member.2)
    (d : fs.Draft) {first : Bool} (h : Spells named (.members first ms) cs rest) {fuel : Nat}
    (enough : ms.length < fuel) :
    (fs.readMembers fuel first d (utf8 cs)).toOption =
      ((withTexts? ms).bind fun ms => fs.meetAll m ms d).map fun d => (d, utf8 rest) := by
  induction ms generalizing cs first d fuel with
  | nil =>
    obtain ⟨fuel, rfl⟩ := Nat.exists_eq_succ_of_ne_zero (Nat.ne_of_gt enough)
    cases h with
    | endMembers closed =>
      simp only [readMembers, nextMember_close closed]
      rfl
  | cons member ms ih =>
    obtain ⟨fuel, rfl⟩ := Nat.exists_eq_succ_of_ne_zero (Nat.ne_of_gt (Nat.zero_lt_of_lt enough))
    cases h with
    | @member _ name t _ _ _ _ _ _ _ _ separated is_name at_colon blanks value members =>
      simp only [readMembers, nextMember_spelled separated, withTexts?]
      rcases found_or_failed (Reading.string_named is_name) with
        ⟨key, answer, wanted⟩ | ⟨e, answer, wanted⟩
      · have read := fs.readMember_spelled m (known _ List.mem_cons_self key wanted) d at_colon
          blanks value members.ends_members
        simp only [answer, wanted, Option.bind_some]
        rcases found_or_failed read with ⟨d', answer, met⟩ | ⟨e, answer, met⟩
        · simp only [answer]
          rw [ih (fun member mem => known member (List.mem_cons_of_mem _ mem)) d' members
            (Nat.lt_of_succ_lt_succ enough)]
          cases withTexts? ms <;> simp [meetAll, met]
        · simp only [answer]
          cases withTexts? ms <;> simp [meetAll, met, Except.toOption]
      · simp only [answer, wanted]
        rfl

theorem meet_other (fs : Fields ρ) (m : fs.Meanings τ) {member : String × Tree τ}
    (other : member.1 ∉ fs.names) (d : fs.Draft) : fs.meet m member d = some d := by
  induction fs with
  | nil => rfl
  | cons name codec fs ih =>
    rw [names, List.mem_cons, not_or] at other
    simp only [meet, if_neg other.1, ih m.2 other.2]
    rfl

def meetField {c : Codec α} (name : String) (m : c.Meaning τ) (v : Option α)
    (member : String × Tree τ) : Option (Option α) :=
  if member.1 = name then if v.isSome then none else (m.value member.2).map some else some v

def meetFields {c : Codec α} (name : String) (m : c.Meaning τ) :
    List (String × Tree τ) → Option α → Option (Option α)
  | [], v => some v
  | member :: ms, v => (meetField name m v member).bind (meetFields name m ms)

theorem meetFields_other {c : Codec α} {name : String} (m : c.Meaning τ) (v : Option α)
    {ms : List (String × Tree τ)} (other : name ∉ ms.map (·.1)) :
    meetFields name m ms v = some v := by
  induction ms with
  | nil => rfl
  | cons member ms ih =>
    rw [List.map_cons, List.mem_cons, not_or] at other
    simp only [meetFields, meetField, if_neg (Ne.symm other.1)]
    exact ih other.2

/-- Among members with distinct names a field meets one at most, the one with its name. -/
theorem meetFields_lookup {c : Codec α} (name : String) (m : c.Meaning τ)
    {ms : List (String × Tree τ)} (distinct : (ms.map (·.1)).Nodup) :
    meetFields name m ms none =
      (ms.lookup name).elim (some none) fun t => (m.value t).map some := by
  induction ms with
  | nil => rfl
  | cons member ms ih =>
    obtain ⟨key, t⟩ := member
    obtain ⟨fresh, others⟩ := List.nodup_cons.mp distinct
    by_cases same : key = name
    · subst same
      have met : meetField key m none (key, t) = (m.value t).map some := if_pos rfl
      rw [meetFields, met, List.lookup_cons, beq_self_eq_true]
      cases found : m.value t with
      | none => simp [found]
      | some v => simp [found, meetFields_other m (some v) fresh]
    · have other : (name == key) = false := beq_eq_false_iff_ne.mpr (Ne.symm same)
      have passed : meetField name m none (key, t) = some none := if_neg same
      rw [meetFields, passed, List.lookup_cons, other]
      exact ih others

/-- The first field of a record and the others meet a member side by side. -/
theorem meet_cons {name : String} {codec : Codec α} {fs : Fields β} (fresh : name ∉ fs.names)
    (m : (cons name codec fs).Meanings τ) (member : String × Tree τ) (v : Option α)
    (d : fs.Draft) :
    (cons name codec fs).meet m member (v, d) =
      (meetField name m.1 v member).bind fun v => (fs.meet m.2 member d).map fun d => (v, d) := by
  by_cases same : member.1 = name
  · have kept : fs.meet m.2 member d = some d := fs.meet_other m.2 (same ▸ fresh) d
    simp only [meet, meetField, if_pos same, kept]
    cases v with
    | some v => rfl
    | none => cases m.1.value member.2 <;> rfl
  · simp only [meet, meetField, if_neg same]
    rfl

theorem meetAll_cons {name : String} {codec : Codec α} {fs : Fields β} (fresh : name ∉ fs.names)
    (m : (cons name codec fs).Meanings τ) (ms : List (String × Tree τ)) (v : Option α)
    (d : fs.Draft) :
    (cons name codec fs).meetAll m ms (v, d) =
      (meetFields name m.1 ms v).bind fun v => (fs.meetAll m.2 ms d).map fun d => (v, d) := by
  induction ms generalizing v d with
  | nil => rfl
  | cons member ms ih =>
    refine (congrArg (Option.bind · _) (meet_cons fresh m member v d)).trans ?_
    rw [meetFields, meetAll]
    cases meetField name m.1 v member with
    | none => rfl
    | some v =>
      cases fs.meet m.2 member d with
      | none =>
        change none = (meetFields name m.1 ms v).bind fun _ => none
        cases meetFields name m.1 ms v <;> rfl
      | some d => exact ih v d

theorem complete_cons {name : String} {codec : Codec α} {fs : Fields β} (met : Option (Option α))
    (draft : Option fs.Draft) :
    ((met.bind fun v => draft.map fun d => ((v, d) : (cons name codec fs).Draft)).bind fun d =>
        ((cons name codec fs).complete d).toOption) =
      match met.bind (·.or codec.absent), draft.bind fun d => (fs.complete d).toOption with
      | some v, some vs => some (v, vs)
      | _, _ => none := by
  cases met with
  | none => rfl
  | some v =>
    cases draft with
    | none => cases h : v.or codec.absent <;> simp [h]
    | some d =>
      simp only [Option.bind_some, Option.map_some, complete]
      cases v.or codec.absent with
      | none => rfl
      | some v => cases fs.complete d <;> rfl

/-- What is complete at the end is the record that the members give. -/
theorem complete_meetAll (fs : Fields ρ) (m : fs.Meanings τ) {ms : List (String × Tree τ)}
    (fields : fs.names.Nodup) (distinct : (ms.map (·.1)).Nodup) :
    ((fs.meetAll m ms fs.blank).bind fun d => (fs.complete d).toOption) =
      fs.gather m fun name => ms.lookup name := by
  induction fs with
  | nil =>
    have kept (ms : List (String × Tree τ)) : nil.meetAll m ms () = some () := by
      induction ms with
      | nil => rfl
      | cons member ms ih => exact ih
    rw [blank, kept]
    rfl
  | cons name codec fs ih =>
    obtain ⟨fresh, fields⟩ := List.nodup_cons.mp fields
    have rest := ih m.2 fields
    have value : (meetFields name m.1 ms none).bind (·.or codec.absent) =
        (ms.lookup name).elim codec.absent m.1.value := by
      rw [meetFields_lookup name m.1 distinct]
      cases ms.lookup name with
      | none => rfl
      | some t => cases h : m.1.value t <;> simp [h]
    have side_by_side := congrArg
      (fun draft => draft.bind fun d => ((cons name codec fs).complete d).toOption)
      (meetAll_cons fresh m ms none fs.blank)
    refine side_by_side.trans ((complete_cons _ _).trans ?_)
    rw [value, rest]
    rfl

end Fields

theorem Spells.length_members {first : Bool} {ms : List (τ × Tree τ)}
    (h : Spells named (.members first ms) cs rest) : ms.length ≤ cs.length := by
  induction ms generalizing cs first with
  | nil => exact Nat.zero_le _
  | cons member ms ih =>
    cases h with
    | member separated is_name at_colon blanks value members =>
      have fewer := ih members
      obtain ⟨k, short, _⟩ := value.passed Reading.literal members.ends_members
      have start := separated.length_le
      obtain ⟨ps, content⟩ := Reading.literal is_name
      have name := content.length_lt
      have behind := at_colon.length_le
      have shorter := blanks.length_le
      simp only [List.length_cons] at start behind ⊢
      omega

namespace Codec

open Fields (withTexts?)

/-- What a record makes of a tree: of an object, what the members make. -/
def recordValue {ρ : Type} {fs : Fields ρ} (m : fs.Meanings τ) : Tree τ → Option ρ
  | .object ms => (withTexts? ms).bind fun ms => fs.gather m fun name => ms.lookup name
  | _ => none

/-- The trees of which it is known what a record makes. -/
def RecordKnown {ρ : Type} {fs : Fields ρ} (m : fs.Meanings τ) : Tree τ → Prop
  | .object ms => (∀ texts, withTexts? ms = some texts → (texts.map (·.1)).Nodup) ∧
      ∀ member ∈ ms, ∀ key, Reading.text? member.1 = some key → fs.Known m key member.2
  | .list _ => False
  | _ => True

/-- Where all strings are texts, nothing else than the names of the members has to be known. -/
theorem recordKnown_texts {ρ : Type} {fs : Fields ρ} {m : fs.Meanings String}
    {ms : List (String × Tree String)} (distinct : (ms.map (·.1)).Nodup)
    (known : ∀ member ∈ ms, fs.Known m member.1 member.2) : RecordKnown m (.object ms) := by
  refine ⟨fun texts same => ?_, fun member mem key same => ?_⟩
  · rw [Fields.withTexts?_string] at same
    exact Option.some.inj same ▸ distinct
  · exact Option.some.inj same ▸ known member mem

theorem read_object {ρ : Type} (name : String) {fs : Fields ρ} (fields : fs.names.Nodup)
    (m : fs.Meanings τ) {ms : List (τ × Tree τ)} (known : RecordKnown m (.object ms))
    {left : List Char} (found : skipSpace (utf8 cs) = 0x7B :: utf8 left)
    (h : Spells named (.members true ms) left rest) :
    ((record name fs).read (utf8 cs)).toOption =
      (recordValue m (.object ms)).map fun v => (v, utf8 rest) := by
  have enough : ms.length < (utf8 left).length + 1 :=
    Nat.lt_succ_of_le (Nat.le_trans h.length_members (length_le_utf8 left))
  have read := fs.readMembers_spelled m known.2 fs.blank h enough
  have gathered : recordValue m (.object ms) =
      ((withTexts? ms).bind fun ms => fs.meetAll m ms fs.blank).bind fun d =>
        (fs.complete d).toOption := by
    rw [recordValue]
    cases texts : withTexts? ms with
    | none => rfl
    | some ms' => exact (fs.complete_meetAll m fields (known.1 ms' texts)).symm
  rw [gathered]
  simp only [record, Fields.read, found, beq_self_eq_true, if_true]
  rcases found_or_failed read with ⟨d, answer, met⟩ | ⟨e, answer, met⟩
  · simp only [answer, met, Option.bind_some]
    cases fs.complete d <;> rfl
  · simp only [answer, met]
    rfl

def Meaning.record {ρ : Type} (name : String) {fs : Fields ρ} (fields : fs.names.Nodup)
    (m : fs.Meanings τ) : (Codec.record name fs).Meaning τ where
  value := recordValue m
  Known := RecordKnown m
  reads {t cs cs' rest} known blanks h ends := by
    obtain ⟨c, left, rfl, ascii, found⟩ := h.found blanks
    by_cases brace : c = '{'
    · obtain ⟨ms, rfl⟩ := h.shape.2.2.2.mp brace
      subst brace
      cases h with
      | object members => exact read_object name fields m known found members
    · have bracket : c ≠ '[' := by
        intro hc
        obtain ⟨ts, rfl⟩ := h.shape.2.2.1.mp hc
        exact known
      have no_record : recordValue m t = none := by
        cases t with
        | object ms => exact absurd (h.shape.2.2.2.mpr ⟨ms, rfl⟩) brace
        | _ => rfl
      have at_brace : (octet c == 0x7B) = false := octet_ne (d := '{') ascii (by decide) brace
      have at_bracket : (octet c == 0x5B) = false := octet_ne (d := '[') ascii (by decide) bracket
      simp only [Codec.record, Fields.read, found, at_brace, at_bracket, no_record,
        Bool.false_eq_true, if_false]
      exact wrongType_fails _ _

theorem Meaning.record_texts_eq_some {ρ : Type} {name : String} {fs : Fields ρ}
    {fields : fs.names.Nodup} {m : fs.Meanings String} {ms : List (String × Tree String)} {v : ρ} :
    (Meaning.record name fields m).value (.object ms) = some v ↔
      (fs.gather m fun name => ms.lookup name) = some v := by
  simp only [Meaning.record, recordValue, Fields.withTexts?_string, Option.bind_some]

end Codec

/-- A whole text is decoded as what the codec makes of the tree that it spells. -/
theorem Codec.Meaning.decode {c : Codec α} (m : c.Meaning τ) {t : Tree τ} {text : String}
    (known : m.Known t) (h : Whole named t text.toList) :
    (c.decode (Bytes.ofText text)).toOption = m.value t := by
  obtain ⟨cs, cs', before, value, after⟩ := h
  have ends : Ends cs' := after.ends fun c hc => by cases hc
  have read := m.reads known before value ends
  rw [ofText_eq_utf8, Codec.decode]
  rcases found_or_failed read with ⟨v, answer, wanted⟩ | ⟨e, answer, wanted⟩
  · obtain ⟨ws, white, rfl⟩ := after
    have finished : skipSpace (utf8 (ws ++ [])) = [] := by
      rw [skipSpace_utf8, List.dropWhile_append_of_pos white]
      rfl
    simp only [answer, wanted, finished]
    rfl
  · simp only [answer, wanted]
    rfl

end ImageWorker.Json
