import ImageWorker.Proofs.JsonAcceptance
import ImageWorker.Proofs.MessageRoundTrip

/-!
# Which bodies are envelopes

A delivery whose body is a JSON text of the expected shape is accepted by what the members of the
envelope and of its job hold, and by nothing else: not by their order, by other members or by how
the strings are spelled. What is accepted carries the texts of the members. Everything else is
refused for good, and so is every text that breaks the grammar.
-/

namespace ImageWorker

open Json (WellFormed Grammatical)

variable {text : String} {members data : List (String × Json.Tree String)}

/-- What a member that may be missing holds: a text, or none when it is missing or null. -/
def IsOptionalText (member : Option (Json.Tree String)) : Option String → Prop
  | none => member = none ∨ member = some .null
  | some s => member = some (.text s)

/-- The members of a job carry the job. -/
structure Job.Carried (data : List (String × Json.Tree String)) (j : Job) : Prop where
  id : data.lookup "id" = some (.text j.id)
  userId : data.lookup "userId" = some (.text j.userId)
  fileName : IsOptionalText (data.lookup "fileName") j.fileName
  sourceKey : data.lookup "s3RawKey" = some (.text j.sourceKey)
  publicUrl : IsOptionalText (data.lookup "publicUrl") j.publicUrl
  status : IsOptionalText (data.lookup "status") j.status
  transformationType : data.lookup "transformationType" = some (.text j.transformationType)
  transformationParameters :
    IsOptionalText (data.lookup "transformationParameters") j.transformationParameters
  storedUrl : IsOptionalText (data.lookup "s3PublicUrl") j.storedUrl
  createdAt : IsOptionalText (data.lookup "createdAt") j.createdAt

/-- The members of an envelope and of its job carry the envelope, and the job can be told apart and
found. -/
structure Envelope.Carried (members data : List (String × Json.Tree String)) (e : Envelope) :
    Prop where
  pattern : members.lookup "pattern" = some (.text e.pattern) ∨
    members.lookup "pattern" = none ∧ e.pattern = ""
  job : Job.Carried data e.job
  id : HoldsText e.job.id
  sourceKey : HoldsText e.job.sourceKey

namespace Json

theorem elim_text_eq_some {member : Option (Json.Tree String)} {s : String} :
    member.elim none Json.Tree.text? = some s ↔ member = some (.text s) := by
  cases member with
  | none => simp
  | some t => cases t <;> simp [Json.Tree.text?]

theorem elim_textOr_eq_some {member : Option (Json.Tree String)} {s absent : String} :
    member.elim (some absent) Json.Tree.text? = some s ↔
      member = some (.text s) ∨ member = none ∧ s = absent := by
  cases member with
  | none => simp [eq_comm]
  | some t => cases t <;> simp [Json.Tree.text?]

theorem elim_optionalText_eq_some {member : Option (Json.Tree String)} {v : Option String} :
    member.elim (some none) Json.Tree.optionalText? = some v ↔ IsOptionalText member v := by
  cases member with
  | none => cases v <;> simp [IsOptionalText]
  | some t => cases t <;> cases v <;> simp [Json.Tree.optionalText?, IsOptionalText]

theorem map_eq_some_of_inverse {α β : Type} {f : α → β} {g : β → α} {o : Option α} {b : β}
    (fg : ∀ b, f (g b) = b) (gf : ∀ a, g (f a) = a) : o.map f = some b ↔ o = some (g b) := by
  constructor
  · intro h
    obtain ⟨a, found, rfl⟩ := Option.map_eq_some_iff.mp h
    rw [found, gf]
  · intro h
    rw [h, Option.map_some, fg]

end Json

namespace Job

open Json.Fields (gather_cons_eq_some)

def memberNames : List String :=
  ["id", "userId", "fileName", "s3RawKey", "publicUrl", "status", "transformationType",
    "transformationParameters", "s3PublicUrl", "createdAt"]

def meaning : codec.Meaning String := by
  refine .map (.record "ImageJob" (by decide) ?_) _ _
  exact (.text, .text, .optionalText, .text, .optionalText, .optionalText, .text, .optionalText,
    .optionalText, .optionalText, ())

theorem meaning_eq_some {j : Job} :
    meaning.value (.object data) = some j ↔ Carried data j := by
  have text {name : String} {v : String} : (data.lookup name).elim none Json.Tree.text? = some v ↔
      data.lookup name = some (.text v) := Json.elim_text_eq_some
  have optional {name : String} {v : Option String} :
      (data.lookup name).elim (some none) Json.Tree.optionalText? = some v ↔
        IsOptionalText (data.lookup name) v := Json.elim_optionalText_eq_some
  refine (Json.map_eq_some_of_inverse (g := fun j => (j.id, j.userId, j.fileName, j.sourceKey,
    j.publicUrl, j.status, j.transformationType, j.transformationParameters, j.storedUrl,
    j.createdAt, ())) (fun _ => rfl) (fun _ => rfl)).trans ?_
  refine Json.Codec.Meaning.record_texts_eq_some.trans ?_
  -- the fields one after the other
  constructor
  · intro gathered
    obtain ⟨id, gathered⟩ := gather_cons_eq_some.mp gathered
    obtain ⟨userId, gathered⟩ := gather_cons_eq_some.mp gathered
    obtain ⟨fileName, gathered⟩ := gather_cons_eq_some.mp gathered
    obtain ⟨sourceKey, gathered⟩ := gather_cons_eq_some.mp gathered
    obtain ⟨publicUrl, gathered⟩ := gather_cons_eq_some.mp gathered
    obtain ⟨status, gathered⟩ := gather_cons_eq_some.mp gathered
    obtain ⟨type, gathered⟩ := gather_cons_eq_some.mp gathered
    obtain ⟨parameters, gathered⟩ := gather_cons_eq_some.mp gathered
    obtain ⟨storedUrl, gathered⟩ := gather_cons_eq_some.mp gathered
    obtain ⟨createdAt, _⟩ := gather_cons_eq_some.mp gathered
    exact ⟨text.mp id, text.mp userId, optional.mp fileName, text.mp sourceKey,
      optional.mp publicUrl, optional.mp status, text.mp type, optional.mp parameters,
      optional.mp storedUrl, optional.mp createdAt⟩
  · intro carried
    refine gather_cons_eq_some.mpr ⟨text.mpr carried.id, ?_⟩
    refine gather_cons_eq_some.mpr ⟨text.mpr carried.userId, ?_⟩
    refine gather_cons_eq_some.mpr ⟨optional.mpr carried.fileName, ?_⟩
    refine gather_cons_eq_some.mpr ⟨text.mpr carried.sourceKey, ?_⟩
    refine gather_cons_eq_some.mpr ⟨optional.mpr carried.publicUrl, ?_⟩
    refine gather_cons_eq_some.mpr ⟨optional.mpr carried.status, ?_⟩
    refine gather_cons_eq_some.mpr ⟨text.mpr carried.transformationType, ?_⟩
    refine gather_cons_eq_some.mpr ⟨optional.mpr carried.transformationParameters, ?_⟩
    refine gather_cons_eq_some.mpr ⟨optional.mpr carried.storedUrl, ?_⟩
    exact gather_cons_eq_some.mpr ⟨optional.mpr carried.createdAt, rfl⟩

/-- What a job makes is known of every tree but lists and objects in which names repeat. -/
theorem meaning_known {t : Json.Tree String} (list : ∀ ts, t ≠ .list ts)
    (distinct : ∀ ms, t = .object ms → (ms.map (·.1)).Nodup) : meaning.Known t := by
  cases t with
  | list ts => exact absurd rfl (list ts)
  | object ms =>
    refine Json.Codec.recordKnown_texts (distinct ms rfl) fun member _ =>
      Json.Fields.Total.known ?_ _ _
    have all {α : Type} : ∀ _ : α, True := fun _ => trivial
    exact ⟨all, all, all, all, all, all, all, all, all, all, trivial⟩
  | _ => trivial

theorem codec_strict : codec.Strict := by
  refine Json.Codec.Strict.map (Json.Codec.record_strict _ ?_) _ _
  have text := Json.Codec.text_strict
  have optional := Json.Codec.optionalText_strict
  exact ⟨text, text, optional, text, optional, optional, text, optional, optional, optional,
    trivial⟩

end Job

theorem lookup_eq_some_iff (distinct : (members.map (·.1)).Nodup) {name : String}
    {t : Json.Tree String} : members.lookup name = some t ↔ (name, t) ∈ members := by
  induction members with
  | nil => simp
  | cons member members ih =>
    obtain ⟨key, t'⟩ := member
    obtain ⟨fresh, others⟩ := List.nodup_cons.mp distinct
    by_cases same : name = key
    · subst same
      have gone : (name, t) ∉ members := fun mem => fresh (List.mem_map.mpr ⟨_, mem, rfl⟩)
      simp [gone, eq_comm]
    · have differ : (name == key) = false := beq_eq_false_iff_ne.mpr same
      simp [List.lookup_cons, differ, same, ih others]

namespace Envelope

open Json.Fields (gather_cons_eq_some)

def meaning : codec.Meaning String := by
  refine .map (.record "JobEnvelope" (by decide) ?_) _ _
  exact (.textOr "", Job.meaning, ())

theorem meaning_eq_some {e : Envelope} :
    meaning.value (.object members) = some e ↔
      (members.lookup "pattern" = some (.text e.pattern) ∨
        members.lookup "pattern" = none ∧ e.pattern = "") ∧
      (members.lookup "data").elim none Job.meaning.value = some e.job := by
  refine (Json.map_eq_some_of_inverse (g := fun e => (e.pattern, e.job, ())) (fun _ => rfl)
    (fun _ => rfl)).trans ?_
  refine Json.Codec.Meaning.record_texts_eq_some.trans ?_
  constructor
  · intro gathered
    obtain ⟨pattern, gathered⟩ := gather_cons_eq_some.mp gathered
    obtain ⟨job, _⟩ := gather_cons_eq_some.mp gathered
    exact ⟨Json.elim_textOr_eq_some.mp pattern, job⟩
  · rintro ⟨pattern, job⟩
    refine gather_cons_eq_some.mpr ⟨Json.elim_textOr_eq_some.mpr pattern, ?_⟩
    exact gather_cons_eq_some.mpr ⟨job, rfl⟩

theorem meaning_known (distinct : (members.map (·.1)).Nodup)
    (job : ∀ t, members.lookup "data" = some t → Job.meaning.Known t) :
    meaning.Known (.object members) := by
  refine Json.Codec.recordKnown_texts distinct fun (key, t) mem => ?_
  have all : ∀ _ : Json.Tree String, True := fun _ => trivial
  simp only [Json.Fields.Known]
  split
  · exact all t
  split
  · rename_i is_data
    subst is_data
    exact job t ((lookup_eq_some_iff distinct).mpr mem)
  · trivial

theorem codec_strict : codec.Strict := by
  refine Json.Codec.Strict.map (Json.Codec.record_strict _ ?_) _ _
  exact ⟨Json.Codec.textOr_strict "", Job.codec_strict, trivial⟩

/-- The body is refused, and no other attempt could mend it. -/
def Refused (body : Bytes) : Prop :=
  ∃ why, parse body = .error (.malformed why) ∧
    (MessageError.malformed why).errorClass = .permanent

theorem refused_of_not_ok {body : Bytes} (h : ∀ e, parse body ≠ .ok e) : Refused body := by
  unfold parse at h
  unfold Refused parse
  split
  · exact ⟨_, rfl, rfl⟩
  · rename_i e decoded
    simp only [decoded] at h
    unfold check at h ⊢
    split
    · exact ⟨_, rfl, rfl⟩
    split
    · exact ⟨_, rfl, rfl⟩
    · simp_all

theorem refused_of_not_grammatical (h : ¬Grammatical text) : Refused (Bytes.ofText text) :=
  refused_of_not_ok fun _ parsed => h (codec_strict.grammatical (parse_eq_ok_iff.mp parsed).1)

/-- The text spells an envelope around a job, each with distinct member names. -/
structure Spelled (text : String) (members data : List (String × Json.Tree String)) : Prop where
  whole : WellFormed (.object members) text
  distinct : (members.map (·.1)).Nodup
  data_object : members.lookup "data" = some (.object data)
  distinct_data : (data.map (·.1)).Nodup

theorem parse_object (whole : WellFormed (.object members) text)
    (known : meaning.Known (.object members)) (e : Envelope) :
    parse (Bytes.ofText text) = .ok e ↔
      meaning.value (.object members) = some e ∧ HoldsText e.job.id ∧
        HoldsText e.job.sourceKey := by
  have decoded := meaning.decode known whole
  rw [parse_eq_ok_iff, ← decoded]
  cases codec.decode (Bytes.ofText text) <;> simp [Except.toOption]

theorem Spelled.parse_eq_ok (h : Spelled text members data) (e : Envelope) :
    parse (Bytes.ofText text) = .ok e ↔ Carried members data e := by
  have known : meaning.Known (.object members) := by
    refine meaning_known h.distinct fun t found => ?_
    rw [h.data_object] at found
    cases found
    refine Job.meaning_known (fun ts list => by cases list) fun ms same => ?_
    cases same
    exact h.distinct_data
  rw [parse_object h.whole known, meaning_eq_some, h.data_object, Option.elim_some,
    Job.meaning_eq_some]
  constructor
  · rintro ⟨⟨pattern, job⟩, id, sourceKey⟩
    exact ⟨pattern, job, id, sourceKey⟩
  · intro carried
    exact ⟨⟨carried.pattern, carried.job⟩, carried.id, carried.sourceKey⟩

/-- The members give an envelope that can be accepted. -/
structure Acceptable (members data : List (String × Json.Tree String)) : Prop where
  pattern : members.lookup "pattern" = none ∨ ∃ s, members.lookup "pattern" = some (.text s)
  required : ∀ name ∈ ["id", "userId", "s3RawKey", "transformationType"],
    ∃ s, data.lookup name = some (.text s)
  optional : ∀ name ∈ ["fileName", "publicUrl", "status", "transformationParameters",
      "s3PublicUrl", "createdAt"],
    data.lookup name = none ∨ data.lookup name = some .null ∨
      ∃ s, data.lookup name = some (.text s)
  named : ∀ name ∈ ["id", "s3RawKey"], ∀ s, data.lookup name = some (.text s) → HoldsText s

theorem isOptionalText_exists {member : Option (Json.Tree String)} :
    (∃ v, IsOptionalText member v) ↔
      member = none ∨ member = some .null ∨ ∃ s, member = some (.text s) := by
  constructor
  · rintro ⟨v, h⟩
    cases v with
    | none => exact h.elim .inl fun null => .inr (.inl null)
    | some s => exact .inr (.inr ⟨s, h⟩)
  · rintro (missing | null | ⟨s, text⟩)
    · exact ⟨none, .inl missing⟩
    · exact ⟨none, .inr null⟩
    · exact ⟨some s, text⟩

theorem exists_carried_iff : (∃ e, Carried members data e) ↔ Acceptable members data := by
  constructor
  · rintro ⟨e, carried⟩
    have job := carried.job
    refine ⟨?_, ?_, ?_, ?_⟩
    · exact carried.pattern.elim (fun text => .inr ⟨_, text⟩) fun missing => .inl missing.1
    · simp only [List.forall_mem_cons, List.not_mem_nil, false_imp_iff, implies_true, and_true]
      exact ⟨⟨_, job.id⟩, ⟨_, job.userId⟩, ⟨_, job.sourceKey⟩, ⟨_, job.transformationType⟩⟩
    · simp only [← isOptionalText_exists, List.forall_mem_cons, List.not_mem_nil, false_imp_iff,
        implies_true, and_true]
      exact ⟨⟨_, job.fileName⟩, ⟨_, job.publicUrl⟩, ⟨_, job.status⟩,
        ⟨_, job.transformationParameters⟩, ⟨_, job.storedUrl⟩, ⟨_, job.createdAt⟩⟩
    · simp only [List.forall_mem_cons, List.not_mem_nil, false_imp_iff, implies_true, and_true,
        job.id, job.sourceKey, Option.some.injEq, Json.Tree.text.injEq]
      exact ⟨fun s same => same ▸ carried.id, fun s same => same ▸ carried.sourceKey⟩
  · intro acceptable
    have pattern : ∃ p, members.lookup "pattern" = some (.text p) ∨
        members.lookup "pattern" = none ∧ p = "" := by
      rcases acceptable.pattern with missing | ⟨p, text⟩
      · exact ⟨"", .inr ⟨missing, rfl⟩⟩
      · exact ⟨p, .inl text⟩
    have optional (name : String) (mem : name ∈ ["fileName", "publicUrl", "status",
        "transformationParameters", "s3PublicUrl", "createdAt"]) :
        ∃ v, IsOptionalText (data.lookup name) v :=
      isOptionalText_exists.mpr (acceptable.optional name mem)
    obtain ⟨pattern, carries⟩ := pattern
    obtain ⟨id, id_text⟩ := acceptable.required "id" (by simp)
    obtain ⟨userId, userId_text⟩ := acceptable.required "userId" (by simp)
    obtain ⟨sourceKey, sourceKey_text⟩ := acceptable.required "s3RawKey" (by simp)
    obtain ⟨type, type_text⟩ := acceptable.required "transformationType" (by simp)
    obtain ⟨fileName, fileName_text⟩ := optional "fileName" (by simp)
    obtain ⟨publicUrl, publicUrl_text⟩ := optional "publicUrl" (by simp)
    obtain ⟨status, status_text⟩ := optional "status" (by simp)
    obtain ⟨parameters, parameters_text⟩ := optional "transformationParameters" (by simp)
    obtain ⟨storedUrl, storedUrl_text⟩ := optional "s3PublicUrl" (by simp)
    obtain ⟨createdAt, createdAt_text⟩ := optional "createdAt" (by simp)
    refine ⟨⟨pattern, ⟨id, userId, fileName, sourceKey, publicUrl, status, type, parameters,
      storedUrl, createdAt⟩⟩, carries, ⟨id_text, userId_text, fileName_text, sourceKey_text,
      publicUrl_text, status_text, type_text, parameters_text, storedUrl_text, createdAt_text⟩,
      ?_, ?_⟩
    · exact acceptable.named "id" (by simp) id id_text
    · exact acceptable.named "s3RawKey" (by simp) sourceKey sourceKey_text

/-- The members with some names are the same, in any order and whatever the other members are. -/
def SameMembers (names : List String) (members members' : List (String × Json.Tree String)) :
    Prop :=
  (members.filter fun m => m.1 ∈ names).Perm (members'.filter fun m => m.1 ∈ names)

theorem SameMembers.lookup_eq {names : List String}
    {members members' : List (String × Json.Tree String)} (h : SameMembers names members members')
    (distinct : (members.map (·.1)).Nodup) (distinct' : (members'.map (·.1)).Nodup)
    {name : String} (mem : name ∈ names) :
    members.lookup name = members'.lookup name := by
  refine Option.ext fun t => ?_
  have same := h.mem_iff (a := (name, t))
  simp only [List.mem_filter, mem, decide_true, and_true] at same
  rw [lookup_eq_some_iff distinct, lookup_eq_some_iff distinct', same]

theorem Carried.congr {members' data' : List (String × Json.Tree String)} {e : Envelope}
    (carried : Carried members data e)
    (pattern : members.lookup "pattern" = members'.lookup "pattern")
    (job : ∀ name ∈ Job.memberNames, data.lookup name = data'.lookup name) :
    Carried members' data' e := by
  have job (name : String) (mem : name ∈ Job.memberNames) := job name mem
  refine ⟨pattern ▸ carried.pattern, ?_, carried.id, carried.sourceKey⟩
  have h := carried.job
  refine ⟨?_, ?_, ?_, ?_, ?_, ?_, ?_, ?_, ?_, ?_⟩
  all_goals rw [← job _ (by decide)]
  · exact h.id
  · exact h.userId
  · exact h.fileName
  · exact h.sourceKey
  · exact h.publicUrl
  · exact h.status
  · exact h.transformationType
  · exact h.transformationParameters
  · exact h.storedUrl
  · exact h.createdAt

/-- Without an object or a list for the job nothing is accepted. -/
theorem refused_of_data (whole : WellFormed (.object members) text)
    (distinct : (members.map (·.1)).Nodup)
    (data : ∀ t, members.lookup "data" = some t → (∀ ms, t ≠ .object ms) ∧ ∀ ts, t ≠ .list ts) :
    Refused (Bytes.ofText text) := by
  have known : meaning.Known (.object members) := by
    refine meaning_known distinct fun t found => ?_
    obtain ⟨object, list⟩ := data t found
    exact Job.meaning_known list fun ms same => absurd same (object ms)
  refine refused_of_not_ok fun e parsed => ?_
  obtain ⟨_, job⟩ := meaning_eq_some.mp ((parse_object whole known e).mp parsed).1
  cases found : members.lookup "data" with
  | none =>
    rw [found] at job
    cases job
  | some t =>
    rw [found] at job
    obtain ⟨object, list⟩ := data t found
    cases t with
    | object ms => exact object ms rfl
    | _ => cases job

/-- The grammar of accepted bodies. A JSON text around an object with an object for the job, each
with distinct member names, is accepted exactly when its members are acceptable, it then carries the
texts of these members, and only the members that the envelope and the job know count, in any order.
What is not acceptable is refused, and so are a text without an object or a list for the job and
every text that breaks the grammar of JSON. -/
theorem parse_grammar :
    (∀ text members data, Spelled text members data →
      (∀ e, parse (Bytes.ofText text) = .ok e ↔ Carried members data e) ∧
      ((∃ e, parse (Bytes.ofText text) = .ok e) ↔ Acceptable members data) ∧
      (¬Acceptable members data → Refused (Bytes.ofText text)) ∧
      ∀ text' members' data', Spelled text' members' data' →
        SameMembers ["pattern"] members members' → SameMembers Job.memberNames data data' →
        (parse (Bytes.ofText text)).toOption = (parse (Bytes.ofText text')).toOption) ∧
    (∀ text members, WellFormed (.object members) text → (members.map (·.1)).Nodup →
      (∀ t, members.lookup "data" = some t → (∀ ms, t ≠ .object ms) ∧ ∀ ts, t ≠ .list ts) →
      Refused (Bytes.ofText text)) ∧
    ∀ text, ¬Grammatical text → Refused (Bytes.ofText text) := by
  refine ⟨?_, fun _ _ => refused_of_data, fun _ => refused_of_not_grammatical⟩
  intro text members data spelled
  have accepted : (∃ e, parse (Bytes.ofText text) = .ok e) ↔ Acceptable members data := by
    rw [← exists_carried_iff]
    exact exists_congr spelled.parse_eq_ok
  refine ⟨spelled.parse_eq_ok, accepted, ?_, ?_⟩
  · intro unacceptable
    exact refused_of_not_ok fun e parsed => unacceptable (accepted.mp ⟨e, parsed⟩)
  · intro text' members' data' spelled' pattern job
    have same_pattern : members.lookup "pattern" = members'.lookup "pattern" :=
      pattern.lookup_eq spelled.distinct spelled'.distinct (by simp)
    have same_job : ∀ name ∈ Job.memberNames, data.lookup name = data'.lookup name :=
      fun name => job.lookup_eq spelled.distinct_data spelled'.distinct_data
    have toOption_eq_some {body : Bytes} {e : Envelope} :
        (parse body).toOption = some e ↔ parse body = .ok e := by
      cases parse body <;> simp [Except.toOption]
    refine Option.ext fun e => ?_
    rw [toOption_eq_some, toOption_eq_some, spelled.parse_eq_ok, spelled'.parse_eq_ok]
    exact ⟨fun carried => carried.congr same_pattern same_job,
      fun carried => carried.congr same_pattern.symm fun name mem => (same_job name mem).symm⟩

def plainJob : List (String × Json.Tree String) :=
  [("id", .text "7"), ("userId", .text "u"), ("s3RawKey", .text "raw/k"),
    ("transformationType", .text "ROTATE")]

/-- The same members the other way round, with one that is unknown. -/
def shuffledJob : List (String × Json.Tree String) :=
  [("transformationType", .text "ROTATE"), ("size", .list [.null, .number "-1.5e3".toList]),
    ("s3RawKey", .text "raw/k"), ("userId", .text "u"), ("id", .text "7")]

def plainText : String :=
  "\x7b\"data\":\x7b\"id\":\"7\",\"userId\":\"u\",\"s3RawKey\":\"raw/k\",\"transformationType\":\"ROTATE\"\x7d\x7d"

def shuffledText : String :=
  " \x7b\"data\" : \x7b\"transformationType\":\"ROTATE\",\"size\":[null, -1.5e3],\"s3RawKey\":\"raw/k\",\"userId\":\"u\",\"id\":\"\\u0037\"\x7d\x7d"

open Json (Names Spells Blanks Exponent isWhite names_self)

theorem plainText_spelled : Spelled plainText [("data", .object plainJob)] plainJob := by
  have here := Blanks.refl
  refine ⟨⟨_, [], here _, .object ?_, here _⟩, by decide, rfl, by decide⟩
  refine .member (.first (here _)) (names_self (by decide)) (here _) (here _) (.object ?_)
    (.endMembers (here _))
  refine .member (.first (here _)) (names_self (by decide)) (here _) (here _)
    (.text (names_self (by decide))) ?_
  refine .member (.comma (here _) (here _)) (names_self (by decide)) (here _) (here _)
    (.text (names_self (by decide))) ?_
  refine .member (.comma (here _) (here _)) (names_self (by decide)) (here _) (here _)
    (.text (names_self (by decide))) ?_
  exact .member (.comma (here _) (here _)) (names_self (by decide)) (here _) (here _)
    (.text (names_self (by decide))) (.endMembers (here _))

theorem shuffledText_spelled :
    Spelled shuffledText [("data", .object shuffledJob)] shuffledJob := by
  have here := Blanks.refl
  have blank (cs : List Char) : Blanks (' ' :: cs) cs := ⟨[' '], by simp [isWhite], rfl⟩
  have number {rest : List Char} : Spells Names (.value (.number "-1.5e3".toList))
      ('-' :: '1' :: '.' :: '5' :: 'e' :: '3' :: rest) rest :=
    @Spells.number _ _ ['-'] ['1'] ['.', '5'] ['e', '3'] rest
      ⟨by simp, ⟨by simp, by simp⟩, by simp, .digits ⟨by simp, by simp⟩,
        @Exponent.digits 'e' [] ['3'] (by simp) (by simp) ⟨by simp, by simp⟩⟩
  have seven {rest : List Char} :
      Names "7" ('\\' :: 'u' :: '0' :: '0' :: '3' :: '7' :: '"' :: rest) rest :=
    ⟨[.unit 0x37], .unit (by decide) .close, by decide⟩
  refine ⟨⟨_, [], blank _, .object ?_, here _⟩, by decide, rfl, by decide⟩
  refine .member (.first (here _)) (names_self (by decide)) (blank _) (blank _) (.object ?_)
    (.endMembers (here _))
  refine .member (.first (here _)) (names_self (by decide)) (here _) (here _)
    (.text (names_self (by decide))) ?_
  refine .member (.comma (here _) (here _)) (names_self (by decide)) (here _) (here _)
    (.list (.item (.first (here _)) .null (.item (.comma (here _) (blank _)) number
      (.endItems (here _))))) ?_
  refine .member (.comma (here _) (here _)) (names_self (by decide)) (here _) (here _)
    (.text (names_self (by decide))) ?_
  refine .member (.comma (here _) (here _)) (names_self (by decide)) (here _) (here _)
    (.text (names_self (by decide))) ?_
  exact .member (.comma (here _) (here _)) (names_self (by decide)) (here _) (here _)
    (.text seven) (.endMembers (here _))

/-- Two spellings of one envelope, a job without members, an envelope without members and no value
at all. -/
theorem parse_grammar_of_spellings :
    let e : Envelope := ⟨"", ⟨"7", "u", none, "raw/k", none, none, "ROTATE", none, none, none⟩⟩
    parse (Bytes.ofText plainText) = .ok e ∧
      (parse (Bytes.ofText plainText)).toOption = (parse (Bytes.ofText shuffledText)).toOption ∧
      Refused (Bytes.ofText "\x7b\"data\":\x7b\x7d\x7d") ∧ Refused (Bytes.ofText "\x7b\x7d") ∧
      Refused (Bytes.ofText "") := by
  have here := Blanks.refl
  intro e
  obtain ⟨shaped, without, broken⟩ := parse_grammar
  have carried : Carried [("data", .object plainJob)] plainJob e := by
    refine ⟨.inr ⟨rfl, rfl⟩, ?_, ⟨'7', by decide, by decide⟩, ⟨'r', by decide, by decide⟩⟩
    exact ⟨rfl, rfl, .inl rfl, rfl, .inl rfl, .inl rfl, rfl, .inl rfl, .inl rfl, .inl rfl⟩
  obtain ⟨parsed, _, _, same⟩ := shaped _ _ _ plainText_spelled
  have shuffled := same _ _ _ shuffledText_spelled (List.Perm.refl [])
    (List.reverse_perm plainJob).symm
  have empty_job : Spelled "\x7b\"data\":\x7b\x7d\x7d" [("data", .object [])] [] := by
    refine ⟨⟨_, [], here _, .object ?_, here _⟩, by decide, rfl, by decide⟩
    exact .member (.first (here _)) (names_self (by decide)) (here _) (here _)
      (.object (.endMembers (here _))) (.endMembers (here _))
  have unacceptable : ¬Acceptable [("data", .object [])] [] := by
    intro acceptable
    obtain ⟨s, found⟩ := acceptable.required "id" (by simp)
    cases found
  have empty : WellFormed (.object []) "\x7b\x7d" :=
    ⟨_, [], here _, .object (.endMembers (here _)), here _⟩
  have nothing : ¬Grammatical "" := by
    rintro ⟨t, cs, cs', ⟨ws, _, at_end⟩, value, _⟩
    obtain ⟨c, left, rfl, _⟩ := value.begins
    cases ws <;> cases at_end
  exact ⟨(parsed e).mpr carried, shuffled, (shaped _ _ _ empty_job).2.2.1 unacceptable,
    without _ _ empty (by decide) fun t found => (by cases found), broken _ nothing⟩

end Envelope

end ImageWorker
