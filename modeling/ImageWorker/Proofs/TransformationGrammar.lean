import ImageWorker.Proofs.JobCourse
import ImageWorker.Proofs.JsonIntegers
import Mathlib.Tactic.SplitIfs

/-!
# Which parameters are transformations

The parameters of a known kind are an object, and what becomes of them is decided by the one or two
members that the kind reads, whatever the others are and in which order they stand. A transformation
is accepted with exactly the values that it asks for. An angle that is an integer but no right angle
and the name of another format have faults of their own, and anything else is a bad parameter.

Every text of the grammar is read as a tree whose strings may be no texts (`Json.grammatical_iff`).
An integer is one that is written as integers are and fits into 64 bits. Parameters in which the
name of a member is no text are refused, since the name is read before it is known to be of no
field.

A job whose transformation is refused never comes to the image code.
-/

namespace ImageWorker

open Json.Fields (withTexts? gather_cons_eq_some)
open Json (Whole Grammatical Codec Reading)

namespace Transformation

/-- A value among parameters. Its strings may be no texts. -/
abbrev Parameter := Json.Tree (Option String)

abbrev Members := List (String × Parameter)

def Members.tree (members : Members) : Parameter :=
  .object (members.map fun (name, t) => (some name, t))

/-- A member is an integer that fits into 64 bits. -/
def HoldsInteger (member : Option Parameter) (n : Int) : Prop :=
  member = some (.integer n) ∧ -2 ^ 63 ≤ n ∧ n ≤ 2 ^ 63 - 1

end Transformation

namespace Json

open Transformation (Parameter Members HoldsInteger)

theorem elim_int64_eq_some {member : Option Parameter} {n : Int} :
    member.elim none Json.Tree.int64? = some n ↔ HoldsInteger member n := by
  cases member with
  | none => simp [HoldsInteger]
  | some t => simp [HoldsInteger, Json.Tree.int64?_eq_some_iff]

theorem elim_paired_eq_some {member : Option Parameter} {s : String} :
    member.elim none Json.Tree.text? = some s ↔ member = some (.text (some s)) := by
  cases member with
  | none => simp
  | some t => cases t <;> simp [Json.Tree.text?, Reading.text?]

namespace Fields

theorem withTexts?_named (members : Members) :
    withTexts? (members.map fun (name, t) => (some name, t)) = some members := by
  induction members with
  | nil => rfl
  | cons member members ih =>
    simp only [List.map_cons, withTexts?, ih]
    rfl

theorem withTexts?_unnamed {members : List (Option String × Parameter)}
    (unnamed : ∃ member ∈ members, member.1 = none) : withTexts? members = none := by
  induction members with
  | nil =>
    obtain ⟨_, mem, _⟩ := unnamed
    cases mem
  | cons member members ih =>
    obtain ⟨name, t⟩ := member
    simp only [List.mem_cons, exists_eq_or_imp] at unnamed
    rcases unnamed with rfl | later
    · rfl
    · rw [withTexts?, ih later]
      cases Reading.text? name <;> rfl

end Fields

namespace Codec

variable {ρ : Type} {fs : Fields ρ} {m : fs.Meanings (Option String)}

theorem recordKnown_total (total : fs.Total m) {ms : List (Option String × Parameter)}
    (distinct : ∀ texts, withTexts? ms = some texts → (texts.map (·.1)).Nodup) :
    RecordKnown m (.object ms) :=
  And.intro distinct fun member _ key _ => total.known key member.2

theorem recordValue_named {members : Members} {v : ρ} :
    recordValue m members.tree = some v ↔
      (fs.gather m fun name => members.lookup name) = some v := by
  rw [Members.tree, recordValue, Fields.withTexts?_named, Option.bind_some]

theorem recordValue_unnamed {ms : List (Option String × Parameter)}
    (unnamed : withTexts? ms = none) : recordValue m (.object ms) = none := by
  rw [recordValue, unnamed, Option.bind_none]

end Codec

end Json

theorem Rotation.ofDegrees_eq_ok_iff {n : Int} {r : Rotation} :
    ofDegrees n = .ok r ↔ n = r.degrees := by
  constructor
  · intro accepted
    unfold ofDegrees at accepted
    split_ifs at accepted with turned turned turned turned
    all_goals
      cases accepted
      exact turned
  · rintro rfl
    exact ofDegrees_degrees r

theorem Rotation.ofDegrees_eq_error_iff {n : Int} {e : MessageError} :
    ofDegrees n = .error e ↔ n ∉ [0, 90, 180, 270] ∧ e = .unsupportedRotation n := by
  unfold ofDegrees
  split_ifs <;> simp_all [eq_comm]

namespace TargetFormat

/-- The name under which parameters ask for a format. -/
def title : TargetFormat → String
  | png => "PNG"
  | jpeg => "JPEG"
  | gif => "GIF"
  | bmp => "BMP"
  | tiff => "TIFF"

/-- What a fault shows of another name. -/
def shown (name : String) : String :=
  if name = "PDF" then "PDF conversion is not supported" else name

theorem parse_eq_ok_iff {s : String} {f : TargetFormat} :
    parse s = .ok f ↔ (trimmed s).map Char.toUpper = f.title := by
  unfold parse
  split <;> cases f <;> simp_all [title]

theorem parse_eq_error_iff {s : String} {e : MessageError} :
    parse s = .error e ↔ (∀ f : TargetFormat, (trimmed s).map Char.toUpper ≠ f.title) ∧
      e = .unsupportedFormat (shown ((trimmed s).map Char.toUpper)) := by
  have other : (∀ f : TargetFormat, (trimmed s).map Char.toUpper ≠ f.title) ↔
      ∀ f, parse s ≠ .ok f := by simp only [ne_eq, parse_eq_ok_iff]
  rw [other]
  unfold parse
  split
  case h_6 pdf => simp [shown, pdf, eq_comm]
  case h_7 no_pdf =>
    rw [shown, if_neg no_pdf]
    simp [eq_comm]
  all_goals simp

end TargetFormat

namespace Transformation

/-- The text is an object with these members, and their names are distinct texts. -/
structure Parameters (text : String) (members : Members) : Prop where
  whole : Whole Reading.named members.tree text.toList
  distinct : (members.map (·.1)).Nodup

/-- The side of a box, within the limit. -/
def AskedSide (member : Option Parameter) (n : Nat) : Prop :=
  member = some (.integer n) ∧ 1 ≤ n ∧ n ≤ maxOutputDimension

/-- The members ask for a transformation. -/
def Asked (members : Members) : Transformation → Prop
  | resize box | forceResize box =>
    AskedSide (members.lookup "width") box.width ∧ AskedSide (members.lookup "height") box.height
  | rotate angle => members.lookup "degree" = some (.integer angle.degrees)
  | convert format => ∃ s, members.lookup "format" = some (.text (some s)) ∧
    (trimmed s).map Char.toUpper = format.title

/-- The members ask for an integer angle that is no right angle. -/
def OtherAngle (members : Members) (n : Int) : Prop :=
  HoldsInteger (members.lookup "degree") n ∧ n ∉ [0, 90, 180, 270]

def OtherFormat (members : Members) (shown : String) : Prop :=
  ∃ s, members.lookup "format" = some (.text (some s)) ∧
    (∀ f : TargetFormat, (trimmed s).map Char.toUpper ≠ f.title) ∧
    shown = TargetFormat.shown ((trimmed s).map Char.toUpper)

/-- What becomes of the members of a known kind: the transformation that they ask for, the fault of
an angle or a format, and for all else a bad parameter. -/
structure Judged (k : TransformationKind) (members : Members)
    (answer : Except MessageError Transformation) : Prop where
  accepted (t : Transformation) : answer = .ok t ↔ t.kind = k ∧ Asked members t
  angle (n : Int) :
    answer = .error (.unsupportedRotation n) ↔ k = .rotate ∧ OtherAngle members n
  format (shown : String) :
    answer = .error (.unsupportedFormat shown) ↔ k = .convert ∧ OtherFormat members shown
  otherwise (e : MessageError) : answer = .error e → (∃ n, e = .unsupportedRotation n) ∨
    (∃ shown, e = .unsupportedFormat shown) ∨ ∃ why, e = .invalidParameters k.name why

variable {text : String} {members : Members} {k : TransformationKind} {e : MessageError} {α : Type}

/-- What is no record is a bad parameter. -/
theorem readParameters_error {codec : Codec α} (failed : readParameters k codec text = .error e) :
    ∃ why, e = .invalidParameters k.name why := by
  unfold readParameters at failed
  split at failed
  · cases failed
  · cases failed
    exact ⟨_, rfl⟩

/-- A bad parameter is no fault of an angle or a format. -/
theorem invalid_ne (invalid : ∃ why, e = .invalidParameters k.name why) :
    (∀ n, e ≠ .unsupportedRotation n) ∧ ∀ shown, e ≠ .unsupportedFormat shown := by
  obtain ⟨why, rfl⟩ := invalid
  exact ⟨nofun, nofun⟩

theorem readParameters_eq_ok_iff {codec : Codec α} (m : codec.Meaning (Option String))
    {t : Parameter} (known : m.Known t) (whole : Whole Reading.named t text.toList)
    {v : α} : readParameters k codec text = .ok v ↔ m.value t = some v := by
  rw [← m.decode known whole, readParameters]
  cases codec.decode (Bytes.ofText text) <;> simp [Except.toOption]

def boxMeaning : boxParameters.Meaning (Option String) :=
  .record "RawResize" (by decide) (.int64, .int64, ())

def angleMeaning : angleParameters.Meaning (Option String) :=
  .record "RawRotate" (by decide) (.int64, ())

def formatMeaning : formatParameters.Meaning (Option String) :=
  .record "RawConvert" (by decide) (.text, ())

/-- The texts among the names of an object are distinct, if all names are texts. -/
def Distinct (ms : List (Option String × Parameter)) : Prop :=
  ∀ texts, withTexts? ms = some texts → (texts.map (·.1)).Nodup

/-- What a kind makes is known of every object. -/
theorem meanings_known {ms : List (Option String × Parameter)} (distinct : Distinct ms) :
    boxMeaning.Known (.object ms) ∧ angleMeaning.Known (.object ms) ∧
      formatMeaning.Known (.object ms) := by
  have all : ∀ _ : Parameter, True := fun _ => trivial
  refine ⟨Codec.recordKnown_total ?_ distinct, Codec.recordKnown_total ?_ distinct,
    Codec.recordKnown_total ?_ distinct⟩
  · exact ⟨all, all, trivial⟩
  · exact ⟨all, trivial⟩
  · exact ⟨all, trivial⟩

theorem Parameters.known (given : Parameters text members) :
    boxMeaning.Known members.tree ∧ angleMeaning.Known members.tree ∧
      formatMeaning.Known members.tree := by
  refine meanings_known fun texts same => ?_
  rw [Json.Fields.withTexts?_named] at same
  exact Option.some.inj same ▸ given.distinct

/-- The parameters are no record of any kind. -/
structure Unreadable (text : String) : Prop where
  box : ∀ v, boxParameters.decode (Bytes.ofText text) ≠ .ok v
  angle : ∀ v, angleParameters.decode (Bytes.ofText text) ≠ .ok v
  format : ∀ v, formatParameters.decode (Bytes.ofText text) ≠ .ok v

theorem Unreadable.parse_eq (unreadable : Unreadable text) (k : TransformationKind) :
    ∃ why, parse k.name text = .error (.invalidParameters k.name why) := by
  have refused {α : Type} {codec : Codec α} (k : TransformationKind)
      (none : ∀ v, codec.decode (Bytes.ofText text) ≠ .ok v) :
      ∃ why, readParameters k codec text = .error (.invalidParameters k.name why) := by
    unfold readParameters
    split
    next v decoded => exact absurd decoded (none v)
    · exact ⟨_, rfl⟩
  unfold parse
  rw [TransformationKind.parse_name]
  cases k with
  | resize =>
    obtain ⟨why, read⟩ := refused .resize unreadable.box
    refine ⟨why, ?_⟩
    simp only [readBox, read]
    rfl
  | forceResize =>
    obtain ⟨why, read⟩ := refused .forceResize unreadable.box
    refine ⟨why, ?_⟩
    simp only [readBox, read]
    rfl
  | rotate =>
    obtain ⟨why, read⟩ := refused .rotate unreadable.angle
    exact ⟨why, by simp only [read]⟩
  | convert =>
    obtain ⟨why, read⟩ := refused .convert unreadable.format
    exact ⟨why, by simp only [read]⟩

theorem unreadable_of_not_grammatical (broken : ¬Grammatical text) : Unreadable text := by
  have integer := Codec.int64_strict
  have box : boxParameters.Strict := Codec.record_strict _ ⟨integer, integer, trivial⟩
  have angle : angleParameters.Strict := Codec.record_strict _ ⟨integer, trivial⟩
  have format : formatParameters.Strict := Codec.record_strict _ ⟨Codec.text_strict, trivial⟩
  exact ⟨fun _ decoded => broken (box.grammatical decoded),
    fun _ decoded => broken (angle.grammatical decoded),
    fun _ decoded => broken (format.grammatical decoded)⟩

/-- A name that is no text is read before it is known to be of no field. -/
theorem unreadable_of_unnamed {ms : List (Option String × Parameter)}
    (whole : Whole Reading.named (.object ms) text.toList)
    (unnamed : ∃ member ∈ ms, member.1 = none) : Unreadable text := by
  have nameless := Json.Fields.withTexts?_unnamed unnamed
  have distinct : Distinct ms := fun texts same => by
    rw [nameless] at same
    cases same
  obtain ⟨box, angle, format⟩ := meanings_known distinct
  have refused {α : Type} {codec : Codec α} (m : codec.Meaning (Option String))
      (known : m.Known (.object ms)) (nothing : m.value (.object ms) = none) (v : α) :
      codec.decode (Bytes.ofText text) ≠ .ok v := by
    intro decoded
    have read := m.decode known whole
    rw [decoded, nothing] at read
    cases read
  exact ⟨refused boxMeaning box (Codec.recordValue_unnamed nameless),
    refused angleMeaning angle (Codec.recordValue_unnamed nameless),
    refused formatMeaning format (Codec.recordValue_unnamed nameless)⟩

theorem side_error {name : String} {value : Int} (failed : side k name value = .error e) :
    ∃ why, e = .invalidParameters k.name why := by
  unfold side at failed
  split_ifs at failed
  all_goals
    cases failed
    exact ⟨_, rfl⟩

theorem readBox_error (failed : readBox k text = .error e) :
    ∃ why, e = .invalidParameters k.name why := by
  unfold readBox at failed
  split at failed
  next read =>
    cases failed
    exact readParameters_error read
  next =>
    split at failed
    next wide =>
      cases failed
      exact side_error wide
    next =>
      split at failed
      next high =>
        cases failed
        exact side_error high
      next => cases failed

theorem Parameters.box_eq_ok_iff (given : Parameters text members) {height width : Int} :
    readParameters k boxParameters text = .ok (height, width, ()) ↔
      HoldsInteger (members.lookup "height") height ∧
        HoldsInteger (members.lookup "width") width := by
  rw [readParameters_eq_ok_iff boxMeaning given.known.1 given.whole]
  refine Codec.recordValue_named.trans (gather_cons_eq_some.trans ?_)
  refine and_congr Json.elim_int64_eq_some (gather_cons_eq_some.trans ?_)
  exact (and_iff_left rfl).trans Json.elim_int64_eq_some

theorem askedSide_iff {member : Option Parameter} {n : Nat} :
    AskedSide member n ↔ HoldsInteger member n ∧ 0 < n ∧ n ≤ maxOutputDimension := by
  unfold AskedSide HoldsInteger maxOutputDimension
  constructor
  · rintro ⟨same, positive, limited⟩
    exact ⟨⟨same, by omega, by omega⟩, positive, limited⟩
  · rintro ⟨⟨same, _⟩, positive, limited⟩
    exact ⟨same, positive, limited⟩

theorem Parameters.readBox_eq_ok_iff (given : Parameters text members) {box : Box} :
    readBox k text = .ok box ↔ AskedSide (members.lookup "width") box.width ∧
      AskedSide (members.lookup "height") box.height := by
  rw [Transformation.readBox_eq_ok_iff, given.box_eq_ok_iff, askedSide_iff, askedSide_iff]
  constructor
  · rintro ⟨⟨height, width⟩, wide, high⟩
    exact ⟨⟨width, wide⟩, height, high⟩
  · rintro ⟨⟨width, wide⟩, height, high⟩
    exact ⟨⟨height, width⟩, wide, high⟩

theorem bind_eq_ok_iff {ε α β : Type} {answer : Except ε (α × Unit)}
    {f : α × Unit → Except ε β} {b : β} :
    answer.bind f = .ok b ↔ ∃ a, answer = .ok (a, ()) ∧ f (a, ()) = .ok b := by
  rcases answer with e | ⟨a, ⟨⟩⟩ <;> simp [Except.bind]

theorem bind_eq_error_iff {ε α β : Type} {answer : Except ε (α × Unit)}
    {f : α × Unit → Except ε β} {e : ε} :
    answer.bind f = .error e ↔
      answer = .error e ∨ ∃ a, answer = .ok (a, ()) ∧ f (a, ()) = .error e := by
  rcases answer with e | ⟨a, ⟨⟩⟩ <;> simp [Except.bind]

theorem map_eq_ok_iff {ε α β : Type} {answer : Except ε α} {f : α → β} {b : β} :
    answer.map f = .ok b ↔ ∃ a, answer = .ok a ∧ f a = b := by
  cases answer <;> simp [Except.map]

theorem map_eq_error_iff {ε α β : Type} {answer : Except ε α} {f : α → β} {e : ε} :
    answer.map f = .error e ↔ answer = .error e := by
  cases answer <;> simp [Except.map]

/-- The two kinds that read a box. -/
theorem Parameters.judged_box (given : Parameters text members) {make : Box → Transformation}
    (kind : ∀ t, t.kind = k ↔ ∃ box, make box = t)
    (asked : ∀ box, Asked members (make box) ↔
      AskedSide (members.lookup "width") box.width ∧
        AskedSide (members.lookup "height") box.height)
    (no_turn : k ≠ .rotate) (no_conversion : k ≠ .convert) :
    Judged k members ((readBox k text).map make) where
  accepted t := by
    rw [map_eq_ok_iff, kind]
    constructor
    · rintro ⟨box, read, rfl⟩
      exact ⟨⟨box, rfl⟩, (asked box).mpr (given.readBox_eq_ok_iff.mp read)⟩
    · rintro ⟨⟨box, rfl⟩, asks⟩
      exact ⟨box, given.readBox_eq_ok_iff.mpr ((asked box).mp asks), rfl⟩
  angle n := by
    rw [map_eq_error_iff]
    exact iff_of_false (fun failed => (invalid_ne (readBox_error failed)).1 n rfl)
      fun turn => no_turn turn.1
  format shown := by
    rw [map_eq_error_iff]
    exact iff_of_false (fun failed => (invalid_ne (readBox_error failed)).2 shown rfl)
      fun conversion => no_conversion conversion.1
  otherwise e failed := .inr (.inr (readBox_error (map_eq_error_iff.mp failed)))

theorem parse_rotate (text : String) :
    parse TransformationKind.rotate.name text =
      (readParameters .rotate angleParameters text).bind fun v =>
        (Rotation.ofDegrees v.1).map rotate := by
  unfold parse
  rw [TransformationKind.parse_name]
  cases readParameters .rotate angleParameters text <;> rfl

theorem parse_convert (text : String) :
    parse TransformationKind.convert.name text =
      (readParameters .convert formatParameters text).bind fun v =>
        (TargetFormat.parse v.1).map convert := by
  unfold parse
  rw [TransformationKind.parse_name]
  cases readParameters .convert formatParameters text <;> rfl

theorem Parameters.angle_eq_ok_iff (given : Parameters text members) {degree : Int} :
    readParameters k angleParameters text = .ok (degree, ()) ↔
      HoldsInteger (members.lookup "degree") degree := by
  rw [readParameters_eq_ok_iff angleMeaning given.known.2.1 given.whole]
  refine Codec.recordValue_named.trans (gather_cons_eq_some.trans ?_)
  exact (and_iff_left rfl).trans Json.elim_int64_eq_some

theorem Parameters.format_eq_ok_iff (given : Parameters text members) {format : String} :
    readParameters k formatParameters text = .ok (format, ()) ↔
      members.lookup "format" = some (.text (some format)) := by
  rw [readParameters_eq_ok_iff formatMeaning given.known.2.2 given.whole]
  refine Codec.recordValue_named.trans (gather_cons_eq_some.trans ?_)
  exact (and_iff_left rfl).trans Json.elim_paired_eq_some

theorem holdsInteger_degrees {member : Option Parameter} {angle : Rotation} :
    HoldsInteger member angle.degrees ↔ member = some (.integer angle.degrees) := by
  unfold HoldsInteger
  cases angle <;> simp [Rotation.degrees]

theorem kind_eq_rotate_iff {t : Transformation} :
    t.kind = .rotate ↔ ∃ angle, rotate angle = t := by
  cases t <;> simp [kind]

theorem kind_eq_convert_iff {t : Transformation} :
    t.kind = .convert ↔ ∃ format, convert format = t := by
  cases t <;> simp [kind]

theorem Parameters.judged_rotate (given : Parameters text members) :
    Judged .rotate members (parse TransformationKind.rotate.name text) := by
  have ok (t : Transformation) : parse TransformationKind.rotate.name text = .ok t ↔
      ∃ n, HoldsInteger (members.lookup "degree") n ∧
        ∃ angle : Rotation, n = angle.degrees ∧ rotate angle = t := by
    simp only [parse_rotate, bind_eq_ok_iff, given.angle_eq_ok_iff, map_eq_ok_iff,
      Rotation.ofDegrees_eq_ok_iff]
  have error (e : MessageError) : parse TransformationKind.rotate.name text = .error e ↔
      readParameters .rotate angleParameters text = .error e ∨
        ∃ n, HoldsInteger (members.lookup "degree") n ∧ n ∉ [0, 90, 180, 270] ∧
          e = .unsupportedRotation n := by
    simp only [parse_rotate, bind_eq_error_iff, given.angle_eq_ok_iff, map_eq_error_iff,
      Rotation.ofDegrees_eq_error_iff]
  refine ⟨fun t => ?_, fun n => ?_, fun shown => ?_, fun e failed => ?_⟩
  · rw [ok, kind_eq_rotate_iff]
    constructor
    · rintro ⟨_, holds, angle, rfl, rfl⟩
      exact ⟨⟨angle, rfl⟩, holdsInteger_degrees.mp holds⟩
    · rintro ⟨⟨angle, rfl⟩, asks⟩
      exact ⟨_, holdsInteger_degrees.mpr asks, angle, rfl, rfl⟩
  · rw [error]
    constructor
    · rintro (unread | ⟨_, holds, other, ⟨⟩⟩)
      · exact absurd rfl ((invalid_ne (readParameters_error unread)).1 n)
      · exact ⟨rfl, holds, other⟩
    · rintro ⟨_, holds, other⟩
      exact .inr ⟨n, holds, other, rfl⟩
  · rw [error]
    refine iff_of_false ?_ nofun
    rintro (unread | ⟨_, _, _, ⟨⟩⟩)
    exact (invalid_ne (readParameters_error unread)).2 shown rfl
  · rcases (error e).mp failed with unread | ⟨n, _, _, same⟩
    · exact .inr (.inr (readParameters_error unread))
    · exact .inl ⟨n, same⟩

theorem Parameters.judged_convert (given : Parameters text members) :
    Judged .convert members (parse TransformationKind.convert.name text) := by
  have ok (t : Transformation) : parse TransformationKind.convert.name text = .ok t ↔
      ∃ s, members.lookup "format" = some (.text (some s)) ∧
        ∃ format : TargetFormat, (trimmed s).map Char.toUpper = format.title ∧
          convert format = t := by
    simp only [parse_convert, bind_eq_ok_iff, given.format_eq_ok_iff, map_eq_ok_iff,
      TargetFormat.parse_eq_ok_iff]
  have error (e : MessageError) : parse TransformationKind.convert.name text = .error e ↔
      readParameters .convert formatParameters text = .error e ∨
        ∃ shown, OtherFormat members shown ∧ e = .unsupportedFormat shown := by
    simp only [parse_convert, bind_eq_error_iff, given.format_eq_ok_iff, map_eq_error_iff,
      TargetFormat.parse_eq_error_iff]
    refine or_congr_right ?_
    constructor
    · rintro ⟨s, holds, other, same⟩
      exact ⟨_, ⟨s, holds, other, rfl⟩, same⟩
    · rintro ⟨_, ⟨s, holds, other, rfl⟩, same⟩
      exact ⟨s, holds, other, same⟩
  refine ⟨fun t => ?_, fun n => ?_, fun shown => ?_, fun e failed => ?_⟩
  · rw [ok, kind_eq_convert_iff]
    constructor
    · rintro ⟨s, holds, format, named, rfl⟩
      exact ⟨⟨format, rfl⟩, s, holds, named⟩
    · rintro ⟨⟨format, rfl⟩, s, holds, named⟩
      exact ⟨s, holds, format, named, rfl⟩
  · rw [error]
    refine iff_of_false ?_ nofun
    rintro (unread | ⟨_, _, ⟨⟩⟩)
    exact (invalid_ne (readParameters_error unread)).1 n rfl
  · rw [error]
    constructor
    · rintro (unread | ⟨_, other, ⟨⟩⟩)
      · exact absurd rfl ((invalid_ne (readParameters_error unread)).2 shown)
      · exact ⟨rfl, other⟩
    · rintro ⟨_, other⟩
      exact .inr ⟨shown, other, rfl⟩
  · rcases (error e).mp failed with unread | ⟨shown, _, same⟩
    · exact .inr (.inr (readParameters_error unread))
    · exact .inr (.inl ⟨shown, same⟩)

theorem Parameters.judged (given : Parameters text members) (k : TransformationKind) :
    Judged k members (parse k.name text) := by
  cases k with
  | resize =>
    have own (t : Transformation) : t.kind = .resize ↔ ∃ box, resize box = t := by
      cases t <;> simp [kind]
    exact given.judged_box own (fun _ => Iff.rfl) nofun nofun
  | forceResize =>
    have own (t : Transformation) : t.kind = .forceResize ↔ ∃ box, forceResize box = t := by
      cases t <;> simp [kind]
    exact given.judged_box own (fun _ => Iff.rfl) nofun nofun
  | rotate => exact given.judged_rotate
  | convert => exact given.judged_convert

/-- A kind that no transformation has is named in the fault, whatever the parameters are. -/
theorem parse_unknown {name : String} (unknown : ∀ k : TransformationKind, name ≠ k.name)
    (text : String) : parse name text = .error (.unknownTransformation name) := by
  have refused : TransformationKind.parse name = .error (.unknownTransformation name) := by
    unfold TransformationKind.parse
    split
    · exact absurd rfl (unknown .resize)
    · exact absurd rfl (unknown .rotate)
    · exact absurd rfl (unknown .convert)
    · exact absurd rfl (unknown .forceResize)
    · rfl
  rw [parse, refused]

end Transformation

namespace Pipeline

open JobTrace

/-- The request is none for an image, and of the object store it only reads the object `key`. -/
def Spares (key : String) (x : JobExchange) : Prop :=
  x.request.isTransform = false ∧
    (x.request.isStorageCall = true → x.request = .download key)

variable {p : Pipeline} {job : Job} {trace : JobTrace} {key : String} {e : MessageError}

theorem spares_of_isReport {x : JobExchange} (report : x.request.isReport = true) :
    Spares key x := by
  obtain ⟨r, answer⟩ := x
  cases r with
  | note | elapsed => exact ⟨rfl, nofun⟩
  | _ => cases report

theorem spares_of_isWaiting {x : JobExchange} (waiting : x.request.isWaiting = true) :
    Spares key x := by
  obtain ⟨r, answer⟩ := x
  cases r with
  | isStopping | pause | note => exact ⟨rfl, nofun⟩
  | _ => cases waiting

theorem spares_download (answer : Race (Except StorageError Bytes)) :
    Spares key (downloadExchange key answer) := ⟨rfl, fun _ => rfl⟩

def Milestone.Early : Milestone → Prop
  | announced | downloaded _ | staged _ _ => True
  | transformed _ _ _ | resultStaged _ _ _ _ | uploaded _ _ _ _ _ => False

/-- Without a transformation a job gets no farther than to its staged source. -/
theorem Passes.early (refused : job.transformation = .error e) {m : Milestone}
    (passed : Passes p job trace m) : m.Early ∧ ∀ x ∈ trace, Spares job.sourceKey x := by
  induction passed with
  | announced quiet quietAfter _ =>
    refine ⟨trivial, List.forall_mem_append.mpr ⟨fun x mem => spares_of_isReport (quiet x mem), ?_⟩⟩
    rw [List.forall_mem_cons]
    exact ⟨⟨rfl, nofun⟩, fun x mem => spares_of_isReport (quietAfter x mem)⟩
  | downloaded _ tried ih =>
    have calls := tried.forall_mem (fun _ => spares_of_isWaiting) spares_download
    exact ⟨trivial, List.forall_mem_append.mpr ⟨ih.2, calls⟩⟩
  | staged _ _ ih =>
    refine ⟨trivial, List.forall_mem_append.mpr ⟨ih.2, ?_⟩⟩
    simp [Spares, JobRequest.isTransform, JobRequest.isStorageCall]
  | transformed _ resolved =>
    rw [refused] at resolved
    cases resolved
  | resultStaged _ _ _ ih => exact ih.1.elim
  | uploaded _ _ ih => exact ih.1.elim

theorem Fails.spares {stage : Stage} {rawPath resultPath : Option Path} {cause : JobError}
    (refused : job.transformation = .error e)
    (failed : Fails p job trace stage rawPath resultPath cause) :
    ∀ x ∈ trace, Spares job.sourceKey x := by
  cases failed with
  | download passed tried =>
    have calls := tried.forall_mem (fun _ => spares_of_isWaiting) spares_download
    exact List.forall_mem_append.mpr ⟨(passed.early refused).2, calls⟩
  | rawKey passed _ => exact (passed.early refused).2
  | rawFile passed _ =>
    refine List.forall_mem_append.mpr ⟨(passed.early refused).2, ?_⟩
    simp [Spares, JobRequest.isTransform, JobRequest.isStorageCall]
  | request passed _ => exact (passed.early refused).2
  | transform _ resolved =>
    rw [refused] at resolved
    cases resolved
  | deriveKey passed _ | resultKey passed _ _ | resultFile passed _ _ | upload passed _ =>
    exact (passed.early refused).1.elim

theorem Stops.spares {files : Option (Path × Path)} (refused : job.transformation = .error e)
    (stopped : Stops p job trace files) : ∀ x ∈ trace, Spares job.sourceKey x := by
  cases stopped with
  | announcing quiet =>
    refine List.forall_mem_append.mpr ⟨fun x mem => spares_of_isReport (quiet x mem), ?_⟩
    simp [Spares, JobRequest.isTransform, JobRequest.isStorageCall]
  | downloading passed tried =>
    have calls := tried.forall_mem (fun _ => spares_of_isWaiting) spares_download
    exact List.forall_mem_append.mpr ⟨(passed.early refused).2, calls⟩
  | uploading passed _ => exact (passed.early refused).1.elim

theorem Closes.spares {event : StatusEvent} {published : Except QueueError Unit}
    {task : CleanupTask} (closes : Closes event published task trace) :
    ∀ x ∈ trace, Spares key x := by
  obtain ⟨before, between, after, quiet, quietBetween, quietAfter, rfl⟩ := closes
  have reports {part : JobTrace} (quiet : Quiet part) : ∀ x ∈ part, Spares key x :=
    fun x mem => spares_of_isReport (quiet x mem)
  simp only [List.forall_mem_append, List.forall_mem_cons]
  exact ⟨⟨reports quiet, ⟨rfl, nofun⟩, reports quietBetween⟩, ⟨rfl, nofun⟩, reports quietAfter⟩

/-- Whatever the answers are, a job without a transformation asks for no image, writes nothing to
the object store, and is not done. -/
theorem Ends.spares {outcome : Outcome} (refused : job.transformation = .error e)
    (ends : Ends p job trace outcome) :
    (∀ x ∈ trace, Spares job.sourceKey x) ∧ ∀ done, outcome ≠ .ok done := by
  cases ends with
  | unannounced quiet quietAfter _ =>
    refine ⟨?_, nofun⟩
    simp only [List.forall_mem_append, List.forall_mem_cons]
    exact ⟨fun x mem => spares_of_isReport (quiet x mem), ⟨rfl, nofun⟩,
      fun x mem => spares_of_isReport (quietAfter x mem)⟩
  | stopped stopped =>
    refine ⟨List.forall_mem_append.mpr ⟨stopped.spares refused, ?_⟩, nofun⟩
    rw [List.forall_mem_map]
    exact fun task _ => ⟨rfl, nofun⟩
  | @failed _ _ _ _ _ _ published failed closes =>
    refine ⟨List.forall_mem_append.mpr ⟨failed.spares refused, closes.spares⟩, fun done => ?_⟩
    unfold concluded
    split <;> nofun
  | processed passed _ => exact (passed.early refused).1.elim

end Pipeline

namespace Transformation

/-- What becomes of a kind and its parameters. An object with distinct names is judged by the
members that the kind reads, and a name among them that is no text makes a bad parameter, as does
every text that breaks the grammar of JSON. An unknown kind is named whatever the parameters are. A
job whose transformation is refused comes neither to the image code nor to an upload, and is never
done. -/
theorem parse_judges_parameters :
    (∀ text members, Parameters text members →
      ∀ k : TransformationKind, Judged k members (parse k.name text)) ∧
    (∀ text (ms : List (Option String × Parameter)),
      Whole Reading.named (.object ms) text.toList → (∃ member ∈ ms, member.1 = none) →
      ∀ k : TransformationKind,
        ∃ why, parse k.name text = .error (.invalidParameters k.name why)) ∧
    (∀ text, ¬Grammatical text → ∀ k : TransformationKind,
      ∃ why, parse k.name text = .error (.invalidParameters k.name why)) ∧
    (∀ name, (∀ k : TransformationKind, name ≠ k.name) →
      ∀ text, parse name text = .error (.unknownTransformation name)) ∧
    ∀ (p : Pipeline) body trace outcome envelope e, (p.process body).Runs trace outcome →
      Envelope.parse body = .ok envelope → envelope.job.transformation = .error e →
      (∀ x ∈ trace, Pipeline.Spares envelope.job.sourceKey x) ∧ ∀ done, outcome ≠ .ok done := by
  refine ⟨fun _ _ given => given.judged, fun _ _ whole unnamed =>
    (unreadable_of_unnamed whole unnamed).parse_eq, fun _ broken =>
    (unreadable_of_not_grammatical broken).parse_eq, fun _ unknown => parse_unknown unknown, ?_⟩
  intro p body trace outcome envelope e run accepted refused
  exact (Pipeline.ends_of_accepted accepted run).spares refused

open Json (Names Spells Blanks Digits names_self)

theorem named_of_names {s : String} {cs rest : List Char} (h : Names s cs rest) :
    Reading.named (some s) cs rest := by
  obtain ⟨ps, content, chars⟩ := h
  exact ⟨ps, content, by rw [chars, Option.map_some, String.ofList_toList]⟩

theorem spells_digits {σ : Type} {names : σ → List Char → List Char → Prop}
    {whole rest : List Char} (digits : Digits whole) (leading : whole.head? ≠ some '0') :
    Spells names (.value (.number whole)) (whole ++ rest) rest := by
  have form : Json.Numeral [] whole [] [] :=
    ⟨by simp, digits, fun zero => absurd zero leading, .none, .none⟩
  have spelled : Spells names (.value (.number ([] ++ (whole ++ ([] ++ [])))))
      ([] ++ (whole ++ ([] ++ ([] ++ rest)))) rest := .number form
  simpa using spelled

/-- A box behind an unknown member whose value is a string but no text. -/
def boxText : String := "\x7b\"x\":\"\\ud800\",\"height\":20,\"width\":10\x7d"

def boxMembers : Members :=
  [("x", .text none), ("height", .number "20".toList), ("width", .number "10".toList)]

theorem boxText_given : Parameters boxText boxMembers := by
  have here := Blanks.refl
  have lone {rest : List Char} :
      Reading.named (none : Option String) ('\\' :: 'u' :: 'd' :: '8' :: '0' :: '0' :: '"' :: rest)
        rest :=
    ⟨[.unit 0xD800], .unit (by decide) .close, by decide⟩
  refine ⟨⟨_, [], here _, .object ?_, here _⟩, by decide⟩
  refine .member (.first (here _)) (named_of_names (names_self (by decide))) (here _) (here _)
    (.text lone) ?_
  refine .member (.comma (here _) (here _)) (named_of_names (names_self (by decide))) (here _)
    (here _) (spells_digits ⟨by simp, by simp⟩ (by decide)) ?_
  exact .member (.comma (here _) (here _)) (named_of_names (names_self (by decide))) (here _)
    (here _) (spells_digits ⟨by simp, by simp⟩ (by decide)) (.endMembers (here _))

def degreeText (digits : String) : String := "\x7b\"degree\":" ++ digits ++ "\x7d"

theorem degreeText_given {digits : String} (number : Digits digits.toList)
    (leading : digits.toList.head? ≠ some '0') :
    Parameters (degreeText digits) [("degree", .number digits.toList)] := by
  have here := Blanks.refl
  have characters : (degreeText digits).toList =
      '{' :: '"' :: ("degree".toList ++ '"' :: ':' :: (digits.toList ++ ['}'])) := by
    simp [degreeText]
  refine ⟨⟨_, [], here _, ?_, here _⟩, by simp⟩
  rw [characters]
  exact .object (.member (.first (here _)) (named_of_names (names_self (by decide))) (here _)
    (here _) (spells_digits number leading) (.endMembers (here _)))

/-- A job that asks for a turn but does not say how far. -/
def vagueJob : Job := { turnJob "raw/a.png" with transformationParameters := none }

/-- A box with an unknown member that is no text, half a right angle, a member whose name is no
text, no parameters at all, an unknown kind, and a job that does not say how far to turn. -/
theorem parse_judges_parameters_of_unpaired :
    parse "RESIZE" boxText = .ok (.resize ⟨10, 20⟩) ∧
      parse "ROTATE" (degreeText "45") = .error (.unsupportedRotation 45) ∧
      (∃ why, parse "CONVERT" "\x7b\"\\ud800\":20\x7d" =
        .error (.invalidParameters "CONVERT" why)) ∧
      (∃ why, parse "ROTATE" "" = .error (.invalidParameters "ROTATE" why)) ∧
      parse "CROP" boxText = .error (.unknownTransformation "CROP") ∧
      ∀ x ∈ (localPipeline.process (Envelope.toJson ⟨"", vagueJob⟩)).replies ObjectMap.oblige
        ⟨[("raw/a.png", [1])]⟩ |>.1, Pipeline.Spares "raw/a.png" x := by
  have here := Blanks.refl
  obtain ⟨judged, unnamed, broken, unknown, spared⟩ := parse_judges_parameters
  have asked : Asked boxMembers (.resize ⟨10, 20⟩) :=
    And.intro ⟨rfl, by decide, by decide⟩ ⟨rfl, by decide, by decide⟩
  have resize := judged boxText boxMembers boxText_given .resize
  have half : Parameters (degreeText "45") [("degree", .number "45".toList)] :=
    degreeText_given ⟨by simp, by simp⟩ (by decide)
  have nameless :
      Whole Reading.named (.object [((none : Option String), .number "20".toList)])
        "\x7b\"\\ud800\":20\x7d".toList := by
    refine ⟨_, [], here _, .object ?_, here _⟩
    exact .member (.first (here _)) ⟨[.unit 0xD800], .unit (by decide) .close, by decide⟩ (here _)
      (here _) (spells_digits ⟨by simp, by simp⟩ (by decide)) (.endMembers (here _))
  have nothing : ¬Grammatical "" := by
    rintro ⟨t, cs, cs', ⟨ws, _, at_end⟩, value, _⟩
    obtain ⟨c, left, rfl, _⟩ := value.begins
    cases ws <;> cases at_end
  have accepted : Envelope.parse (Envelope.toJson ⟨"", vagueJob⟩) = .ok ⟨"", vagueJob⟩ :=
    eq_ok_of_toOption_eq_some (by decide +kernel)
  have run := Program.runs_replies ObjectMap.oblige
    (localPipeline.process (Envelope.toJson ⟨"", vagueJob⟩)) ⟨[("raw/a.png", [1])]⟩
  obtain ⟨why, refused⟩ := broken "" nothing .rotate
  refine ⟨(resize.accepted _).mpr ⟨rfl, asked⟩, ?_, ?_, ⟨why, refused⟩, ?_, ?_⟩
  · exact ((judged _ _ half .rotate).angle 45).mpr ⟨rfl, ⟨rfl, by decide, by decide⟩, by decide⟩
  · exact unnamed _ _ nameless ⟨_, List.mem_cons_self, rfl⟩ .convert
  · exact unknown "CROP" (fun k => by cases k <;> decide) boxText
  · exact (spared _ _ _ _ _ _ run accepted refused).1

/-- An integer that does not fit into 64 bits is a bad parameter, and no angle that is refused as
such. -/
theorem parse_of_huge_degree :
    let text := degreeText "9223372036854775808"
    Parameters text [("degree", .integer 9223372036854775808)] ∧
      9223372036854775808 ∉ [(0 : Int), 90, 180, 270] ∧
      parse "ROTATE" text =
        .error (.invalidParameters "ROTATE" (.json (.wrongInteger 9223372036854775808 "i64"))) ∧
      ∀ n, parse "ROTATE" text ≠ .error (.unsupportedRotation n) := by
  intro text
  have refused : parse "ROTATE" text =
      .error (.invalidParameters "ROTATE" (.json (.wrongInteger 9223372036854775808 "i64"))) := rfl
  refine ⟨degreeText_given ⟨by simp, by simp⟩ (by decide), by decide, refused, fun n same => ?_⟩
  rw [refused] at same
  cases same

end Transformation

end ImageWorker
