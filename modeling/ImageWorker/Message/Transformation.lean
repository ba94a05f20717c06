import ImageWorker.Json.Record
import ImageWorker.Message.Error
import ImageWorker.Text.Blank

/-!
# Transformations

A job names its transformation and carries the parameters as a JSON text. Both are resolved here,
and what the image code cannot do is refused before it is asked.
-/

namespace ImageWorker

/-- The transformations that a job can name. -/
inductive TransformationKind where
  | resize
  | rotate
  | convert
  | forceResize
  deriving DecidableEq, Repr

namespace TransformationKind

/-- Every kind, in the order in which messages list them. -/
def all : List TransformationKind := [resize, rotate, convert, forceResize]

def name : TransformationKind → String
  | resize => "RESIZE"
  | rotate => "ROTATE"
  | convert => "CONVERT"
  | forceResize => "FORCE_RESIZE"

def parse (s : String) : Except MessageError TransformationKind :=
  match s with
  | "RESIZE" => .ok resize
  | "ROTATE" => .ok rotate
  | "CONVERT" => .ok convert
  | "FORCE_RESIZE" => .ok forceResize
  | other => .error (.unknownTransformation other)

def codec : Json.Codec TransformationKind := .variants all name

theorem parse_name (k : TransformationKind) : parse k.name = .ok k := by cases k <;> rfl

end TransformationKind

/-- The box that a resized image fills. -/
structure Box where
  width : Nat
  height : Nat
  deriving DecidableEq, Repr

def Box.codec : Json.Codec Box :=
  .map (.record "ResizeParams" (.cons "width" .nat32 (.cons "height" .nat32 .nil)))
    (fun (width, height, _) => ⟨width, height⟩) (fun b => (b.width, b.height, ()))

/-- A clockwise turn by right angles. -/
inductive Rotation where
  | deg0
  | deg90
  | deg180
  | deg270
  deriving DecidableEq, Repr

namespace Rotation

def degrees : Rotation → Nat
  | deg0 => 0
  | deg90 => 90
  | deg180 => 180
  | deg270 => 270

/-- The turn by a given angle. -/
def ofDegrees (n : Int) : Except MessageError Rotation :=
  if n = 0 then .ok deg0
  else if n = 90 then .ok deg90
  else if n = 180 then .ok deg180
  else if n = 270 then .ok deg270
  else .error (.unsupportedRotation n)

theorem ofDegrees_degrees (r : Rotation) : ofDegrees r.degrees = .ok r := by cases r <;> rfl

end Rotation

/-- The formats that an image can be converted to. -/
inductive TargetFormat where
  | png
  | jpeg
  | gif
  | bmp
  | tiff
  deriving DecidableEq, Repr

namespace TargetFormat

def extension : TargetFormat → String
  | png => "png"
  | jpeg => "jpeg"
  | gif => "gif"
  | bmp => "bmp"
  | tiff => "tiff"

def contentType (f : TargetFormat) : String := "image/" ++ f.extension

/-- The format with a given name, in either case and with blanks around it. -/
def parse (s : String) : Except MessageError TargetFormat :=
  match (trimmed s).map Char.toUpper with
  | "PNG" => .ok png
  | "JPEG" => .ok jpeg
  | "GIF" => .ok gif
  | "BMP" => .ok bmp
  | "TIFF" => .ok tiff
  | "PDF" => .error (.unsupportedFormat "PDF conversion is not supported")
  | other => .error (.unsupportedFormat other)

end TargetFormat

/-- A transformation that the image code can carry out. -/
inductive Transformation where
  /-- Scale until the box is covered, then cut the centre out. -/
  | resize (box : Box)
  /-- Stretch to the box. -/
  | forceResize (box : Box)
  | rotate (angle : Rotation)
  | convert (format : TargetFormat)
  deriving DecidableEq, Repr

namespace Transformation

def kind : Transformation → TransformationKind
  | resize _ => .resize
  | forceResize _ => .forceResize
  | rotate _ => .rotate
  | convert _ => .convert

def targetFormat? : Transformation → Option TargetFormat
  | convert format => some format
  | _ => none

def boxParameters : Json.Codec (Int × Int × Unit) :=
  .record "RawResize" (.cons "height" .int64 (.cons "width" .int64 .nil))

def angleParameters : Json.Codec (Int × Unit) := .record "RawRotate" (.cons "degree" .int64 .nil)

def formatParameters : Json.Codec (String × Unit) :=
  .record "RawConvert" (.cons "format" .text .nil)

def readParameters {α : Type} (kind : TransformationKind) (codec : Json.Codec α)
    (parameters : String) : Except MessageError α :=
  match codec.decode (Bytes.ofText parameters) with
  | .ok v => .ok v
  | .error cause => .error (.invalidParameters kind.name (.json cause))

/-- A side of a box: positive and within the limit. -/
def side (kind : TransformationKind) (name : String) (value : Int) : Except MessageError Nat :=
  if value ≤ 0 then .error (.invalidParameters kind.name (.notPositive name value))
  else if value ≤ maxOutputDimension then .ok value.toNat
  else .error (.invalidParameters kind.name (.tooLarge name value))

theorem side_eq_ok_iff {kind : TransformationKind} {name : String} {value : Int} {n : Nat} :
    side kind name value = .ok n ↔ value = n ∧ 0 < n ∧ n ≤ maxOutputDimension := by
  unfold side
  split
  · simp
    omega
  split
  · rw [Except.ok.injEq]
    omega
  · simp
    omega

/-- Reads the box of a resizing kind; the width is checked first. -/
def readBox (kind : TransformationKind) (parameters : String) : Except MessageError Box :=
  match readParameters kind boxParameters parameters with
  | .error e => .error e
  | .ok (height, width, _) =>
    match side kind "width" width with
    | .error e => .error e
    | .ok width =>
      match side kind "height" height with
      | .error e => .error e
      | .ok height => .ok ⟨width, height⟩

theorem readBox_eq_ok_iff {kind : TransformationKind} {parameters : String} {box : Box} :
    readBox kind parameters = .ok box ↔
      readParameters kind boxParameters parameters = .ok (↑box.height, ↑box.width, ()) ∧
        (0 < box.width ∧ box.width ≤ maxOutputDimension) ∧
        0 < box.height ∧ box.height ≤ maxOutputDimension := by
  unfold readBox
  constructor
  · intro accepted
    split at accepted
    · cases accepted
    next height width _ read =>
      split at accepted
      · cases accepted
      next w given =>
        split at accepted
        · cases accepted
        next h given' =>
          obtain ⟨rfl, wide⟩ := side_eq_ok_iff.mp given
          obtain ⟨rfl, high⟩ := side_eq_ok_iff.mp given'
          obtain rfl := Except.ok.inj accepted
          exact ⟨read, wide, high⟩
  · rintro ⟨read, wide, high⟩
    simp only [read, side_eq_ok_iff.mpr ⟨rfl, wide⟩, side_eq_ok_iff.mpr ⟨rfl, high⟩]

def parse (kind parameters : String) : Except MessageError Transformation :=
  match TransformationKind.parse kind with
  | .error e => .error e
  | .ok .resize => (readBox .resize parameters).map resize
  | .ok .forceResize => (readBox .forceResize parameters).map forceResize
  | .ok .rotate =>
    match readParameters .rotate angleParameters parameters with
    | .error e => .error e
    | .ok (degree, _) => (Rotation.ofDegrees degree).map rotate
  | .ok .convert =>
    match readParameters .convert formatParameters parameters with
    | .error e => .error e
    | .ok (format, _) => (TargetFormat.parse format).map convert

end Transformation

end ImageWorker
