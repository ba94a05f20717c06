import ImageWorker.Failure.MediaError
import ImageWorker.Image.Picture
import ImageWorker.Image.Recognition
import ImageWorker.Image.Transformed

/-!
# Transforming images with a library

An image library recognises, reads and writes files, scales pictures and turns them by right angles.
What it is asked for is decided here: a picture is transformed, and the result is written in the
format of the source, or in the one that a conversion asks for.
-/

namespace ImageWorker

/-- What is needed of a library. A refusal says why. -/
structure ImageLibrary where
  guess : Bytes → Except String Recognised
  decode : TargetFormat → Bytes → Except String Picture
  encode : TargetFormat → Picture → Except String Bytes
  toRgb8 : Picture → Picture
  resizeExact : Picture → Box → Picture
  resizeToFill : Picture → Box → Picture
  rotate90 : Picture → Picture
  rotate180 : Picture → Picture
  rotate270 : Picture → Picture

namespace ImageLibrary

variable (lib : ImageLibrary)

/-- The format of a source, if it can also be written. -/
def recognise (content : Bytes) : Except MediaError TargetFormat :=
  match lib.guess content with
  | .ok (.readable format) => .ok format
  | .ok (.other format) => .error (.unsupportedFormat format.name)
  | .error why => .error (.decode why)

def rotate (p : Picture) : Rotation → Picture
  | .deg0 => p
  | .deg90 => lib.rotate90 p
  | .deg180 => lib.rotate180 p
  | .deg270 => lib.rotate270 p

/-- The transformed picture, and the format it is written in when the source has a given one. -/
def transformed (p : Picture) (source : TargetFormat) : Transformation → Picture × TargetFormat
  | .resize box => (lib.resizeToFill p box, source)
  | .forceResize box => (lib.resizeExact p box, source)
  | .rotate angle => (lib.rotate p angle, source)
  | .convert target => (p, target)

/-- Writes a picture; JPEG has no place for opacity. -/
def write (p : Picture) : TargetFormat → Except String Bytes
  | .jpeg => lib.encode .jpeg (lib.toRgb8 p)
  | format => lib.encode format p

/-- The file of a picture, or why there is none. -/
def encoded (p : Picture) (format : TargetFormat) : Except MediaError TransformedImage :=
  match lib.write p format with
  | .error why => .error (.encode format.extension why)
  | .ok bytes => .ok ⟨bytes, format, p.width, p.height⟩

def transform (content : Bytes) (t : Transformation) : Except MediaError TransformedImage := do
  let source ← lib.recognise content
  match lib.decode source content with
  | .error why => .error (.decode why)
  | .ok picture =>
    let (result, format) := lib.transformed picture source t
    lib.encoded result format

variable {lib} {content : Bytes} {source format : TargetFormat} {picture : Picture}
  {t : Transformation} {image : TransformedImage}

theorem transform_eq (recognised : lib.recognise content = .ok source)
    (decoded : lib.decode source content = .ok picture) :
    lib.transform content t =
      lib.encoded (lib.transformed picture source t).1 (lib.transformed picture source t).2 := by
  rw [transform, recognised]
  simp only [bind, Except.bind, decoded]

/-- An image is made of a picture that was decoded, and encoded again. -/
theorem exists_of_transform (made : lib.transform content t = .ok image) :
    ∃ source picture, lib.recognise content = .ok source ∧
      lib.decode source content = .ok picture ∧
      lib.encoded (lib.transformed picture source t).1 (lib.transformed picture source t).2 =
        .ok image := by
  cases recognised : lib.recognise content with
  | error e =>
    rw [transform, recognised] at made
    cases made
  | ok source =>
    cases decoded : lib.decode source content with
    | error why =>
      rw [transform, recognised] at made
      simp only [bind, Except.bind, decoded] at made
      cases made
    | ok picture =>
      rw [transform_eq recognised decoded] at made
      exact ⟨source, picture, rfl, decoded, made⟩

theorem format_of_encoded (written : lib.encoded picture format = .ok image) :
    image.format = format := by
  unfold encoded at written
  split at written
  · cases written
  · cases written
    rfl

/-- A conversion gives an image of the format that it asks for. -/
theorem format_of_transform_convert
    (converted : lib.transform content (.convert format) = .ok image) : image.format = format := by
  obtain ⟨source, picture, _, _, written⟩ := exists_of_transform converted
  exact format_of_encoded written

end ImageLibrary

end ImageWorker
