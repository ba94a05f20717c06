import ImageWorker.Image.DecodeFault
import ImageWorker.Message.Transformation
import ImageWorker.Text.Bytes

/-!
# Recognising formats

A format is recognised by the octets that its files begin with. More formats are recognised than
can be read, so that a refusal can name what was met.
-/

namespace ImageWorker

/-- The formats that are recognised and not read. -/
inductive OtherFormat where
  | webP
  | dds
  | ico
  | hdr
  | openExr
  | pnm
  | farbfeld
  | avif
  | qoi
  deriving DecidableEq, Repr

def OtherFormat.name : OtherFormat → String
  | webP => "WebP"
  | dds => "Dds"
  | ico => "Ico"
  | hdr => "Hdr"
  | openExr => "OpenExr"
  | pnm => "Pnm"
  | farbfeld => "Farbfeld"
  | avif => "Avif"
  | qoi => "Qoi"

inductive Recognised where
  | readable (format : TargetFormat)
  | other (format : OtherFormat)
  deriving DecidableEq, Repr

/-- What the files of each format begin with. -/
def Recognised.beginnings : List (Bytes × Recognised) :=
  [([0x89, 0x50, 0x4E, 0x47, 0x0D, 0x0A, 0x1A, 0x0A], .readable .png),
    ([0xFF, 0xD8, 0xFF], .readable .jpeg),
    (Bytes.ofText "GIF89a", .readable .gif),
    (Bytes.ofText "GIF87a", .readable .gif),
    (Bytes.ofText "RIFF", .other .webP),
    ([0x4D, 0x4D, 0x00, 0x2A], .readable .tiff),
    ([0x49, 0x49, 0x2A, 0x00], .readable .tiff),
    (Bytes.ofText "DDS ", .other .dds),
    (Bytes.ofText "BM", .readable .bmp),
    ([0x00, 0x00, 0x01, 0x00], .other .ico),
    (Bytes.ofText "#?RADIANCE", .other .hdr),
    (Bytes.ofText "P1", .other .pnm),
    (Bytes.ofText "P2", .other .pnm),
    (Bytes.ofText "P3", .other .pnm),
    (Bytes.ofText "P4", .other .pnm),
    (Bytes.ofText "P5", .other .pnm),
    (Bytes.ofText "P6", .other .pnm),
    (Bytes.ofText "P7", .other .pnm),
    (Bytes.ofText "farbfeld", .other .farbfeld),
    ([0x00, 0x00, 0x00, 0x20] ++ Bytes.ofText "ftypavif", .other .avif),
    ([0x00, 0x00, 0x00, 0x1C] ++ Bytes.ofText "ftypavif", .other .avif),
    ([0x76, 0x2F, 0x31, 0x01], .other .openExr),
    (Bytes.ofText "qoif", .other .qoi)]

/-- The format of a file, if it is recognised. -/
def Recognised.of? (content : Bytes) : Option Recognised :=
  (beginnings.find? fun (start, _) => start.isPrefixOf content).map (·.2)

/-- The format of a file, or that none is recognised. -/
def Recognised.guess (content : Bytes) : Except String Recognised :=
  match of? content with
  | some found => .ok found
  | none => .error DecodeFault.unknownFormat.message

end ImageWorker
