import ImageWorker.Image.Transformer
import ImageWorker.Rehearsal.Cleanups

/-!
# Rehearsing jobs

The scene answers what a job asks: calls that give way to shutdown take their scripted time unless
shutdown comes first, and all others take it in any case. Uploaded objects get a public URL below
a fixed address.
-/

namespace ImageWorker.Scene

/-- Waits, unless shutdown fires first. -/
def wait (s : Scene) (millis : Nat) : Race Unit × Scene :=
  let (race, clock) := s.clock.wait millis
  (race, { s with clock := clock })

/-- The answer that counts if shutdown does not come first. -/
def unlessStopped {α : Type} (millis : Nat) (act : Scene → α × Scene) (s : Scene) :
    Race α × Scene :=
  match s.wait millis with
  | (.stopped, s) => (.stopped, s)
  | (.finished (), s) =>
    let (a, s) := act s
    (.finished a, s)

/-- Where uploaded objects are found. -/
def publicBase : String := "https://cdn.test/"

def beginAnnounce (s : Scene) (e : StatusEvent) : Cue QueueError × Scene :=
  let (cue, announcements) := s.announcements.next
  (cue, { s.called (.announce e) with announcements := announcements })

def image (cue : Except TransformFailure ImageCue) (input : Bytes) :
    Except TransformFailure TransformedImage :=
  cue.map fun c => ⟨c.content.getD input, c.format, c.width, c.height⟩

def answer : (r : JobRequest) → StateM Scene r.Answer
  | .isStopping => do return (← get).clock.isStopped
  | .pause d => modifyGet fun s => s.wait d.millis
  | .announceUnlessStopped e => modifyGet fun s =>
    let (cue, s) := s.beginAnnounce e
    s.unlessStopped cue.takes fun s => (cue.answer (), s)
  | .announce e => modifyGet fun s =>
    let (cue, s) := s.beginAnnounce e
    (cue.answer (), { s with clock := s.clock.pass cue.takes })
  | .download key => modifyGet fun s =>
    let (cue, downloads) := s.downloads.next
    { s.called (.download key) with downloads := downloads }.unlessStopped cue.takes fun s =>
      (match cue.fault, s.objects.get? key with
        | some e, _ => .error e
        | none, some content => .ok content
        | none, none => .error (.notFound key), s)
  | .upload key content contentType => modifyGet fun s =>
    let (cue, uploads) := s.uploads.next
    { s.called (.upload key contentType content) with uploads := uploads }.unlessStopped cue.takes
      fun s =>
        match cue.fault with
        | some e => (.error e, s)
        | none => (.ok (publicBase ++ key), { s with objects := s.objects.put key content })
  | .save path content => modifyGet fun s =>
    let (result, files) := s.files.saveFile path content
    (result, { s with files := files })
  | .transform content t => modifyGet fun s =>
    match s.images with
    | none =>
      (match ImageLibrary.pictures.transform content t with
        | .ok image => .ok image
        | .error e => .error (.media e), s)
    | some images =>
      let s := s.called (.transform content t)
      match images with
      | [] => (image (.ok .standard) content, s)
      | cue :: rest => (image cue content, { s with images := some rest })
  | .schedule t => modify fun s =>
    let s := s.called (.schedule t)
    if s.runsCleanups then s.schedule t else s
  | .elapsed => return ⟨0⟩
  | .note n => modify fun s => s.noted n

/-- Runs a job on a delivery; the calls are those of this delivery. -/
def deliver (p : Pipeline) (body : Bytes) (s : Scene) : Outcome × Scene :=
  ((p.process body).run answer).run { s with calls := [] }

end ImageWorker.Scene
