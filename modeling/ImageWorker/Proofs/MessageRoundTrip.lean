import ImageWorker.Message.Status
import ImageWorker.Proofs.CodecRoundTrip

/-!
# Messages on the wire

Envelopes and status messages come back from their written form as they were, whatever their texts
hold. So a body that was accepted in any spelling is accepted again in the written one, and two
announcements that differ never have the same payload.
-/

namespace ImageWorker

/-- Some character of the text is not blank. -/
def HoldsText (s : String) : Prop := ∃ c ∈ s.toList, isBlank c = false

theorem isAllBlank_eq_false_iff {s : String} : isAllBlank s = false ↔ HoldsText s := by
  simp [isAllBlank, HoldsText]

theorem Job.codec_roundTrips : Job.codec.RoundTrips := by
  refine Json.Codec.RoundTrips.map (Json.Codec.record_roundTrips (by decide) ?_) (fun j => rfl)
  have text := Json.Codec.text_roundTrips
  have optional := Json.Codec.optionalText_roundTrips
  exact ⟨text, text, optional, text, optional, optional, text, optional, optional, optional,
    trivial⟩

namespace Envelope

theorem codec_roundTrips : codec.RoundTrips := by
  refine Json.Codec.RoundTrips.map (Json.Codec.record_roundTrips (by decide) ?_) (fun e => rfl)
  exact ⟨Json.Codec.textOr_roundTrips "", Job.codec_roundTrips, trivial⟩

theorem check_eq_ok_iff {e e' : Envelope} :
    e.check = .ok e' ↔ e = e' ∧ HoldsText e.job.id ∧ HoldsText e.job.sourceKey := by
  simp only [← isAllBlank_eq_false_iff, check]
  cases isAllBlank e.job.id <;> cases isAllBlank e.job.sourceKey <;> simp

/-- A body is accepted when it decodes and the job can be told apart and found. -/
theorem parse_eq_ok_iff {body : Bytes} {e : Envelope} :
    parse body = .ok e ↔
      codec.decode body = .ok e ∧ HoldsText e.job.id ∧ HoldsText e.job.sourceKey := by
  unfold parse
  cases codec.decode body with
  | error cause => simp
  | ok found =>
    simp only [check_eq_ok_iff, Except.ok.injEq]
    constructor
    · rintro ⟨rfl, named⟩
      exact ⟨rfl, named⟩
    · rintro ⟨rfl, named⟩
      exact ⟨rfl, named⟩

/-- An envelope is read back from its written form exactly when its identifier and its source key
hold more than blanks; every envelope that was read from a body is, and is then written with the
same octets again. -/
theorem parse_toJson (e : Envelope) :
    (parse e.toJson = .ok e ↔ HoldsText e.job.id ∧ HoldsText e.job.sourceKey) ∧
      ∀ body, parse body = .ok e →
        parse e.toJson = .ok e ∧ (parse e.toJson).map toJson = .ok e.toJson := by
  have reread : codec.decode e.toJson = .ok e := codec_roundTrips.decode e
  have accepted : parse e.toJson = .ok e ↔ HoldsText e.job.id ∧ HoldsText e.job.sourceKey := by
    rw [parse_eq_ok_iff]
    exact and_iff_right reread
  refine ⟨accepted, fun body parsed => ?_⟩
  have again := accepted.mpr (parse_eq_ok_iff.mp parsed).2
  rw [again]
  exact ⟨rfl, rfl⟩

/-- A body in list form with escapes, blanks and an emoji as a surrogate pair. -/
theorem parse_toJson_of_list :
    let body := Bytes.ofText " [\"p\", [\"\\u0061\\ud83d\\ude00\", \"\\\"\", null, \"k\\t\",
      \"é\", null, \"RESIZE\"]]\n"
    let e : Envelope := ⟨"p", ⟨"a😀", "\"", none, "k\t", some "é", none, "RESIZE", none, none, none⟩⟩
    parse body = .ok e ∧ parse e.toJson = .ok e ∧
      (parse e.toJson).map toJson = .ok e.toJson := by
  intro body e
  have parsed : parse body = .ok e := rfl
  exact ⟨parsed, (parse_toJson e).2 body parsed⟩

end Envelope

theorem JobStatus.codec_roundTrips : JobStatus.codec.RoundTrips :=
  Json.Codec.variants_roundTrips fun status => by cases status <;> rfl

theorem StatusEvent.codec_roundTrips : StatusEvent.codec.RoundTrips := by
  refine Json.Codec.RoundTrips.map (Json.Codec.record_roundTrips (by decide) ?_) (fun e => rfl)
  have text := Json.Codec.text_roundTrips
  exact ⟨text, text, JobStatus.codec_roundTrips, text, text, trivial⟩

namespace StatusMessage

theorem codec_roundTrips : codec.RoundTrips := by
  refine Json.Codec.RoundTrips.map (Json.Codec.record_roundTrips (by decide) ?_) (fun m => rfl)
  exact ⟨Json.Codec.text_roundTrips, StatusEvent.codec_roundTrips, trivial⟩

/-- Every status message is read back from its payload, so only equal events have equal payloads;
and the payloads of a job's announcements hold the job's own identifiers, the status, and the URL or
the failure code where there is one. -/
theorem decode_toJson :
    (∀ m : StatusMessage, codec.decode m.toJson = .ok m) ∧
      (∀ e e' : StatusEvent, (ofEvent e).toJson = (ofEvent e').toJson ↔ e = e') ∧
      ∀ (j : Job) (url : String) (code : FailureCode),
        codec.decode (ofEvent (.processing j)).toJson =
            .ok ⟨"status", ⟨j.id, j.userId, .processing, "", ""⟩⟩ ∧
          codec.decode (ofEvent (.processed j url)).toJson =
            .ok ⟨"status", ⟨j.id, j.userId, .processed, url, ""⟩⟩ ∧
          codec.decode (ofEvent (.failed j code)).toJson =
            .ok ⟨"status", ⟨j.id, j.userId, .failed, "", code.name⟩⟩ := by
  have reread : ∀ m : StatusMessage, codec.decode m.toJson = .ok m := codec_roundTrips.decode
  refine ⟨reread, ?_, fun j url code => ⟨reread _, reread _, reread _⟩⟩
  intro e e'
  constructor
  · intro same
    have decoded := reread (ofEvent e)
    rw [same, reread] at decoded
    cases decoded
    rfl
  · intro equal
    rw [equal]

end StatusMessage

end ImageWorker
