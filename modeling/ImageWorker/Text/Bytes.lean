import ImageWorker.Power

/-!
# Bytes and text

Messages, file contents and objects are octet lists. A text is written as UTF-8, and reading
those octets gives the text back, so two texts with the same octets are equal.
-/

namespace ImageWorker

abbrev Bytes := List UInt8

namespace Bytes

def ofText (s : String) : Bytes := s.toByteArray.data.toList

/-- The text of a UTF-8 sequence; nothing when the octets are not UTF-8. -/
def text? (bs : Bytes) : Option String := String.fromUTF8? ⟨bs.toArray⟩

/-- The text of a UTF-8 sequence that the program wrote itself; empty otherwise. -/
def text (bs : Bytes) : String := bs.text?.getD ""

theorem text?_ofText (s : String) : text? (ofText s) = some s := by
  have h : (⟨(ofText s).toArray⟩ : ByteArray) = s.toByteArray := by simp [ofText]
  unfold text?
  rw [h, String.fromUTF8?, dif_pos s.isValidUTF8]
  rfl

end Bytes

end ImageWorker
