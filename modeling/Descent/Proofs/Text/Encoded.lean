import Descent.Parser.Binary
import Descent.Proofs.Text.Cursor

/-!
# Encoded text

The UTF-8 form of a text as binary data. An offset where a character starts splits both alike, and
characters stand there exactly if their bytes do.
-/

namespace Descent

/-- The UTF-8 form of characters. -/
def utf8Bytes (cs : List Char) : List UInt8 := cs.flatMap String.utf8EncodeChar

theorem utf8Bytes_append (cs ds : List Char) :
    utf8Bytes (cs ++ ds) = utf8Bytes cs ++ utf8Bytes ds :=
  List.flatMap_append

theorem length_utf8Bytes (cs : List Char) : (utf8Bytes cs).length = utf8Length cs := by
  induction cs with
  | nil => rfl
  | cons c cs ih =>
    rw [utf8Bytes, List.flatMap_cons, List.length_append, String.length_utf8EncodeChar]
    exact congrArg (c.utf8Size + ·) ih

private theorem toByteArray_utf8Bytes (cs : List Char) :
    ByteArray.mk (utf8Bytes cs).toArray = cs.utf8Encode := by
  rw [List.utf8Encode, ← List.data_toByteArray]
  rfl

theorem utf8Bytes_toList (s : String) : utf8Bytes s.toList = s.toByteArray.data.toList := by
  rw [← String.utf8Encode_toList, ← toByteArray_utf8Bytes]

/-- No bytes of a character are the start of those of another one, so bytes tell what characters
stand in front. -/
theorem utf8Bytes_prefix_iff {cs ds : List Char} :
    utf8Bytes cs <+: utf8Bytes ds ↔ cs <+: ds := by
  constructor
  · rintro ⟨rest, h⟩
    refine List.isPrefix_of_utf8Encode_append_eq_utf8Encode (ByteArray.mk rest.toArray) ?_
    rw [← toByteArray_utf8Bytes, ← toByteArray_utf8Bytes, ← h, ← List.append_toArray]
    exact ByteArray.ext ByteArray.data_append
  · rintro ⟨rest, rfl⟩
    rw [utf8Bytes_append]
    exact List.prefix_append _ _

/-- The bytes of a text are described by the text. -/
theorem Parser.describeBytes_utf8Bytes (s : String) :
    Parser.describeBytes (utf8Bytes s.toList) = s := by
  have hvalid : s.toByteArray.IsValidUTF8 := s.isValidUTF8
  have hs : String.fromUTF8? s.toByteArray = some s := dif_pos hvalid
  rw [Parser.describeBytes, toByteArray_utf8Bytes, String.utf8Encode_toList, hs]

namespace Text

/-- The UTF-8 form of a text. -/
def encoded (t : Text) : Bytes := ⟨utf8Bytes t.chars⟩

theorem length_encoded (t : Text) : Input.length t.encoded = Input.length t :=
  length_utf8Bytes t.chars

/-- From a genuine position on stand the bytes of the characters that stand there. -/
theorem Genuine.remaining_encoded {t : Text} {p : Position} (ht : t.Addressable)
    (h : t.Genuine p) : t.encoded.remaining ⟨p.offset⟩ = utf8Bytes (t.remaining p) := by
  obtain ⟨before, after, hchars, rfl⟩ := (genuine_iff ht).mp h
  rw [remaining_past_start hchars, Position.offset_past_start, ← length_utf8Bytes, Bytes.remaining,
    encoded, hchars, utf8Bytes_append, List.drop_left]

end Text

end Descent
