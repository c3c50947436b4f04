/-
Bytes and the UTF-8 form of a text:

* `Utf8.encode`: the bytes of a text;
* `Utf8.decode`: the text that some bytes spell, if they are valid UTF-8;
* `Utf8.decode_encode`, `Utf8.encode_eq_of_decode`: each undoes the other.
-/
namespace ReplicatedCache

/-- Raw bytes, as files and message bodies hold them. -/
abbrev Bytes := List UInt8

namespace Utf8

/-- The UTF-8 bytes of a text. -/
def encode (s : String) : Bytes :=
  s.toByteArray.data.toList

/-- The text that `bs` spells, or nothing if `bs` is not valid UTF-8. -/
def decode (bs : Bytes) : Option String :=
  String.fromUTF8? ⟨bs.toArray⟩

/-- Reading back the bytes of a text gives the text. -/
theorem decode_encode (s : String) : decode (encode s) = some s := by
  simp [decode, encode, String.fromUTF8?, s.isValidUTF8, String.fromUTF8]

/-- Only the bytes of a text read as that text. -/
theorem encode_eq_of_decode {bs : Bytes} {s : String} (h : decode bs = some s) :
    encode s = bs := by
  unfold decode String.fromUTF8? at h
  split at h
  · simp only [Option.some.injEq] at h
    subst h
    simp [encode, String.fromUTF8]
  · simp at h

/-- The number of bytes of a text. -/
theorem length_encode (s : String) : (encode s).length = s.utf8ByteSize := by
  rfl

end Utf8

end ReplicatedCache
