import GrpcSample.Lib.Utf8

/-!
# Byte strings

What a field of type `bytes` holds, and a key. The three languages have the encoding in UTF-8 in
common (`str.encode`, `getBytes(UTF_8)`, `toByteArray()` of Kotlin, and the byte string literals of
Python, which are in ASCII).
-/

namespace GrpcSample

/-- The `bytes` of Python and of protobuf. -/
abbrev Bytes := List UInt8

/-- The encoding of a string in UTF-8. -/
def utf8 (s : String) : Bytes :=
  s.toList.flatMap String.utf8EncodeChar

/-- It is the encoding that `Lib/Utf8.lean` is about. -/
lemma utf8_eq (s : String) : utf8 s = Utf8.encode s := rfl

end GrpcSample
