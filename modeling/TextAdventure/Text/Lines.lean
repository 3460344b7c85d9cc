/-
Lines of a text, and lines of bytes that may or may not be text.
-/

namespace TextAdventure
namespace Text

/-- The bytes up to and including each line feed, and what follows the last. -/
def byteLines : List UInt8 → List (List UInt8)
  | [] => []
  | b :: rest =>
    if b = 10 then [b] :: byteLines rest
    else match byteLines rest with
      | [] => [[b]]
      | line :: others => (b :: line) :: others

/-- The bytes of a text in UTF-8. -/
def encode (s : String) : List UInt8 := s.toByteArray.data.toList

/-- The text that bytes encode in UTF-8, if they encode one. -/
def decode (bytes : List UInt8) : Option String :=
  String.fromUTF8? ⟨bytes.toArray⟩

theorem decode_encode (s : String) : decode (encode s) = some s := by
  rw [decode, encode, Array.toArray_toList, String.fromUTF8?, dif_pos s.isValidUTF8]
  rfl

/-- The text with every carriage return removed that a line feed follows. -/
def dropReturns : List Char → List Char
  | [] => []
  | '\r' :: '\n' :: rest => '\n' :: dropReturns rest
  | c :: rest => c :: dropReturns rest

end Text
end TextAdventure
