/-
  UTF-8: texts as bytes and back.

  * `encode` writes a text as bytes, `decode?` reads bytes that are well formed, and
    `decodeLossy` reads any bytes: each longest beginning of a character that does not go on, and
    each byte that begins none, becomes one replacement character.
  * `Lead` says what a first byte of two to four asks of the bytes behind it.
  * `decode?_encode`: what was written can be read back.
-/

namespace ScalarStubs.Text

/-- The bytes of a list of characters. -/
def encodeChars (cs : List Char) : List UInt8 :=
  cs.flatMap String.utf8EncodeChar

/-- The bytes of a text. -/
def encode (s : String) : List UInt8 :=
  encodeChars s.toList

/-- The text that well-formed bytes stand for. -/
def decode? (bytes : List UInt8) : Option String :=
  String.fromUTF8? bytes.toByteArray

theorem encodeChars_append (a b : List Char) :
    encodeChars (a ++ b) = encodeChars a ++ encodeChars b := by
  simp [encodeChars]

theorem toByteArray_encode (s : String) : (encode s).toByteArray = s.toByteArray :=
  String.utf8Encode_toList

theorem decode?_encode (s : String) : decode? (encode s) = some s := by
  have h : s.toByteArray.IsValidUTF8 := s.isValidUTF8
  simp only [decode?, toByteArray_encode, String.fromUTF8?, h, dif_pos]
  rfl

/-! ## Reading whatever there is -/

/-- What the first byte of a longer character says: its own bits, the range of the second byte
    and how many bytes come after that one. -/
structure Lead where
  bits : Nat
  low : UInt8
  high : UInt8
  more : Nat

/-- The first bytes of characters of two, three and four bytes. -/
def lead? (b : UInt8) : Option Lead :=
  if 0xC2 ≤ b && b ≤ 0xDF then some ⟨b.toNat - 0xC0, 0x80, 0xBF, 0⟩
  else if b == 0xE0 then some ⟨0, 0xA0, 0xBF, 1⟩
  else if b == 0xED then some ⟨0x0D, 0x80, 0x9F, 1⟩
  else if 0xE1 ≤ b && b ≤ 0xEF then some ⟨b.toNat - 0xE0, 0x80, 0xBF, 1⟩
  else if b == 0xF0 then some ⟨0, 0x90, 0xBF, 2⟩
  else if b == 0xF4 then some ⟨4, 0x80, 0x8F, 2⟩
  else if 0xF1 ≤ b && b ≤ 0xF3 then some ⟨b.toNat - 0xF0, 0x80, 0xBF, 2⟩
  else none

/-- Whether a byte may stand at the third or fourth place of a character. -/
def isTail (b : UInt8) : Bool :=
  0x80 ≤ b && b ≤ 0xBF

/-- The bytes that go on with a character, as far as they fit. -/
def Lead.continuation (l : Lead) : List UInt8 → List UInt8
  | [] => []
  | b :: rest => if l.low ≤ b && b ≤ l.high then b :: (rest.take l.more).takeWhile isTail else []

/-- The character of a first byte and all bytes that it asks for, the replacement character if
    there are fewer. -/
def Lead.character (l : Lead) (tail : List UInt8) : Char :=
  if tail.length = l.more + 1 then
    Char.ofNat (tail.foldl (fun n b => 64 * n + (b.toNat - 0x80)) l.bits)
  else '\uFFFD'

/-- Reads bytes with a replacement character for each ill-formed part. -/
def decodeLossyChars : List UInt8 → List Char
  | [] => []
  | b :: rest =>
    if b < 0x80 then Char.ofNat b.toNat :: decodeLossyChars rest
    else
      match lead? b with
      | none => '\uFFFD' :: decodeLossyChars rest
      | some l =>
        let tail := l.continuation rest
        l.character tail :: decodeLossyChars (rest.drop tail.length)
termination_by bytes => bytes.length
decreasing_by all_goals grind

/-- The text of any bytes. -/
def decodeLossy (bytes : List UInt8) : String :=
  String.ofList (decodeLossyChars bytes)

end ScalarStubs.Text
