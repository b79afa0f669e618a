/-!
Contract: bytes as text.

Owns: the decoding of UTF-8, the place and length of the first ill-formed sequence, and its wording.
A sequence is ill-formed from the byte that rules it out; the bytes before that byte in the same
sequence, at least one, are its length. A text that ends inside a sequence that could go on is
incomplete.
Does not own: the encoding of a character, which the core library defines.
-/

namespace LiveConfig.Text.Utf8

/-- Where decoding stops, and on how many bytes; none when the input ends too early. -/
structure Fault where
  index : Nat
  length : Option Nat
deriving DecidableEq, Repr

/-- The wording of a fault. -/
def Fault.message (fault : Fault) : String :=
  match fault.length with
  | some length =>
      "invalid utf-8 sequence of " ++ toString length ++ " bytes from index " ++
        toString fault.index
  | none => "incomplete utf-8 byte sequence from index " ++ toString fault.index

/-- How a character starts: the bits that its first byte gives, how many bytes follow, and the range
of the second. -/
structure Lead where
  bits : Nat
  following : Nat
  low : Nat
  high : Nat

/-- The lead that a byte is, if it can start a character. -/
def Lead.ofByte? (byte : Nat) : Option Lead :=
  if byte < 0x80 then some ⟨byte, 0, 0x80, 0xBF⟩
  else if byte < 0xC2 then none
  else if byte < 0xE0 then some ⟨byte - 0xC0, 1, 0x80, 0xBF⟩
  else if byte = 0xE0 then some ⟨0, 2, 0xA0, 0xBF⟩
  else if byte = 0xED then some ⟨0xD, 2, 0x80, 0x9F⟩
  else if byte < 0xF0 then some ⟨byte - 0xE0, 2, 0x80, 0xBF⟩
  else if byte = 0xF0 then some ⟨0, 3, 0x90, 0xBF⟩
  else if byte < 0xF4 then some ⟨byte - 0xF0, 3, 0x80, 0xBF⟩
  else if byte = 0xF4 then some ⟨4, 3, 0x80, 0x8F⟩
  else none

/-- Decodes from a position inside a character: `pending` bytes are owed, the next in the range from
`low` to `high`; `bits` are read so far, from a character that starts at `start`, and `index` is the
position of the next byte. -/
def decodeFrom (bits pending low high start index : Nat) : List UInt8 → Except Fault (List Char)
  | [] => if pending = 0 then .ok [] else .error ⟨start, none⟩
  | byte :: rest =>
      if pending = 0 then
        match Lead.ofByte? byte.toNat with
        | none => .error ⟨index, some 1⟩
        | some lead =>
            if lead.following = 0 then
              (decodeFrom 0 0 0x80 0xBF (index + 1) (index + 1) rest).map (.ofNat lead.bits :: ·)
            else decodeFrom lead.bits lead.following lead.low lead.high index (index + 1) rest
      else if low ≤ byte.toNat ∧ byte.toNat ≤ high then
        let more := bits * 64 + (byte.toNat - 0x80)
        if pending = 1 then
          (decodeFrom 0 0 0x80 0xBF (index + 1) (index + 1) rest).map (.ofNat more :: ·)
        else decodeFrom more (pending - 1) 0x80 0xBF start (index + 1) rest
      else .error ⟨start, some (index - start)⟩

/-- The characters that a sequence of bytes encodes, or its first fault. -/
def decode (bytes : List UInt8) : Except Fault (List Char) :=
  decodeFrom 0 0 0x80 0xBF 0 0 bytes

/-- The bytes that encode a text. -/
def encode (text : List Char) : List UInt8 :=
  text.flatMap String.utf8EncodeChar

end LiveConfig.Text.Utf8
