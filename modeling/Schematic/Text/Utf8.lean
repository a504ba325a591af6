/-!
UTF-8: the bytes of a text, and the text of bytes.  The reader refuses every sequence
that is not the shortest encoding of a scalar value and reports where the first such
sequence starts; a lenient one puts a replacement character in its place.
-/

namespace Schematic
namespace Text
namespace Utf8

def encode (s : String) : List UInt8 :=
  s.toList.flatMap String.utf8EncodeChar

/-- A continuation byte, `10xxxxxx`. -/
def isTail (b : UInt8) : Bool :=
  0x80 ≤ b && b ≤ 0xBF

def startsTwo (a b : UInt8) : Bool :=
  0xC2 ≤ a && a ≤ 0xDF && isTail b

/-- The first two bytes of a sequence of three: neither overlong nor a surrogate. -/
def startsThree (a b : UInt8) : Bool :=
  (a == 0xE0 && 0xA0 ≤ b && b ≤ 0xBF) || (a == 0xED && 0x80 ≤ b && b ≤ 0x9F) ||
    (((0xE1 ≤ a && a ≤ 0xEC) || a == 0xEE || a == 0xEF) && isTail b)

/-- The first two bytes of a sequence of four: neither overlong nor beyond U+10FFFF. -/
def startsFour (a b : UInt8) : Bool :=
  (a == 0xF0 && 0x90 ≤ b && b ≤ 0xBF) || (a == 0xF4 && 0x80 ≤ b && b ≤ 0x8F) ||
    (0xF1 ≤ a && a ≤ 0xF3 && isTail b)

/-- The payload bits of a continuation byte. -/
def tailBits (b : UInt8) : Nat :=
  b.toNat % 64

/-- The characters of bytes that start at `offset`, or the offset of the first sequence
that encodes none. -/
def decodeFrom (offset : Nat) : List UInt8 → Except Nat (List Char)
  | [] => .ok []
  | a :: rest =>
    if a < 0x80 then
      (decodeFrom (offset + 1) rest).map (Char.ofNat a.toNat :: ·)
    else
      match rest with
      | [] => .error offset
      | b :: rest =>
        if startsTwo a b then
          (decodeFrom (offset + 2) rest).map
            (Char.ofNat (a.toNat % 32 * 64 + tailBits b) :: ·)
        else
          match rest with
          | [] => .error offset
          | c :: rest =>
            if startsThree a b && isTail c then
              (decodeFrom (offset + 3) rest).map
                (Char.ofNat ((a.toNat % 16 * 64 + tailBits b) * 64 + tailBits c) :: ·)
            else
              match rest with
              | [] => .error offset
              | d :: rest =>
                if startsFour a b && isTail c && isTail d then
                  (decodeFrom (offset + 4) rest).map
                    (Char.ofNat (((a.toNat % 8 * 64 + tailBits b) * 64 + tailBits c) * 64 +
                      tailBits d) :: ·)
                else .error offset

def decode (bytes : List UInt8) : Except Nat String :=
  (decodeFrom 0 bytes).map String.ofList

def replacement : Char := '\ufffd'

/-- The characters of bytes.  The longest start of a sequence that is not completed, or a byte
that starts none, becomes one replacement character. -/
def decodeLossy : List UInt8 → List Char
  | [] => []
  | a :: rest =>
    if a < 0x80 then Char.ofNat a.toNat :: decodeLossy rest
    else
      match rest with
      | [] => [replacement]
      | b :: rest =>
        if startsTwo a b then Char.ofNat (a.toNat % 32 * 64 + tailBits b) :: decodeLossy rest
        else if startsThree a b then
          match rest with
          | [] => [replacement]
          | c :: rest =>
            if isTail c then
              Char.ofNat ((a.toNat % 16 * 64 + tailBits b) * 64 + tailBits c) ::
                decodeLossy rest
            else replacement :: decodeLossy (c :: rest)
        else if startsFour a b then
          match rest with
          | [] => [replacement]
          | c :: rest =>
            if isTail c then
              match rest with
              | [] => [replacement]
              | d :: rest =>
                if isTail d then
                  Char.ofNat (((a.toNat % 8 * 64 + tailBits b) * 64 + tailBits c) * 64 +
                    tailBits d) :: decodeLossy rest
                else replacement :: decodeLossy (d :: rest)
            else replacement :: decodeLossy (c :: rest)
        else replacement :: decodeLossy (b :: rest)

end Utf8
end Text
end Schematic
