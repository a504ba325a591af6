/-!
Hexadecimal digits: the lowercase text of a number at a least width, the value of a digit of
either case, and bytes written as pairs of digits.
-/

namespace Schematic
namespace Text

def hexDigit (n : Nat) : Char :=
  if n < 10 then Char.ofNat (48 + n) else Char.ofNat (87 + n)

/-- The last `width` hexadecimal digits of `n`. -/
def hex : Nat → Nat → List Char
  | 0, _ => []
  | width + 1, n => hex width (n / 16) ++ [hexDigit (n % 16)]

def hexValue? (c : Char) : Option Nat :=
  if '0' ≤ c ∧ c ≤ '9' then some (c.toNat - 48)
  else if 'a' ≤ c ∧ c ≤ 'f' then some (c.toNat - 87)
  else if 'A' ≤ c ∧ c ≤ 'F' then some (c.toNat - 55)
  else none

def hexDigitsValue (digits : List Nat) : Nat :=
  digits.foldl (fun value digit => 16 * value + digit) 0

def isAsciiBlank (c : Char) : Bool :=
  c == ' ' || ('\t' ≤ c && c ≤ '\r')

/-- Bytes from pairs of digits, with white space between them or not; or the place, counted from
`place`, of the first character that is not as it should be. -/
def hexPairs (place : Nat) : List Char → Except Nat (List UInt8)
  | [] => .ok []
  | a :: rest =>
    if isAsciiBlank a then hexPairs (place + 1) rest
    else
      match hexValue? a, rest with
      | none, _ => .error place
      | some _, [] => .error (place + 1)
      | some x, b :: rest =>
        match hexValue? b with
        | none => .error (place + 1)
        | some y => (hexPairs (place + 2) rest).map (UInt8.ofNat (16 * x + y) :: ·)

/-- Bytes from pairs of digits, or the place of a wrong character: the first one beyond ASCII,
whatever stands before it, and else the first one at fault. -/
def hexBytes (s : List Char) : Except Nat (List UInt8) :=
  match s.findIdx? (fun c => 0x80 ≤ c.toNat) with
  | some place => .error place
  | none => hexPairs 0 s

end Text
end Schematic
