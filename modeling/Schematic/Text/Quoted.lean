import Schematic.Text.Hex
import Schematic.Text.Printable

/-!
Quoted texts as they appear in messages: single quotes unless the text holds one and no
double quote, and every character that cannot be shown written as an escape.
-/

namespace Schematic
namespace Text

/-- The quote around a text: the single one, unless it would have to be escaped and the
double one would not. -/
def quoteFor (s : List Char) : Char :=
  if s.contains '\'' && !s.contains '"' then '"' else '\''

def quotedChar (quote c : Char) : List Char :=
  if c = quote || c = '\\' then ['\\', c]
  else if c = '\n' then ['\\', 'n']
  else if c = '\r' then ['\\', 'r']
  else if c = '\t' then ['\\', 't']
  else if c.toNat < 0x7F then
    if c.toNat < 0x20 then '\\' :: 'x' :: hex 2 c.toNat else [c]
  else if isPrintable c then [c]
  else if c.toNat ≤ 0xFF then '\\' :: 'x' :: hex 2 c.toNat
  else if c.toNat ≤ 0xFFFF then '\\' :: 'u' :: hex 4 c.toNat
  else '\\' :: 'U' :: hex 8 c.toNat

def quotedChars (s : List Char) : List Char :=
  let quote := quoteFor s
  quote :: s.flatMap (quotedChar quote) ++ [quote]

def quoted (s : String) : String :=
  String.ofList (quotedChars s.toList)

/-- Texts as an enumeration in a sentence. -/
def enumerated : List String → String
  | [] => ""
  | [a] => a
  | [a, b] => a ++ " and " ++ b
  | items => ", ".intercalate (items.take (items.length - 1)) ++ ", and " ++ items.getLast?.getD ""

/-- A byte string: like a quoted text, with every byte outside printable ASCII escaped. -/
def quotedBytes (bytes : List UInt8) : String :=
  let chars := bytes.map fun b => Char.ofNat b.toNat
  let quote := quoteFor chars
  let byte (c : Char) : List Char :=
    if c.toNat < 0x7F then quotedChar quote c else '\\' :: 'x' :: hex 2 c.toNat
  String.ofList ('b' :: quote :: chars.flatMap byte ++ [quote])

end Text
end Schematic
