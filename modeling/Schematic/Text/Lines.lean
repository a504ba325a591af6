/-!
Lines of a text.  Besides line feed and carriage return, alone or together, the other control
characters that end a line or a record and the Unicode separators of lines and paragraphs break
a line.
-/

namespace Schematic
namespace Text

def isLineBreak (c : Char) : Bool :=
  let n := c.toNat
  (0x0A ≤ n && n ≤ 0x0D) || (0x1C ≤ n && n ≤ 0x1E) || n == 0x85 || n == 0x2028 || n == 0x2029

/-- The pieces of a text between line breaks, the empty ones included. -/
def splitLines : List Char → List (List Char)
  | [] => [[]]
  | '\r' :: '\n' :: rest => [] :: splitLines rest
  | c :: rest =>
    if isLineBreak c then [] :: splitLines rest
    else
      match splitLines rest with
      | [] => [[c]]
      | line :: lines => (c :: line) :: lines

/-- The lines of a text that is written with a line feed at its end. -/
def linesOf (s : String) : List String :=
  ((splitLines (s.toList ++ ['\n'])).dropLast).map String.ofList

end Text
end Schematic
