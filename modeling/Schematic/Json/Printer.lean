import Schematic.Json
import Schematic.Number.Shortest
import Schematic.Text.Hex

/-!
The text of a JSON document in a style: indentation, the spacing of one line, the escaping
of characters beyond ASCII and the layout of numbers.
-/

namespace Schematic
namespace Json

structure Style where
  /-- The width of a level; without one the document is a single line. -/
  indent : Option Nat
  /-- What separates two elements on a single line. -/
  comma : String
  colon : String
  /-- Characters beyond printable ASCII are escaped. -/
  asciiOnly : Bool
  layout : Binary64.Layout

/-- A UTF-16 code unit as an escape. -/
def unitEscape (unit : Nat) : List Char :=
  '\\' :: 'u' :: Text.hex 4 unit

/-- The escapes of a character beyond printable ASCII: two above U+FFFF. -/
def unicodeEscape (c : Char) : List Char :=
  let n := c.toNat
  if n ≤ 0xFFFF then unitEscape n
  else
    unitEscape (0xD800 + (n - 0x10000) / 0x400) ++ unitEscape (0xDC00 + (n - 0x10000) % 0x400)

def charText (asciiOnly : Bool) (c : Char) : List Char :=
  if c = '"' ∨ c = '\\' then ['\\', c]
  else if c = '\x08' then ['\\', 'b']
  else if c = '\x0c' then ['\\', 'f']
  else if c = '\n' then ['\\', 'n']
  else if c = '\r' then ['\\', 'r']
  else if c = '\t' then ['\\', 't']
  else if c.toNat < 0x20 then unitEscape c.toNat
  else if asciiOnly && c.toNat ≥ 0x7F then unicodeEscape c
  else [c]

def stringText (asciiOnly : Bool) (s : String) : String :=
  String.ofList ('"' :: s.toList.flatMap (charText asciiOnly) ++ ['"'])

def Style.breakLine (style : Style) (level : Nat) : String :=
  match style.indent with
  | none => ""
  | some width => String.ofList ('\n' :: List.replicate (width * level) ' ')

def Style.separator (style : Style) (level : Nat) : String :=
  match style.indent with
  | none => style.comma
  | some _ => "," ++ style.breakLine level

/-- A container between its brackets; an empty one takes no space. -/
def Style.container (style : Style) (first last : String) (level : Nat)
    (items : List String) : String :=
  if items.isEmpty then first ++ last
  else
    first ++ style.breakLine (level + 1) ++ (style.separator (level + 1)).intercalate items ++
      style.breakLine level ++ last

mutual

def textAt (style : Style) (level : Nat) : Json → String
  | .null => "null"
  | .bool b => if b then "true" else "false"
  | .int i => toString i
  | .float x => x.text style.layout
  | .str s => stringText style.asciiOnly s
  | .array items => style.container "[" "]" level (itemTexts style (level + 1) items)
  | .object members =>
    style.container "\x7b" "\x7d" level (memberTexts style (level + 1) members)

def itemTexts (style : Style) (level : Nat) : List Json → List String
  | [] => []
  | item :: rest => textAt style level item :: itemTexts style level rest

def memberTexts (style : Style) (level : Nat) : List (String × Json) → List String
  | [] => []
  | (name, json) :: rest =>
    (stringText style.asciiOnly name ++ style.colon ++ textAt style level json) ::
      memberTexts style level rest

end

def text (style : Style) (json : Json) : String :=
  textAt style 0 json

/-- The style of schema texts: a single line without spaces unless an indentation is asked
for, every character beyond ASCII as it is. -/
def Style.schemaText (indent : Option Nat) : Style where
  indent := indent
  comma := ","
  colon := if indent.isSome then ": " else ":"
  asciiOnly := false
  layout := .schemaText

/-- The style of exported documents: ASCII only, a space after each colon. -/
def Style.document (indent : Option Nat) : Style where
  indent := indent
  comma := ", "
  colon := ": "
  asciiOnly := true
  layout := .document

end Json
end Schematic
