import Schematic.Number.Literal
import Schematic.Text.Identifier
import Schematic.Text.Literal
import Schematic.Text.Normal
import Schematic.Value

/-!
The tokens of references: names, numbers, quoted texts and marks.  A reference is a single
logical line.  It starts at the first column of its line; inside brackets it may be broken
anywhere, elsewhere after a backslash, and a comment runs to the end of its line.
-/

namespace Schematic
namespace Reference

inductive Token where
  | name (s : String)
  | number (v : Value)
  | text (s : String)
  | bytes (b : List UInt8)
  /-- A text with expressions inside. -/
  | template
  | mark (s : String)

def keywords : List String :=
  ["False", "None", "True", "and", "as", "assert", "async", "await", "break", "class",
    "continue", "def", "del", "elif", "else", "except", "finally", "for", "from", "global",
    "if", "import", "in", "is", "lambda", "nonlocal", "not", "or", "pass", "raise", "return",
    "try", "while", "with", "yield"]

/-! ### Numbers -/

/-- Digits with single underscores between them, and what follows. -/
def digitRun? (isDigit : Char → Bool) : List Char → Option (List Char × List Char)
  | [] => none
  | [c] => if isDigit c then some ([c], []) else none
  | c :: '_' :: rest =>
    if isDigit c then (digitRun? isDigit rest).map fun (digits, rest) => (c :: digits, rest)
    else none
  | c :: d :: rest =>
    if !isDigit c then none
    else if isDigit d then
      (digitRun? isDigit (d :: rest)).map fun (digits, rest) => (c :: digits, rest)
    else some ([c], d :: rest)

/-- A character that a name could go on with. -/
def isNameChar (c : Char) : Bool :=
  c.isAlphanum || c == '_' || c.toNat ≥ 0x80

/-- The words that may follow a number without a space. -/
def wordsAfterNumbers : List String := ["and", "else", "for", "if", "in", "is", "or", "not"]

def endsNumber (rest : List Char) : Bool :=
  wordsAfterNumbers.any (fun word => word.toList.isPrefixOf rest) ||
    !(rest.head?.any isNameChar)

/-- An integer in a base other than ten, after its first two characters. -/
def basedNumber? (base : Nat) (s : List Char) : Option (Value × List Char) := do
  let s := match s with
    | '_' :: rest => rest
    | s => s
  let isDigit (c : Char) : Bool := (Text.hexValue? c).any (· < base)
  let (digits, rest) ← digitRun? isDigit s
  if rest.head?.any Text.isAsciiDigit || !endsNumber rest then none
  else
    let value := digits.foldl (fun n c => base * n + (Text.hexValue? c).getD 0) 0
    some (.int value, rest)

def fractionRun? : List Char → Option (List Char × List Char)
  | '.' :: rest =>
    if rest.head?.any Text.isAsciiDigit then
      (digitRun? Text.isAsciiDigit rest).map fun (digits, rest) => ('.' :: digits, rest)
    else some (['.'], rest)
  | rest => some ([], rest)

def exponentRun? (s : List Char) : Option (List Char × List Char) :=
  match s with
  | e :: rest =>
    if e ≠ 'e' ∧ e ≠ 'E' then some ([], s)
    else
      match rest with
      | [] => some ([], s)
      | c :: after =>
        if c = '+' ∨ c = '-' then
          (digitRun? Text.isAsciiDigit after).map fun (digits, rest) =>
            ('e' :: c :: digits, rest)
        else if Text.isAsciiDigit c then
          (digitRun? Text.isAsciiDigit rest).map fun (digits, rest) => ('e' :: digits, rest)
        else some ([], s)
  | [] => some ([], s)

/-- An imaginary number, shown by its amount. -/
def imaginary (x : String) : Value :=
  .foreign "complex" (x ++ "j")

def maxDigits : Nat := 4300

def decimalNumber? (s : List Char) : Option (Value × List Char) := do
  let (whole, rest) ←
    if s.head? = some '.' then some ([], s) else digitRun? Text.isAsciiDigit s
  let (fraction, rest) ← fractionRun? rest
  let (exponent, rest) ← exponentRun? rest
  let written := whole ++ fraction ++ exponent
  let isWhole := fraction.isEmpty && exponent.isEmpty
  match rest with
  | 'j' :: rest | 'J' :: rest =>
    if endsNumber rest then some (imaginary (String.ofList written), rest) else none
  | rest =>
    if !endsNumber rest then none
    else if !isWhole then (Number.readFloat? written).map fun x => (.float x, rest)
    else if whole.head? = some '0' && whole.any (· != '0') then none
    else if whole.length > maxDigits then none
    else
      some (.int (Text.digitsValue (whole.filterMap Text.asciiDigit?)), rest)

def takeNumber? (s : List Char) : Option (Value × List Char) :=
  match s with
  | '0' :: 'x' :: rest | '0' :: 'X' :: rest => basedNumber? 16 rest
  | '0' :: 'o' :: rest | '0' :: 'O' :: rest => basedNumber? 8 rest
  | '0' :: 'b' :: rest | '0' :: 'B' :: rest => basedNumber? 2 rest
  | s => decimalNumber? s

/-! ### Quoted texts -/

def textPrefixes : List String := ["", "r", "u", "b", "br", "rb", "f", "fr", "rf"]

/-- The body of a text up to its closing quotes, and what follows them. -/
def takeBody? (quote : List Char) (isLong : Bool) : List Char → Option (List Char × List Char)
  | [] => none
  -- A quote after a backslash does not close the text, not even where escapes are not read.
  | '\\' :: c :: rest =>
    (takeBody? quote isLong rest).map fun (body, rest) => ('\\' :: c :: body, rest)
  | c :: rest =>
    if quote.isPrefixOf (c :: rest) then some ([], (c :: rest).drop quote.length)
    else if c = '\n' ∧ !isLong then none
    else (takeBody? quote isLong rest).map fun (body, rest) => (c :: body, rest)

def takeQuotes? : List Char → Option (List Char × List Char)
  | '"' :: '"' :: '"' :: rest => some (['"', '"', '"'], rest)
  | '\'' :: '\'' :: '\'' :: rest => some (['\'', '\'', '\''], rest)
  | '"' :: rest => some (['"'], rest)
  | '\'' :: rest => some (['\''], rest)
  | _ => none

/-- A body with its line breaks written as escapes. -/
def escapeBreaks : List Char → List Char
  | [] => []
  | '\\' :: c :: rest => '\\' :: c :: escapeBreaks rest
  | '\n' :: rest => '\\' :: 'n' :: escapeBreaks rest
  | c :: rest => c :: escapeBreaks rest

/-- The text of a body.  Only the common characters are known by their names: the further names that
there are in texts inside references are left out. -/
def readBody? (isRaw : Bool) (body : List Char) : Option (List Char) :=
  if isRaw then some body else (Text.Literal.unescape (escapeBreaks body)).toOption

/-- A body of bytes with the backslashes of those escapes doubled that only texts have. -/
def keepUnicodeEscapes : List Char → List Char
  | [] => []
  | '\\' :: c :: rest =>
    if c = 'u' ∨ c = 'U' ∨ c = 'N' then '\\' :: '\\' :: c :: keepUnicodeEscapes rest
    else '\\' :: c :: keepUnicodeEscapes rest
  | c :: rest => c :: keepUnicodeEscapes rest

/-- The bytes of a body, which has to be ASCII. -/
def readBytes? (isRaw : Bool) (body : List Char) : Option (List UInt8) :=
  if body.any (·.toNat ≥ 0x80) then none
  else (readBody? isRaw (if isRaw then body else keepUnicodeEscapes body)).map fun chars =>
    chars.map fun c => UInt8.ofNat c.toNat

/-- What stands for itself in a text with expressions in braces, the doubled braces among it;
`none` if there are expressions. -/
def plainTemplate? : List Char → Option (List Char)
  | [] => some []
  | '\x7b' :: '\x7b' :: rest => (plainTemplate? rest).map ('\x7b' :: ·)
  | '\x7d' :: '\x7d' :: rest => (plainTemplate? rest).map ('\x7d' :: ·)
  | c :: rest => if c = '\x7b' ∨ c = '\x7d' then none else (plainTemplate? rest).map (c :: ·)

/-- Every expression in braces is closed and is not empty; `depth` braces are open, and the
innermost holds something if `filled`. -/
def isTemplate : Nat → Bool → List Char → Bool
  | depth, _, [] => depth = 0
  | 0, _, '\x7b' :: '\x7b' :: rest => isTemplate 0 false rest
  | 0, _, '\x7d' :: '\x7d' :: rest => isTemplate 0 false rest
  | depth, filled, c :: rest =>
    if c = '\x7b' then isTemplate (depth + 1) false rest
    else if c = '\x7d' then depth != 0 && filled && isTemplate (depth - 1) true rest
    else isTemplate depth (filled || !Text.isBlank c) rest

/-- A text in which braces stand for expressions, or for themselves where they are doubled. -/
def readTemplate? (isRaw : Bool) (body : List Char) : Option Token :=
  match plainTemplate? body with
  | none => if isTemplate 0 false body then some .template else none
  | some body => (readBody? isRaw body).map fun chars => .text (String.ofList chars)

def takeText? (textPrefix : String) (s : List Char) : Option (Token × List Char) := do
  let (quote, rest) ← takeQuotes? s
  let (body, rest) ← takeBody? quote (quote.length = 3) rest
  let isRaw := textPrefix.contains 'r'
  let token ←
    if textPrefix.contains 'b' then (readBytes? isRaw body).map .bytes
    else if textPrefix.contains 'f' then readTemplate? isRaw body
    else (readBody? isRaw body).map fun chars => .text (String.ofList chars)
  return (token, rest)

/-! ### Lines -/

/-- The operators and delimiters, a longer one before those that it starts with. -/
def marks : List String :=
  ["**=", "//=", ">>=", "<<=", "...", "**", "//", ">>", "<<", "<=", ">=", "==", "!=", "->",
    ":=", "+=", "-=", "*=", "/=", "%=", "@=", "&=", "|=", "^=", "+", "-", "*", "/", "%", "@",
    "&", "|", "^", "~", "<", ">", "(", ")", "[", "]", "\x7b", "\x7d", ",", ":", ".", ";", "="]

def takeMark? (s : List Char) : Option (String × List Char) :=
  (marks.find? fun mark => mark.toList.isPrefixOf s).map fun mark => (mark, s.drop mark.length)

def skipComment (s : List Char) : List Char :=
  s.dropWhile (· != '\n')

def isIndent (c : Char) : Bool :=
  c == ' ' || c == '\t' || c == '\x0c'

/-- A text from the first character of its first line that is not empty, if that line does not
start with spaces. -/
def firstLine? : Bool → List Char → Option (List Char)
  | _, [] => some []
  | indented, c :: rest =>
    -- A form feed starts the line anew.
    if c = '\x0c' then firstLine? false rest
    else if c = ' ' ∨ c = '\t' then firstLine? true rest
    else if c = '\n' then firstLine? false rest
    else if c = '#' then firstBreak rest
    else if indented then none
    else if c = '\\' then
      match rest with
      | '\n' :: rest => firstLine? false rest
      | _ => none
    else some (c :: rest)
where
  firstBreak : List Char → Option (List Char)
    | [] => some []
    | c :: rest => if c = '\n' then firstLine? false rest else firstBreak rest

/-- Only empty lines and comments follow, and the last line has no spaces in front. -/
def isBlankRest : Bool → List Char → Bool
  | indented, [] => !indented
  | _, c :: rest =>
    if c = '#' then inComment rest
    else if c = ' ' ∨ c = '\t' then isBlankRest true rest
    else (c == '\n' || c == '\x0c') && isBlankRest false rest
where
  inComment : List Char → Bool
    | [] => true
    | c :: rest => if c = '\n' then isBlankRest false rest else inComment rest

def depthAfter (mark : String) (depth : Nat) : Nat :=
  if mark = "(" ∨ mark = "[" ∨ mark = "\x7b" then depth + 1
  else if mark = ")" ∨ mark = "]" ∨ mark = "\x7d" then depth - 1
  else depth

def constantNames : List String := ["False", "None", "True"]

/-- The name that a word stands for: its normal form. -/
def nameOf (word : List Char) : String :=
  let normal := String.ofList (Text.normalForm word)
  -- Another form of a reserved name is a name of its own, unless the name denotes something.
  if keywords.contains normal && !constantNames.contains normal then String.ofList word
  else normal

/-- A name, or a quoted text with a prefix, at the front of a text. -/
def takeWord? (s : List Char) : Option (Token × List Char) :=
  let word := s.takeWhile isNameChar
  let rest := s.dropWhile isNameChar
  let lower := String.ofList (word.map Char.toLower)
  if (rest.head? = some '"' ∨ rest.head? = some '\'') ∧ textPrefixes.contains lower then
    takeText? lower rest
  else if Text.isIdentifier word then some (.name (nameOf word), rest)
  else none

def takeToken? (s : List Char) : Option (Token × List Char) :=
  match s with
  | [] => none
  | c :: rest =>
    if Text.isAsciiDigit c || (c == '.' && rest.head?.any Text.isAsciiDigit) then
      (takeNumber? s).map fun (v, rest) => (.number v, rest)
    else if isNameChar c then takeWord? s
    else if c = '"' ∨ c = '\'' then takeText? "" s
    else (takeMark? s).map fun (mark, rest) => (.mark mark, rest)

/-- The tokens of a line, in at most `count` steps; `depth` brackets are open. -/
def scan : Nat → Nat → List Char → Option (List Token)
  | 0, _, _ => none
  | _ + 1, _, [] => some []
  | count + 1, depth, c :: rest =>
    if isIndent c then scan count depth rest
    else if c = '#' then scan count depth (skipComment rest)
    else if c = '\n' then
      if depth = 0 then if isBlankRest false rest then some [] else none
      else scan count depth rest
    else if c = '\\' then
      match rest with
      | '\n' :: d :: rest => scan count depth (d :: rest)
      | _ => none
    else do
      let (token, rest) ← takeToken? (c :: rest)
      let depth := match token with
        | .mark mark => depthAfter mark depth
        | _ => depth
      let tokens ← scan count depth rest
      return token :: tokens

def tokens? (text : String) : Option (List Token) :=
  let s := Text.Literal.unifyBreaks text.toList
  if s.contains '\x00' then none
  else do
    let line ← firstLine? false s
    scan (line.length + 1) 0 line

end Reference
end Schematic
