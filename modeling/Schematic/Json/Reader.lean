import Schematic.Json
import Schematic.Text.Digit
import Schematic.Text.Hex
import Schematic.Text.Utf8

/-!
Reading JSON texts, given as bytes.  The reader stops at the first fault and says where it
is, by line and column.  Integers may have up to 4300 digits, containers may be nested 201
deep, and a number too large for binary64 becomes an infinity.
-/

namespace Schematic
namespace Json

inductive Fault where
  | endInValue
  | endInList
  | endInObject
  | endInString
  | expectedValue
  | expectedIdent
  | invalidNumber
  | numberOutOfRange
  | recursionLimit
  | trailingComma
  | expectedCommaOrBracket
  | expectedCommaOrBrace
  | expectedColon
  | keyNotString
  | controlCharacter
  | invalidEscape
  | loneSurrogate
  | endOfHexEscape
  | invalidUnicode
  | trailingCharacters
  deriving DecidableEq

def Fault.message : Fault → String
  | .endInValue => "EOF while parsing a value"
  | .endInList => "EOF while parsing a list"
  | .endInObject => "EOF while parsing an object"
  | .endInString => "EOF while parsing a string"
  | .expectedValue => "expected value"
  | .expectedIdent => "expected ident"
  | .invalidNumber => "invalid number"
  | .numberOutOfRange => "number out of range"
  | .recursionLimit => "recursion limit exceeded"
  | .trailingComma => "trailing comma"
  | .expectedCommaOrBracket => "expected `,` or `]`"
  | .expectedCommaOrBrace => "expected `,` or `\x7d`"
  | .expectedColon => "expected `:`"
  | .keyNotString => "key must be a string"
  | .controlCharacter => "control character (\\u0000-\\u001F) found while parsing a string"
  | .invalidEscape => "invalid escape"
  | .loneSurrogate => "lone leading surrogate in hex escape"
  | .endOfHexEscape => "unexpected end of hex escape"
  | .invalidUnicode => "invalid unicode code point"
  | .trailingCharacters => "trailing characters"

/-- A fault and the number of bytes from its place to the end of the text. -/
structure FaultAt where
  fault : Fault
  remaining : Nat

abbrev Bytes := List UInt8

/-- A reader takes bytes from the front and returns the rest. -/
abbrev Reader (α : Type) := Bytes → Except FaultAt (α × Bytes)

def failAt {α : Type} (fault : Fault) (rest : Bytes) : Except FaultAt α :=
  .error ⟨fault, rest.length⟩

def byte (c : Char) : UInt8 :=
  c.toNat.toUInt8

def isSpace (b : UInt8) : Bool :=
  b == 0x20 || b == 0x09 || b == 0x0A || b == 0x0D

def skipSpace (s : Bytes) : Bytes :=
  s.dropWhile isSpace

def isDigit (b : UInt8) : Bool :=
  0x30 ≤ b && b ≤ 0x39

def digitOf (b : UInt8) : Nat :=
  b.toNat - 48

/-- The rest of a word whose first letter has been seen. -/
def readWord {α : Type} (value : α) : List UInt8 → Reader α
  | [], s => .ok (value, s)
  | _ :: _, [] => failAt .endInValue []
  | expected :: more, b :: rest =>
    if b = expected then readWord value more rest else failAt .expectedIdent (b :: rest)

/-- At least one digit. -/
def readDigits : Reader (List Nat)
  | [] => failAt .endInValue []
  | b :: rest =>
    if isDigit b then
      .ok (((b :: rest).takeWhile isDigit).map digitOf, (b :: rest).dropWhile isDigit)
    else failAt .invalidNumber (b :: rest)

/-- The fraction after a point, or no digits. -/
def readFraction : Reader (Option (List Nat))
  | b :: rest =>
    if b = byte '.' then do
      let (digits, rest) ← readDigits rest
      .ok (some digits, rest)
    else .ok (none, b :: rest)
  | [] => .ok (none, [])

/-- A sign before digits: whether it is a minus. -/
def splitSign : Bytes → Bool × Bytes
  | b :: rest =>
    if b = byte '-' then (true, rest) else if b = byte '+' then (false, rest)
    else (false, b :: rest)
  | [] => (false, [])

def readExponent : Reader (Option Int)
  | b :: rest =>
    if b = byte 'e' ∨ b = byte 'E' then do
      let (negative, rest) := splitSign rest
      let (digits, rest) ← readDigits rest
      let value : Int := Text.digitsValue digits
      .ok (some (if negative then -value else value), rest)
    else .ok (none, b :: rest)
  | [] => .ok (none, [])

/-- The most digits of an integer part. -/
def maxIntegerDigits : Nat := 4300

/-- A number without its sign. -/
def readUnsigned (negative : Bool) : Reader Json := fun s => do
  let (whole, rest) ← readDigits s
  if whole.head? = some 0 ∧ whole.length > 1 then failAt .invalidNumber (s.drop 1)
  else if whole.length > maxIntegerDigits then
    -- The place is the one right after the first digit too many.
    failAt .numberOutOfRange (s.drop (maxIntegerDigits + 1))
  else
    let (fraction, rest) ← readFraction rest
    let (exponent, rest) ← readExponent rest
    match fraction, exponent with
    | none, none =>
      let value : Int := Text.digitsValue whole
      .ok (.int (if negative then -value else value), rest)
    | fraction, exponent =>
      let digits := fraction.getD []
      .ok (.float (.ofDecimal negative (Text.digitsValue (whole ++ digits))
        (exponent.getD 0 - digits.length)), rest)

/-- A number; the infinite ones only where they are allowed. -/
def readNumber (nonFinite : Bool) : Reader Json
  | [] => failAt .endInValue []
  | b :: rest =>
    if b = byte '-' then
      match rest with
      | c :: more =>
        if nonFinite && c == byte 'I' then
          readWord (.float (.infinity true)) ("nfinity".toList.map byte) more
        else readUnsigned true rest
      | [] => failAt .endInValue []
    else readUnsigned false (b :: rest)

def simpleEscape? (b : UInt8) : Option UInt8 :=
  if b = byte '"' then some (byte '"')
  else if b = byte '\\' then some (byte '\\')
  else if b = byte '/' then some (byte '/')
  else if b = byte 'b' then some 0x08
  else if b = byte 'f' then some 0x0C
  else if b = byte 'n' then some 0x0A
  else if b = byte 'r' then some 0x0D
  else if b = byte 't' then some 0x09
  else none

def hexOf? (b : UInt8) : Option Nat :=
  Text.hexValue? (Char.ofNat b.toNat)

def hexUnit (a b c d : UInt8) (rest : Bytes) : Except FaultAt Nat :=
  match hexOf? a, hexOf? b, hexOf? c, hexOf? d with
  | none, _, _, _ => failAt .invalidEscape (a :: b :: c :: d :: rest)
  | _, none, _, _ => failAt .invalidEscape (b :: c :: d :: rest)
  | _, _, none, _ => failAt .invalidEscape (c :: d :: rest)
  | _, _, _, none => failAt .invalidEscape (d :: rest)
  | some a, some b, some c, some d => .ok (Text.hexDigitsValue [a, b, c, d])

def isLeadUnit (unit : Nat) : Bool :=
  0xD800 ≤ unit && unit ≤ 0xDBFF

def isTrailUnit (unit : Nat) : Bool :=
  0xDC00 ≤ unit && unit ≤ 0xDFFF

/-- The fault of a text that should go on with a second escape of four digits and is too
short to do so. -/
def secondEscapeFault : Bytes → FaultAt
  | [] => ⟨.endInString, 0⟩
  | b :: rest =>
    if b ≠ byte '\\' then ⟨.endOfHexEscape, (b :: rest).length⟩
    else
      match rest with
      | [] => ⟨.endInString, 0⟩
      | c :: rest =>
        if c ≠ byte 'u' then ⟨.endOfHexEscape, (c :: rest).length⟩ else ⟨.endInString, 0⟩

/-- The bytes of a string up to its closing quote, escapes resolved. -/
def readStringBytes : Reader Bytes
  | [] => failAt .endInString []
  | b :: rest =>
    if b = byte '"' then .ok ([], rest)
    else if b < 0x20 then failAt .controlCharacter (b :: rest)
    else if b ≠ byte '\\' then do
      let (more, rest) ← readStringBytes rest
      .ok (b :: more, rest)
    else
      match rest with
      | [] => failAt .endInString []
      | e :: rest =>
        match simpleEscape? e with
        | some c => do
          let (more, rest) ← readStringBytes rest
          .ok (c :: more, rest)
        | none =>
          if e ≠ byte 'u' then failAt .invalidEscape (e :: rest)
          else
            match rest with
            | h₁ :: h₂ :: h₃ :: h₄ :: rest => do
              let unit ← hexUnit h₁ h₂ h₃ h₄ rest
              if isTrailUnit unit then failAt .loneSurrogate (h₄ :: rest)
              else if isLeadUnit unit then
                match rest with
                | slash :: u :: k₁ :: k₂ :: k₃ :: k₄ :: rest =>
                  if slash ≠ byte '\\' then
                    failAt .endOfHexEscape (slash :: u :: k₁ :: k₂ :: k₃ :: k₄ :: rest)
                  else if u ≠ byte 'u' then
                    failAt .endOfHexEscape (u :: k₁ :: k₂ :: k₃ :: k₄ :: rest)
                  else do
                    let second ← hexUnit k₁ k₂ k₃ k₄ rest
                    if isTrailUnit second then do
                      let c := Char.ofNat
                        (0x10000 + (unit - 0xD800) * 0x400 + (second - 0xDC00))
                      let (more, rest) ← readStringBytes rest
                      .ok (String.utf8EncodeChar c ++ more, rest)
                    else failAt .loneSurrogate (k₄ :: rest)
                | short => .error (secondEscapeFault short)
              else do
                let (more, rest) ← readStringBytes rest
                .ok (String.utf8EncodeChar (Char.ofNat unit) ++ more, rest)
            | _ => failAt .endInString []

/-- A string after its opening quote. -/
def readString : Reader String := fun s => do
  let (bytes, rest) ← readStringBytes s
  match Text.Utf8.decode bytes with
  | .ok text => .ok (text, rest)
  -- The offset counts the resolved bytes, in which an escape is shorter than in the text.
  | .error offset => .error ⟨.invalidUnicode, s.length - offset⟩

/-- The most containers around a value. -/
def maxDepth : Nat := 200

def readColon : Reader Unit := fun s =>
  match skipSpace s with
  | [] => failAt .endInObject []
  | b :: rest => if b = byte ':' then .ok ((), rest) else failAt .expectedColon (b :: rest)

mutual

/-- A value inside `depth` containers.  The first argument bounds the number of steps. -/
def readValue (nonFinite : Bool) : Nat → Nat → Reader Json
  | 0, _, s => failAt .endInValue s
  | fuel + 1, depth, s =>
    match skipSpace s with
    | [] => failAt .endInValue []
    | b :: rest =>
      if depth > maxDepth then failAt .recursionLimit (b :: rest)
      else if b = byte '"' then do
        let (text, rest) ← readString rest
        .ok (.str text, rest)
      else if b = byte '[' then do
        let (items, rest) ← readItems nonFinite fuel (depth + 1) rest
        .ok (.array items, rest)
      else if b = byte '\x7b' then do
        let (members, rest) ← readMembers nonFinite fuel (depth + 1) rest
        .ok (.object members, rest)
      else if b = byte '-' || isDigit b then readNumber nonFinite (b :: rest)
      else if b = byte 't' then readWord (.bool true) ("rue".toList.map byte) rest
      else if b = byte 'f' then readWord (.bool false) ("alse".toList.map byte) rest
      else if b = byte 'n' then readWord .null ("ull".toList.map byte) rest
      else if nonFinite && b == byte 'N' then
        readWord (.float .nan) ("aN".toList.map byte) rest
      else if nonFinite && b == byte 'I' then
        readWord (.float (.infinity false)) ("nfinity".toList.map byte) rest
      else failAt .expectedValue (b :: rest)

def readItems (nonFinite : Bool) : Nat → Nat → Reader (List Json)
  | 0, _, s => failAt .endInList s
  | fuel + 1, depth, s =>
    match skipSpace s with
    | [] => failAt .endInList []
    | b :: rest =>
      if b = byte ']' then .ok ([], rest)
      else readMoreItems nonFinite fuel depth (b :: rest)

/-- One element at least, and those that follow it. -/
def readMoreItems (nonFinite : Bool) : Nat → Nat → Reader (List Json)
  | 0, _, s => failAt .endInList s
  | fuel + 1, depth, s => do
    let (item, rest) ← readValue nonFinite fuel depth s
    match skipSpace rest with
    | [] => failAt .endInList []
    | b :: rest =>
      if b = byte ']' then .ok ([item], rest)
      else if b = byte ',' then
        match skipSpace rest with
        | [] => failAt .endInValue []
        | c :: rest =>
          if c = byte ']' then failAt .trailingComma (c :: rest)
          else do
            let (items, rest) ← readMoreItems nonFinite fuel depth (c :: rest)
            .ok (item :: items, rest)
      else failAt .expectedCommaOrBracket (b :: rest)

def readMembers (nonFinite : Bool) : Nat → Nat → Reader (List (String × Json))
  | 0, _, s => failAt .endInObject s
  | fuel + 1, depth, s =>
    match skipSpace s with
    | [] => failAt .endInObject []
    | b :: rest =>
      if b = byte '\x7d' then .ok ([], rest)
      else if b = byte '"' then readMoreMembers nonFinite fuel depth rest
      else failAt .keyNotString (b :: rest)

/-- One member at least, after the opening quote of its name, and those that follow it. -/
def readMoreMembers (nonFinite : Bool) : Nat → Nat → Reader (List (String × Json))
  | 0, _, s => failAt .endInObject s
  | fuel + 1, depth, s => do
    let (name, rest) ← readString s
    let ((), rest) ← readColon rest
    let (value, rest) ← readValue nonFinite fuel depth rest
    match skipSpace rest with
    | [] => failAt .endInObject []
    | b :: rest =>
      if b = byte '\x7d' then .ok ([(name, value)], rest)
      else if b = byte ',' then
        match skipSpace rest with
        | [] => failAt .endInValue []
        | c :: rest =>
          if c = byte '"' then do
            let (members, rest) ← readMoreMembers nonFinite fuel depth rest
            .ok ((name, value) :: members, rest)
          else if c = byte '\x7d' then failAt .trailingComma (c :: rest)
          else failAt .keyNotString (c :: rest)
      else failAt .expectedCommaOrBrace (b :: rest)

end

/-- A whole text: one value and nothing but white space around it. -/
def readDocument (nonFinite : Bool) (s : Bytes) : Except FaultAt Json := do
  -- Every step but the descent into a container takes a byte, so three times the length is enough.
  let (json, rest) ← readValue nonFinite (3 * s.length + 3) 0 s
  match skipSpace rest with
  | [] => .ok json
  | b :: rest => failAt .trailingCharacters (b :: rest)

/-- The line, counted from 1, and the column of a place in a text. -/
def lineColumn (s : Bytes) (index : Nat) : Nat × Nat :=
  -- A line break belongs to the line it begins, at column zero.
  let upTo := s.take (index + 1)
  let line := upTo.reverse.takeWhile (· ≠ byte '\n')
  (1 + upTo.count (byte '\n'), line.length)

/-- A fault and its place in the text. -/
structure Error where
  fault : Fault
  line : Nat
  column : Nat
  deriving DecidableEq

def Error.message (e : Error) : String :=
  e.fault.message ++ " at line " ++ toString e.line ++ " column " ++ toString e.column

def read (nonFinite : Bool) (s : Bytes) : Except Error Json :=
  (readDocument nonFinite s).mapError fun e =>
    let (line, column) := lineColumn s (s.length - e.remaining)
    ⟨e.fault, line, column⟩

end Json
end Schematic
