import Schematic.Text.Hex
import Schematic.Text.Repertoire

/-!
Quoted literals: a body between quotes in which a backslash starts an escape.  An escape writes a
character by its number or by its name; a repertoire gives the names.
-/

namespace Schematic
namespace Text
namespace Literal

inductive Error where
  /-- A line break, a malformed escape, a name that no character has, or a backslash before the
  closing quote. -/
  | malformed
  | nul
  deriving DecidableEq

/-- Line breaks in one form: a carriage return counts as one, together with a line feed
after it. -/
def unifyBreaks : List Char → List Char
  | [] => []
  | '\r' :: '\n' :: rest => '\n' :: unifyBreaks rest
  | '\r' :: rest => '\n' :: unifyBreaks rest
  | c :: rest => c :: unifyBreaks rest

def simpleEscape? (c : Char) : Option Char :=
  match c with
  | '\\' => some '\\'
  | '\'' => some '\''
  | '"' => some '"'
  | 'a' => some '\x07'
  | 'b' => some '\x08'
  | 'f' => some '\x0c'
  | 'n' => some '\n'
  | 'r' => some '\r'
  | 't' => some '\t'
  | 'v' => some '\x0b'
  | _ => none

def octalValue? (c : Char) : Option Nat :=
  if '0' ≤ c ∧ c ≤ '7' then some (c.toNat - 48) else none

/-- The character of a code point.  That of a surrogate stands for it. -/
def codeChar? [Repertoire] (n : Nat) : Option Char :=
  if isSurrogate n then some (Repertoire.surrogate n)
  else if n ≤ 0x10FFFF then some (Char.ofNat n)
  else none

/-- The character of hexadecimal digits, if each is one and they name a code point. -/
def hexChar? [Repertoire] (digits : List Char) : Option Char := do
  let values ← digits.mapM hexValue?
  codeChar? (hexDigitsValue values)

mutual

/-- A body with its escapes taken back. -/
def unescape [Repertoire] : List Char → Except Error (List Char)
  | [] => .ok []
  | c :: rest =>
    if c = '\n' then .error .malformed
    else if c ≠ '\\' then (unescape rest).map (c :: ·)
    else
      match rest with
      | [] => .error .malformed
      | e :: rest =>
        if e = '\n' then unescape rest
        else
          match simpleEscape? e, octalValue? e with
          | some c, _ => (unescape rest).map (c :: ·)
          | none, some first =>
            match rest with
            | d :: rest =>
              match octalValue? d with
              | none => (unescape (d :: rest)).map (Char.ofNat first :: ·)
              | some second =>
                match rest with
                | d :: rest =>
                  match octalValue? d with
                  | none => (unescape (d :: rest)).map (Char.ofNat (first * 8 + second) :: ·)
                  | some third =>
                    (unescape rest).map
                      (Char.ofNat ((first * 8 + second) * 8 + third) :: ·)
                | [] => .ok [Char.ofNat (first * 8 + second)]
            | [] => .ok [Char.ofNat first]
          | none, none =>
            if e = 'x' then
              match rest with
              | a :: b :: rest =>
                match hexChar? [a, b] with
                | some c => (unescape rest).map (c :: ·)
                | none => .error .malformed
              | _ => .error .malformed
            else if e = 'u' then
              match rest with
              | a :: b :: c :: d :: rest =>
                match hexChar? [a, b, c, d] with
                | some c => (unescape rest).map (c :: ·)
                | none => .error .malformed
              | _ => .error .malformed
            else if e = 'U' then
              match rest with
              | a :: b :: c :: d :: f :: g :: h :: i :: rest =>
                match hexChar? [a, b, c, d, f, g, h, i] with
                | some c => (unescape rest).map (c :: ·)
                | none => .error .malformed
              | _ => .error .malformed
            else if e = 'N' then
              match rest with
              | '{' :: rest => unescapeName [] rest
              | _ => .error .malformed
            else (unescape rest).map fun more => '\\' :: e :: more

/-- What follows the brace of an escape by name: the rest of the name, up to the brace that closes
it, and the rest of the body. -/
def unescapeName [Repertoire] (name : List Char) : List Char → Except Error (List Char)
  | [] => .error .malformed
  | c :: rest =>
    if c = '\n' then .error .malformed
    else if c = '}' then
      match Repertoire.named? name with
      | some c => (unescape rest).map (c :: ·)
      | none => .error .malformed
    else unescapeName (name ++ [c]) rest

end

/-- The text of the body of a literal.  A NUL is refused before anything else is looked
at. -/
def read [Repertoire] (body : List Char) : Except Error (List Char) :=
  if body.contains '\x00' then .error .nul else unescape (unifyBreaks body)

end Literal
end Text
end Schematic
