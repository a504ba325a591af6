import Schematic.Text.Hex
import Schematic.Text.Normal.Composition
import Schematic.Text.Normal.Decomposition
import Schematic.Text.Normal.Order

/-!
The normal form of identifiers.  Texts that look or count alike have one form: characters that
stand for others are replaced by them, marks are put in order, and what can be written as one
character is.  Syllables are composed and decomposed by calculation, the rest by tables.
-/

namespace Schematic
namespace Text
namespace Normal

/-! ### Tables -/

/-- What a table says of a range of characters. -/
structure Entry where
  first : Nat
  last : Nat
  target : List Nat

def readNumber (s : String) : Nat :=
  hexDigitsValue (s.toList.filterMap hexValue?)

def readEntry (s : String) : Entry :=
  match s.splitOn ":" with
  | [range, target] =>
    let target := (target.splitOn "+").map readNumber
    match range.splitOn "-" with
    | [first, last] => ⟨readNumber first, readNumber last, target⟩
    | _ => ⟨readNumber range, readNumber range, target⟩
  | _ => ⟨0, 0, []⟩

/-- The entries of a table, with blanks between them. -/
def readTable (s : String) : List Entry :=
  (((s.splitOn "\n").flatMap (·.splitOn " ")).filter (· != "")).map readEntry

def simpleTable : List Entry := readTable simpleDecompositions

def compoundTable : List Entry := readTable compoundDecompositions

def compositionTable : List Entry := readTable compositions

def placeTable : List Entry := readTable markPlaces

def find? (c : Nat) (table : List Entry) : Option Entry :=
  table.find? fun entry => entry.first ≤ c && c ≤ entry.last

/-! ### Syllables -/

def firstSyllable : Nat := 0xAC00

def syllableCount : Nat := 11172

def firstLead : Nat := 0x1100

def leadCount : Nat := 19

def firstVowel : Nat := 0x1161

def vowelCount : Nat := 21

/-- The character in front of the ones that can end a syllable. -/
def beforeTail : Nat := 0x11A7

/-- The ways to end a syllable, without an ending included. -/
def tailCount : Nat := 28

/-- The parts of a syllable, if the character is one. -/
def syllableParts? (c : Nat) : Option (List Nat) :=
  if firstSyllable ≤ c && c < firstSyllable + syllableCount then
    let i := c - firstSyllable
    let lead := firstLead + i / (vowelCount * tailCount)
    let vowel := firstVowel + i / tailCount % vowelCount
    let tail := i % tailCount
    some (if tail = 0 then [lead, vowel] else [lead, vowel, beforeTail + tail])
  else none

def syllable? (a b : Nat) : Option Nat :=
  if firstLead ≤ a && a < firstLead + leadCount && firstVowel ≤ b &&
      b < firstVowel + vowelCount then
    some (firstSyllable + ((a - firstLead) * vowelCount + (b - firstVowel)) * tailCount)
  else if firstSyllable ≤ a && a < firstSyllable + syllableCount &&
      (a - firstSyllable) % tailCount = 0 && beforeTail < b && b < beforeTail + tailCount then
    some (a + (b - beforeTail))
  else none

/-! ### The steps -/

def decompose (c : Nat) : List Nat :=
  match syllableParts? c, find? c simpleTable, find? c compoundTable with
  | some parts, _, _ => parts
  | none, some entry, _ => entry.target.map (· + (c - entry.first))
  | none, none, some entry => entry.target
  | none, none, none => [c]

/-- The place of a mark among others that follow the same character. -/
def place (c : Nat) : Nat :=
  match find? c placeTable with
  | some ⟨_, _, p :: _⟩ => p
  | _ => 0

/-- A character added to those in front of it, which are given from the last to the first: a mark
goes in front of the marks with a later place. -/
def insertMark (c : Nat) : List Nat → List Nat
  | [] => [c]
  | d :: before =>
    if 0 < place c && place c < place d then d :: insertMark c before else c :: d :: before

def sortMarks (cs : List Nat) : List Nat :=
  (cs.foldl (fun before c => insertMark c before) []).reverse

/-- The character that two characters are written as. -/
def pair? (a b : Nat) : Option Nat :=
  match syllable? a b with
  | some c => some c
  | none => (compositionTable.find? fun entry => entry.target == [a, b]).map (·.first)

/-- The marks leave room for a character to be written together with the one before them. -/
def admits (marks : List Nat) (c : Nat) : Bool :=
  match marks.getLast? with
  | none => true
  | some mark => place mark < place c

/-- Characters composed with the one before them and its marks. -/
def composeAfter (base : Nat) (marks : List Nat) : List Nat → List Nat
  | [] => base :: marks
  | c :: rest =>
    match if admits marks c then pair? base c else none with
    | some both => composeAfter both marks rest
    | none =>
      if place c = 0 then base :: marks ++ composeAfter c [] rest
      else composeAfter base (marks ++ [c]) rest

def compose : List Nat → List Nat
  | [] => []
  | c :: rest => if place c = 0 then composeAfter c [] rest else c :: compose rest

end Normal

def normalForm (s : List Char) : List Char :=
  if s.all fun c => c.toNat < 0x80 then s
  else
    (Normal.compose (Normal.sortMarks (s.flatMap fun c => Normal.decompose c.toNat))).map Char.ofNat

end Text
end Schematic
