import Schematic.Text.Casing

/-!
Lowercasing of texts.  Two rules go beyond a character by character mapping: the dotted
capital I becomes an i with a dot above, and a capital sigma at the end of a word takes
its final form.
-/

namespace Schematic
namespace Text

/-- A sigma between `before` (nearest character first) and `after` ends its word: the
nearest character before it that decides has case, and the one after it has none. -/
def isFinalSigma (before after : List Char) : Bool :=
  (before.find? fun c => !isCaseIgnorable c).any isCased &&
    !(after.find? fun c => !isCaseIgnorable c).any isCased

/-- The lowercase form of a character between `before` (nearest first) and `after`. -/
def lowerChar (before : List Char) (c : Char) (after : List Char) : List Char :=
  if c = 'Σ' then [if isFinalSigma before after then 'ς' else 'σ']
  else if c = 'İ' then ['i', '\u0307']
  else [simpleLower c]

def lowerFrom (before : List Char) : List Char → List Char
  | [] => []
  | c :: after => lowerChar before c after ++ lowerFrom (c :: before) after

def lower (s : List Char) : List Char :=
  lowerFrom [] s

end Text
end Schematic
