/-!
Repertoires: the characters that can be written by their names, and those that stand for halves
of characters.  Which names there are depends on the edition of the character set, so what reads
names is given a repertoire; one of the common names is at hand where no other is given.
-/

namespace Schematic
namespace Text

/-- A code point that is half of a pair, and no character by itself. -/
def isSurrogate (n : Nat) : Bool :=
  0xD800 ≤ n && n ≤ 0xDFFF

/-- A surrogate without its other half is no character here, but an escape can put it in a text, where
it differs from every other one.  A repertoire sets characters aside that stand for them; texts that
hold one of those for itself are left out, and so is that a text with a surrogate cannot be written in
an encoding. -/
class Repertoire where
  /-- The character with a name, in letters of either case. -/
  named? : List Char → Option Char
  surrogate : Nat → Char
  surrogate_inj : ∀ {m n : Nat}, isSurrogate m = true → isSurrogate n = true →
    surrogate m = surrogate n → m = n

namespace Repertoire

/-- Characters that follow one another from a code on, by their names. -/
structure Row where
  first : Nat
  names : List String

def Row.find? (row : Row) (name : String) : Option Char :=
  (row.names.idxOf? name).map fun place => Char.ofNat (row.first + place)

/-- The capitals of letters and the small ones, each from a code on. -/
def letters (script : String) (capital small : Nat) (shapes : List String) : List Row :=
  [⟨capital, shapes.map (script ++ " CAPITAL LETTER " ++ ·)⟩,
    ⟨small, shapes.map (script ++ " SMALL LETTER " ++ ·)⟩]

/-- Latin and Greek letters, and common signs.  Controls have only aliases, which are left out. -/
def commonRows : List Row :=
  [⟨0x20, ["SPACE", "EXCLAMATION MARK", "QUOTATION MARK", "NUMBER SIGN", "DOLLAR SIGN",
      "PERCENT SIGN", "AMPERSAND", "APOSTROPHE", "LEFT PARENTHESIS", "RIGHT PARENTHESIS", "ASTERISK",
      "PLUS SIGN", "COMMA", "HYPHEN-MINUS", "FULL STOP", "SOLIDUS", "DIGIT ZERO", "DIGIT ONE",
      "DIGIT TWO", "DIGIT THREE", "DIGIT FOUR", "DIGIT FIVE", "DIGIT SIX", "DIGIT SEVEN",
      "DIGIT EIGHT", "DIGIT NINE", "COLON", "SEMICOLON", "LESS-THAN SIGN", "EQUALS SIGN",
      "GREATER-THAN SIGN", "QUESTION MARK", "COMMERCIAL AT"]⟩,
    ⟨0x5B, ["LEFT SQUARE BRACKET", "REVERSE SOLIDUS", "RIGHT SQUARE BRACKET", "CIRCUMFLEX ACCENT",
      "LOW LINE", "GRAVE ACCENT"]⟩,
    ⟨0x7B, ["LEFT CURLY BRACKET", "VERTICAL LINE", "RIGHT CURLY BRACKET", "TILDE"]⟩,
    ⟨0xB0, ["DEGREE SIGN", "PLUS-MINUS SIGN"]⟩,
    ⟨0xDF, ["LATIN SMALL LETTER SHARP S"]⟩,
    ⟨0xFF, ["LATIN SMALL LETTER Y WITH DIAERESIS"]⟩,
    ⟨0x3C2, ["GREEK SMALL LETTER FINAL SIGMA"]⟩,
    ⟨0x2010, ["HYPHEN", "NON-BREAKING HYPHEN", "FIGURE DASH", "EN DASH", "EM DASH", "HORIZONTAL BAR",
      "DOUBLE VERTICAL LINE", "DOUBLE LOW LINE", "LEFT SINGLE QUOTATION MARK",
      "RIGHT SINGLE QUOTATION MARK", "SINGLE LOW-9 QUOTATION MARK",
      "SINGLE HIGH-REVERSED-9 QUOTATION MARK", "LEFT DOUBLE QUOTATION MARK",
      "RIGHT DOUBLE QUOTATION MARK", "DOUBLE LOW-9 QUOTATION MARK",
      "DOUBLE HIGH-REVERSED-9 QUOTATION MARK", "DAGGER", "DOUBLE DAGGER", "BULLET",
      "TRIANGULAR BULLET", "ONE DOT LEADER", "TWO DOT LEADER", "HORIZONTAL ELLIPSIS"]⟩,
    ⟨0x20AC, ["EURO SIGN"]⟩] ++
  letters "LATIN" 0x41 0x61 ["A", "B", "C", "D", "E", "F", "G", "H", "I", "J", "K", "L", "M", "N",
    "O", "P", "Q", "R", "S", "T", "U", "V", "W", "X", "Y", "Z"] ++
  letters "LATIN" 0xC0 0xE0 ["A WITH GRAVE", "A WITH ACUTE", "A WITH CIRCUMFLEX", "A WITH TILDE",
    "A WITH DIAERESIS", "A WITH RING ABOVE", "AE", "C WITH CEDILLA", "E WITH GRAVE", "E WITH ACUTE",
    "E WITH CIRCUMFLEX", "E WITH DIAERESIS", "I WITH GRAVE", "I WITH ACUTE", "I WITH CIRCUMFLEX",
    "I WITH DIAERESIS", "ETH", "N WITH TILDE", "O WITH GRAVE", "O WITH ACUTE", "O WITH CIRCUMFLEX",
    "O WITH TILDE", "O WITH DIAERESIS"] ++
  letters "LATIN" 0xD8 0xF8 ["O WITH STROKE", "U WITH GRAVE", "U WITH ACUTE", "U WITH CIRCUMFLEX",
    "U WITH DIAERESIS", "Y WITH ACUTE", "THORN"] ++
  letters "GREEK" 0x391 0x3B1 ["ALPHA", "BETA", "GAMMA", "DELTA", "EPSILON", "ZETA", "ETA", "THETA",
    "IOTA", "KAPPA", "LAMDA", "MU", "NU", "XI", "OMICRON", "PI", "RHO"] ++
  letters "GREEK" 0x3A3 0x3C3 ["SIGMA", "TAU", "UPSILON", "PHI", "CHI", "PSI", "OMEGA"]

theorem toNat_ofNat {n : Nat} (h : n.isValidChar) : (Char.ofNat n).toNat = n := by
  rw [Char.ofNat, dif_pos h]
  rfl

/-- The common characters.  Those of the last plane, which is for private use, stand for the
surrogates. -/
instance common : Repertoire where
  named? name := commonRows.findSome? (·.find? (String.ofList (name.map Char.toUpper)))
  surrogate n := Char.ofNat (0x100000 + n)
  surrogate_inj := by
    intro m n hm hn h
    unfold isSurrogate at hm hn
    rw [Bool.and_eq_true, decide_eq_true_iff, decide_eq_true_iff] at hm hn
    have hcode := congrArg Char.toNat h
    rw [toNat_ofNat (.inr ⟨by omega, by omega⟩), toNat_ofNat (.inr ⟨by omega, by omega⟩)] at hcode
    omega

end Repertoire
end Text
end Schematic
