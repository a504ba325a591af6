import Schematic.Number.Fixed
import Schematic.Value.Display
import Schematic.Value.Equality

/-!
Messages with places for arguments.  A place is a percent sign, then optionally a key in
parentheses, flags, a width and a precision, and a letter that says how the argument is
written: as text (`s`, `r`, `a`), as an integer (`d`, `i`, `u`, `o`, `x`, `X`), as a decimal
(`e`, `f`, `g` and their capitals) or as a character (`c`).  An asterisk takes a width or a
precision from the arguments.

Places are found first, and then filled from left to right; the first fault counts.
-/

namespace Schematic
namespace Log

/-! ### Places -/

/-- A width or a precision: written out, or taken from the arguments. -/
inductive Count where
  | absent
  | written (n : Nat)
  | argument
  deriving DecidableEq

inductive PlaceKey where
  | absent
  | named (name : String)
  | unclosed
  deriving DecidableEq

structure Place where
  key : PlaceKey
  flags : List Char
  width : Count
  precision : Count
  /-- The letter of the place, and where in the message it is; the message may end before. -/
  letter : Option (Char × Nat)
  deriving DecidableEq

inductive Piece where
  | text (s : List Char)
  | place (p : Place)
  deriving DecidableEq

/-- The text up to the parenthesis that closes `depth` open ones, and what follows it. -/
def closeParens : Nat → List Char → Option (List Char × List Char)
  | _, [] => none
  | depth, c :: rest =>
    if c = ')' ∧ depth = 1 then some ([], rest)
    else
      let depth := if c = ')' then depth - 1 else if c = '(' then depth + 1 else depth
      (closeParens depth rest).map fun (name, rest) => (c :: name, rest)

/-- The key at the front of a place, and what follows it. -/
def takeKey : List Char → PlaceKey × List Char
  | '(' :: rest =>
    match closeParens 1 rest with
    | some (name, rest) => (.named (String.ofList name), rest)
    | none => (.unclosed, [])
  | s => (.absent, s)

def isFlag (c : Char) : Bool :=
  "-+ #0".toList.contains c

def takeWidth (s : List Char) : Count × List Char :=
  match s with
  | '*' :: rest => (.argument, rest)
  | s =>
    match (s.takeWhile Text.isAsciiDigit).filterMap Text.asciiDigit? with
    | [] => (.absent, s)
    | digits => (.written (Text.digitsValue digits), s.dropWhile Text.isAsciiDigit)

/-- The precision at the front of a text, and what follows it. -/
def takePrecision (s : List Char) : Count × List Char :=
  match s with
  | '.' :: rest =>
    match takeWidth rest with
    -- A point alone asks for no digits.
    | (.absent, rest) => (.written 0, rest)
    | found => found
  | s => (.absent, s)

/-- A text without the length letter in front of it. -/
def dropLength : List Char → List Char
  | c :: rest => if c = 'h' ∨ c = 'l' ∨ c = 'L' then rest else c :: rest
  | [] => []

/-- The place after a percent sign, given how many characters the message has, and what follows
the place. -/
def takePlace (total : Nat) (s : List Char) : Place × List Char :=
  let (key, s) := takeKey s
  let flags := s.takeWhile isFlag
  let (width, s) := takeWidth (s.dropWhile isFlag)
  let (precision, s) := takePrecision s
  match dropLength s with
  | [] => (⟨key, flags, width, precision, none⟩, [])
  | letter :: rest =>
    (⟨key, flags, width, precision, some (letter, total - (rest.length + 1))⟩, rest)

theorem closeParens_length {depth : Nat} {s name rest : List Char}
    (h : closeParens depth s = some (name, rest)) : rest.length ≤ s.length := by
  induction s generalizing depth name rest with
  | nil => simp [closeParens] at h
  | cons c s ih =>
    unfold closeParens at h
    split at h
    · simp only [Option.some.injEq, Prod.mk.injEq] at h
      simp [← h.2]
    · obtain ⟨⟨name', rest'⟩, hs, heq⟩ := Option.map_eq_some_iff.1 h
      simp only [Prod.mk.injEq] at heq
      have := ih hs
      rw [heq.2] at this
      rw [List.length_cons]
      omega

theorem takeKey_length (s : List Char) : (takeKey s).2.length ≤ s.length := by
  unfold takeKey
  split
  · split
    · rename_i h
      have := closeParens_length h
      simp only [List.length_cons]
      omega
    · simp
  · exact Nat.le_refl _

theorem takeWidth_length (s : List Char) : (takeWidth s).2.length ≤ s.length := by
  unfold takeWidth
  split
  · simp
  · split
    · exact Nat.le_refl _
    · exact (List.dropWhile_suffix _).length_le

theorem takePrecision_length (s : List Char) : (takePrecision s).2.length ≤ s.length := by
  unfold takePrecision
  split
  · rename_i rest
    have := takeWidth_length rest
    split
    · rename_i h
      rw [h] at this
      simp only [List.length_cons]
      exact Nat.le_succ_of_le this
    · simp only [List.length_cons]
      exact Nat.le_succ_of_le this
  · exact Nat.le_refl _

theorem dropLength_length (s : List Char) : (dropLength s).length ≤ s.length := by
  unfold dropLength
  split
  · split <;> simp
  · exact Nat.le_refl _

/-- What follows a place is part of the text. -/
theorem takePlace_length (total : Nat) (s : List Char) :
    (takePlace total s).2.length ≤ s.length := by
  unfold takePlace
  have hkey := takeKey_length s
  have hflags := (List.dropWhile_suffix isFlag (l := (takeKey s).2)).length_le
  have hwidth := takeWidth_length ((takeKey s).2.dropWhile isFlag)
  have hprecision := takePrecision_length (takeWidth ((takeKey s).2.dropWhile isFlag)).2
  have hletter :=
    dropLength_length (takePrecision (takeWidth ((takeKey s).2.dropWhile isFlag)).2).2
  simp only
  split
  · simp
  · rename_i h
    rw [h, List.length_cons] at hletter
    simp only
    omega

/-- The pieces of the rest of a message, given how many characters the message has. -/
def piecesFrom (total : Nat) : List Char → List Piece
  | [] => []
  | c :: rest =>
    if c ≠ '%' then .text [c] :: piecesFrom total rest
    else
      match rest with
      | '%' :: rest => .text ['%'] :: piecesFrom total rest
      | rest =>
        .place (takePlace total rest).1 :: piecesFrom total (takePlace total rest).2
termination_by s => s.length
decreasing_by
  all_goals simp only [List.length_cons]
  · omega
  · omega
  · exact Nat.lt_succ_of_le (takePlace_length total rest)

def pieces (message : String) : List Piece :=
  piecesFrom message.toList.length message.toList

/-! ### Faults -/

inductive FormatError where
  | tooFew
  | tooMany
  | incomplete
  | incompleteKey
  | noMapping
  | unknownKey (key : Value)
  /-- A key for a sequence, which has numbered elements only. -/
  | textIndex (sequence : String)
  | countNotInteger
  | widthTooBig
  | precisionTooBig
  /-- A count among the arguments that is no machine integer. -/
  | countTooLarge (type : String)
  | unknownLetter (letter : Char) (index : Nat)
  | notANumber (letter : Char) (className : String)
  | notAnInteger (letter : Char) (className : String)
  | notReal (className : String)
  | nanInteger
  | infiniteInteger
  | intTooLarge
  | notACharacter
  | noSuchCharacter
  /-- A place too wide for any memory. -/
  | noMemory
  /-- What has no length among the arguments of a message. -/
  | noLength (className : String)
  deriving Inhabited

def FormatError.message : FormatError → String
  | .tooFew => "not enough arguments for format string"
  | .tooMany => "not all arguments converted during string formatting"
  | .incomplete => "incomplete format"
  | .incompleteKey => "incomplete format key"
  | .noMapping => "format requires a mapping"
  | .unknownKey key => key.display
  | .textIndex sequence => sequence ++ " indices must be integers or slices, not str"
  | .countNotInteger => "* wants int"
  | .widthTooBig => "width too big"
  | .precisionTooBig => "precision too big"
  | .countTooLarge type => "Python int too large to convert to C " ++ type
  | .unknownLetter letter index =>
    "unsupported format character '" ++
      (if 0x1F ≤ letter.toNat ∧ letter.toNat < 0x7F then String.singleton letter else "?") ++
      "' (0x" ++ String.ofList (Nat.toDigits 16 letter.toNat) ++ ") at index " ++ toString index
  | .notANumber letter className =>
    "%" ++ String.singleton letter ++ " format: a real number is required, not " ++ className
  | .notAnInteger letter className =>
    "%" ++ String.singleton letter ++ " format: an integer is required, not " ++ className
  | .notReal className => "must be real number, not " ++ className
  | .nanInteger => "cannot convert float NaN to integer"
  | .infiniteInteger => "cannot convert float infinity to integer"
  | .intTooLarge => "int too large to convert to float"
  | .notACharacter => "%c requires int or char"
  | .noSuchCharacter => "%c arg not in range(0x110000)"
  | .noMemory => ""
  | .noLength className => "object of type " ++ Text.quoted className ++ " has no len()"

/-! ### Arguments -/

structure Arguments where
  /-- The arguments that are still to be placed. -/
  pending : List Value
  /-- The value whose parts can be addressed by key. -/
  keyed : Option Value

def isKeyed : Value → Bool
  | .dict _ | .view _ | .list _ | .bytes _ => true
  | _ => false

/-- The arguments that a value stands for: a tuple for its elements, any other for itself. -/
def Arguments.of : Value → Arguments
  | .tuple items => ⟨items, none⟩
  | value => ⟨[value], if isKeyed value then some value else none⟩

def partOf (key : String) : Value → Except FormatError Value
  | .dict entries | .view entries =>
    match entries.find? fun (k, _) => k.same (.str key) with
    | some (_, value) => .ok value
    | none => .error (.unknownKey (.str key))
  | .bytes _ => .error (.textIndex "byte")
  | _ => .error (.textIndex "list")

/-- The arguments of a place: those that are left, or the part that its key names. -/
def Arguments.select (arguments : Arguments) : PlaceKey → Except FormatError Arguments
  | .absent => .ok arguments
  | .named key =>
    match arguments.keyed with
    | none => .error .noMapping
    | some keyed => do
      let value ← partOf key keyed
      return { arguments with pending := [value] }
  | .unclosed => .error (if arguments.keyed.isSome then .incompleteKey else .noMapping)

def Arguments.next (arguments : Arguments) : Except FormatError (Value × Arguments) :=
  match arguments.pending with
  | [] => .error .tooFew
  | value :: rest => .ok (value, { arguments with pending := rest })

/-- The greatest width, and what it is called. -/
def widthLimit : Nat × String := (0x7FFFFFFFFFFFFFFF, "ssize_t")

/-- The greatest precision, and what it is called. -/
def precisionLimit : Nat × String := (0x7FFFFFFF, "int")

/-- A count of a place, if it has one, and the arguments left. -/
def Arguments.count (arguments : Arguments) (limit : Nat × String) (tooBig : FormatError) :
    Count → Except FormatError (Option Int × Arguments)
  | .absent => .ok (none, arguments)
  | .written n => if n > limit.1 then .error tooBig else .ok (some n, arguments)
  | .argument => do
    let (value, arguments) ← arguments.next
    match value.asInt? with
    | none => .error .countNotInteger
    | some i =>
      if -(limit.1 : Int) - 1 ≤ i ∧ i ≤ limit.1 then .ok (some i, arguments)
      else .error (.countTooLarge limit.2)

/-! ### Filled places -/

/-- A text for a place, in the parts that padding distinguishes. -/
structure Filling where
  /-- The text is a number, so that zeros can fill it up. -/
  numeric : Bool
  negative : Bool
  /-- The mark of the base, which goes in front of filling zeros. -/
  base : List Char
  body : List Char

/-- Padding and sign of a filled place. -/
def Filling.padded (filling : Filling) (flags : List Char) (width : Nat) (toLeft : Bool) :
    List Char :=
  let sign :=
    if !filling.numeric then []
    else if filling.negative then ['-']
    else if flags.contains '+' then ['+']
    else if flags.contains ' ' then [' ']
    else []
  let lead := sign ++ filling.base
  let missing := width - (lead.length + filling.body.length)
  if toLeft then lead ++ filling.body ++ List.replicate missing ' '
  else if filling.numeric && flags.contains '0' then
    lead ++ List.replicate missing '0' ++ filling.body
  else List.replicate missing ' ' ++ lead ++ filling.body

def escapeBeyondAscii (s : List Char) : List Char :=
  s.flatMap fun c =>
    if c.toNat < 0x80 then [c]
    else if c.toNat ≤ 0xFF then '\\' :: 'x' :: Text.hex 2 c.toNat
    else if c.toNat ≤ 0xFFFF then '\\' :: 'u' :: Text.hex 4 c.toNat
    else '\\' :: 'U' :: Text.hex 8 c.toNat

def Filling.ofText (precision : Option Nat) (s : List Char) : Filling :=
  ⟨false, false, [], match precision with
    | some n => s.take n
    | none => s⟩

def integerOf (letter : Char) (value : Value) : Except FormatError Int :=
  match value.asInt?, value with
  | some i, _ => .ok i
  | none, .float x =>
    if "oxX".toList.contains letter then .error (.notAnInteger letter value.operandClass)
    else
      match x, x.truncate? with
      | .nan, _ => .error .nanInteger
      | _, some i => .ok i
      | _, none => .error .infiniteInteger
  | none, value =>
    if "oxX".toList.contains letter then .error (.notAnInteger letter value.operandClass)
    else .error (.notANumber letter value.operandClass)

/-- The base in which a letter writes integers, and its mark. -/
def baseOf (letter : Char) : Nat × List Char :=
  if letter = 'o' then (8, ['0', 'o'])
  else if letter = 'x' then (16, ['0', 'x'])
  else if letter = 'X' then (16, ['0', 'X'])
  else (10, [])

/-- An integer as the filling of a place, with at least as many digits as its precision. -/
def Filling.ofInt (letter : Char) (marked : Bool) (precision : Option Nat) (i : Int) :
    Filling :=
  let (base, mark) := baseOf letter
  let digits := Binary64.padLeft (precision.getD 0) (Nat.toDigits base i.natAbs)
  ⟨true, decide (i < 0), if marked then mark else [],
    if letter = 'X' then digits.map Char.toUpper else digits⟩

def floatOf (value : Value) : Except FormatError Binary64 :=
  match value.asInt?, value with
  | some i, _ =>
    match Binary64.ofInt? i with
    | some x => .ok x
    | none => .error .intTooLarge
  | none, .float x => .ok x
  | none, value => .error (.notReal value.operandClass)

/-- The form in which a letter writes floats. -/
def decimalForm? (letter : Char) : Option Binary64.DecimalForm :=
  if letter = 'e' ∨ letter = 'E' then some .scientific
  else if letter = 'f' ∨ letter = 'F' then some .fixed
  else if letter = 'g' ∨ letter = 'G' then some .general
  else none

def standardPrecision : Nat := 6

def Filling.ofFloat (letter : Char) (form : Binary64.DecimalForm) (marked : Bool)
    (precision : Option Nat) (x : Binary64) : Filling :=
  let digits := x.decimalText form (precision.getD standardPrecision) marked
  ⟨true, x.isNegative, [], if letter.isUpper then digits.map Char.toUpper else digits⟩

/-- The character of an argument: a text of one, or its number. -/
def characterOf (value : Value) : Except FormatError Char :=
  match value.asInt?, value with
  | some i, _ =>
    if 0 ≤ i ∧ i ≤ 0x10FFFF then .ok (Char.ofNat i.toNat) else .error .noSuchCharacter
  | none, .str s =>
    match s.toList with
    | [c] => .ok c
    | _ => .error .notACharacter
  | none, _ => .error .notACharacter

def fillingOf (letter : Char) (index : Nat) (marked : Bool) (precision : Option Nat)
    (value : Value) : Except FormatError Filling :=
  if letter = 's' then .ok (.ofText precision value.inlineText.toList)
  else if letter = 'r' then .ok (.ofText precision value.display.toList)
  else if letter = 'a' then .ok (.ofText precision (escapeBeyondAscii value.display.toList))
  else if letter = 'c' then (characterOf value).map fun c => .ofText none [c]
  else if "diuoxX".toList.contains letter then
    (integerOf letter value).map (Filling.ofInt letter marked precision)
  else
    match decimalForm? letter with
    | some form => (floatOf value).map (Filling.ofFloat letter form marked precision)
    | none => .error (.unknownLetter letter index)

/-- The most characters that a text is given room for. -/
def memoryLimit : Nat := 0x1000000000

/-- The text of a place, and the arguments left.  A negative width aligns to the left, and a
negative precision counts as zero. -/
def fillPlace (place : Place) (arguments : Arguments) :
    Except FormatError (List Char × Arguments) := do
  let arguments ← arguments.select place.key
  let (width, arguments) ← arguments.count widthLimit .widthTooBig place.width
  let (precision, arguments) ← arguments.count precisionLimit .precisionTooBig place.precision
  match place.letter with
  | none => .error .incomplete
  | some (letter, index) =>
    let (value, arguments) ← arguments.next
    let filling ← fillingOf letter index (place.flags.contains '#')
      (precision.map Int.toNat) value
    let width := width.getD 0
    if width.natAbs > memoryLimit then .error .noMemory
    else return (filling.padded place.flags width.natAbs (width < 0 || place.flags.contains '-'),
      arguments)

def fillPieces : List Piece → Arguments → Except FormatError (List Char × Arguments)
  | [], arguments => .ok ([], arguments)
  | .text s :: rest, arguments => do
    let (text, arguments) ← fillPieces rest arguments
    return (s ++ text, arguments)
  | .place place :: rest, arguments => do
    let (s, arguments) ← fillPlace place arguments
    let (text, arguments) ← fillPieces rest arguments
    return (s ++ text, arguments)

/-- A message with its arguments filled in.  All of them have to be placed, unless they are
addressed by key. -/
def fill (message : String) (arguments : Value) : Except FormatError String := do
  let (text, arguments) ← fillPieces (pieces message) (.of arguments)
  if arguments.pending.isEmpty || arguments.keyed.isSome then return String.ofList text
  else .error .tooMany

end Log
end Schematic
