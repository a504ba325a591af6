import Schematic.Coercion
import Schematic.Text.Literal

/-!
Tags: texts that describe a field, as in `required:"true" tags:"a,b"`.  A tag is a sequence
of pairs separated by white space, each a key and a quoted literal, and the pairs are
applied from left to right.  The first fault of a tag is the one reported.
-/

namespace Schematic
namespace Tag

/-- A key and the body of its literal, the characters between the quotes. -/
structure Pair where
  key : List Char
  body : List Char
  deriving DecidableEq

/-- The literal of a pair with its quotes. -/
def Pair.quoted (pair : Pair) : String :=
  String.ofList ('"' :: pair.body ++ ['"'])

def isKeyChar (c : Char) : Bool :=
  'a' ≤ c && c ≤ 'z'

/-- The text ends here or goes on with white space. -/
def endsPair : List Char → Bool
  | [] => true
  | c :: _ => Text.isBlank c

/-- The pair at the front of a text, and what follows it. -/
def takePair? (s : List Char) : Option (Pair × List Char) :=
  match s.takeWhile isKeyChar, s.dropWhile isKeyChar with
  | k :: key, ':' :: '"' :: more =>
    match more.takeWhile (· != '"'), more.dropWhile (· != '"') with
    | b :: body, _ :: rest =>
      if endsPair rest then some (⟨k :: key, b :: body⟩, rest) else none
    | _, _ => none
  | _, _ => none

theorem takePair?_length {s rest : List Char} {pair : Pair}
    (h : takePair? s = some (pair, rest)) : rest.length < s.length := by
  unfold takePair? at h
  split at h
  next k key more hkey hmore =>
    split at h
    next b body c rest' hbody hrest =>
      split at h
      next =>
        obtain ⟨-, rfl⟩ := Prod.mk.inj (Option.some.inj h)
        have h₁ := congrArg List.length (s.takeWhile_append_dropWhile (p := isKeyChar))
        have h₂ := congrArg List.length (more.takeWhile_append_dropWhile (p := (· != '"')))
        rw [hkey, hmore] at h₁
        rw [hbody, hrest] at h₂
        simp only [List.length_append, List.length_cons] at h₁ h₂
        omega
      next => cases h
    next => cases h
  next => cases h

theorem stripStart_length_le (s : List Char) : (Text.stripStart s).length ≤ s.length :=
  (List.dropWhile_suffix _).length_le

/-- The pairs that a text starts with, and whether they are all of it. -/
def pairs (s : List Char) : List Pair × Bool :=
  match _h : takePair? (Text.stripStart s) with
  | none => ([], (Text.stripStart s).isEmpty)
  | some (pair, rest) =>
    let (more, complete) := pairs rest
    (pair :: more, complete)
termination_by s.length
decreasing_by exact Nat.lt_of_lt_of_le (takePair?_length _h) (stripStart_length_le s)

def splitCommas : List Char → List (List Char)
  | [] => [[]]
  | c :: rest =>
    if c = ',' then [] :: splitCommas rest
    else
      match splitCommas rest with
      | [] => [[c]]
      | piece :: pieces => (c :: piece) :: pieces

/-- The default that a value gives a field of a kind: a text is taken as it is by texts, and
as a literal by the kinds that have literals. -/
def defaultOf (kind : Kind) (value : Value) : Except Cause Value :=
  if kind = .string then .ok value
  else
    match Coercion.ofKind? kind with
    | some rule => rule.coerce value
    | none => .error (.defaultNotSupported kind)

def apply (field : Field) (key value : String) : Except Cause Field :=
  if key = "description" then
    .ok { field with schema := { field.schema with description := value } }
  else if key = "required" then
    match Coercion.parseBool value with
    | .ok required => .ok { field with required }
    | .error _ => .error (.notBoolean value)
  else if key = "tags" then
    .ok { field with tags := (splitCommas value.toList).map String.ofList }
  else if key = "default" then
    (defaultOf field.schema.kind (.str value)).map fun default => { field with default }
  else .error (.unknownTagKey key)

def applyPair [Text.Repertoire] (field : Field) (pair : Pair) : Except Cause Field :=
  match Text.Literal.read pair.body with
  | .error fault => .error (.malformedTagValue pair.quoted (fault = .nul))
  | .ok value => apply field (String.ofList pair.key) (String.ofList value)

/-- A field after a whole tag. -/
def parse [Text.Repertoire] (field : Field) (text : String) : Except Cause Field := do
  let (pairs, complete) := pairs text.toList
  let field ← pairs.foldlM applyPair field
  if complete then .ok field else .error (.malformedTag text)

end Tag
end Schematic
