import Schematic.Text.Lowercase

/-!
Member names.  The field `UserID` of a record appears in documents as the member
`user_id`: a name is cut into capitalised words and the stretches between them, and the
lowercased pieces are joined by underscores.
-/

namespace Schematic
namespace MemberName

def isCapital (c : Char) : Bool :=
  'A' ≤ c && c ≤ 'Z'

def isSmall (c : Char) : Bool :=
  'a' ≤ c && c ≤ 'z'

/-- A capitalised word starts here: a capital letter before a small one. -/
def startsWord : List Char → Bool
  | c :: d :: _ => isCapital c && isSmall d
  | _ => false

/-- The stretch at the front of a name up to the next cut, and the pieces after it. -/
def cut (inWord : Bool) : List Char → List Char × List (List Char)
  | [] => ([], [])
  | c :: rest =>
    if startsWord (c :: rest) then
      let (piece, pieces) := cut true rest
      ([], (c :: piece) :: pieces)
    -- A capitalised word ends before whatever is no small letter.
    else if inWord && !isSmall c then
      let (piece, pieces) := cut false rest
      ([], (c :: piece) :: pieces)
    else
      let (piece, pieces) := cut inWord rest
      (c :: piece, pieces)

/-- The pieces of a name, none of them empty. -/
def pieces (name : List Char) : List (List Char) :=
  match cut false name with
  | ([], pieces) => pieces
  | (piece, pieces) => piece :: pieces

def ofChars (name : List Char) : List Char :=
  ['_'].intercalate ((pieces name).map Text.lower)

end MemberName

/-- The member under which a field of a record appears. -/
def memberName (field : String) : String :=
  String.ofList (MemberName.ofChars field.toList)

end Schematic
