import Schematic.Value
import Schematic.Value.Display
import Schematic.Text.Utf8

/-!
JSON documents.  An object holds its members in the order of the text, repeated names
included; as a value it is a dictionary in which the last member of a name counts.
-/

namespace Schematic

inductive Json where
  | null
  | bool (b : Bool)
  | int (i : Int)
  | float (x : Binary64)
  | str (s : String)
  | array (items : List Json)
  | object (members : List (String × Json))
  deriving Inhabited

namespace Json

/-- The last member of a name. -/
def member? (name : String) (members : List (String × Json)) : Option Json :=
  (members.reverse.find? fun (key, _) => key == name).map Prod.snd

mutual

def toValue : Json → Value
  | .null => .null
  | .bool b => .bool b
  | .int i => .int i
  | .float x => .float x
  | .str s => .str s
  | .array items => .list (itemValues items)
  | .object members => .object (memberValues [] members)

def itemValues : List Json → List Value
  | [] => []
  | item :: rest => toValue item :: itemValues rest

/-- The members of an object put one after the other into those already there. -/
def memberValues (found : List (String × Value)) : List (String × Json) → List (String × Value)
  | [] => found
  | (name, json) :: rest => memberValues (Value.putMember name (toValue json) found) rest

end

/-- The text under which a key that is no text appears in a document. -/
def keyText : Value → String
  | .str s => s
  | .null => "null"
  | .bool b => if b then "true" else "false"
  | key => key.inlineText

mutual

/-- The document that shows a value; floats are shown by `number` and points in time by
`point`. -/
def ofValue (number : Binary64 → Json) (point : DateTime → String) : Value → Json
  | .null => .null
  | .bool b => .bool b
  | .int i => .int i
  | .float x => number x
  | .str s => .str s
  | .bytes b => .str ((Text.Utf8.decode b).toOption.getD "")
  | .datetime d => .str (point d)
  | .list items => .array (ofItems number point items)
  | .tuple items => .array (ofItems number point items)
  | .dict entries => .object (ofEntries number point entries)
  | .view entries => .object (ofEntries number point entries)
  | .record _ fields => .object (ofFields number point fields)
  | .foreign _ shown => .str shown

def ofItems (number : Binary64 → Json) (point : DateTime → String) : List Value → List Json
  | [] => []
  | item :: rest => ofValue number point item :: ofItems number point rest

def ofEntries (number : Binary64 → Json) (point : DateTime → String) :
    List (Value × Value) → List (String × Json)
  | [] => []
  | (key, value) :: rest =>
    (keyText key, ofValue number point value) :: ofEntries number point rest

def ofFields (number : Binary64 → Json) (point : DateTime → String) :
    List (String × Option Value) → List (String × Json)
  | [] => []
  | (name, some value) :: rest =>
    (name, ofValue number point value) :: ofFields number point rest
  | (_, none) :: rest => ofFields number point rest

end

end Json
end Schematic
