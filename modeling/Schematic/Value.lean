import Schematic.Number.Binary64
import Schematic.Time.DateTime

/-!
The values that schemas describe and loading produces.  Decoded documents use null,
booleans, numbers, texts, lists and dictionaries; the other forms enter as defaults, as
native input and as loaded records.
-/

namespace Schematic

inductive RecordKind where
  | data
  | model
  deriving DecidableEq, Inhabited

/-- A class of records: its place in the order of definition, and the names it is shown
by. -/
structure RecordRef where
  index : Nat
  kind : RecordKind
  module : String
  name : String
  /-- Its instances cannot be changed, so that they may serve as keys. -/
  frozen : Bool
  deriving DecidableEq, Inhabited

/-- A value.  Entries of dictionaries and views keep their order and have distinct keys. -/
inductive Value where
  | null
  | bool (b : Bool)
  | int (i : Int)
  | float (x : Binary64)
  | str (s : String)
  | bytes (b : List UInt8)
  | datetime (d : DateTime)
  | list (items : List Value)
  | tuple (items : List Value)
  | dict (entries : List (Value × Value))
  | view (entries : List (Value × Value))
  /-- A record; a field without a value is declared but not set. -/
  | record (ref : RecordRef) (fields : List (String × Option Value))
  /-- Any other object: the name of its class, and how it is shown. -/
  | foreign (className shown : String)
  deriving Inhabited

namespace Value

def object (members : List (String × Value)) : Value :=
  .dict (members.map fun (name, value) => (.str name, value))

/-- The null test: an absent value and a null are treated alike in most places. -/
def isNull : Value → Bool
  | .null => true
  | _ => false

theorem isNull_iff {value : Value} : value.isNull = true ↔ value = .null := by
  cases value <;> simp [isNull]

theorem isNull_eq_false {value : Value} (h : value ≠ .null) : value.isNull = false := by
  rw [← Bool.not_eq_true, isNull_iff]
  exact h

def entries? : Value → Option (List (Value × Value))
  | .dict entries => some entries
  | .view entries => some entries
  | _ => none

def items? : Value → Option (List Value)
  | .list items => some items
  | .tuple items => some items
  | _ => none

/-- The value under a text key, null if there is none. -/
def lookup (name : String) : List (Value × Value) → Value
  | [] => .null
  | (.str key, value) :: rest => if key = name then value else lookup name rest
  | _ :: rest => lookup name rest

/-- A name put into an ordered list of members: a new one goes to the end, one that is
there keeps its place and takes the new value. -/
def putMember {α : Type} (name : String) (value : α) : List (String × α) → List (String × α)
  | [] => [(name, value)]
  | (key, old) :: rest =>
    if key = name then (key, value) :: rest else (key, old) :: putMember name value rest

def setFields (fields : List (String × Option Value)) : List (String × Value) :=
  fields.filterMap fun (name, value) => value.map fun value => (name, value)

/-- The elements of a value that can be gone through in order: of a text its characters, of a
dictionary its keys, and of a model its fields with their names. -/
def elements? : Value → Option (List Value)
  | .list items => some items
  | .tuple items => some items
  | .str s => some (s.toList.map fun c => .str (String.singleton c))
  | .bytes b => some (b.map fun x => .int x.toNat)
  | .dict entries => some (entries.map Prod.fst)
  | .view entries => some (entries.map Prod.fst)
  | .record ref fields =>
    match ref.kind with
    | .data => none
    | .model => some ((setFields fields).map fun (name, value) => .tuple [.str name, value])
  | _ => none

def className : Value → String
  | .null => "NoneType"
  | .bool _ => "bool"
  | .int _ => "int"
  | .float _ => "float"
  | .str _ => "str"
  | .bytes _ => "bytes"
  | .datetime _ => "datetime"
  | .list _ => "list"
  | .tuple _ => "tuple"
  | .dict _ => "dict"
  | .view _ => "mappingproxy"
  | .record ref _ => ref.name
  | .foreign className _ => className

/-- The name of the class of a value where an operation is refused: points in time are named
together with their module. -/
def operandClass : Value → String
  | .datetime _ => "datetime.datetime"
  | value => value.className

/-- A value that counts as given: it is neither null nor false, zero or empty. -/
def isTruthy : Value → Bool
  | .null => false
  | .bool b => b
  | .int i => i != 0
  | .float x => !x.numEq (.zeroOf false)
  | .str s => s != ""
  | .bytes b => !b.isEmpty
  | .list items => !items.isEmpty
  | .tuple items => !items.isEmpty
  | .dict entries => !entries.isEmpty
  | .view entries => !entries.isEmpty
  | .datetime _ | .record _ _ | .foreign _ _ => true

/-- A value added to itself: a number, or a text or a sequence. -/
def twice? : Value → Option Value
  | .bool b => some (.int (if b then 2 else 0))
  | .int i => some (.int (2 * i))
  | .float x => some (.float x.twice)
  | .str s => some (.str (s ++ s))
  | .bytes b => some (.bytes (b ++ b))
  | .list xs => some (.list (xs ++ xs))
  | .tuple xs => some (.tuple (xs ++ xs))
  | _ => none

end Value
end Schematic
