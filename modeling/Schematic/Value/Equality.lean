import Schematic.Value.Display

/-!
Equality of values as their user sees it: booleans count as the numbers 0 and 1, numbers
compare by amount, points in time by instant, and dictionaries without regard to order.
It is coarser than identity, and a NaN does not equal itself.
-/

namespace Schematic
namespace Value

/-- The integer that a boolean or an integer stands for. -/
def asInt? : Value → Option Int
  | .bool b => some (if b then 1 else 0)
  | .int i => some i
  | _ => none

/-- Equality of values that hold no others. -/
def sameLeaf (a b : Value) : Bool :=
  match a, b with
  | .null, .null => true
  | .str s, .str t => s == t
  | .bytes s, .bytes t => s == t
  | .datetime s, .datetime t => s.same t
  | .foreign c s, .foreign d t => c == d && s == t
  | .float x, .float y => x.numEq y
  | .float x, b => b.asInt?.any fun i => x.eqInt i
  | a, .float y => a.asInt?.any fun i => y.eqInt i
  | a, b =>
    match a.asInt?, b.asInt? with
    | some i, some j => i == j
    | _, _ => false

mutual

def same : Value → Value → Bool
  | .list xs, .list ys => sameItems xs ys
  | .tuple xs, .tuple ys => sameItems xs ys
  | .dict xs, .dict ys => xs.length == ys.length && sameEntries xs ys
  | .dict xs, .view ys => xs.length == ys.length && sameEntries xs ys
  | .view xs, .dict ys => xs.length == ys.length && sameEntries xs ys
  | .view xs, .view ys => xs.length == ys.length && sameEntries xs ys
  | .record r xs, .record r' ys => r == r' && sameFields xs ys
  | a, b => sameLeaf a b
termination_by structural v => v

def sameItems : List Value → List Value → Bool
  | [], [] => true
  | x :: xs, y :: ys => same x y && sameItems xs ys
  | _, _ => false
termination_by structural items => items

/-- Every entry of the first list has one in the second with an equal key and value. -/
def sameEntries : List (Value × Value) → List (Value × Value) → Bool
  | [], _ => true
  | (k, x) :: xs, ys => ys.any (fun (k', y) => same k k' && same x y) && sameEntries xs ys
termination_by structural entries => entries

def sameFields : List (String × Option Value) → List (String × Option Value) → Bool
  | [], [] => true
  | (n, some x) :: xs, (m, some y) :: ys => n == m && same x y && sameFields xs ys
  | (n, none) :: xs, (m, none) :: ys => n == m && sameFields xs ys
  | _, _ => false
termination_by structural fields => fields

end

/-- An entry put into a dictionary under the equality of keys: a new key goes to the end,
and an equal one that is there keeps its place and takes the new value. -/
def putEntry (key value : Value) : List (Value × Value) → List (Value × Value)
  | [] => [(key, value)]
  | (k, old) :: rest =>
    if same k key then (k, value) :: rest else (k, old) :: putEntry key value rest

/-- A dictionary of pairs, the last value under each key kept. -/
def dictOf (pairs : List (Value × Value)) : List (Value × Value) :=
  pairs.foldl (fun entries (key, value) => putEntry key value entries) []

/-- Equality that also tells the classes of the values apart. -/
def sameTyped (a b : Value) : Bool :=
  a.className == b.className && same a b

inductive KeyFault where
  | changeable (className : String)
  | unset (u : UnsetField)
  deriving DecidableEq

def changeableClasses : List String := ["list", "dict", "set"]

/-- A declared field of a data record that is not set; a model passes over such fields. -/
def unsetOwn? (ref : RecordRef) (fields : List (String × Option Value)) : Option UnsetField :=
  match ref.kind with
  | .data => (fields.find? fun (_, value) => value.isNone).map fun (name, _) => ⟨ref.name, name⟩
  | .model => none

mutual

/-- Why a value cannot serve as a key: the first part of it that can be changed, or a frozen
record that is not complete. -/
def keyFault? : Value → Option KeyFault
  | .list _ => some (.changeable "list")
  | .dict _ => some (.changeable "dict")
  | .view _ => some (.changeable "mappingproxy")
  | .tuple items => itemsFault? items
  | .record ref fields =>
    if ref.frozen then
      ((unsetOwn? ref fields).map KeyFault.unset) <|> fieldsFault? fields
    else some (.changeable ref.name)
  | .foreign className _ =>
    if changeableClasses.contains className then some (.changeable className) else none
  | _ => none

def itemsFault? : List Value → Option KeyFault
  | [] => none
  | item :: rest => keyFault? item <|> itemsFault? rest

def fieldsFault? : List (String × Option Value) → Option KeyFault
  | [] => none
  | (_, some value) :: rest => keyFault? value <|> fieldsFault? rest
  | (_, none) :: rest => fieldsFault? rest

end

def isKey (value : Value) : Bool :=
  value.keyFault?.isNone

def areKeys (items : List Value) : Bool :=
  (itemsFault? items).isNone

end Value
end Schematic
