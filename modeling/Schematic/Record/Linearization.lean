import Schematic.Value

/-!
Linearization of ancestors.  The ancestors of a record are put into one order that keeps the
order of each base's own ancestors and the order of the bases themselves.  The classes that
all records descend from come last.
-/

namespace Schematic

/-- The class that everything descends from. -/
def RecordRef.root : RecordRef := ⟨0, .data, "builtins", "object", false⟩

/-- The class that all models descend from. -/
def RecordRef.modelRoot : RecordRef := ⟨0, .model, "pydantic", "BaseModel", false⟩

/-- What a record of a kind descends from that declares no bases. -/
def RecordKind.roots : RecordKind → List RecordRef
  | .data => [.root]
  | .model => [.modelRoot, .root]

/-- The next record of a merge: the first head that no other list holds further back. -/
def nextOfMerge (lists : List (List RecordRef)) : Option RecordRef :=
  lists.findSome? fun
    | [] => none
    | ref :: _ => if lists.any fun list => list.tail.contains ref then none else some ref

def headsOf (lists : List (List RecordRef)) : List RecordRef :=
  (lists.filterMap List.head?).foldl
    (fun found ref => if found.contains ref then found else found ++ [ref]) []

/-- The merge of lists of records, in at most `count` steps.  Where the orders contradict each
other, the records are given between which they do. -/
def mergeOrders : Nat → List (List RecordRef) → Except (List RecordRef) (List RecordRef)
  | 0, _ => .ok []
  | count + 1, lists =>
    match nextOfMerge lists with
    | none => if (headsOf lists).isEmpty then .ok [] else .error (headsOf lists)
    | some ref =>
      (mergeOrders count (lists.map fun list =>
        if list.head? = some ref then list.tail else list)).map (ref :: ·)

/-- The ancestors of a record whose bases have the given linearizations. -/
def linearize (orders : List (List RecordRef)) (bases : List RecordRef) :
    Except (List RecordRef) (List RecordRef) :=
  let lists := orders ++ [bases]
  mergeOrders (lists.flatten.length + 1) lists

end Schematic
