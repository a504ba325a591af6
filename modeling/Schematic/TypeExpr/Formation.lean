import Schematic.Reference.Syntax
import Schematic.TypeExpr.Display
import Schematic.TypeExpr.Equality

/-!
The formation of types from other types and values.  In a special form null becomes its
class and a text becomes a reference, which has to be an expression.  The members of a union
are compared with each other, so that each of them has to be able to serve as a key.
-/

namespace Schematic

inductive FormationError where
  | malformed (text : String)
  | key (fault : Value.KeyFault)
  | noMembers
  /-- Nothing between bars. -/
  | noOperands
  | noExtras
  /-- A bar between things of classes that cannot stand there. -/
  | operands (left right : String)
  deriving DecidableEq

def Value.KeyFault.message : Value.KeyFault → String
  | .changeable className => "unhashable type: " ++ Text.quoted className
  | .unset u => u.message

def operandsMessage (op left right : String) : String :=
  "unsupported operand type(s) for " ++ op ++ ": " ++ Text.quoted left ++ " and " ++
    Text.quoted right

def FormationError.message : FormationError → String
  | .malformed text => "Forward reference must be an expression -- got " ++ Text.quoted text
  | .key fault => fault.message
  | .noMembers => "Cannot take a Union of no types."
  | .noOperands => "reduce() of empty iterable with no initial value"
  | .noExtras =>
    "Annotated[...] should be used with at least two arguments (a type and an annotation)."
  | .operands left right => operandsMessage "|" left right

namespace TypeExpr

/-- An argument of a special form: null becomes its class, and a text becomes a reference. -/
def asArgument : TypeExpr → Except FormationError TypeExpr
  | .value .null => .ok (.named .null)
  | .value (.str text) =>
    if Reference.isExpression text then .ok (.reference text) else .error (.malformed text)
  | type => .ok type

def arrayOf (form : ArrayForm) (element : TypeExpr) : Except FormationError TypeExpr :=
  if form.isAlias then (element.asArgument).map (.array form) else .ok (.array form element)

def mappingOf (form : MappingForm) (key value : TypeExpr) : Except FormationError TypeExpr :=
  if form.isAlias then do
    let key ← key.asArgument
    let value ← value.asArgument
    return .mapping form [key, value]
  else .ok (.mapping form [key, value])

def genericOf (head : ClassRef) (arguments : List TypeExpr) : Except FormationError TypeExpr :=
  if head.isAlias then (arguments.mapM asArgument).map (.generic head)
  else .ok (.generic head arguments)

/-- Refuses records with fields that are not set where values are compared. -/
def refuseUnset : Option Value.KeyFault → Except FormationError Unit
  | some (.unset u) => .error (.key (.unset u))
  | _ => .ok ()

def annotate (type : TypeExpr) (extras : List Extra) : Except FormationError TypeExpr :=
  if extras.isEmpty then .error .noExtras
  else do
    refuseUnset (type.keyFault? <|> extrasFault? extras)
    let type ← type.asArgument
    return type.withExtras extras

/-- The type of the given values; equal values appear once. -/
def literalOf (values : List Value) : Except FormationError TypeExpr := do
  refuseUnset (Value.itemsFault? values)
  if Value.areKeys values then
    return .literal (values.foldl
      (fun found v => if found.any v.sameTyped then found else found ++ [v]) [])
  else return .literal values

/-- A union of distinct members; that of a single type is the type. -/
def unite (style : UnionStyle) (types : List TypeExpr) : TypeExpr :=
  match distinct (types.flatMap members) with
  | [type] => type
  | members => .union style members

/-- A union of types: unions among them are dissolved, and equal members appear once. -/
def unionOf (types : List TypeExpr) : Except FormationError TypeExpr := do
  if types.isEmpty then .error .noMembers
  else
    let types ← types.mapM asArgument
    match argumentsFault? (types.flatMap members) with
    | some fault => .error (.key fault)
    | none => return unite .applied types

/-- A class, one with arguments, or a union of them. -/
def isBarrable : TypeExpr → Bool
  | .scalar _ | .record _ | .named _ => true
  | .openArray form => !form.isAlias
  | .array form _ => !form.isAlias
  | .mapping form _ => !form.isAlias
  | .generic head _ => !head.isAlias
  | .union style _ => style = .barred
  | _ => false

def isNull : TypeExpr → Bool
  | .value .null => true
  | _ => false

def nullAsClass (type : TypeExpr) : TypeExpr :=
  if type.isNull then .named .null else type

/-- A union of two types with a bar between them. -/
def bar (a b : TypeExpr) : Except FormationError TypeExpr :=
  -- A special form brings an operator of its own; otherwise both have to be classes, or one null.
  if a.isSpecial || b.isSpecial then unionOf [a, b]
  else if (a.isBarrable && (b.isBarrable || b.isNull)) || (a.isNull && b.isBarrable) then
    .ok (unite .barred [a.nullAsClass, b.nullAsClass])
  else .error (.operands a.operandClass b.operandClass)

def barAll : List TypeExpr → Except FormationError TypeExpr
  | [] => .error .noOperands
  | type :: rest => rest.foldlM bar type

end TypeExpr
end Schematic
