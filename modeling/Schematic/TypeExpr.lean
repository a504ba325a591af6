import Schematic.Schema
import Schematic.Value.Equality

/-!
Type expressions, from which schemas are derived.  Arrays and mappings have several
spellings: the built-in classes, the abstract ones, and an alias of each.  Any value can
stand in the place of a type.  The constructors are for expressions in normal form; the
functions that bring expressions into it say where there is none.
-/

namespace Schematic

/-- The types whose values are single scalars. -/
inductive Scalar where
  | bool
  | str
  | int
  | float
  | datetime
  deriving DecidableEq

def Scalar.kind : Scalar → Kind
  | .bool => .boolean
  | .str => .string
  | .int => .integer
  | .float => .number
  | .datetime => .datetime

/-- The value of a scalar type that stands for nothing. -/
def Scalar.zero : Scalar → Value
  | .bool => .bool false
  | .str => .str ""
  | .int => .int 0
  | .float => .float (.zeroOf false)
  | .datetime => .datetime .zero

inductive ArrayForm where
  | list
  | sequence
  | listAlias
  | sequenceAlias
  deriving DecidableEq

inductive MappingForm where
  | dict
  | mapping
  | dictAlias
  | mappingAlias
  deriving DecidableEq

/-- A class that is neither a scalar, an array, a mapping nor a record. -/
structure ClassRef where
  module : String
  name : String
  deriving DecidableEq

/-- The ways to write a union: applied to its members, or with bars between them. -/
inductive UnionStyle where
  | applied
  | barred
  deriving DecidableEq

/-- What an annotation adds to a type: the text of a tag, or any value. -/
inductive Extra where
  | tag (text : String)
  | value (v : Value)

inductive TypeExpr where
  | scalar (scalar : Scalar)
  | openArray (form : ArrayForm)
  | array (form : ArrayForm) (element : TypeExpr)
  | mapping (form : MappingForm) (arguments : List TypeExpr)
  | record (ref : RecordRef)
  | named (ref : ClassRef)
  /-- A class that has no schema, applied to arguments. -/
  | generic (head : ClassRef) (arguments : List TypeExpr)
  | union (style : UnionStyle) (members : List TypeExpr)
  | literal (values : List Value)
  | annotated (base : TypeExpr) (extras : List Extra)
  /-- A value in the place of a type. -/
  | value (v : Value)
  /-- A text that stands for the type that it denotes. -/
  | reference (text : String)
  /-- What stands in the place of further arguments. -/
  | ellipsis
  deriving Inhabited

namespace ClassRef

/-- The module of the classes that need no module to be named. -/
def standard : String := "builtins"

/-- The module of the aliases and special forms. -/
def special : String := "typing"

def null : ClassRef := ⟨standard, "NoneType"⟩

def any : ClassRef := ⟨special, "Any"⟩

def kind : ClassRef := ⟨"jsonspec.spec", "Type"⟩

/-- The module of the abstract classes of containers. -/
def abstract : String := "collections.abc"

/-- The alias of a class. -/
def isAlias (ref : ClassRef) : Bool :=
  ref.module == special

/-- The class that an alias is one of. -/
def aliased (ref : ClassRef) : ClassRef :=
  if ref = ⟨special, "Set"⟩ then ⟨standard, "set"⟩ else ref

end ClassRef

def ArrayForm.isAlias : ArrayForm → Bool
  | .listAlias | .sequenceAlias => true
  | _ => false

def MappingForm.isAlias : MappingForm → Bool
  | .dictAlias | .mappingAlias => true
  | _ => false

def ArrayForm.aliased : ArrayForm → ArrayForm
  | .list | .listAlias => .list
  | .sequence | .sequenceAlias => .sequence

def MappingForm.aliased : MappingForm → MappingForm
  | .dict | .dictAlias => .dict
  | .mapping | .mappingAlias => .mapping

namespace TypeExpr

/-- The type without its extras, at whatever depth they were added. -/
def base : TypeExpr → TypeExpr
  | .annotated base _ => base.base
  | type => type

def extras : TypeExpr → List Extra
  | .annotated _ extras => extras
  | _ => []

/-- A type with extras; those of an annotated type come first. -/
def withExtras (type : TypeExpr) (extras : List Extra) : TypeExpr :=
  match type with
  | .annotated base inner => .annotated base (inner ++ extras)
  | base => .annotated base extras

/-- A type made by one of the aliases and special forms, and not by a class. -/
def isSpecial : TypeExpr → Bool
  | .openArray form => form.isAlias
  | .array form _ => form.isAlias
  | .mapping form _ => form.isAlias
  | .generic head _ => head.isAlias
  | .union style _ => style = .applied
  | .literal _ => true
  | .annotated _ _ => true
  | .reference _ => true
  | _ => false

def isNullClass : TypeExpr → Bool
  | .named ref => ref = .null
  | _ => false

/-- The members of a union, or the type alone. -/
def members : TypeExpr → List TypeExpr
  | .union _ members => members
  | type => [type]

/-- The texts of the tags among extras, joined by spaces. -/
def tagText (extras : List Extra) : String :=
  " ".intercalate (extras.filterMap fun
    | .tag s => some s
    | .value _ => none)

end TypeExpr
end Schematic
