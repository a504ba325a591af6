import Schematic.Definition

/-!
Attempts to change a definition, and copies of it.  Definitions are shared, so no change
succeeds: the attributes of a definition are frozen, and its fields are read-only.
-/

namespace Schematic

/-- A way to change the fields of a definition. -/
inductive FieldChange where
  | set
  | delete
  | merge
  | call (operation : String)

inductive FieldChange.Refusal where
  | readOnly
  /-- An open definition has no fields, and null cannot be changed in this way. -/
  | noFields (change : FieldChange)

namespace FieldChange

def attempt (d : Definition) (change : FieldChange) : Refusal :=
  if d.fields.isEmpty then .noFields change else .readOnly

def Refusal.message : Refusal → String
  | .readOnly => "FieldMap is read-only"
  | .noFields .set => "'NoneType' object does not support item assignment"
  | .noFields .delete => "'NoneType' object doesn't support item deletion"
  | .noFields .merge => "unsupported operand type(s) for |=: 'NoneType' and 'dict'"
  | .noFields (.call operation) =>
    "'NoneType' object has no attribute " ++ Text.quoted operation

end FieldChange

/-- Why an attribute of a definition cannot be set. -/
inductive AttributeRefusal where
  | frozen (issue : Issue)
  /-- An attribute that is worked out and not stored. -/
  | computed (name : String) (target : Target)
  /-- The references to a definition, which only the memory manager keeps. -/
  | managed
  /-- The attributes as a whole, given as something else than a dictionary. -/
  | notDictionary (className : String)
  /-- The class, given as something else than a class. -/
  | notClass (className : String)

/-- What is said of a refused attribute; a frozen one is reported as a problem instead. -/
def AttributeRefusal.message : AttributeRefusal → String
  | .frozen _ => Problem.frozen.message .value
  | .computed name target =>
    "property " ++ Text.quoted name ++ " of " ++ Text.quoted target.name ++ " object has no setter"
  | .managed => "attribute '__weakref__' of 'Spec' objects is not writable"
  | .notDictionary className =>
    "__dict__ must be set to a dictionary, not a " ++ Text.quoted className
  | .notClass className =>
    "__class__ must be set to a class, not " ++ Text.quoted className ++ " object"

/-- The attributes that are worked out: the members there are, and those that were given. -/
def Definition.computedAttributes : List String := ["__fields__", "__fields_set__"]

def Definition.setAttribute (d : Definition) (name : String) (value : Value) :
    Except AttributeRefusal Unit :=
  -- Names that start with an underscore are no members and can be set, except for those with a
  -- meaning of their own.
  if name.toList.head? ≠ some '_' then .error (.frozen ⟨[.name name], .frozen⟩)
  else if computedAttributes.contains name then .error (.computed name d.target)
  else if name = "__weakref__" then .error .managed
  else if name = "__class__" then .error (.notClass value.operandClass)
  else if name = "__dict__" then
    match value with
    | .dict _ => .ok ()
    | value => .error (.notDictionary value.operandClass)
  else .ok ()

/-- Ways to copy a definition: the copy shares its defaults with the source, or is rebuilt
from what the source is stored as. -/
inductive CopyMethod where
  | shared
  | rebuilt

/-- Whether a copy equals its source. -/
def Definition.equalsCopy (d : Definition) : CopyMethod → Bool
  | .shared => true
  -- A rebuilt default is compared by value, and no number differs from itself.
  | .rebuilt => d.same d

def Definition.fieldsClass (d : Definition) : String :=
  if d.fields.isEmpty then Value.null.className else "FieldMap"

end Schematic
