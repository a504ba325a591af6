import Schematic.Derivation
import Schematic.Event
import Schematic.Record.Instance

/-!
Loading of values into types.  The schema of the type guides the way through the value: a
member that is absent or null takes the default of its field, and a field of a record for
which nothing is loaded keeps its declared default, or takes the zero value of its type.

Loading trusts that the value was validated.  Where it was not, a value of the wrong kind is
reported as a broken precondition.
-/

namespace Schematic

inductive LoadFault where
  | wrongKind (className : String) (kind : Kind)
  /-- An object for a type that is neither a record nor a mapping. -/
  | notObject (type : String)
  | unknownKind (kind : String)
  /-- A value that is not of the kind that is asked for, which has no name of its own. -/
  | namelessKind
  /-- An integer beyond the range of floats. -/
  | intTooLarge
  | infiniteInteger
  | notANumberInteger
  /-- A type that is not looked at to the end, or a record whose fields cannot be listed. -/
  | typeFault (fault : TypeFault)
  | instanceFault (fault : Registry.InstanceFault)
  /-- A record whose zero value would contain itself. -/
  | endlessZero (record : String)
  deriving DecidableEq

namespace LoadFault

/-- The report of a fault that is a broken precondition. -/
def report? : LoadFault → Option Report
  | .wrongKind className kind =>
    some (.contractViolation ("cannot load " ++ className ++ " as " ++ kind.name) "loader"
      [("type", .str kind.name)])
  | .notObject type =>
    some (.contractViolation ("cannot load an object into " ++ type) "loader" [])
  | .unknownKind kind =>
    some (.contractViolation ("unknown spec type " ++ Text.quoted kind) "loader" [])
  | _ => none

/-- What is said where a text stands for a kind and the name of the kind is needed. -/
def namelessMessage : String := "'str' object has no attribute 'value'"

def message (fault : LoadFault) : String :=
  match fault.report?, fault with
  | some report, _ => report.text
  | none, .namelessKind => namelessMessage
  | none, .intTooLarge => "int too large to convert to float"
  | none, .infiniteInteger => "cannot convert float infinity to integer"
  | none, .notANumberInteger => "cannot convert float NaN to integer"
  | none, .typeFault fault => fault.message
  | none, .instanceFault fault => fault.message
  | none, _ => "maximum recursion depth exceeded"

end LoadFault

/-- A result, and the events noted on the way to it. -/
structure Noted (α : Type) where
  events : List Event
  result : Except LoadFault α

namespace Noted

def of {α : Type} (result : Except LoadFault α) : Noted α :=
  ⟨[], result⟩

def andThen {α β : Type} (x : Noted α) (f : α → Noted β) : Noted β :=
  match x.result with
  | .error fault => ⟨x.events, .error fault⟩
  | .ok a => ⟨x.events ++ (f a).events, (f a).result⟩

instance : Monad Noted where
  pure a := ⟨[], .ok a⟩
  bind := andThen

def mapFault {α : Type} (x : Noted α) (f : LoadFault → LoadFault) : Noted α :=
  { x with result := x.result.mapError f }

/-- The result of a step for every element of a list, in order. -/
def forEach {α β : Type} (f : α → Noted β) : List α → Noted (List β)
  | [] => pure []
  | a :: rest => do
    let b ← f a
    let bs ← forEach f rest
    return b :: bs

end Noted

/-! ### Zero values and records -/

namespace Loading

/-- The zero value of a type, given those of records; null for types without one. -/
def zeroOf (onRecord : RecordRef → Except LoadFault Value) : TypeExpr → Except LoadFault Value
  | .scalar s => .ok s.zero
  | .openArray _ => .ok (.list [])
  | .array _ _ => .ok (.list [])
  | .mapping _ _ => .ok (.dict [])
  | .record ref => onRecord ref
  | .annotated base _ => zeroOf onRecord base
  | _ => .ok .null

/-- Values for the fields of a record, completed by zero values. -/
def complete (zero : TypeExpr → Except LoadFault Value) :
    List RecordField → List (String × Value) → Except LoadFault (List (String × Value))
  | [], values => .ok values
  | field :: rest, values =>
    -- A declared default is left to the record itself, which copies it where it has to.
    if values.any (·.1 == field.name) || field.default.isSome then complete zero rest values
    else do
      let value ← zero field.hint
      complete zero rest (values ++ [(field.name, value)])

def instantiate (registry : Registry) (c : RecordClass) (values : List (String × Value)) :
    Except LoadFault Value :=
  (registry.instantiate c values).mapError .instanceFault

def fieldsOf (registry : Registry) (c : RecordClass) : Except LoadFault (List RecordField) :=
  (registry.fields c).mapError fun e => .typeFault (.reference e)

/-- The zero value of a record: each field holds its declared default, or else the zero value
of its type. -/
def zeroRecord (registry : Registry) (seen : List RecordRef) (ref : RecordRef) :
    Except LoadFault Value :=
  if _hseen : ref ∈ seen then .error (.endlessZero ref.name)
  else
    match _hfind : registry.find? ref with
    | none => .ok .null
    | some c => do
      let fields ← fieldsOf registry c
      let values ←
        complete (zeroOf fun inner => zeroRecord registry (ref :: seen) inner) fields []
      instantiate registry c values
termination_by registry.unseen seen
decreasing_by exact Registry.unseen_cons_lt _hseen _hfind

end Loading

/-- The value that a type holds when nothing was loaded into it. -/
def Registry.zeroValue (registry : Registry) (type : TypeExpr) : Except LoadFault Value :=
  Loading.zeroOf (Loading.zeroRecord registry []) type

/-- A record with values for some of its fields. -/
def Registry.build (registry : Registry) (c : RecordClass) (values : List (String × Value)) :
    Except LoadFault Value := do
  let fields ← Loading.fieldsOf registry c
  let values ← Loading.complete registry.zeroValue fields values
  Loading.instantiate registry c values

/-! ### Loading -/

namespace Loading

def boolean : Value → Except LoadFault Value
  | .bool b => .ok (.bool b)
  | value => .error (.wrongKind value.className .boolean)

def text : Value → Except LoadFault Value
  | .str s => .ok (.str s)
  | value => .error (.wrongKind value.className .string)

/-- An integer; a float loses its fraction. -/
def integer : Value → Except LoadFault Value
  | .int i => .ok (.int i)
  | .float .nan => .error .notANumberInteger
  | .float x =>
    match x.truncate? with
    | some i => .ok (.int i)
    | none => .error .infiniteInteger
  | value => .error (.wrongKind value.className .integer)

/-- A float; an integer becomes the nearest one. -/
def number : Value → Except LoadFault Value
  | .int i =>
    match Binary64.ofInt? i with
    | some x => .ok (.float x)
    | none => .error .intTooLarge
  | .float x => .ok (.float x)
  | value => .error (.wrongKind value.className .number)

/-- A point in time. -/
def dateTime : Value → Noted Value
  | .datetime d => pure (.datetime d)
  | .str text =>
    match Coercion.parseDateTime text with
    | .ok d => pure (.datetime d)
    -- A text that is no point in time does not stop the load.
    | .error _ => ⟨[.dateTimeFallback text], .ok (.datetime .zero)⟩
  | value => .of (.error (.wrongKind value.className .datetime))

/-- The entries of an object; null counts as an empty one. -/
def entriesOf (value : Value) : Except LoadFault (List (Value × Value)) :=
  if value.isNull then .ok []
  else
    match value.entries? with
    | some entries => .ok entries
    | none => .error (.wrongKind value.className .object)

/-- The elements of an array; null counts as an empty one. -/
def itemsOf (value : Value) : Except LoadFault (List Value) :=
  if value.isNull then .ok []
  else
    match value.items? with
    | some items => .ok items
    | none => .error (.wrongKind value.className .array)

/-- The type of the elements of an array type: the first argument of a type, or any type. -/
def elementType : TypeExpr → TypeExpr
  | .array _ element => element
  | .mapping _ (key :: _) => key
  | .generic _ (first :: _) => first
  | .union _ (first :: _) => first
  | .literal (v :: _) => .value v
  | _ => .named .any

/-- A way to load the values of a declared member. -/
structure Member where
  default : Value
  load : Value → TypeExpr → Noted Value

def Member.find? (name : String) (members : List (String × Member)) : Option Member :=
  (members.find? fun (key, _) => key == name).map Prod.snd

/-- The value of a member: the default takes the place of one that is absent or null. -/
def Member.valueIn (member : Member) (name : String) (entries : List (Value × Value)) : Value :=
  let value := Value.lookup name entries
  if value.isNull then member.default else value

/-- The values loaded for the fields of a record, in their order. -/
def memberValues (members : List (String × Member)) (entries : List (Value × Value)) :
    List RecordField → Noted (List (String × Value))
  | [] => pure []
  | field :: rest =>
    let name := memberName field.name
    match Member.find? name members with
    | none => memberValues members entries rest
    | some member =>
      let value := member.valueIn name entries
      -- A member that is null and has no default leaves the field to the default of the record.
      if value.isNull then memberValues members entries rest
      else do
        let loaded ← member.load value field.hint
        let values ← memberValues members entries rest
        return (field.name, loaded) :: values

def refuseObject (type : TypeExpr) : LoadFault :=
  match type.unset? with
  | some u => .typeFault (.unset u)
  | none => .notObject type.display

/-- An object loaded into a type, given the ways to load its declared members. -/
def object (registry : Registry) (members : List (String × Member)) (value : Value)
    (type : TypeExpr) : Noted Value := do
  let entries ← Noted.of (entriesOf value)
  match type with
  | .mapping _ _ => return .dict entries
  | .record ref =>
    match registry.find? ref with
    | none => .of (.error (refuseObject type))
    | some c =>
      let fields ← Noted.of (fieldsOf registry c)
      let values ← memberValues members entries fields
      .of (registry.build c values)
  | _ => .of (.error (refuseObject type))

end Loading

namespace Schema
open Loading

mutual

/-- Loads a value into a type, along a schema. -/
def load (registry : Registry) : Schema → Value → TypeExpr → Noted Value
  | ⟨kind, _, fields, elements⟩, value, type =>
    match kind with
    | .boolean => .of (boolean value)
    | .string => .of (text value)
    | .integer => .of (integer value)
    | .number => .of (number value)
    | .datetime => dateTime value
    | .object => Loading.object registry (loadMembers registry fields) value type.base
    | .array => do
      let items ← Noted.of (itemsOf value)
      loadElements registry elements items (elementType type.base)
termination_by structural schema => schema

def loadMembers (registry : Registry) : List (String × Field) → List (String × Member)
  | [] => []
  | (name, field) :: rest => (name, loadMember registry field) :: loadMembers registry rest
termination_by structural fields => fields

def loadMember (registry : Registry) : Field → Member
  | ⟨schema, _, default, _⟩ => ⟨default, fun value type => load registry schema value type⟩
termination_by structural field => field

/-- Loads the elements of an array, all into the same type. -/
def loadElements (registry : Registry) : Option Schema → List Value → TypeExpr → Noted Value
  | none, items, _ => pure (.list items)
  | some schema, items, type => do
    let loaded ← Noted.forEach (fun item => load registry schema item type) items
    return .list loaded
termination_by structural elements => elements

end

end Schema
end Schematic
