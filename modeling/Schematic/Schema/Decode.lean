import Schematic.Coercion
import Schematic.Json
import Schematic.Reading

/-!
Schemas from documents.  A document is given as JSON or as a value, and every problem in it
is reported, with the way to it.  Members that are not known are passed over.

A field reads its default again before anything else: a text becomes the point in time that
the field asks for, and an integer the float.  An integer beyond the range of floats stops
the whole reading.

Outside of JSON, which has a limit of its own, the parts of a definition that has too many
others around it are not looked at.  The `room` in a definition is the number of definitions
that may be around its parts, itself included.
-/

namespace Schematic
namespace Decode

def kind (medium : Medium) (value : Value) : Checked Kind :=
  match Reading.text medium value with
  | .error _ => .problem .unknownKind
  | .ok name =>
    match Kind.ofName? name with
    | some kind => .ok kind
    | none => .problem .unknownKind

/-- The room in a definition that is not inside another one. -/
def maxRoom : Nat := 254

def inside {α : Type} (medium : Medium) (room : Nat) (part : Checked α) : Checked α :=
  match medium, room with
  | .value, 0 => .problem .tooDeep
  | _, _ => part

/-- Readings of the elements of an array, each under its place. -/
def tagsFrom (medium : Medium) : Nat → List Value → List (Checked String)
  | _, [] => []
  | index, item :: rest =>
    (Reading.text medium item).under (.index index) :: tagsFrom medium (index + 1) rest

def tags (medium : Medium) (value : Value) : Checked (List String) :=
  match value.items? with
  | some items => .all (tagsFrom medium 0 items)
  | none => .problem .notArray

/-- A key as a step towards a problem. -/
def placeOf : Value → Place
  | .str s => .name s
  | .int i =>
    if -0x8000000000000000 ≤ i ∧ i < 0x8000000000000000 then .index i else .name (toString i)
  | .bool b => .index (if b then 1 else 0)
  | key => .name key.display

/-- The default of a field, read again for its kind. -/
def restore (type default : Value) : Checked Value :=
  match type, default with
  | .str "datetime", .str text =>
    match Coercion.parseDateTime text with
    | .ok d => .ok (.datetime d)
    | .error _ => .ok default
  | .str "number", .int i =>
    match Binary64.ofInt? i with
    | some x => .ok (.float x)
    | none => .error .defaultTooLarge
  | _, _ => .ok default

/-- The members of an object that is read as a schema or a field; those that hold schemas are read
already. -/
structure Members where
  type : Option Value := none
  description : Option Value := none
  fields : Option (Checked (List (String × Field))) := none
  elements : Option (Checked (Option Schema)) := none
  required : Option Value := none
  default : Option Value := none
  tags : Option Value := none

namespace Members

/-- Reads a member under its name; one that is absent has a value of its own. -/
def read {α : Type} (name : String) (absent : Checked α) (read : Value → Checked α)
    (value : Option Value) : Checked α :=
  match value with
  | none => absent
  | some value => (read value).under (.name name)

def toSchema (medium : Medium) (room : Nat) (m : Members) : Checked Schema :=
  let make : Checked (Kind → String → List (String × Field) → Option Schema → Schema) :=
    .ok Schema.mk
  (((make.ap
    (read "type" (Checked.under (.name "type") (.problem .missing))
      (fun type => inside medium room (kind medium type)) m.type)).ap
    (read "description" (.ok "") (Reading.text medium) m.description)).ap
    ((m.fields.getD (.ok [])).under (.name "fields"))).ap
    ((m.elements.getD (.ok none)).under (.name "elements"))

def toField (medium : Medium) (room : Nat) (restoring : Bool) (m : Members) : Checked Field :=
  let default :=
    if restoring then restore (m.type.getD .null) (m.default.getD .null)
    else .ok (m.default.getD .null)
  let make : Checked (Schema → Bool → Value → List String → Field) := .ok FieldOf.mk
  (((make.ap (m.toSchema medium room)).ap
    (read "required" (.ok false) (Reading.boolean medium) m.required)).ap default).ap
    (read "tags" (.ok []) (Decode.tags medium) m.tags)

/-- A further member, in front of others of which the later ones count. -/
def withValue (m : Members) (name : String) (value : Value) : Members :=
  match name with
  | "type" => { m with type := m.type <|> some value }
  | "description" => { m with description := m.description <|> some value }
  | "required" => { m with required := m.required <|> some value }
  | "default" => { m with default := m.default <|> some value }
  | "tags" => { m with tags := m.tags <|> some value }
  | _ => m

end Members

/-- Members of `fields`, read in order and put together. -/
def collect (members : List (Checked (String × Field))) : Checked (List (String × Field)) :=
  (Checked.all members).map fun members =>
    members.foldl (fun found (name, field) => Value.putMember name field found) []

/-- A member of `fields`: the key is read before the value. -/
def member (medium : Medium) (key : Value) (field : Checked Field) : Checked (String × Field) :=
  let make : Checked (String → Field → String × Field) := .ok Prod.mk
  ((make.ap ((Reading.text medium key).under (.name "[key]"))).ap field).under (placeOf key)

mutual

def schemaOf (medium : Medium) (room : Nat) : Value → Checked Schema
  | .dict entries => (membersOf medium room entries).toSchema medium room
  | .view entries => (membersOf medium room entries).toSchema medium room
  | _ => .problem (.notObject .schema)

/-- The field of a value.  A read-only view keeps its default as it is. -/
def fieldOf (medium : Medium) (room : Nat) : Value → Checked Field
  | .dict entries => (membersOf medium room entries).toField medium room true
  | .view entries => (membersOf medium room entries).toField medium room false
  | _ => .problem (.notObject .field)

def membersOf (medium : Medium) (room : Nat) : List (Value × Value) → Members
  | [] => {}
  | (key, value) :: rest =>
    let m := membersOf medium room rest
    match key with
    | .str "fields" => { m with fields := m.fields <|> some (fieldsOf medium room value) }
    | .str "elements" => { m with elements := m.elements <|> some (elementsOf medium room value) }
    | .str name => m.withValue name value
    | _ => m

def fieldsOf (medium : Medium) (room : Nat) : Value → Checked (List (String × Field))
  | .null => .ok []
  | .dict entries => collect (memberList medium room entries)
  | .view entries => collect (memberList medium room entries)
  | _ => .problem .notMapping

def memberList (medium : Medium) (room : Nat) :
    List (Value × Value) → List (Checked (String × Field))
  | [] => []
  | (key, value) :: rest =>
    member medium key (inside medium room (fieldOf medium (room - 1) value)) ::
      memberList medium room rest

def elementsOf (medium : Medium) (room : Nat) : Value → Checked (Option Schema)
  | .null => .ok none
  | .dict entries =>
    inside medium room
      (((membersOf medium (room - 1) entries).toSchema medium (room - 1)).map some)
  | .view entries =>
    inside medium room
      (((membersOf medium (room - 1) entries).toSchema medium (room - 1)).map some)
  | _ => inside medium room (.problem (.notObject .schema))

end

/-- The declared members that a JSON document gives: each of them is read, also those that a
later one of the same name replaces. -/
def fieldsOfJson : Json → Checked (List (String × Field))
  | .null => .ok []
  | .object members =>
    collect (members.map fun (name, json) =>
      member .json (.str name) (fieldOf .json maxRoom json.toValue))
  | _ => .problem .notMapping

mutual

def schemaOfJson : Json → Checked Schema
  | .object members => (membersOfJson members).toSchema .json maxRoom
  | _ => .problem (.notObject .schema)

def membersOfJson : List (String × Json) → Members
  | [] => {}
  | (name, json) :: rest =>
    let m := membersOfJson rest
    match name with
    | "fields" => { m with fields := m.fields <|> some (fieldsOfJson json) }
    | "elements" => { m with elements := m.elements <|> some (elementsOfJson json) }
    | _ => m.withValue name json.toValue

def elementsOfJson : Json → Checked (Option Schema)
  | .null => .ok none
  | .object members => ((membersOfJson members).toSchema .json maxRoom).map some
  | _ => .problem (.notObject .schema)

end

end Decode
end Schematic
