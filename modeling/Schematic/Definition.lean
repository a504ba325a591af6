import Schematic.Loading
import Schematic.Schema.Decode
import Schematic.Schema.Encode
import Schematic.Schema.Equality
import Schematic.Validation
import Schematic.Json.Printer
import Schematic.Json.Reader

/-!
Definitions: what schema documents hold.  A definition is a schema, or a field with what
holds of it as a member.  One can also be made of any text as its kind, without a check.  If
that is the name of a kind, it serves as a schema of that kind; otherwise it accepts every
value, and nothing can be loaded by it.  In both cases its kind has no name of its own, which
some failures ask for.
-/

namespace Schematic

inductive Definition where
  | schema (schema : Schema)
  | field (field : Field)
  | unchecked (kind description : String)

namespace Definition

/-- The schema of a definition, unless it is of a kind that there is not. -/
def schema? : Definition → Option Schema
  | .schema s => some s
  | .field f => some f.schema
  | .unchecked kind description =>
    (Kind.ofName? kind).map fun kind => { Schema.ofKind kind with description }

def ofText (target : Target) (text : List UInt8) : Except Refusal Definition :=
  match Json.read true text with
  | .error error => .error (.issues [⟨[], .malformedJson error.message⟩])
  | .ok json =>
    match target with
    | .schema => (Decode.schemaOfJson json).map .schema
    | .field => (Decode.fieldOf .json Decode.maxRoom json.toValue).map .field

def ofValue (target : Target) (value : Value) : Except Refusal Definition :=
  match target with
  | .schema => (Decode.schemaOf .value Decode.maxRoom value).map .schema
  | .field => (Decode.fieldOf .value Decode.maxRoom value).map .field

/-- What the document of a definition is read as. -/
def target : Definition → Target
  | .field _ => .field
  | _ => .schema

def encode : Definition → Json
  | .schema s => s.encode
  | .field f => f.encode
  | .unchecked kind description =>
    .object (("type", .str kind) ::
      Schema.optionalMember "description" (description == "") (.str description))

def toValue (d : Definition) : Value :=
  d.encode.toValue

/-- The text of a definition, on a single line unless an indentation is asked for. -/
def toText (d : Definition) (indent : Option Nat) : String :=
  d.encode.text (.schemaText indent)

/-- Why a definition has no text. -/
inductive TextFault where
  | negativeIndent
  deriving DecidableEq

def TextFault.message : TextFault → String
  | .negativeIndent => "can't convert negative int to unsigned"

/-- The text of a definition with an indentation that is any integer. -/
def indentedText (d : Definition) (indent : Int) : Except TextFault String :=
  if indent < 0 then .error .negativeIndent else .ok (d.toText (some indent.toNat))

def same : Definition → Definition → Bool
  | .field a, .field b => a.same b
  -- A schema is no field, whatever the field holds.
  | .field _, _ => false
  | _, .field _ => false
  | .unchecked a description, .unchecked b other => a == b && description == other
  | a, b =>
    match a.schema?, b.schema? with
    | some a, some b => a.same b
    | _, _ => false

def validate (d : Definition) (value : Value) : Except Failure Unit :=
  match d.schema? with
  | some s => s.validate value
  | none => .ok ()

def load (registry : Registry) (d : Definition) (value : Value) (type : TypeExpr) :
    Noted Value :=
  match d with
  | .schema s => s.load registry value type
  | .field f => f.schema.load registry value type
  | .unchecked kind _ =>
    match d.schema? with
    | none => .of (.error (.unknownKind kind))
    | some s => (s.load registry value type).mapFault fun
      | .wrongKind _ _ => .namelessKind
      | fault => fault

inductive ChangeFault where
  | cause (cause : Cause)
  /-- A default for an unchecked kind without literals, which has no name. -/
  | namelessKind

/-- The kind by which defaults of an unchecked definition are read: one without literals stands
for an object, for which there are no defaults. -/
def defaultKind (kind : String) : Kind :=
  ((Kind.ofName? kind).filter fun kind => (Coercion.ofKind? kind).isSome).getD .object

/-- A change of a field.  A schema shows of it what concerns the schema. -/
def mapField (d : Definition) (change : Field → Except Cause Field) :
    Except ChangeFault Definition :=
  match d with
  | .schema s => ((change s.toField).map fun f => .schema f.schema).mapError .cause
  | .field f => ((change f).map .field).mapError .cause
  | .unchecked kind description =>
    match change { Schema.ofKind (defaultKind kind) with description }.toField with
    | .ok f => .ok (.unchecked kind f.schema.description)
    | .error (.defaultNotSupported _) => .error .namelessKind
    | .error cause => .error (.cause cause)

def fields : Definition → List (String × Field)
  | .schema s => s.fields
  | .field f => f.schema.fields
  | .unchecked _ _ => []

end Definition
end Schematic
