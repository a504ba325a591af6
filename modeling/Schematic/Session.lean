import Schematic.Decoding
import Schematic.Definition
import Schematic.Record.Definition
import Schematic.SchemaCache

/-!
Sessions: the records that are defined, the schemas that are kept for their types, and the
steps from a type and a value or a text to what is loaded.  Each step notes its events.
-/

namespace Schematic

structure Session where
  registry : Registry
  cache : SchemaCache

namespace Session

def start : Session :=
  ⟨.initial, .empty SchemaCache.defaultCapacity⟩

def define (s : Session) (decls : List RecordDecl) : Except Registry.DefinitionFault Session :=
  (s.registry.defineAll decls).map fun registry => { s with registry }

/-- The schema of a type, from the cache if it is there. -/
def schemaFor [Text.Repertoire] (s : Session) (type : TypeExpr) :
    Except Underivable Schema × List Event × Session :=
  let answer := s.cache.get s.registry.derive type
  (answer.schema, if answer.derived then Event.ofDerivation type answer.schema else [],
    { s with cache := answer.cache })

/-- What comes of loading: the loaded value or a failure, unless a fault stops it. -/
abbrev Loaded := Except LoadFault (Except Failure Value)

def validateAndLoad (s : Session) (schema : Schema) (value : Value) (type : TypeExpr) :
    Loaded × List Event :=
  match schema.validate value with
  | .error failure => (.ok (.error failure), [.validationFailed failure])
  | .ok () =>
    let loaded := schema.load s.registry value type
    (loaded.result.map .ok, loaded.events)

def load [Text.Repertoire] (s : Session) (value : Value) (type : TypeExpr) :
    Loaded × List Event × Session :=
  let (schema, events, s) := s.schemaFor type
  match schema with
  | .error (.fault fault) => (.error (.typeFault fault), events, s)
  | .error (.failure failure) => (.ok (.error failure), events, s)
  | .ok schema =>
    let (loaded, more) := s.validateAndLoad schema value type
    (loaded, events ++ more, s)

/-- Loads a JSON text into a type.  A type without a schema is reported before the text is
looked at. -/
def loadText [Text.Repertoire] (s : Session) (text : List UInt8) (type : TypeExpr) :
    Loaded × List Event × Session :=
  let (schema, events, s) := s.schemaFor type
  match schema with
  | .error (.fault fault) => (.error (.typeFault fault), events, s)
  | .error (.failure failure) => (.ok (.error failure), events, s)
  | .ok schema =>
    match decode text with
    | .error failure =>
      (.ok (.error failure), events ++ [.decodingFailed failure.report.text], s)
    | .ok value =>
      let (loaded, more) := s.validateAndLoad schema value type
      (loaded, events ++ more, s)

end Session

def Definition.validateText (d : Definition) (text : List UInt8) : Except Failure Unit :=
  match decode text with
  | .error failure => .error failure
  | .ok value => d.validate value

end Schematic
