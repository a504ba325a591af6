import Schematic.Derivation

/-!
What the library notes for its log.
-/

namespace Schematic

inductive Event where
  | derived (type : String)
  | derivationFailed (type : String) (failure : Failure)
  | decodingFailed (message : String)
  | validationFailed (failure : Failure)
  /-- A text that is no point in time, loaded as the zero of that type. -/
  | dateTimeFallback (text : String)

namespace Event

def level : Event → String
  | .dateTimeFallback _ => "warning"
  | _ => "debug"

def name : Event → String
  | .derived _ => "schema_derived"
  | .derivationFailed _ _ => "schema_derivation_failed"
  | .decodingFailed _ => "json_decode_failed"
  | .validationFailed _ => "validation_failed"
  | .dateTimeFallback _ => "datetime_parse_fallback"

/-- What an event says besides its name. -/
def members : Event → List (String × Value)
  | .derived type => [("type", .str type)]
  | .derivationFailed type failure =>
    [("type", .str type), ("code", .str failure.report.code.name),
      ("message", .str failure.report.text)]
  | .decodingFailed message => [("error", .str message)]
  | .validationFailed failure =>
    [("code", .str failure.report.code.name), ("message", .str failure.report.text),
      ("path", .list failure.report.path)]
  | .dateTimeFallback text =>
    [("value", .str text),
      ("error", .str (Failure.here (.invalidLiteral .datetime text true)).report.text)]

/-- The event of a derivation that came to an end. -/
def ofDerivation (type : TypeExpr) : Except Underivable Schema → List Event
  | .ok _ => [.derived type.display]
  | .error (.failure failure) => [.derivationFailed type.display failure]
  | .error (.fault _) => []

def ofDecoding : Except Failure Value → List Event
  | .ok _ => []
  | .error failure => [.decodingFailed failure.report.text]

def ofValidation : Except Failure Unit → List Event
  | .ok _ => []
  | .error failure => [.validationFailed failure]

end Event
end Schematic
