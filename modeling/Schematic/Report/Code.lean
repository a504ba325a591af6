/-!
The taxonomy of failures: a number whose thousands tell the category, and a name.
-/

namespace Schematic

inductive ErrorCode where
  | schemaGeneric
  | unsupportedType
  | recursiveType
  | validationGeneric
  | requiredFieldMissing
  | invalidType
  | invalidDate
  | invalidJson
  | tagGeneric
  | invalidTag
  | invalidTagValue
  | unknownTagKey
  | invalidBoolean
  | invalidDefault
  | defaultNotSupported
  | internalGeneric
  | contractViolation
  deriving DecidableEq

namespace ErrorCode

/-- Every code, by number. -/
def all : List ErrorCode :=
  [.schemaGeneric, .unsupportedType, .recursiveType, .validationGeneric,
    .requiredFieldMissing, .invalidType, .invalidDate, .invalidJson, .tagGeneric, .invalidTag,
    .invalidTagValue, .unknownTagKey, .invalidBoolean, .invalidDefault, .defaultNotSupported,
    .internalGeneric, .contractViolation]

def number : ErrorCode → Nat
  | .schemaGeneric => 1000
  | .unsupportedType => 1001
  | .recursiveType => 1002
  | .validationGeneric => 2000
  | .requiredFieldMissing => 2001
  | .invalidType => 2004
  | .invalidDate => 2012
  | .invalidJson => 2021
  | .tagGeneric => 3000
  | .invalidTag => 3001
  | .invalidTagValue => 3002
  | .unknownTagKey => 3003
  | .invalidBoolean => 3010
  | .invalidDefault => 3011
  | .defaultNotSupported => 3012
  | .internalGeneric => 9000
  | .contractViolation => 9003

/-- The words of a name, without its number. -/
def label : ErrorCode → String
  | .schemaGeneric => "SCHEMA_GENERIC"
  | .unsupportedType => "UNSUPPORTED_TYPE"
  | .recursiveType => "RECURSIVE_TYPE"
  | .validationGeneric => "VALIDATION_GENERIC"
  | .requiredFieldMissing => "REQUIRED_FIELD_MISSING"
  | .invalidType => "INVALID_TYPE"
  | .invalidDate => "INVALID_DATE"
  | .invalidJson => "INVALID_JSON"
  | .tagGeneric => "TAG_GENERIC"
  | .invalidTag => "INVALID_TAG"
  | .invalidTagValue => "INVALID_TAG_VALUE"
  | .unknownTagKey => "UNKNOWN_TAG_KEY"
  | .invalidBoolean => "INVALID_BOOLEAN"
  | .invalidDefault => "INVALID_DEFAULT"
  | .defaultNotSupported => "DEFAULT_NOT_SUPPORTED"
  | .internalGeneric => "INTERNAL_GENERIC"
  | .contractViolation => "CONTRACT_VIOLATION"

def name (code : ErrorCode) : String :=
  "E" ++ toString code.number ++ "_" ++ code.label

def ofName? (name : String) : Option ErrorCode :=
  all.find? fun code => code.name == name

/-- The category of a code, by its thousands. -/
def category (code : ErrorCode) : String :=
  match code.number / 1000 with
  | 1 => "schema"
  | 2 => "validation"
  | 3 => "tag"
  | _ => "internal"

end ErrorCode
end Schematic
