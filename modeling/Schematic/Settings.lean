import Schematic.Reading
import Schematic.Text.Lowercase

/-!
Settings: those given, or else those of the environment, where names have a prefix.  Names are
matched without regard to case unless asked otherwise.
-/

namespace Schematic

structure Settings where
  logLevel : String := "INFO"
  logJson : Bool := false
  schemaCacheSize : Int := 256

namespace Settings

/-- The name under which the problems of settings are reported. -/
def title : String := "Settings"

structure Options where
  /-- What the names of settings start with in the environment. -/
  environmentPrefix : String := "JSONSPEC_"
  /-- Names are matched letter by letter. -/
  exactCase : Bool := false
  /-- Empty texts in the environment do not count. -/
  ignoreEmpty : Bool := false
  /-- The text that stands for null in the environment. -/
  nullText : Option String := none

/-- The value of an option among the values that are given, if it is not null. -/
def option? (given : List (String × Value)) (name : String) : Option Value :=
  ((given.find? fun (key, _) => key == name).map Prod.snd).filter (!·.isNull)

def textOption? (given : List (String × Value)) (name : String) : Option String :=
  match option? given name with
  | some (.str s) => some s
  | _ => none

def Options.ofGiven (given : List (String × Value)) : Options :=
  let standard : Options := {}
  { environmentPrefix := (textOption? given "_env_prefix").getD standard.environmentPrefix
    exactCase := (option? given "_case_sensitive").any Value.isTruthy
    ignoreEmpty := (option? given "_env_ignore_empty").any Value.isTruthy
    nullText := textOption? given "_env_parse_none_str" }

/-- A name as it is matched. -/
def Options.matched (options : Options) (name : String) : String :=
  if options.exactCase then name else String.ofList (Text.lower name.toList)

def Options.valueOf (options : Options) (text : String) : Value :=
  if options.nullText = some text then .null else .str text

/-- The value of a setting, if there is one.  Of several given under spellings of its name the
first counts, and of several in the environment the last. -/
def find? (options : Options) (environment : List (String × String))
    (given : List (String × Value)) (name : String) : Option Value :=
  let given := given.foldl (fun found (name, value) => Value.putMember name value found) []
  match given.find? fun (key, _) => options.matched key == options.matched name with
  | some (_, value) => some value
  | none =>
    let counted := environment.filter fun (_, text) => !(options.ignoreEmpty && text == "")
    let key := options.matched (options.environmentPrefix ++ name)
    (counted.reverse.find? fun (name, _) => options.matched name == key).map fun (_, text) =>
      options.valueOf text

inductive EnvironmentFault where
  | nul
  /-- A name with the sign that separates names from texts. -/
  | separator
  | noName
  deriving DecidableEq

def EnvironmentFault.message : EnvironmentFault → String
  | .nul => "embedded null byte"
  | .separator => "illegal environment variable name"
  | .noName => "[Errno 22] Invalid argument"

def environmentFault? : List (String × String) → Option EnvironmentFault
  | [] => none
  | (name, text) :: rest =>
    if name.toList.contains '\x00' || text.toList.contains '\x00' then some .nul
    else if name.toList.contains '=' then some .separator
    else if name = "" then some .noName
    else environmentFault? rest

def setting {α : Type} (name : String) (absent : α) (read : Value → Checked α)
    (value : Option Value) : Checked α :=
  match value with
  | none => .ok absent
  | some value => (read value).under (.name name)

/-- The settings of an environment and of values that are given directly. -/
def load (environment : List (String × String)) (given : List (String × Value)) :
    Checked Settings :=
  let find := find? (.ofGiven given) environment given
  let standard : Settings := {}
  let make : Checked (String → Bool → Int → Settings) := .ok Settings.mk
  ((make.ap
    (setting "LOG_LEVEL" standard.logLevel (Reading.text .value) (find "LOG_LEVEL"))).ap
    (setting "LOG_JSON" standard.logJson (Reading.boolean .value) (find "LOG_JSON"))).ap
    (setting "SCHEMA_CACHE_SIZE" standard.schemaCacheSize (Reading.integer .value)
      (find "SCHEMA_CACHE_SIZE"))

def toValue (s : Settings) : Value :=
  .object [("LOG_LEVEL", .str s.logLevel), ("LOG_JSON", .bool s.logJson),
    ("SCHEMA_CACHE_SIZE", .int s.schemaCacheSize)]

end Settings
end Schematic
