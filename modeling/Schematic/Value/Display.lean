import Schematic.Value
import Schematic.Number.Shortest
import Schematic.Text.Quoted
import Schematic.Time.Iso.Reader

/-!
The text by which a value is shown in messages and log lines.
-/

namespace Schematic
namespace Value

/-- The length of time of an offset: whole days, then seconds and microseconds that are
never negative, each part shown if it is not zero. -/
def displayLength (microseconds : Int) : String :=
  let days := microseconds.fdiv 86400000000
  let rest := microseconds.fmod 86400000000
  let seconds := rest / 1000000
  let micros := rest % 1000000
  let part (name : String) (n : Int) : List String :=
    if n = 0 then [] else [name ++ "=" ++ toString n]
  let parts := part "days" days ++ part "seconds" seconds ++ part "microseconds" micros
  "datetime.timedelta(" ++ (if parts.isEmpty then "0" else ", ".intercalate parts) ++ ")"

def displayOffset (offset : Time.Offset) : String :=
  if offset.microseconds = 0 then "datetime.timezone.utc"
  else "datetime.timezone(" ++ displayLength offset.microseconds ++ ")"

def isoMessage : Time.Iso.Error → String
  | .form text => "Invalid isoformat string: " ++ Text.quoted text
  | .offset microseconds =>
    "offset must be a timedelta strictly between -timedelta(hours=24) and " ++
      "timedelta(hours=24), not " ++ displayLength microseconds ++ "."
  | .field error => error.message

/-- A point in time by its fields; trailing zero seconds and microseconds are left out. -/
def displayDateTime (d : DateTime) : String :=
  let base := [d.date.year, d.date.month, d.date.day, d.time.hour, d.time.minute]
  let fields :=
    if d.time.microsecond ≠ 0 then base ++ [d.time.second, d.time.microsecond]
    else if d.time.second ≠ 0 then base ++ [d.time.second]
    else base
  let offset := match d.offset with
    | none => []
    | some offset => ["tzinfo=" ++ displayOffset offset]
  "datetime.datetime(" ++ ", ".intercalate (fields.map toString ++ offset) ++ ")"

/-- A list of texts as the elements of a tuple: a single one is followed by a comma. -/
def displayTuple : List String → String
  | [item] => "(" ++ item ++ ",)"
  | items => "(" ++ ", ".intercalate items ++ ")"

mutual

def display : Value → String
  | .null => "None"
  | .bool b => if b then "True" else "False"
  | .int i => toString i
  | .float x => x.text .plain
  | .str s => Text.quoted s
  | .bytes b => Text.quotedBytes b
  | .datetime d => displayDateTime d
  | .list items => "[" ++ ", ".intercalate (displayItems items) ++ "]"
  | .tuple items => displayTuple (displayItems items)
  | .dict entries => "\x7b" ++ ", ".intercalate (displayEntries entries) ++ "\x7d"
  | .view entries => "mappingproxy(\x7b" ++ ", ".intercalate (displayEntries entries) ++ "\x7d)"
  | .record ref fields => ref.name ++ "(" ++ ", ".intercalate (displayFields fields) ++ ")"
  | .foreign _ shown => shown

def displayItems : List Value → List String
  | [] => []
  | item :: rest => display item :: displayItems rest

def displayEntries : List (Value × Value) → List String
  | [] => []
  | (key, value) :: rest => (display key ++ ": " ++ display value) :: displayEntries rest

def displayFields : List (String × Option Value) → List String
  | [] => []
  | (name, some value) :: rest => (name ++ "=" ++ display value) :: displayFields rest
  | (_, none) :: rest => displayFields rest

end

/-- The text of a value inside a sentence: a text as it is, a point in time with a space
between date and time, a view like the dictionary behind it, a model by its fields alone, and
anything else as shown. -/
def inlineText : Value → String
  | .str s => s
  | .datetime d => String.ofList (d.isoWith ' ')
  | .view entries => (Value.dict entries).display
  | .record ref fields =>
    match ref.kind with
    | .data => (Value.record ref fields).display
    | .model => " ".intercalate (displayFields fields)
  | value => value.display

/-- A field of a record that is declared but not set. -/
structure UnsetField where
  record : String
  field : String
  deriving DecidableEq

def UnsetField.message (u : UnsetField) : String :=
  Text.quoted u.record ++ " object has no attribute " ++ Text.quoted u.field

mutual

/-- The first field in the order of display that is not set. -/
def unset? : Value → Option UnsetField
  | .list items => unsetItem? items
  | .tuple items => unsetItem? items
  | .dict entries => unsetEntry? entries
  | .view entries => unsetEntry? entries
  | .record ref fields => unsetField? ref fields
  | _ => none

def unsetItem? : List Value → Option UnsetField
  | [] => none
  | item :: rest => unset? item <|> unsetItem? rest

def unsetEntry? : List (Value × Value) → Option UnsetField
  | [] => none
  | (key, value) :: rest => unset? key <|> unset? value <|> unsetEntry? rest

def unsetField? (ref : RecordRef) : List (String × Option Value) → Option UnsetField
  | [] => none
  | (_, some value) :: rest => unset? value <|> unsetField? ref rest
  | (name, none) :: rest =>
    match ref.kind with
    | .data => some ⟨ref.name, name⟩
    | .model => unsetField? ref rest

end

end Value
end Schematic
