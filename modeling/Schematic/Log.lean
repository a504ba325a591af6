import Schematic.Log.Format
import Schematic.Settings
import Schematic.Text.Lines

/-!
Structured logging.  A line holds an event, its level, the name of its logger and further
items: those of the event, those bound to the context, and the service.  It is written as a
JSON object, or as colored text for a console.
-/

namespace Schematic
namespace Log

inductive Level where
  | debug
  | info
  | warning
  | error
  | critical
  deriving DecidableEq

namespace Level

def number : Level → Nat
  | .debug => 10
  | .info => 20
  | .warning => 30
  | .error => 40
  | .critical => 50

def name : Level → String
  | .debug => "debug"
  | .info => "info"
  | .warning => "warning"
  | .error => "error"
  | .critical => "critical"

def ofMethod? : String → Option Level
  | "debug" => some .debug
  | "info" => some .info
  | "warning" => some .warning
  | "warn" => some .warning
  | "error" => some .error
  | "exception" => some .error
  | "critical" => some .critical
  | "fatal" => some .critical
  | _ => none

/-- The code of the color in which a level is written. -/
def color : Level → String
  | .debug => "32"
  | .info => "32"
  | .warning => "33"
  | .error => "31"
  | .critical => "31"

end Level

/-- A name that passes for that of a level until it is used. -/
inductive Constant where
  | layout
  | styles

/-- Why a name gives no threshold. -/
inductive LevelFault where
  | constant (c : Constant)

def Constant.display : Constant → String
  | .layout => "'%(levelname)s:%(name)s:%(message)s'"
  | .styles =>
    "\x7b'%': (<class 'logging.PercentStyle'>, '%(levelname)s:%(name)s:%(message)s'), " ++
      "'\x7b': (<class 'logging.StrFormatStyle'>, '\x7blevelname\x7d:\x7bname\x7d:\x7bmessage\x7d'), " ++
      "'$': (<class 'logging.StringTemplateStyle'>, " ++
      "'$\x7blevelname\x7d:$\x7bname\x7d:$\x7bmessage\x7d')\x7d"

def LevelFault.message : LevelFault → String
  | .constant .layout => "Unknown level: " ++ Constant.layout.display
  | .constant .styles =>
    "Level not an integer or a valid string: " ++ Constant.styles.display

/-- A capital letter; two letters beyond ASCII have ASCII capitals. -/
def capital (c : Char) : Char :=
  if c = 'ı' then 'I' else if c = 'ſ' then 'S' else c.toUpper

/-- The threshold of a name, in any case of its letters. -/
def thresholdOf (name : String) : Except LevelFault Nat :=
  match String.ofList (name.toList.map capital) with
  | "CRITICAL" => .ok 50
  | "FATAL" => .ok 50
  | "ERROR" => .ok 40
  | "WARNING" => .ok 30
  | "WARN" => .ok 30
  | "INFO" => .ok 20
  | "DEBUG" => .ok 10
  | "NOTSET" => .ok 0
  | "BASIC_FORMAT" => .error (.constant .layout)
  | "_STYLES" => .error (.constant .styles)
  | _ => .ok 20

/-- What is written for an event: a JSON object, or text, which may hold line breaks. -/
inductive Entry where
  | json (members : List (String × Value))
  | console (lines : List String)

inductive EmitFault where
  | format (error : FormatError)
  /-- An item under a name that the method of the logger uses itself. -/
  | takenName (method name : String)
  /-- A value in the place of a record of the logging system. -/
  | notARecord (className : String)
  | unset (field : Value.UnsetField)

def EmitFault.message : EmitFault → String
  | .format error => error.message
  | .takenName method name =>
    "BoundLogger." ++ method ++ "() got multiple values for argument " ++ Text.quoted name
  | .notARecord className => Text.quoted className ++ " object has no attribute 'name'"
  | .unset field => field.message

end Log

structure Log where
  /-- Events below this level are not written. -/
  threshold : Nat
  json : Bool
  /-- Items that go with every event. -/
  context : List (String × Value)

namespace Log

def serviceName : String := "jsonspec"

def serviceVersion : String := "0.1.0"

def stageLogger (stage : String) : String :=
  serviceName ++ "." ++ stage

/-- Logging as it is before it is configured. -/
def initial : Log :=
  ⟨30, false, []⟩

/-- Logging with a level and an output; those that are not given are settings. -/
def configure (log : Log) (settings : Settings) (level : Option String) (json : Option Bool) :
    Except LevelFault Log := do
  let threshold ← thresholdOf (level.getD settings.logLevel)
  return { log with threshold, json := json.getD settings.logJson }

/-- Items put into a list of items, the later ones in force. -/
def putAll (items more : List (String × Value)) : List (String × Value) :=
  more.foldl (fun found (name, value) => Value.putMember name value found) items

def bind (log : Log) (items : List (String × Value)) : Log :=
  { log with context := putAll log.context items }

def clear (log : Log) : Log :=
  { log with context := [] }

/-- An item that is added unless it is there. -/
def addDefault (items : List (String × Value)) (item : String × Value) :
    List (String × Value) :=
  if items.any (·.1 == item.1) then items else items ++ [item]

/-- Items without those of some names. -/
def removeAll (names : List String) (items : List (String × Value)) : List (String × Value) :=
  items.filter fun item => !names.contains item.1

def item? (name : String) (items : List (String × Value)) : Option Value :=
  (items.find? fun item => item.1 == name).map Prod.snd

/-- Bytes among the items are taken for the text that they encode. -/
def decodeBytes : Value → Value
  | .bytes b => .str (String.ofList (Text.Utf8.decodeLossy b))
  | value => value

/-! ### Arguments of messages -/

def zeroPart (entries : List (Value × Value)) : Except FormatError Value :=
  match entries.find? fun (key, _) => key.same (.int 0) with
  | some (_, value) => .ok value
  | none => .error (.unknownKey (.int 0))

/-- The only part of arguments, if they have just one. -/
def onlyPart? : Value → Except FormatError (Option Value)
  | .list [item] => .ok (some item)
  | .tuple [item] => .ok (some item)
  | .dict [entry] => (zeroPart [entry]).map some
  | .view [entry] => (zeroPart [entry]).map some
  | .list _ | .tuple _ | .dict _ | .view _ | .str _ | .bytes _ => .ok none
  | value => .error (.noLength value.operandClass)

/-- The arguments as a message takes them: a single dictionary that is not empty stands for
itself. -/
def unwrapArguments (arguments : Value) : Except FormatError Value := do
  match ← onlyPart? arguments with
  | some (.dict (entry :: entries)) => return .dict (entry :: entries)
  | _ => return arguments

/-- The item that holds arguments of the message. -/
def argumentsName : String := "positional_args"

/-- Items with the message among them filled in by the arguments that they hold. -/
def fillItems (items : List (String × Value)) : Except FormatError (List (String × Value)) :=
  match item? argumentsName items with
  | none | some .null => .ok items
  | some arguments => do
    let items := removeAll [argumentsName] items
    if arguments.isTruthy then
      let arguments ← unwrapArguments arguments
      let event ← fill ((item? "event" items).getD .null).inlineText arguments
      return Value.putMember "event" (.str event) items
    else return items

/-- The first field that cannot be shown in what a message is filled in with. -/
def unsetArgument? (items : List (String × Value)) : Option Value.UnsetField :=
  ((item? argumentsName items).filter Value.isTruthy).bind Value.unset?

/-- Items that only the logging system uses. -/
def internalNames : List String := ["_record", "_from_structlog"]

/-- Everything that an event is written with, given its own items. -/
def members (log : Log) (level : Level) (logger timestamp : String)
    (items : List (String × Value)) : Except FormatError (List (String × Value)) := do
  let all := putAll (log.context.foldl addDefault items)
    [("level", .str level.name), ("logger", .str logger)]
  let all := Value.putMember "timestamp" (.str timestamp) (← fillItems all)
  let all := (removeAll ("stack_info" :: internalNames) all).map fun (name, value) =>
    (name, decodeBytes value)
  return [("service", Value.str serviceName), ("version", .str serviceVersion)].foldl addDefault all

/-! ### JSON lines -/

/-- The text of a key in a JSON line, if it can be one. -/
def keyText? : Value → Option String
  | .str s => some s
  | .null => some "null"
  | .bool b => some (if b then "true" else "false")
  | .int i => some (toString i)
  | .float x => some (x.text .document)
  | _ => none

def shownText (value : Value) : Option Value :=
  match value.unset? with
  | some _ => none
  | none => some (.str value.display)

mutual

/-- An item of a JSON line, if it can be written.  What JSON does not know is shown, and of keys
with one text the last counts. -/
def jsonItem : Value → Option Value
  | .list items => (jsonItems items).map .list
  | .tuple items => (jsonItems items).map .list
  | .dict entries => (jsonEntries [] entries).map .object
  | .bytes b => shownText (.bytes b)
  | .datetime d => shownText (.datetime d)
  | .view entries => shownText (.view entries)
  | .record ref fields => shownText (.record ref fields)
  | value => some value

def jsonItems : List Value → Option (List Value)
  | [] => some []
  | item :: rest => do
    let item ← jsonItem item
    let rest ← jsonItems rest
    some (item :: rest)

/-- Entries put one after the other into those already there. -/
def jsonEntries (found : List (String × Value)) :
    List (Value × Value) → Option (List (String × Value))
  | [] => some found
  | (key, value) :: rest => do
    let key ← keyText? key
    let value ← jsonItem value
    jsonEntries (Value.putMember key value found) rest

end

def jsonMember (member : String × Value) : Option (String × Value) :=
  (jsonItem member.2).map fun value => (member.1, value)

def jsonEntry (members : List (String × Value)) : Option Entry :=
  (members.mapM jsonMember).map .json

/-! ### Console lines -/

def escape (code : String) : String :=
  "\x1b[" ++ code ++ "m"

def padRight (width : Nat) (s : String) : String :=
  s ++ String.ofList (List.replicate (width - s.length) ' ')

/-- A text of several words, or one with quotes, is displayed; other texts are written as they
are. -/
def consoleValue : Value → String
  | .str s =>
    if s.toList.any fun c => " \t\r\n=\"'".toList.contains c then Text.quoted s else s
  | value => value.display

def consoleItem (item : String × Value) : String :=
  escape "36" ++ item.1 ++ escape "0" ++ "=" ++ escape "35" ++ consoleValue item.2 ++ escape "0"

def consoleName (value : Value) : String :=
  "[" ++ escape "0" ++ escape "1" ++ escape "34" ++ value.inlineText ++ escape "0" ++ "]" ++
    escape "0"

/-- The columns of a console line that have a place of their own, in order: the names of the
items, and how they are written. -/
def columns (level : Level) : List (String × (Value → String)) :=
  [("", fun value => consoleItem ("", value)),
    ("timestamp", fun value => escape "2" ++ value.inlineText ++ escape "0"),
    ("level", fun value =>
      "[" ++ escape level.color ++ escape "1" ++ padRight 9 value.inlineText ++ escape "0" ++ "]"),
    ("event", fun value => escape "1" ++ padRight 30 value.inlineText ++ escape "0"),
    ("logger", consoleName),
    ("logger_name", consoleName)]

/-- Items that follow a console line on lines of their own. -/
def trailingNames : List String := ["stack", "exception", "exc_info"]

/-- The line of members, those without a column sorted by name. -/
def consoleLine (level : Level) (members : List (String × Value)) : String :=
  let placed := (columns level).filterMap fun column => (item? column.1 members).map column.2
  let others :=
    (removeAll ((columns level).map Prod.fst) members).mergeSort fun a b => a.1 ≤ b.1
  " ".intercalate (placed ++ others.map consoleItem)

/-- A line between a stack and an exception. -/
def rule : String :=
  String.ofList (List.replicate 79 '=')

/-- The text of an item that is a text or null. -/
def trailingText? : Option Value → Option (Option String)
  | none | some .null => some none
  | some (.str s) => some (some s)
  | some _ => none

/-- What follows a console line: the stack, a line, and the exception.  They have to be
texts. -/
def trailing? (members : List (String × Value)) : Option String := do
  let exception := item? "exception" members
  let raised := ((item? "exc_info" members).map Value.isTruthy).getD false ||
    (exception.map (!·.isNull)).getD false
  let above ← match ← trailingText? (item? "stack" members) with
    | none => some ""
    | some stack => some ("\n" ++ stack ++ if raised then "\n\n" ++ rule ++ "\n" else "")
  match ← trailingText? exception with
  | none => some above
  | some exception => some (above ++ "\n" ++ exception)

def consoleEntry (level : Level) (members : List (String × Value)) : Option Entry := do
  let trailing ← trailing? members
  let shown := removeAll trailingNames members
  if shown.any fun item => item.2.unset?.isSome then none
  else some (.console (Text.linesOf (consoleLine level shown ++ trailing)))

def entry (log : Log) (level : Level) (members : List (String × Value)) : Option Entry :=
  if log.json then jsonEntry members else consoleEntry level members

/-! ### Loggers -/

/-- The method of a logger that takes an event of a method. -/
def methodName : String → String
  | "warn" => "warning"
  | name => name

/-- The name that a logger goes by.  The one without a name is the root. -/
def loggerName (name : String) : String :=
  if name = "" then "root" else name

def takenName? (method : String) (items : List (String × Value)) : Option EmitFault :=
  if items.any fun item => item.1 == "event" then some (.takenName (methodName method) "event")
  else if items.any fun item => item.1 == "self" then some (.takenName (methodName method) "self")
  else if items.any fun item => item.1 == "method_name" then
    some (.takenName "_proxy_to_logger" "method_name")
  else none

/-- Writes an event with items; one that cannot be written is passed over. -/
def emit (log : Log) (method : String) (level : Level) (logger message timestamp : String)
    (arguments : List Value) (items : List (String × Value)) :
    Except EmitFault (Option Entry) := do
  let items := putAll [] items
  if let some fault := takenName? method items then .error fault
  else
    let items := if arguments.isEmpty then items
      else Value.putMember argumentsName (.tuple arguments) items
    let items := Value.putMember "event" (.str message) items
    let all := log.context.foldl addDefault items
    match (item? "_record" all).filter (!·.isNull), unsetArgument? all with
    | some value, _ => .error (.notARecord value.operandClass)
    | none, some field => .error (.unset field)
    | none, none =>
      -- The message is filled in first, so that a wrong one is a fault below the threshold, too.
      let members ← (log.members level (loggerName logger) timestamp items).mapError .format
      if level.number < log.threshold then return none
      else return log.entry level (removeAll ["exc_info"] members)

/-- The arguments of a plain event: a single dictionary or view that is not empty stands for
itself. -/
def plainArguments : List Value → Value
  | [.dict (entry :: entries)] => .dict (entry :: entries)
  | [.view (entry :: entries)] => .view (entry :: entries)
  | arguments => .tuple arguments

def plainMessage? (message : String) (arguments : List Value) : Option String :=
  if arguments.isEmpty then some message
  else if arguments.any fun value => value.unset?.isSome then none
  else (fill message (plainArguments arguments)).toOption

/-- Writes a plain event, one without items of its own.  Whatever is wrong with it, nothing is
written then. -/
def emitPlain (log : Log) (method : String) (level : Level) (logger message timestamp : String)
    (arguments : List Value) : Option Entry := do
  if level.number < log.threshold then none
  else
    let event ← plainMessage? message arguments
    let raised := if method = "exception" then
        [("exc_info", Value.tuple [.null, .null, .null])]
      else []
    let items := ("event", .str event) :: raised
    if (unsetArgument? (log.context.foldl addDefault items)).isSome then none
    else
      let members ← (log.members level (loggerName logger) timestamp items).toOption
      log.entry level members

end Log
end Schematic
