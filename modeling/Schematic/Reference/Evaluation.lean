import Schematic.Reference.Vocabulary
import Schematic.TypeExpr.Formation

/-!
What references denote.  A reference is evaluated in a scope, which knows the records that are
defined; the vocabulary comes after it.  Classes can be applied to arguments and joined by
bars, and constants, tuples and lists are values.
-/

namespace Schematic
namespace Reference

/-- What an expression denotes: a type or a value in the place of one, or a container of such
objects. -/
inductive Object where
  | type (t : TypeExpr)
  | tuple (items : List Object)
  | list (items : List Object)
  | set (items : List Object)
  | dict (entries : List (Object × Object))
  deriving Inhabited

inductive Error where
  | unknownName (name : String)
  | formation (e : FormationError)
  /-- A tuple where a type is asked for. -/
  | notType (shown : String)
  | operands (op left right : String)
  | operand (op className : String)
  | comparison (op left right : String)
  | notJoined (className other : String)
  | notSubscriptable (owner : String)
  | notGeneric (shown : String)
  | notParametric (shown : String)
  /-- A subscript that is no integer. -/
  | indexClass (container className : String)
  | indexRange (container : String)
  | missingKey (shown : String)
  | noMember (owner name : String)
  /-- A member that something does not have which says no more of it. -/
  | namelessMember (name : String)
  | notCallable (className : String)
  | notIterable (className : String)
  | notSpread (className : String)
  | notContainer (className : String)
  /-- What is looked for in a text and is none. -/
  | notText (className : String)
  /-- A call of what has to be given other arguments. -/
  | arguments (owner : String)
  | unreadableInteger (shown : String)
  | zeroDivision (message : String)
  /-- References that lead from one to the next without an end. -/
  | endless
  deriving DecidableEq

def Error.message : Error → String
  | .unknownName name => "name " ++ Text.quoted name ++ " is not defined"
  | .formation e => e.message
  | .notType shown =>
    "Forward references must evaluate to types. Got " ++ String.ofList (shown.toList.take 100) ++
      "."
  | .operands op left right => operandsMessage op left right
  | .operand op className =>
    "bad operand type for unary " ++ op ++ ": " ++ Text.quoted className
  | .comparison op left right =>
    Text.quoted op ++ " not supported between instances of " ++ Text.quoted left ++ " and " ++
      Text.quoted right
  | .notJoined className other =>
    "can only concatenate " ++ className ++ " (not \"" ++ other ++ "\") to " ++ className
  | .notSubscriptable owner => owner ++ " is not subscriptable"
  | .notGeneric shown => shown ++ " is not a generic class"
  | .notParametric shown =>
    shown ++ " cannot be parametrized because it does not inherit from typing.Generic"
  | .indexClass "string" className =>
    "string indices must be integers, not " ++ Text.quoted className
  | .indexClass container className =>
    container ++ " indices must be integers or slices, not " ++ className
  | .indexRange container => container ++ " index out of range"
  | .missingKey shown => shown
  | .noMember owner name => owner ++ " has no attribute " ++ Text.quoted name
  | .namelessMember name => name
  | .notCallable className => Text.quoted className ++ " object is not callable"
  | .notIterable className => Text.quoted className ++ " object is not iterable"
  | .notSpread className => "Value after * must be an iterable, not " ++ className
  | .notContainer className => "argument of type " ++ Text.quoted className ++ " is not iterable"
  | .notText className =>
    "'in <string>' requires string as left operand, not " ++ className
  | .arguments owner => owner ++ " takes other arguments"
  | .unreadableInteger shown => "invalid literal for int() with base 10: " ++ shown
  | .zeroDivision message => message
  | .endless => "maximum recursion depth exceeded"

/-- A reference whose parts do not fit together, where each of them denotes something. -/
def Error.isMisfit : Error → Bool
  | .formation (.malformed _) | .formation (.key (.unset _)) => false
  | .unknownName _ | .missingKey _ | .indexRange _ | .noMember _ _ | .namelessMember _
  | .unreadableInteger _ | .zeroDivision _ | .endless => false
  | _ => true

/-- What is known besides the vocabulary. -/
structure Scope where
  /-- The type, or the value in the place of one, that a name denotes. -/
  find : String → Option TypeExpr
  /-- The value that the instances of a record share under a name. -/
  shared : RecordRef → String → Option Value

namespace Object

def ofValue (v : Value) : Object :=
  .type (.value v)

def bool (b : Bool) : Object :=
  ofValue (.bool b)

mutual

def shown : Object → String
  | .type t => t.shown
  | .tuple items => Value.displayTuple (shownItems items)
  | .list items => "[" ++ ", ".intercalate (shownItems items) ++ "]"
  | .set items => "\x7b" ++ ", ".intercalate (shownItems items) ++ "\x7d"
  | .dict entries => "\x7b" ++ ", ".intercalate (shownEntries entries) ++ "\x7d"

def shownItems : List Object → List String
  | [] => []
  | item :: rest => shown item :: shownItems rest

def shownEntries : List (Object × Object) → List String
  | [] => []
  | (key, value) :: rest => (shown key ++ ": " ++ shown value) :: shownEntries rest

end

def operandClass : Object → String
  | .type t => t.operandClass
  | .tuple _ => "tuple"
  | .list _ => "list"
  | .set _ => "set"
  | .dict _ => "dict"

/-- The object in the place of a type. -/
def toType : Object → TypeExpr
  | .type t => t
  | object => .value (.foreign object.operandClass object.shown)

def isTruthy : Object → Bool
  | .type (.value v) => v.isTruthy
  | .type _ => true
  | .tuple items => !items.isEmpty
  | .list items => !items.isEmpty
  | .set items => !items.isEmpty
  | .dict entries => !entries.isEmpty

def value? : Object → Option Value
  | .type (.value v) => some v
  | _ => none

def int? (object : Object) : Option Int :=
  object.value?.bind Value.asInt?

def text? : Object → Option String
  | .type (.value (.str s)) => some s
  | _ => none

def same : Object → Object → Bool
  | .type a, .type b => a.same b
  | a, b => a.operandClass == b.operandClass && a.shown == b.shown

def items? : Object → Option (List Object)
  | .tuple items => some items
  | .list items => some items
  | .set items => some items
  | .dict entries => some (entries.map Prod.fst)
  | .type (.value (.str s)) =>
    some (s.toList.map fun c => ofValue (.str (String.singleton c)))
  | .type (.value (.bytes b)) => some (b.map fun x => ofValue (.int x.toNat))
  | _ => none

mutual

def keyFault? : Object → Option Value.KeyFault
  | .type t => t.keyFault?
  | .tuple items => itemsFault? items
  | .list _ => some (.changeable "list")
  | .set _ => some (.changeable "set")
  | .dict _ => some (.changeable "dict")

def itemsFault? : List Object → Option Value.KeyFault
  | [] => none
  | item :: rest => keyFault? item <|> itemsFault? rest

end

end Object

/-! ### Operators -/

/-- Integer division toward the floor, and its remainder. -/
def divide (op : String) (a b : Int) : Except Error Object :=
  if op = "/" then
    if b = 0 then .error (.zeroDivision "division by zero")
    else
      let negative := decide (a < 0) != decide (b < 0)
      .ok (Object.ofValue (.float (.ofRatio negative a.natAbs b.natAbs)))
  else if op = "//" then
    if b = 0 then .error (.zeroDivision "integer division or modulo by zero")
    else .ok (Object.ofValue (.int (a.fdiv b)))
  else
    if b = 0 then .error (.zeroDivision "integer modulo by zero")
    else .ok (Object.ofValue (.int (a.fmod b)))

/-- The integer with every binary digit turned over. -/
def complement (a : Int) : Int :=
  -a - 1

/-- The binary digits that two integers have in common; a negative integer has them all from
some place on. -/
def commonDigits (a b : Int) : Int :=
  match decide (a < 0), decide (b < 0) with
  | false, false => (a.toNat &&& b.toNat : Nat)
  | false, true => a - (a.toNat &&& (complement b).toNat : Nat)
  | true, false => b - (b.toNat &&& (complement a).toNat : Nat)
  | true, true => complement ((complement a).toNat ||| (complement b).toNat : Nat)

/-- An operator between the binary digits of two objects, if it is one. -/
def bitwise? (op : String) (a b : Value) : Option Value := do
  let i ← a.asInt?
  let j ← b.asInt?
  let both := commonDigits i j
  let either := complement (commonDigits (complement i) (complement j))
  let result ← match op with
    | "&" => some both
    | "|" => some either
    | "^" => some (either - both)
    | _ => none
  match a, b with
  | .bool _, .bool _ => some (.bool (result != 0))
  | _, _ => some (.int result)

/-- An operator between integers, if it is one of arithmetic. -/
def arithmetic? (op : String) (a b : Int) : Option (Except Error Object) :=
  match op with
  | "+" => some (.ok (Object.ofValue (.int (a + b))))
  | "-" => some (.ok (Object.ofValue (.int (a - b))))
  | "*" => some (.ok (Object.ofValue (.int (a * b))))
  | "/" | "//" | "%" => some (divide op a b)
  | _ => none

def repeated (s : String) (count : Int) : Object :=
  Object.ofValue (.str (String.join (List.replicate count.toNat s)))

def repeatedItems (items : List Object) (count : Int) : List Object :=
  (List.replicate count.toNat items).flatten

/-- A sequence of objects several times, if it is one. -/
def repeatedSequence? (a : Object) (count : Int) : Option Object :=
  match a with
  | .list items => some (.list (repeatedItems items count))
  | .tuple items => some (.tuple (repeatedItems items count))
  | a => a.text?.map fun s => repeated s count

/-- The operator between objects that are no integers. -/
def join (op : String) (a b : Object) : Except Error Object :=
  let refused : Except Error Object := .error (.operands op a.operandClass b.operandClass)
  match op, a, b with
  | "|", .type a, .type b => (a.bar b).map Object.type |>.mapError Error.formation
  | "+", .list xs, .list ys => .ok (.list (xs ++ ys))
  | "+", .tuple xs, .tuple ys => .ok (.tuple (xs ++ ys))
  | "+", .list _, b => .error (.notJoined "list" b.operandClass)
  | "+", .tuple _, b => .error (.notJoined "tuple" b.operandClass)
  | "+", a, b =>
    match a.text?, b.text? with
    | some s, some t => .ok (Object.ofValue (.str (s ++ t)))
    | some _, none => .error (.notJoined "str" b.operandClass)
    | none, _ => refused
  | "*", a, b =>
    match a.int?.bind (repeatedSequence? b) <|> b.int?.bind (repeatedSequence? a) with
    | some sequence => .ok sequence
    | none => refused
  | _, _, _ => refused

def compare (op : String) (a b : Object) : Except Error Object :=
  let decided (less equal : Bool) : Object :=
    .bool (match op with
      | "<" => less
      | "<=" => less || equal
      | ">" => !less && !equal
      | _ => !less)
  match a.int?, b.int?, a.text?, b.text? with
  | some i, some j, _, _ => .ok (decided (i < j) (i == j))
  | _, _, some s, some t => .ok (decided (s < t) (s == t))
  | _, _, _, _ => .error (.comparison op a.operandClass b.operandClass)

/-- An object is among the elements of another, or a text inside another. -/
def isMember (a b : Object) : Except Error Bool :=
  match a.text?, b.text? with
  | some s, some t => .ok ((t.splitOn s).length > 1 || s == "")
  | none, some _ => .error (.notText a.operandClass)
  | _, _ =>
    match b.items? with
    | some items => .ok (items.any a.same)
    | none => .error (.notContainer b.operandClass)

/-- The operator between two values: integers have operators of their own. -/
def numeric (op : String) (v w : Value) (a b : Object) : Except Error Object :=
  match bitwise? op v w, v.asInt?, w.asInt? with
  | some result, _, _ => .ok (Object.ofValue result)
  | none, some i, some j => (arithmetic? op i j).getD (join op a b)
  | _, _, _ => join op a b

def binary (op : String) (a b : Object) : Except Error Object :=
  match op with
  | "==" | "is" => .ok (.bool (a.same b))
  | "!=" | "is not" => .ok (.bool (!a.same b))
  | "<" | "<=" | ">" | ">=" => compare op a b
  | "in" => (isMember a b).map Object.bool
  | "not in" => (isMember a b).map fun found => .bool !found
  | _ =>
    match a.value?, b.value? with
    | some v, some w => numeric op v w a b
    | _, _ => join op a b

def unary (op : String) (a : Object) : Except Error Object :=
  match op with
  | "not" => .ok (.bool !a.isTruthy)
  | _ =>
    match op, a.int?, a.value? with
    | "-", some i, _ => .ok (Object.ofValue (.int (-i)))
    | "+", some i, _ => .ok (Object.ofValue (.int i))
    | "~", some i, _ => .ok (Object.ofValue (.int (-i - 1)))
    | "-", _, some (.float x) =>
      .ok (Object.ofValue (.float (match x with
        | .finite negative m e h => .finite (!negative) m e h
        | .infinity negative => .infinity (!negative)
        | .nan => .nan)))
    | "+", _, some (.float x) => .ok (Object.ofValue (.float x))
    | _, _, _ => .error (.operand op a.operandClass)

/-! ### Members and subscripts -/

/-- The class of an object, for members and calls: its module and name. -/
def classOf? : TypeExpr → Option ClassRef
  | .scalar s => some s.className
  | .openArray form => some form.aliased.className
  | .mapping form [] => some form.aliased.className
  | .record ref => some ⟨ref.module, ref.name⟩
  | .named ref => some ref.aliased
  | _ => none

/-- The class that arguments were applied to. -/
def headOf : TypeExpr → TypeExpr
  | .array form _ => .openArray form
  | .mapping form _ => .mapping form []
  | .generic head _ => .named head
  | .annotated base _ => headOf base
  | type => type

def selfMember? (ref : ClassRef) : String → Option Value
  | "__name__" | "__qualname__" => some (.str ref.name)
  | "__module__" => some (.str ref.module)
  | _ => none

def classMember (scope : Scope) (type : TypeExpr) (ref : ClassRef) (name : String) :
    Except Error Object :=
  let own : Option Value :=
    match type with
    | .record record => scope.shared record name
    | _ => if ref.module = ClassRef.standard then member? ref.name name else none
  match selfMember? ref name <|> own, type with
  | some v, _ => .ok (Object.ofValue v)
  | none, .record ⟨_, .model, _, _, _⟩ => .error (.namelessMember name)
  | none, _ =>
    if ref = .kind then .error (.namelessMember name)
    else .error (.noMember ("type object " ++ Text.quoted ref.objectName) name)

/-- A member of a number: its parts, or those of it as a fraction. -/
def numberMember? (v : Value) (name : String) : Option Value :=
  match v, v.asInt?, name with
  | .float x, _, "real" => some (.float x)
  | .float _, _, "imag" => some (.float (.zeroOf false))
  | _, some i, "real" | _, some i, "numerator" => some (.int i)
  | _, some _, "imag" => some (.int 0)
  | _, some _, "denominator" => some (.int 1)
  | _, _, _ => none

/-- A member of a function: its name or its module. -/
def functionMember? (v : Value) (name : String) : Option Value :=
  (TypeExpr.functionName? v).bind fun qualified =>
    let parts := qualified.splitOn "."
    match name with
    | "__name__" | "__qualname__" => parts.getLast?.map .str
    | "__module__" =>
      some (.str (if parts.length = 1 then ClassRef.standard else parts.headD ""))
    | _ => none

def memberOf (scope : Scope) (object : Object) (name : String) : Except Error Object :=
  let refused : Except Error Object :=
    .error (.noMember (Text.quoted object.operandClass ++ " object") name)
  match object with
  | .type (.union .applied _) | .type (.literal _) => .error (.namelessMember name)
  | .type (.value v) =>
    match numberMember? v name <|> functionMember? v name with
    | some w => .ok (Object.ofValue w)
    | none => refused
  | .type type =>
    match classOf? (headOf type) with
    | some ref => classMember scope (headOf type) ref name
    | none => refused
  | _ => refused

def elementAt (container : String) (items : List Object) (index : Object) :
    Except Error Object :=
  match index.int? with
  | none => .error (.indexClass container index.operandClass)
  | some i =>
    let i := if i < 0 then i + items.length else i
    match if i < 0 then none else items[i.toNat]? with
    | some item => .ok item
    | none => .error (.indexRange container)

def argumentsOf : Object → List TypeExpr
  | .tuple items => items.map Object.toType
  | object => [object.toType]

def apply (type : TypeExpr) (arguments : List TypeExpr) : Except Error TypeExpr :=
  match type with
  | .openArray form =>
    match arguments with
    | [] => .ok (.openArray form)
    | element :: _ => .ok (.array form element)
  | .mapping form [] => .ok (.mapping form arguments)
  | .named ref =>
    if ref.module = ClassRef.standard && applicableNames.contains ref.name then
      .ok (.generic ref arguments)
    else .error (.notSubscriptable ("type " ++ Text.quoted ref.name))
  | .scalar s => .error (.notSubscriptable ("type " ++ Text.quoted s.className.name))
  | .record ref =>
    match ref.kind with
    | .data => .error (.notSubscriptable ("type " ++ Text.quoted ref.name))
    | .model => .error (.notParametric type.shown)
  | .array _ _ | .mapping _ _ | .generic _ _ | .union _ _ => .error (.notGeneric type.spelling)
  | type => .error (.notSubscriptable (Text.quoted type.operandClass ++ " object"))

def entryAt (entries : List (Object × Object)) (key : Object) : Except Error Object :=
  match key.keyFault? with
  | some fault => .error (.formation (.key fault))
  | none =>
    match entries.find? fun (other, _) => other.same key with
    | some (_, value) => .ok value
    | none => .error (.missingKey key.shown)

def subscript (object index : Object) : Except Error Object :=
  match object with
  | .list items => elementAt "list" items index
  | .tuple items => elementAt "tuple" items index
  | .dict entries => entryAt entries index
  | .set _ => .error (.notSubscriptable "'set' object")
  | .type (.value (.str s)) => elementAt "string" ((Object.ofValue (.str s)).items?.getD []) index
  | .type (.value (.bytes b)) =>
    elementAt "byte" ((Object.ofValue (.bytes b)).items?.getD []) index
  | .type type => (apply type (argumentsOf index)).map Object.type

/-! ### Calls -/

def typeOf (object : Object) : TypeExpr :=
  match object with
  | .type (.value .null) => .named .null
  | .type (.value (.record ref _)) => .record ref
  | object => (standard? object.operandClass).getD (.named ⟨ClassRef.standard, object.operandClass⟩)

def textOf (object : Object) : String :=
  match object.value? with
  | some v => v.inlineText
  | none => object.shown

/-- A class called with an object. -/
def convert (ref : ClassRef) (object : Object) : Except Error Object :=
  match ref.name with
  | "type" => .ok (.type (typeOf object))
  | "str" => .ok (Object.ofValue (.str (textOf object)))
  | "bool" => .ok (.bool object.isTruthy)
  | "int" =>
    match object.int?, object.text? with
    | some i, _ => .ok (Object.ofValue (.int i))
    | none, some s =>
      match Number.readFreeInt? s.toList with
      | some (negative, digits) =>
        .ok (Object.ofValue (.int (Number.signed negative (Text.digitsValue digits))))
      | none => .error (.unreadableInteger (Text.quoted s))
    | none, none => .error (.arguments "int()")
  | "list" | "tuple" | "set" =>
    match object.items? with
    | none => .error (.notIterable object.operandClass)
    | some items =>
      .ok (if ref.name = "list" then .list items else if ref.name = "tuple" then .tuple items
        else .set items)
  | name => .error (.arguments (name ++ "()"))

/-- A class called without arguments. -/
def create (ref : ClassRef) : Except Error Object :=
  match ref.name with
  | "bool" => .ok (.bool false)
  | "str" => .ok (Object.ofValue (.str ""))
  | "int" => .ok (Object.ofValue (.int 0))
  | "float" => .ok (Object.ofValue (.float (.zeroOf false)))
  | "bytes" => .ok (Object.ofValue (.bytes []))
  | "list" => .ok (.list [])
  | "tuple" => .ok (.tuple [])
  | "dict" => .ok (.dict [])
  | "set" | "frozenset" => .ok (Object.ofValue (.foreign ref.name (ref.name ++ "()")))
  | name => .error (.arguments (name ++ "()"))

def callFunction (shown : String) (arguments : List Object) : Except Error Object :=
  match shown, arguments with
  | "<built-in function len>", [object] =>
    match object.items? with
    | some items => .ok (Object.ofValue (.int items.length))
    | none => .error (.operand "len" object.operandClass)
  | "<built-in function repr>", [object] => .ok (Object.ofValue (.str object.shown))
  | shown, _ => .error (.arguments shown)

def call (object : Object) (arguments : List Object) : Except Error Object :=
  match object with
  | .type (.value (.foreign "builtin_function_or_method" shown)) => callFunction shown arguments
  | .type (.value v) => .error (.notCallable v.operandClass)
  | .type type =>
    match classOf? (headOf type), arguments with
    | none, _ => .error (.notCallable type.operandClass)
    | some ref, arguments =>
      if ref.module ≠ ClassRef.standard then .error (.arguments (ref.name ++ "()"))
      else if errorNames.contains ref.name then
        let shown := ref.name ++ "(" ++ ", ".intercalate (Object.shownItems arguments) ++ ")"
        .ok (Object.ofValue (.foreign ref.name shown))
      else
        match arguments with
        | [] => create ref
        | [argument] => convert ref argument
        | _ => .error (.arguments (ref.name ++ "()"))
  | object => .error (.notCallable object.operandClass)

/-! ### Expressions -/

/-- An entry put under a key that is new, or in the place of an equal one. -/
def putEntry (entries : List (Object × Object)) (key value : Object) :
    Except Error (List (Object × Object)) :=
  match key.keyFault? with
  | some fault => .error (.formation (.key fault))
  | none =>
    if entries.any fun (other, _) => other.same key then
      .ok (entries.map fun (other, old) => if other.same key then (other, value) else (other, old))
    else .ok (entries ++ [(key, value)])

def setOf (items : List Object) : Except Error Object := do
  let entries ← items.foldlM (fun entries item => putEntry entries item item) []
  return .set (entries.map Prod.fst)

/-- The elements that an object stands for among others. -/
def spreadItems (object : Object) : Except Error (List Object) :=
  match object.items? with
  | some items => .ok items
  | none => .error (.notSpread object.operandClass)

def lookup (scope : Scope) (name : String) : Except Error Object :=
  match scope.find name <|> standard? name with
  | some type => .ok (.type type)
  | none => .error (.unknownName name)

mutual

/-- What an expression denotes. -/
def evaluate (scope : Scope) : Expr → Except Error Object
  | .name s => lookup scope s
  | .constant v => .ok (Object.ofValue v)
  | .ellipsis => .ok (.type .ellipsis)
  | .tuple items => (evaluateItems scope items).map Object.tuple
  | .list items => (evaluateItems scope items).map Object.list
  | .set items => do setOf (← evaluateItems scope items)
  | .dict entries => evaluateEntries scope [] entries
  | .spread e => evaluate scope e
  | .member e name => do memberOf scope (← evaluate scope e) name
  | .subscript e index => do
    let object ← evaluate scope e
    let index ← evaluate scope index
    subscript object index
  | .call e items => do
    let object ← evaluate scope e
    let items ← evaluateItems scope items
    call object items
  | .unary op e => do unary op (← evaluate scope e)
  | .binary "and" a b => do
    let left ← evaluate scope a
    if left.isTruthy then evaluate scope b else return left
  | .binary "or" a b => do
    let left ← evaluate scope a
    if left.isTruthy then return left else evaluate scope b
  | .binary op a b => do
    let left ← evaluate scope a
    let right ← evaluate scope b
    binary op left right
  | .choice test yes no => do
    if (← evaluate scope test).isTruthy then evaluate scope yes else evaluate scope no
  | .object className => .ok (Object.ofValue (.foreign className ("<" ++ className ++ ">")))

def evaluateItems (scope : Scope) : List Expr → Except Error (List Object)
  | [] => .ok []
  | .spread e :: rest => do
    let items ← spreadItems (← evaluate scope e)
    let more ← evaluateItems scope rest
    return items ++ more
  | e :: rest => do
    let item ← evaluate scope e
    let more ← evaluateItems scope rest
    return item :: more

def evaluateEntries (scope : Scope) (found : List (Object × Object)) :
    List (Expr × Expr) → Except Error Object
  | [] => .ok (.dict found)
  | (key, value) :: rest => do
    let key ← evaluate scope key
    let value ← evaluate scope value
    let found ← putEntry found key value
    evaluateEntries scope found rest

end

/-- The type that an object stands for as a whole reference. -/
def asType (object : Object) : Except Error TypeExpr :=
  match object with
  | .tuple _ => .error (.notType object.shown)
  | object => (object.toType.asArgument).mapError .formation

/-- The type that a text denotes; a text inside it may be another reference. -/
def typeOfText (scope : Scope) (text : String) : Except Error TypeExpr :=
  match parse? text with
  | none => .error (.formation (.malformed text))
  | some e => do asType (← evaluate scope e)

/-! ### References inside types -/

mutual

/-- A type with what `onReference` gives in the place of its references. -/
def replace (onReference : String → Except Error TypeExpr) : TypeExpr → Except Error TypeExpr
  | .reference text => onReference text
  -- Among the arguments of a class, a text has stayed a value so far.
  | .value (.str text) =>
    if isExpression text then onReference text else .error (.formation (.malformed text))
  | .array form element => (replace onReference element).map (.array form)
  | .mapping form arguments => (replaceAll onReference arguments).map (.mapping form)
  | .generic head arguments => (replaceAll onReference arguments).map (.generic head)
  | .union style members => do
    let members ← replaceAll onReference members
    match style with
    | .applied => (TypeExpr.unionOf members).mapError .formation
    | .barred => (TypeExpr.barAll members).mapError .formation
  | .annotated base extras => (replace onReference base).map (·.withExtras extras)
  | type => .ok type

def replaceAll (onReference : String → Except Error TypeExpr) :
    List TypeExpr → Except Error (List TypeExpr)
  | [] => .ok []
  | type :: rest => do
    let type ← replace onReference type
    let rest ← replaceAll onReference rest
    return type :: rest

end

/-- How far references may lead from one to the next. -/
def maxDepth : Nat := 300

/-- The type that a reference denotes, at the end of a chain of `seen` references. -/
def follow (scope : Scope) : Nat → List String → String → Except Error TypeExpr
  | 0, _, _ => .error .endless
  | depth + 1, seen, text =>
    -- A reference that leads back to itself is no fault: it stays as it is.
    if seen.contains text then .ok (.reference text)
    else do
      let type ← typeOfText scope text
      replace (follow scope depth (text :: seen)) type

def resolve (scope : Scope) (type : TypeExpr) : Except Error TypeExpr :=
  replace (follow scope maxDepth []) type

/-- The type of a field, its references looked up. -/
def hintOf (scope : Scope) (type : TypeExpr) : Except Error TypeExpr := do
  let type ← (type.asArgument).mapError .formation
  resolve scope type

end Reference
end Schematic
