import Schematic.TypeExpr
import Schematic.Value.Display

/-!
The names of types.  A class alone goes by its bare name; inside another type it is named
together with its module, and the module of the special forms is left out everywhere.
-/

namespace Schematic

/-- The characters of a text without the occurrences of a word; `skip` counts the
characters of an occurrence that are still to be passed over. -/
def Text.removeFrom (word : List Char) : Nat → List Char → List Char
  | _, [] => []
  | skip + 1, _ :: rest => removeFrom word skip rest
  | 0, c :: rest =>
    if word.isPrefixOf (c :: rest) then removeFrom word (word.length - 1) rest
    else c :: removeFrom word 0 rest

def Text.remove (word : String) (s : String) : String :=
  String.ofList (Text.removeFrom word.toList 0 s.toList)

def qualifiedName (module name : String) : String :=
  if module = ClassRef.standard then name else module ++ "." ++ name

def Scalar.className : Scalar → ClassRef
  | .bool => ⟨ClassRef.standard, "bool"⟩
  | .str => ⟨ClassRef.standard, "str"⟩
  | .int => ⟨ClassRef.standard, "int"⟩
  | .float => ⟨ClassRef.standard, "float"⟩
  | .datetime => ⟨"datetime", "datetime"⟩

def ArrayForm.className : ArrayForm → ClassRef
  | .list => ⟨ClassRef.standard, "list"⟩
  | .sequence => ⟨ClassRef.abstract, "Sequence"⟩
  | .listAlias => ⟨ClassRef.special, "List"⟩
  | .sequenceAlias => ⟨ClassRef.special, "Sequence"⟩

def MappingForm.className : MappingForm → ClassRef
  | .dict => ⟨ClassRef.standard, "dict"⟩
  | .mapping => ⟨ClassRef.abstract, "Mapping"⟩
  | .dictAlias => ⟨ClassRef.special, "Dict"⟩
  | .mappingAlias => ⟨ClassRef.special, "Mapping"⟩

def ClassRef.qualified (c : ClassRef) : String :=
  qualifiedName c.module c.name

def RecordRef.qualified (r : RecordRef) : String :=
  qualifiedName r.module r.name

def Extra.display : Extra → String
  | .tag text => "Tag(text=" ++ Text.quoted text ++ ")"
  | .value v => v.display

namespace TypeExpr

/-- A type applied to arguments; where there are none, the empty tuple stands for them. -/
def applied (head : String) (arguments : List String) : String :=
  head ++ "[" ++ (if arguments.isEmpty then "()" else ", ".intercalate arguments) ++ "]"

/-- The name of a function, with its module where that has to be named. -/
def functionName? : Value → Option String
  | .foreign "builtin_function_or_method" shown =>
    let name := String.ofList ((shown.toList.drop "<built-in function ".length).dropLast)
    some (if name = "open" then "io." ++ name else name)
  | _ => none

/-- The spelling of an argument: a function goes by its name, except among the arguments of an
alias. -/
def argumentText (isAlias : Bool) (argument : TypeExpr) (spelled : String) : String :=
  match isAlias, argument with
  | false, .value v => (functionName? v).getD spelled
  | _, _ => spelled

mutual

/-- The spelling of a type inside another one. -/
def spelling : TypeExpr → String
  | .scalar s => s.className.qualified
  | .openArray form => form.className.qualified
  | .array form element =>
    applied form.className.qualified [argumentText form.isAlias element (spelling element)]
  | .mapping form [] => form.className.qualified
  | .mapping form (a :: as) =>
    applied form.className.qualified
      (argumentText form.isAlias a (spelling a) :: spellings form.isAlias as)
  | .record ref => ref.qualified
  | .named ref => ref.qualified
  | .generic head [] => applied head.qualified []
  | .generic head (a :: as) =>
    applied head.qualified (argumentText head.isAlias a (spelling a) :: spellings head.isAlias as)
  | .union .barred members => " | ".intercalate (barredSpellings members)
  | .union .applied [a, b] =>
    if a.isNullClass then applied "typing.Optional" [spelling b]
    else if b.isNullClass then applied "typing.Optional" [spelling a]
    else applied "typing.Union" [spelling a, spelling b]
  | .union .applied members => applied "typing.Union" (spellings true members)
  | .literal values => applied "typing.Literal" (values.map Value.display)
  | .annotated base extras =>
    applied "typing.Annotated" (spelling base :: extras.map Extra.display)
  | .value v => v.display
  | .reference text => "ForwardRef(" ++ Text.quoted text ++ ")"
  | .ellipsis => "..."

def spellings (isAlias : Bool) : List TypeExpr → List String
  | [] => []
  | type :: rest => argumentText isAlias type (spelling type) :: spellings isAlias rest

/-- Between bars the class of null goes by the name of its value. -/
def barredSpellings : List TypeExpr → List String
  | [] => []
  | type :: rest =>
    (if type.isNullClass then "None" else spelling type) :: barredSpellings rest

end

def unsetExtra? (extras : List Extra) : Option Value.UnsetField :=
  extras.findSome? fun
    | .tag _ => none
    | .value v => v.unset?

mutual

/-- The first field of a record in a type that is not set, so that the type cannot be shown. -/
def unset? : TypeExpr → Option Value.UnsetField
  | .array _ element => unset? element
  | .mapping _ arguments => unsetArgument? arguments
  | .generic _ arguments => unsetArgument? arguments
  | .union _ members => unsetArgument? members
  | .literal values => Value.unsetItem? values
  | .annotated base extras => unset? base <|> unsetExtra? extras
  | .value v => v.unset?
  | _ => none

def unsetArgument? : List TypeExpr → Option Value.UnsetField
  | [] => none
  | type :: rest => unset? type <|> unsetArgument? rest

end

def class? : TypeExpr → Option String
  | .scalar s => some s.className.name
  | .openArray form => if form.isAlias then none else some form.className.name
  | .mapping form [] => if form.isAlias then none else some form.className.name
  | .record ref => some ref.name
  | .named ref => some ref.name
  | _ => none

/-- The name of a type in messages. -/
def display (type : TypeExpr) : String :=
  match type.class? with
  | some name => name
  | none =>
    match type with
    | .ellipsis => "Ellipsis"
    | type => Text.remove "typing." type.spelling

/-- How a type is shown as an object. -/
def shown (type : TypeExpr) : String :=
  match type with
  | .named ref =>
    if ref = .any then ref.qualified
    else if ref = .kind then "<enum " ++ Text.quoted ref.name ++ ">"
    else "<class " ++ Text.quoted ref.qualified ++ ">"
  | .ellipsis => "Ellipsis"
  | type =>
    if type.class?.isSome then "<class " ++ Text.quoted type.spelling ++ ">" else type.spelling

end TypeExpr

/-- The modules of the classes that are named together with them as objects. -/
def ClassRef.statedModules : List String := ["datetime", "collections"]

def ClassRef.objectName (ref : ClassRef) : String :=
  if statedModules.contains ref.module then ref.qualified else ref.name

def ClassRef.objectClass (ref : ClassRef) : String :=
  if ref = .any then "_AnyMeta"
  else if ref = .kind then "EnumType"
  else if ref.module = ClassRef.abstract then "ABCMeta"
  else "type"

namespace TypeExpr

def appliedClass (isAlias : Bool) : String :=
  if isAlias then "_GenericAlias" else "GenericAlias"

/-- The class of what stands alone but can be applied to arguments. -/
def openClass (head : ClassRef) : String :=
  if head.isAlias then "_SpecialGenericAlias" else head.objectClass

/-- The class of a type as an object. -/
def objectClass : TypeExpr → String
  | .scalar s => s.className.objectClass
  | .openArray form => openClass form.className
  | .array form _ => appliedClass form.isAlias
  | .mapping form [] => openClass form.className
  | .mapping form _ => appliedClass form.isAlias
  | .record ref =>
    match ref.kind with
    | .data => "type"
    | .model => "ModelMetaclass"
  | .named ref => ref.objectClass
  | .generic head _ => appliedClass head.isAlias
  | .union .applied _ => "_UnionGenericAlias"
  | .union .barred _ => "UnionType"
  | .literal _ => "_LiteralGenericAlias"
  | .annotated _ _ => "_AnnotatedAlias"
  | .value v => v.className
  | .reference _ => "ForwardRef"
  | .ellipsis => "ellipsis"

/-- The name of the class of a type where an operation is refused. -/
def operandClass : TypeExpr → String
  | .value v => v.operandClass
  | type =>
    let name := type.objectClass
    if name = "GenericAlias" ∨ name = "UnionType" then "types." ++ name else name

def toValue : TypeExpr → Value
  | .value v => v
  | type => .foreign type.objectClass type.shown

end TypeExpr
end Schematic
