import Schematic.TypeExpr

/-!
The vocabulary that references can use without any record being defined: classes, functions
and constants, and the members of the classes.
-/

namespace Schematic
namespace Reference

/-- The classes that are neither scalars, arrays nor mappings, those of errors apart. -/
def classNames : List String :=
  ["memoryview", "bytearray", "bytes", "classmethod", "complex", "enumerate", "filter", "frozenset",
    "property", "map", "object", "range", "reversed", "set", "slice", "staticmethod", "super",
    "tuple", "type", "zip"]

def errorNames : List String :=
  ["BaseException", "BaseExceptionGroup", "Exception", "GeneratorExit", "KeyboardInterrupt",
    "SystemExit", "ArithmeticError", "AssertionError", "AttributeError", "BufferError",
    "EOFError", "ImportError", "LookupError", "MemoryError", "NameError", "OSError",
    "ReferenceError", "RuntimeError", "StopAsyncIteration", "StopIteration", "SyntaxError",
    "SystemError", "TypeError", "ValueError", "Warning", "FloatingPointError", "OverflowError",
    "ZeroDivisionError", "BytesWarning", "DeprecationWarning", "EncodingWarning", "FutureWarning",
    "ImportWarning", "PendingDeprecationWarning", "ResourceWarning", "RuntimeWarning",
    "SyntaxWarning", "UnicodeWarning", "UserWarning", "BlockingIOError", "ChildProcessError",
    "ConnectionError", "FileExistsError", "FileNotFoundError", "InterruptedError",
    "IsADirectoryError", "NotADirectoryError", "PermissionError", "ProcessLookupError",
    "TimeoutError", "IndentationError", "IndexError", "KeyError", "ModuleNotFoundError",
    "NotImplementedError", "RecursionError", "UnboundLocalError", "UnicodeError",
    "BrokenPipeError", "ConnectionAbortedError", "ConnectionRefusedError", "ConnectionResetError",
    "TabError", "UnicodeDecodeError", "UnicodeEncodeError", "UnicodeTranslateError",
    "ExceptionGroup"]

/-- Names that stand for the class of errors of the operating system. -/
def systemErrorNames : List String := ["EnvironmentError", "IOError"]

def functionNames : List String :=
  ["__build_class__", "__import__", "abs", "all", "any", "ascii", "bin", "breakpoint", "callable",
    "chr", "compile", "delattr", "dir", "divmod", "eval", "exec", "format", "getattr", "globals",
    "hasattr", "hash", "hex", "id", "input", "isinstance", "issubclass", "iter", "aiter", "len",
    "locals", "max", "min", "next", "anext", "oct", "ord", "pow", "print", "repr", "round",
    "setattr", "sorted", "sum", "vars", "open"]

/-- The classes that can be applied to arguments, arrays and mappings apart. -/
def applicableNames : List String :=
  ["enumerate", "frozenset", "set", "tuple", "type", "BaseExceptionGroup", "ExceptionGroup"]

def functionObject (name : String) : Value :=
  .foreign "builtin_function_or_method" ("<built-in function " ++ name ++ ">")

/-- What leaves a session when it is called. -/
def leaver (name : String) : Value :=
  .foreign "Quitter" ("Use " ++ name ++ "() or Ctrl-D (i.e. EOF) to exit")

/-- The type, or the value in the place of one, that a name of the vocabulary denotes. -/
def standard? (name : String) : Option TypeExpr :=
  match name with
  | "bool" => some (.scalar .bool)
  | "str" => some (.scalar .str)
  | "int" => some (.scalar .int)
  | "float" => some (.scalar .float)
  | "list" => some (.openArray .list)
  | "dict" => some (.mapping .dict [])
  | "Ellipsis" => some .ellipsis
  | "NotImplemented" => some (.value (.foreign "NotImplementedType" "NotImplemented"))
  | "__debug__" => some (.value (.bool true))
  | "exit" | "quit" => some (.value (leaver name))
  | "help" =>
    some (.value (.foreign "_Helper"
      "Type help() for interactive help, or help(object) for help about object."))
  | "license" =>
    some (.value (.foreign "_Printer" "Type license() to see the full license text"))
  | _ =>
    if classNames.contains name || errorNames.contains name then
      some (.named ⟨ClassRef.standard, name⟩)
    else if systemErrorNames.contains name then some (.named ⟨ClassRef.standard, "OSError"⟩)
    else if functionNames.contains name then some (.value (functionObject name))
    else none

/-- The methods of the classes of texts, numbers, containers and errors. -/
def methodNames (className : String) : List String :=
  match className with
  | "int" =>
    ["conjugate", "bit_length", "bit_count", "to_bytes", "as_integer_ratio"]
  | "float" =>
    ["conjugate", "as_integer_ratio", "hex", "is_integer"]
  | "complex" =>
    ["conjugate"]
  | "str" =>
    ["encode", "replace", "split", "rsplit", "join", "capitalize", "casefold",
      "title", "center", "count", "expandtabs", "find", "partition", "index", "ljust", "lower",
      "lstrip", "rfind", "rindex", "rjust", "rstrip", "rpartition", "splitlines", "strip",
      "swapcase", "translate", "upper", "startswith", "endswith", "removeprefix", "removesuffix",
      "isascii", "islower", "isupper", "istitle", "isspace", "isdecimal", "isdigit", "isnumeric",
      "isalpha", "isalnum", "isidentifier", "isprintable", "zfill", "format", "format_map"]
  | "bytes" =>
    ["capitalize", "center", "count", "decode", "endswith", "expandtabs", "find",
      "hex", "index", "isalnum", "isalpha", "isascii", "isdigit", "islower", "isspace", "istitle",
      "isupper", "join", "ljust", "lower", "lstrip", "partition", "replace", "removeprefix",
      "removesuffix", "rfind", "rindex", "rjust", "rpartition", "rsplit", "rstrip", "split",
      "splitlines", "startswith", "strip", "swapcase", "title", "translate", "upper", "zfill"]
  | "list" =>
    ["clear", "copy", "append", "insert", "extend", "pop", "remove", "index",
      "count", "reverse", "sort"]
  | "dict" =>
    ["get", "setdefault", "pop", "popitem", "keys", "items", "values", "update",
      "clear", "copy"]
  | "tuple" =>
    ["index", "count"]
  | "set" =>
    ["add", "clear", "copy", "discard", "difference", "difference_update",
      "intersection", "intersection_update", "isdisjoint", "issubset", "issuperset", "pop",
      "remove", "symmetric_difference", "symmetric_difference_update", "union", "update"]
  | "frozenset" =>
    ["copy", "difference", "intersection", "isdisjoint", "issubset",
      "issuperset", "symmetric_difference", "union"]
  | "BaseException" => ["add_note", "with_traceback"]
  | _ => []

/-- The attributes of the classes of numbers and errors. -/
def attributeNames (className : String) : List String :=
  match className with
  | "int" => ["real", "imag", "numerator", "denominator"]
  | "float" => ["real", "imag"]
  | "BaseException" => ["args"]
  | _ => []

/-- The class that the members of a class belong to. -/
def memberOwner (className : String) : String :=
  if className = "bool" then "int"
  else if errorNames.contains className then "BaseException"
  else className

def member? (className name : String) : Option Value :=
  let owner := memberOwner className
  let shown (kind : String) : String :=
    "<" ++ kind ++ " '" ++ name ++ "' of '" ++ owner ++ "' objects>"
  if (methodNames owner).contains name then
    some (.foreign "method_descriptor" (shown "method"))
  else if (attributeNames owner).contains name then
    some (.foreign "getset_descriptor" (shown "attribute"))
  else none

end Reference
end Schematic
