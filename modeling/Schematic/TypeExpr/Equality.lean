import Schematic.TypeExpr

/-!
Equality of type expressions: extras are compared as values, unions as sets and without
regard to how they are written, and an alias differs from what it is an alias of.
-/

namespace Schematic

def Extra.same : Extra → Extra → Bool
  | .tag a, .tag b => a == b
  | .value a, .value b => Value.same a b
  | _, _ => false

def Extra.keyFault? : Extra → Option Value.KeyFault
  | .tag _ => none
  | .value v => v.keyFault?

namespace TypeExpr

def sameExtras : List Extra → List Extra → Bool
  | [], [] => true
  | a :: as, b :: bs => a.same b && sameExtras as bs
  | _, _ => false

/-- Equality of the value sets of two literal types. -/
def sameValues (as bs : List Value) : Bool :=
  as.all (fun a => bs.any a.sameTyped) && bs.all (fun b => as.any b.sameTyped)

mutual

def same : TypeExpr → TypeExpr → Bool
  | .scalar a, .scalar b => a == b
  | .openArray f, .openArray g => f == g
  | .array f a, .array g b => f == g && same a b
  | .mapping f as, .mapping g bs => f == g && sameList as bs
  | .record a, .record b => a == b
  | .named a, .named b => a == b
  | .generic c as, .generic d bs => c == d && sameList as bs
  | .union _ as, .union _ bs => as.length == bs.length && within as bs
  | .literal as, .literal bs => sameValues as bs
  | .annotated a xs, .annotated b ys => same a b && sameExtras xs ys
  | .value a, .value b => Value.same a b
  | .reference a, .reference b => a == b
  | .ellipsis, .ellipsis => true
  | _, _ => false
termination_by structural type => type

def sameList : List TypeExpr → List TypeExpr → Bool
  | [], [] => true
  | a :: as, b :: bs => same a b && sameList as bs
  | _, _ => false
termination_by structural types => types

/-- Every type of the first list is in the second. -/
def within : List TypeExpr → List TypeExpr → Bool
  | [], _ => true
  | a :: as, bs => bs.any (fun b => same a b) && within as bs
termination_by structural types => types

end

def extrasFault? (extras : List Extra) : Option Value.KeyFault :=
  extras.findSome? Extra.keyFault?

mutual

/-- Why a type cannot serve as a key: the first value in it that cannot. -/
def keyFault? : TypeExpr → Option Value.KeyFault
  | .array _ element => keyFault? element
  | .mapping _ arguments => argumentsFault? arguments
  | .generic _ arguments => argumentsFault? arguments
  | .union _ members => argumentsFault? members
  | .literal values => Value.itemsFault? values
  | .annotated base extras => keyFault? base <|> extrasFault? extras
  | .value v => v.keyFault?
  | _ => none

def argumentsFault? : List TypeExpr → Option Value.KeyFault
  | [] => none
  | type :: rest => keyFault? type <|> argumentsFault? rest

end

/-- The type can serve as a key: it holds no value that could be changed. -/
def isKey (type : TypeExpr) : Bool :=
  type.keyFault?.isNone

def distinct : List TypeExpr → List TypeExpr
  | [] => []
  | type :: rest => type :: (distinct rest).filter fun other => !same other type

end TypeExpr
end Schematic
