import Schematic.Failure
import Schematic.MemberName
import Schematic.Record
import Schematic.Tag
import Schematic.TypeExpr.Display

/-!
Derivation of schemas from types.  A scalar gives a schema of its kind, an array one of its
element, and a mapping an open object, since its keys are not known beforehand.  A record
gives an object with a field for each of its own, under the member name.

A record among its own ancestors has no schema.  The records on the way from the outside are
carried along, so that each step into a record leaves fewer of them.
-/

namespace Schematic

/-- The number of records of a registry that are not among those seen. -/
def Registry.unseen (registry : Registry) (seen : List RecordRef) : Nat :=
  registry.classes.countP fun c => c.ref ∉ seen

/-- A narrower test counts fewer elements if it misses one that the wider test counts. -/
theorem countP_lt_of_mem {α : Type} {p q : α → Bool} {x : α} (himp : ∀ y, p y → q y)
    (hq : q x) (hp : ¬ p x) {xs : List α} (hmem : x ∈ xs) : xs.countP p < xs.countP q := by
  induction xs with
  | nil => cases hmem
  | cons y ys ih =>
    rw [List.countP_cons, List.countP_cons]
    rcases List.mem_cons.1 hmem with rfl | hmem
    · have := List.countP_mono_left (l := ys) fun y _ => himp y
      simp only [hq, hp, if_true, Bool.false_eq_true, if_false]
      omega
    · have := ih hmem
      have : (if p y then 1 else 0) ≤ (if q y then 1 else 0) := by
        by_cases h : p y
        · simp [h, himp y h]
        · simp [h]
      omega

theorem Registry.unseen_cons_lt {registry : Registry} {seen : List RecordRef}
    {ref : RecordRef} {c : RecordClass} (hseen : ref ∉ seen)
    (hfind : registry.find? ref = some c) :
    registry.unseen (ref :: seen) < registry.unseen seen := by
  have href : c.ref = ref := by simpa using List.find?_some hfind
  refine countP_lt_of_mem (x := c) (fun d hd => ?_) ?_ ?_ (List.mem_of_find?_eq_some hfind)
  · simp only [decide_eq_true_eq, List.mem_cons, not_or] at hd ⊢
    exact hd.2
  · simpa [href] using hseen
  · simp [href]

/-- Why a type is not even looked at to the end. -/
inductive TypeFault where
  /-- A reference that is no expression, or one that cannot be evaluated. -/
  | reference (e : Reference.Error)
  | unset (u : Value.UnsetField)
  deriving DecidableEq

def TypeFault.message : TypeFault → String
  | .reference e => e.message
  | .unset u => u.message

inductive Underivable where
  | failure (f : Failure)
  | fault (f : TypeFault)
  deriving DecidableEq

def Underivable.within (u : Underivable) (step : Step) : Underivable :=
  match u with
  | .failure f => .failure (f.within step)
  | .fault f => .fault f

def Cause.underivable (cause : Cause) : Underivable :=
  .failure (.here cause)

/-- What a reference without a meaning is reported as: a name that nothing has, or a type that
cannot be formed. -/
def Reference.Error.reason? (e : Reference.Error) : Option Report.Cause :=
  match e with
  | .unknownName _ => some .unknownName
  | e => if e.isMisfit then some .malformedType else none

namespace Derivation

def unsupported (type : TypeExpr) : Underivable :=
  match type.unset? with
  | some u => .fault (.unset u)
  | none => (Cause.unsupportedType type.display none).underivable

/-- A record whose fields cannot be listed. -/
def unlisted (ref : RecordRef) (e : Reference.Error) : Underivable :=
  match e.reason? with
  | some reason => (Cause.unsupportedType ref.name (some reason)).underivable
  | none => .fault (.reference e)

def ofType (onRecord : RecordRef → Except Underivable Schema) :
    TypeExpr → Except Underivable Schema
  | .scalar s => .ok (.ofKind s.kind)
  | .openArray _ => .ok (.ofKind .array)
  | .array _ element => (ofType onRecord element).map .arrayOf
  | .mapping _ _ => .ok (.ofKind .object)
  | .record ref => onRecord ref
  | .annotated base _ => ofType onRecord base
  | type => .error (unsupported type)

/-- The member that a field of a record becomes: the schema of its type, with its tag
applied. -/
def ofField [Text.Repertoire] (derive : TypeExpr → Except Underivable Schema)
    (field : RecordField) :
    Except Underivable (String × Field) :=
  let name := memberName field.name
  match derive field.hint with
  | .error reason => .error (reason.within (.field name))
  | .ok schema =>
    match Tag.parse schema.toField field.tag with
    | .error cause => .error cause.underivable
    | .ok member => .ok (name, member)

/-- The members that fields become, up to the first failure. -/
def ofFields [Text.Repertoire] (derive : TypeExpr → Except Underivable Schema) :
    List RecordField → Except Underivable (List (String × Field))
  | [] => .ok []
  | field :: rest => do
    let member ← ofField derive field
    let members ← ofFields derive rest
    return member :: members

def collect (members : List (String × Field)) : List (String × Field) :=
  -- Of two members with one name the later is kept, in the place of the earlier.
  members.foldl (fun found (name, field) => Value.putMember name field found) []

/-- The schema of a record, below the records that are seen. -/
def ofRecord [Text.Repertoire] (registry : Registry) (seen : List RecordRef) (ref : RecordRef) :
    Except Underivable Schema :=
  if _hseen : ref ∈ seen then .error (Cause.recursiveType ref.name).underivable
  else
    match _hfind : registry.find? ref with
    | none => .error (unsupported (.record ref))
    | some c =>
      match registry.fields c with
      | .error e => .error (unlisted ref e)
      | .ok fields => do
        let members ← ofFields (ofType fun inner => ofRecord registry (ref :: seen) inner) fields
        return .objectOf (collect members)
termination_by registry.unseen seen
decreasing_by exact Registry.unseen_cons_lt _hseen _hfind

end Derivation

/-- The schema of a type. -/
def Registry.derive [Text.Repertoire] (registry : Registry) (type : TypeExpr) :
    Except Underivable Schema := do
  -- The type is shown in any case, and one that cannot be shown has no schema.
  match Derivation.ofType (Derivation.ofRecord registry []) type, type.unset? with
  | .error (.fault f), _ => .error (.fault f)
  | _, some u => .error (.fault (.unset u))
  | result, none => result

def Value.classOf : Value → TypeExpr
  | .null => .named .null
  | .bool _ => .scalar .bool
  | .int _ => .scalar .int
  | .float _ => .scalar .float
  | .str _ => .scalar .str
  | .bytes _ => .named ⟨ClassRef.standard, "bytes"⟩
  | .datetime _ => .scalar .datetime
  | .list _ => .openArray .list
  | .tuple _ => .named ⟨ClassRef.standard, "tuple"⟩
  | .dict _ => .mapping .dict []
  | .view _ => .named ⟨ClassRef.standard, "mappingproxy"⟩
  | .record ref _ => .record ref
  | .foreign className _ => .named ⟨ClassRef.standard, className⟩

/-- The type that is meant: a value in the place of a type stands for its class. -/
def TypeExpr.meant : TypeExpr → TypeExpr
  | .value v => v.classOf
  | type => type

def TypeExpr.isRecord : TypeExpr → Bool
  | .record _ => true
  | _ => false

end Schematic
