import Schematic.Loading
import Schematic.Proofs.Value.Entries
import Schematic.Validation

/-!
Records of the other kind.  Declarations of data records become declarations of models, with the
same names, bases, fields and defaults.  The types and values over such records change with them: they
are about the models of the same places and names.  Values that are written inside a type stay as they
are.

What a type or a value is called, and what there is to find in it, does not change.
-/

namespace Schematic

/-- The model in the place of a record that is declared by name. -/
def RecordRef.asModel (ref : RecordRef) : RecordRef :=
  if ref.module = Registry.recordModule then { ref with kind := .model, frozen := false } else ref

namespace Value

mutual

/-- A value with models in the places of the records. -/
def withModels : Value → Value
  | .list items => .list (itemsWithModels items)
  | .tuple items => .tuple (itemsWithModels items)
  | .dict entries => .dict (entriesWithModels entries)
  | .view entries => .view (entriesWithModels entries)
  | .record ref fields => .record ref.asModel (fieldsWithModels fields)
  | value => value

def itemsWithModels : List Value → List Value
  | [] => []
  | item :: rest => withModels item :: itemsWithModels rest

def entriesWithModels : List (Value × Value) → List (Value × Value)
  | [] => []
  | (key, value) :: rest => (withModels key, withModels value) :: entriesWithModels rest

def fieldsWithModels : List (String × Option Value) → List (String × Option Value)
  | [] => []
  | (name, some value) :: rest => (name, some (withModels value)) :: fieldsWithModels rest
  | (name, none) :: rest => (name, none) :: fieldsWithModels rest

end

end Value

namespace TypeExpr

mutual

/-- A type over models in the places of the records. -/
def withModels : TypeExpr → TypeExpr
  | .array form element => .array form (withModels element)
  | .mapping form arguments => .mapping form (allWithModels arguments)
  | .record ref => .record ref.asModel
  | .generic head arguments => .generic head (allWithModels arguments)
  | .union style members => .union style (allWithModels members)
  | .annotated base extras => .annotated (withModels base) extras
  | type => type

def allWithModels : List TypeExpr → List TypeExpr
  | [] => []
  | type :: rest => withModels type :: allWithModels rest

end

mutual

/-- The records that a type is written with. -/
def refs : TypeExpr → List RecordRef
  | .array _ element => refs element
  | .mapping _ arguments => allRefs arguments
  | .record ref => [ref]
  | .generic _ arguments => allRefs arguments
  | .union _ members => allRefs members
  | .annotated base _ => refs base
  | _ => []

def allRefs : List TypeExpr → List RecordRef
  | [] => []
  | type :: rest => refs type ++ allRefs rest

end

mutual

/-- A type in which there is nothing to look up. -/
def isSettled : TypeExpr → Bool
  | .reference _ => false
  | .value (.str _) => false
  | .array _ element => isSettled element
  | .mapping _ arguments => areSettled arguments
  | .generic _ arguments => areSettled arguments
  | .union _ members => areSettled members
  | .annotated base _ => isSettled base
  | _ => true

def areSettled : List TypeExpr → Bool
  | [] => true
  | type :: rest => isSettled type && areSettled rest

end

end TypeExpr

namespace Value

/-- Two values that are the same but for the kinds of the records in them. -/
def SameContents (v w : Value) : Prop :=
  v.withModels = w.withModels

end Value

def FieldDecl.asModel (field : FieldDecl) : FieldDecl :=
  { field with type := field.type.withModels, default := field.default.map Value.withModels }

def RecordDecl.asModel (decl : RecordDecl) : RecordDecl :=
  { decl with kind := .model, fields := decl.fields.map FieldDecl.asModel }

/-! ## References to records -/

namespace RecordRef

variable (ref : RecordRef)

@[simp] theorem asModel_name : ref.asModel.name = ref.name := by
  unfold asModel
  split <;> rfl

@[simp] theorem asModel_module : ref.asModel.module = ref.module := by
  unfold asModel
  split <;> rfl

@[simp] theorem asModel_index : ref.asModel.index = ref.index := by
  unfold asModel
  split <;> rfl

theorem asModel_of_module {ref : RecordRef} (h : ref.module = Registry.recordModule) :
    ref.asModel = { ref with kind := .model, frozen := false } :=
  if_pos h

theorem asModel_of_ne {ref : RecordRef} (h : ref.module ≠ Registry.recordModule) :
    ref.asModel = ref :=
  if_neg h

@[simp] theorem asModel_asModel : ref.asModel.asModel = ref.asModel := by
  by_cases h : ref.module = Registry.recordModule
  · rw [asModel_of_module ((asModel_module ref).trans h), asModel_of_module h]
  · rw [asModel_of_ne h, asModel_of_ne h]

end RecordRef

/-! ## Values -/

namespace Value

theorem itemsWithModels_eq (items : List Value) :
    itemsWithModels items = items.map withModels := by
  induction items with
  | nil => rfl
  | cons item rest ih => rw [itemsWithModels, ih, List.map_cons]

theorem fieldsWithModels_eq (fields : List (String × Option Value)) :
    fieldsWithModels fields = fields.map fun p => (p.1, p.2.map withModels) := by
  induction fields with
  | nil => rfl
  | cons p rest ih =>
    obtain ⟨name, value⟩ := p
    cases value <;> rw [fieldsWithModels, ih, List.map_cons] <;> rfl

@[simp] theorem className_withModels (value : Value) :
    value.withModels.className = value.className := by
  cases value with
  | record ref fields => exact ref.asModel_name
  | _ => rfl

@[simp] theorem isNull_withModels (value : Value) : value.withModels.isNull = value.isNull := by
  cases value <;> rfl

theorem entries?_withModels (value : Value) :
    value.withModels.entries? = value.entries?.map entriesWithModels := by
  cases value <;> rfl

theorem items?_withModels (value : Value) :
    value.withModels.items? = value.items?.map itemsWithModels := by
  cases value <;> rfl

theorem isText_withModels (name : String) (key : Value) :
    key.withModels.isText name = key.isText name := by
  cases key <;> rfl

theorem lookup_withModels (name : String) (entries : List (Value × Value)) :
    lookup name (entriesWithModels entries) = (lookup name entries).withModels := by
  induction entries with
  | nil => rfl
  | cons e rest ih =>
    obtain ⟨key, value⟩ := e
    rw [entriesWithModels, lookup_cons, lookup_cons, isText_withModels, ih]
    split <;> rfl

theorem accepts_withModels (kind : Kind) (value : Value) :
    kind.accepts value.withModels = kind.accepts value := by
  cases kind <;> cases value <;> rfl

mutual

theorem withModels_withModels : ∀ value : Value, value.withModels.withModels = value.withModels
  | .null | .bool _ | .int _ | .float _ | .str _ | .bytes _ | .datetime _ | .foreign _ _ => rfl
  | .list items => congrArg Value.list (items_twice items)
  | .tuple items => congrArg Value.tuple (items_twice items)
  | .dict entries => congrArg Value.dict (entries_twice entries)
  | .view entries => congrArg Value.view (entries_twice entries)
  | .record ref fields => by
    rw [withModels, withModels, ref.asModel_asModel, fields_twice fields]

theorem items_twice : ∀ items : List Value,
    itemsWithModels (itemsWithModels items) = itemsWithModels items
  | [] => rfl
  | item :: rest => by
    rw [itemsWithModels, itemsWithModels, withModels_withModels item, items_twice rest]

theorem entries_twice : ∀ entries : List (Value × Value),
    entriesWithModels (entriesWithModels entries) = entriesWithModels entries
  | [] => rfl
  | (key, value) :: rest => by
    rw [entriesWithModels, entriesWithModels, withModels_withModels key,
      withModels_withModels value, entries_twice rest]

theorem fields_twice : ∀ fields : List (String × Option Value),
    fieldsWithModels (fieldsWithModels fields) = fieldsWithModels fields
  | [] => rfl
  | (name, some value) :: rest => by
    rw [fieldsWithModels, fieldsWithModels, withModels_withModels value, fields_twice rest]
  | (name, none) :: rest => by rw [fieldsWithModels, fieldsWithModels, fields_twice rest]

end

mutual

theorem holdsView_withModels : ∀ value : Value, value.withModels.holdsView = value.holdsView
  | .null | .bool _ | .int _ | .float _ | .str _ | .bytes _ | .datetime _ | .view _
  | .foreign _ _ => rfl
  | .list items => itemsHoldView_withModels items
  | .tuple items => itemsHoldView_withModels items
  | .dict entries => entriesHoldView_withModels entries
  | .record _ fields => fieldsHoldView_withModels fields

theorem itemsHoldView_withModels : ∀ items : List Value,
    itemsHoldView (itemsWithModels items) = itemsHoldView items
  | [] => rfl
  | item :: rest => by
    rw [itemsWithModels, itemsHoldView, itemsHoldView, holdsView_withModels item,
      itemsHoldView_withModels rest]

theorem entriesHoldView_withModels : ∀ entries : List (Value × Value),
    entriesHoldView (entriesWithModels entries) = entriesHoldView entries
  | [] => rfl
  | (key, value) :: rest => by
    rw [entriesWithModels, entriesHoldView, entriesHoldView, holdsView_withModels key,
      holdsView_withModels value, entriesHoldView_withModels rest]

theorem fieldsHoldView_withModels : ∀ fields : List (String × Option Value),
    fieldsHoldView (fieldsWithModels fields) = fieldsHoldView fields
  | [] => rfl
  | (_, some value) :: rest => by
    rw [fieldsWithModels, fieldsHoldView, fieldsHoldView, holdsView_withModels value,
      fieldsHoldView_withModels rest]
  | (_, none) :: rest => fieldsHoldView_withModels rest

end

/-! ### Values with the same contents -/

namespace SameContents

variable {v w : Value}

theorem refl (v : Value) : v.SameContents v :=
  rfl

theorem withModels (v : Value) : v.SameContents v.withModels :=
  (withModels_withModels v).symm

theorem isNull (h : v.SameContents w) : v.isNull = w.isNull := by
  rw [← isNull_withModels, h, isNull_withModels]

end SameContents

end Value

/-! ## Types -/

namespace TypeExpr

theorem allWithModels_eq (types : List TypeExpr) : allWithModels types = types.map withModels := by
  induction types with
  | nil => rfl
  | cons type rest ih => rw [allWithModels, ih, List.map_cons]

theorem base_withModels : ∀ type : TypeExpr, type.withModels.base = type.base.withModels
  | .annotated base _ => base_withModels base
  | .scalar _ | .openArray _ | .array _ _ | .mapping _ _ | .record _ | .named _ | .generic _ _
  | .union _ _ | .literal _ | .value _ | .reference _ | .ellipsis => rfl

theorem refs_base : ∀ type : TypeExpr, type.base.refs = type.refs
  | .annotated base _ => refs_base base
  | .scalar _ | .openArray _ | .array _ _ | .mapping _ _ | .record _ | .named _ | .generic _ _
  | .union _ _ | .literal _ | .value _ | .reference _ | .ellipsis => rfl

theorem base_base : ∀ type : TypeExpr, type.base.base = type.base
  | .annotated base _ => base_base base
  | .scalar _ | .openArray _ | .array _ _ | .mapping _ _ | .record _ | .named _ | .generic _ _
  | .union _ _ | .literal _ | .value _ | .reference _ | .ellipsis => rfl

theorem extras_withModels (type : TypeExpr) : type.withModels.extras = type.extras := by
  cases type <;> rfl

theorem isSpecial_withModels (type : TypeExpr) : type.withModels.isSpecial = type.isSpecial := by
  cases type <;> rfl

theorem isNullClass_withModels (type : TypeExpr) :
    type.withModels.isNullClass = type.isNullClass := by
  cases type <;> rfl

theorem members_withModels (type : TypeExpr) :
    type.withModels.members = type.members.map withModels := by
  cases type with
  | union style members => exact allWithModels_eq members
  | _ => rfl

theorem argumentText_withModels (isAlias : Bool) (type : TypeExpr) (spelled : String) :
    argumentText isAlias type.withModels spelled = argumentText isAlias type spelled := by
  cases isAlias <;> cases type <;> rfl

theorem qualified_asModel (ref : RecordRef) : ref.asModel.qualified = ref.qualified := by
  unfold RecordRef.qualified
  rw [RecordRef.asModel_module, RecordRef.asModel_name]

mutual

theorem spelling_withModels : ∀ type : TypeExpr, type.withModels.spelling = type.spelling
  | .scalar _ | .openArray _ | .mapping _ [] | .named _ | .generic _ [] | .literal _ | .value _
  | .reference _ | .ellipsis => rfl
  | .record ref => qualified_asModel ref
  | .array form element => by
    rw [withModels, spelling, spelling, argumentText_withModels, spelling_withModels element]
  | .mapping form (first :: rest) => by
    rw [withModels, allWithModels, spelling, spelling, argumentText_withModels,
      spelling_withModels first, spellings_withModels _ rest]
  | .generic head (first :: rest) => by
    rw [withModels, allWithModels, spelling, spelling, argumentText_withModels,
      spelling_withModels first, spellings_withModels _ rest]
  | .annotated base extras => by
    rw [withModels, spelling, spelling, spelling_withModels base]
  | .union .barred members => by
    rw [withModels, spelling, spelling, barredSpellings_withModels members]
  | .union .applied [] => by
    simp only [withModels, allWithModels, spelling, spellings]
  | .union .applied [type] => by
    simp only [withModels, allWithModels, spelling, spellings, argumentText_withModels,
      spelling_withModels type]
  | .union .applied [left, right] => by
    simp only [withModels, allWithModels, spelling, isNullClass_withModels,
      spelling_withModels left, spelling_withModels right]
  | .union .applied (first :: second :: third :: rest) => by
    simp only [withModels, allWithModels, spelling, spellings, argumentText_withModels,
      spelling_withModels first, spelling_withModels second, spelling_withModels third,
      spellings_withModels true rest]

theorem spellings_withModels (isAlias : Bool) : ∀ types : List TypeExpr,
    spellings isAlias (allWithModels types) = spellings isAlias types
  | [] => rfl
  | type :: rest => by
    rw [allWithModels, spellings, spellings, argumentText_withModels, spelling_withModels type,
      spellings_withModels isAlias rest]

theorem barredSpellings_withModels : ∀ types : List TypeExpr,
    barredSpellings (allWithModels types) = barredSpellings types
  | [] => rfl
  | type :: rest => by
    rw [allWithModels, barredSpellings, barredSpellings, isNullClass_withModels,
      spelling_withModels type, barredSpellings_withModels rest]

end

mutual

theorem isSettled_withModels : ∀ type : TypeExpr, type.withModels.isSettled = type.isSettled
  | .scalar _ | .openArray _ | .record _ | .named _ | .literal _ | .value _ | .reference _
  | .ellipsis => rfl
  | .array _ element => isSettled_withModels element
  | .mapping _ arguments => areSettled_withModels arguments
  | .generic _ arguments => areSettled_withModels arguments
  | .union _ members => areSettled_withModels members
  | .annotated base _ => isSettled_withModels base

theorem areSettled_withModels : ∀ types : List TypeExpr,
    areSettled (allWithModels types) = areSettled types
  | [] => rfl
  | type :: rest => by
    rw [allWithModels, areSettled, areSettled, isSettled_withModels type,
      areSettled_withModels rest]

end

theorem class?_withModels (type : TypeExpr) : type.withModels.class? = type.class? := by
  cases type with
  | record ref => exact congrArg some ref.asModel_name
  | mapping form arguments => cases arguments <;> rfl
  | _ => rfl

theorem display_withModels (type : TypeExpr) : type.withModels.display = type.display := by
  have hspelling := type.spelling_withModels
  unfold display
  rw [class?_withModels]
  cases type.class? with
  | some name => rfl
  | none =>
    cases type with
    | ellipsis => rfl
    | _ => exact congrArg (Text.remove "typing.") hspelling

mutual

theorem unset?_withModels : ∀ type : TypeExpr, type.withModels.unset? = type.unset?
  | .scalar _ | .openArray _ | .record _ | .named _ | .literal _ | .value _ | .reference _
  | .ellipsis => rfl
  | .array _ element => unset?_withModels element
  | .mapping _ arguments => unsetArgument?_withModels arguments
  | .generic _ arguments => unsetArgument?_withModels arguments
  | .union _ members => unsetArgument?_withModels members
  | .annotated base extras => congrArg (· <|> unsetExtra? extras) (unset?_withModels base)

theorem unsetArgument?_withModels : ∀ types : List TypeExpr,
    unsetArgument? (allWithModels types) = unsetArgument? types
  | [] => rfl
  | type :: rest => by
    rw [allWithModels, unsetArgument?, unsetArgument?, unset?_withModels type,
      unsetArgument?_withModels rest]

end

mutual

theorem keyFault?_withModels : ∀ type : TypeExpr, type.withModels.keyFault? = type.keyFault?
  | .scalar _ | .openArray _ | .record _ | .named _ | .literal _ | .value _ | .reference _
  | .ellipsis => rfl
  | .array _ element => keyFault?_withModels element
  | .mapping _ arguments => argumentsFault?_withModels arguments
  | .generic _ arguments => argumentsFault?_withModels arguments
  | .union _ members => argumentsFault?_withModels members
  | .annotated base extras => congrArg (· <|> extrasFault? extras) (keyFault?_withModels base)

theorem argumentsFault?_withModels : ∀ types : List TypeExpr,
    argumentsFault? (allWithModels types) = argumentsFault? types
  | [] => rfl
  | type :: rest => by
    rw [allWithModels, argumentsFault?, argumentsFault?, keyFault?_withModels type,
      argumentsFault?_withModels rest]

end

theorem elementType_withModels (type : TypeExpr) :
    Loading.elementType type.withModels = (Loading.elementType type).withModels := by
  cases type with
  | mapping form arguments => cases arguments <;> rfl
  | generic head arguments => cases arguments <;> rfl
  | union style members => cases members <;> rfl
  | literal values => cases values <;> rfl
  | _ => rfl

theorem unsupported_withModels (type : TypeExpr) :
    Derivation.unsupported type.withModels = Derivation.unsupported type := by
  unfold Derivation.unsupported
  rw [unset?_withModels, display_withModels]

theorem refuseObject_withModels (type : TypeExpr) :
    Loading.refuseObject type.withModels = Loading.refuseObject type := by
  unfold Loading.refuseObject
  rw [unset?_withModels, display_withModels]

end TypeExpr
end Schematic
