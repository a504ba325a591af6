import Schematic.Proofs.Outcome
import Schematic.Reference.Evaluation

/-!
What a type is with everything put aside that derivation does not see: the spellings of arrays and
mappings, the arguments of mappings, the extras at whatever depth, and what becomes of a type without a
schema.

For a type that is looked up this is `outline`.  A type as it is declared still has references in it,
which stay (`Erases`).  Looking up the references of a type gives what looking up those of its erasure
gives, seen in outline (`Erases.resolved`).  The erasure can have fewer references than the type, so that
a lookup of the type fails where one of its erasure does not; then there is nothing at all to look up in
the erasure (`Erases.fixed_or_strict`).
-/

namespace Schematic

/-- The text of an extra that is a tag. -/
def Extra.tag? : Extra → Option String
  | .tag text => some text
  | .value _ => none

namespace TypeExpr

/-- What derivation sees of a type that is looked up.  An ellipsis stands for the types without a
schema. -/
def outline : TypeExpr → TypeExpr
  | .scalar s => .scalar s
  | .openArray _ => .openArray .list
  | .array _ element => .array .list element.outline
  | .mapping _ _ => .mapping .dict []
  | .record ref => .record ref
  | .annotated base _ => base.outline
  | _ => .ellipsis

/-- The texts of the tags among the extras of a type. -/
def tags (type : TypeExpr) : List String :=
  type.extras.filterMap Extra.tag?

/-- The texts of the tags in all layers of extras around a type, the inner layers first. -/
def layeredTags : TypeExpr → List String
  | .annotated base extras => base.layeredTags ++ extras.filterMap Extra.tag?
  | _ => []

/-- A union that is still one once its references are looked up, whatever they denote. -/
def StaysUnion (type : TypeExpr) : Prop :=
  ∀ onReference found, Reference.replace onReference type = .ok found →
    ∃ style members, found = .union style members

/-- A declared type, and what is left of it when all is put aside that derivation does not see. -/
inductive Erases : TypeExpr → TypeExpr → Prop
  | scalar (s : Scalar) : Erases (.scalar s) (.scalar s)
  | openArray (form : ArrayForm) : Erases (.openArray form) (.openArray .list)
  | array (form : ArrayForm) {element erased : TypeExpr} (h : Erases element erased) :
      Erases (.array form element) (.array .list erased)
  | mapping (form : MappingForm) (arguments : List TypeExpr) :
      Erases (.mapping form arguments) (.mapping .dict [])
  | record (ref : RecordRef) : Erases (.record ref) (.record ref)
  | annotated {base erased : TypeExpr} (extras : List Extra) (h : Erases base erased) :
      Erases (.annotated base extras) erased
  | reference (text : String) : Erases (.reference text) (.reference text)
  | text (text : String) : Erases (.value (.str text)) (.reference text)
  /-- Equal members of a union are one, so that it can be more than a type without a schema. -/
  | written (style : UnionStyle) (members : List TypeExpr) :
      Erases (.union style members) (.union style members)
  | union {style : UnionStyle} {members : List TypeExpr}
      (h : (TypeExpr.union style members).StaysUnion) : Erases (.union style members) .ellipsis
  | named (ref : ClassRef) : Erases (.named ref) .ellipsis
  | generic (head : ClassRef) (arguments : List TypeExpr) :
      Erases (.generic head arguments) .ellipsis
  | literal (values : List Value) : Erases (.literal values) .ellipsis
  | value {v : Value} (h : ∀ text, v ≠ .str text) : Erases (.value v) .ellipsis
  | ellipsis : Erases .ellipsis .ellipsis

/-- Declared types that differ at most in what derivation does not see.  The tags directly around the
type of a field are seen. -/
structure Recast (type type' : TypeExpr) : Prop where
  erased : ∃ erased, Erases type erased ∧ Erases type' erased
  tags : type.layeredTags = type'.layeredTags

/-- Types that are looked up and look the same to derivation, as the types of fields. -/
structure Resembles (type type' : TypeExpr) : Prop where
  outline : type.outline = type'.outline
  tags : type.tags = type'.tags

variable {type erased found : TypeExpr}

theorem tagText_extras (type : TypeExpr) : tagText type.extras = " ".intercalate type.tags := by
  refine congrArg (" ".intercalate ·) (List.filterMap_congr fun extra _ => ?_)
  cases extra <;> rfl

theorem Resembles.tagText {type type' : TypeExpr} (h : type.Resembles type') :
    TypeExpr.tagText type.extras = TypeExpr.tagText type'.extras := by
  rw [tagText_extras, tagText_extras, h.tags]

/-! ## Extras -/

theorem outline_withExtras (type : TypeExpr) (extras : List Extra) :
    (type.withExtras extras).outline = type.outline := by
  cases type <;> rfl

theorem tags_withExtras (type : TypeExpr) (extras : List Extra) :
    (type.withExtras extras).tags = type.tags ++ extras.filterMap Extra.tag? := by
  cases type <;> first | rfl | exact List.filterMap_append

theorem outline_base : ∀ type : TypeExpr, type.base.outline = type.outline
  | .annotated base _ => outline_base base
  | .scalar _ | .openArray _ | .array _ _ | .mapping _ _ | .record _ | .named _ | .generic _ _
  | .union _ _ | .literal _ | .value _ | .reference _ | .ellipsis => rfl

/-! ## Erasure -/

/-- Nothing is looked up in a value that is no text. -/
theorem replace_value {v : Value} (hne : ∀ text, v ≠ .str text)
    (onReference : String → Except Reference.Error TypeExpr) :
    Reference.replace onReference (.value v) = .ok (.value v) := by
  cases v with
  | str text => exact absurd rfl (hne text)
  | _ => rfl

/-- There is nothing to look up in a type. -/
def IsFixed (type : TypeExpr) : Prop :=
  ∀ onReference, Reference.replace onReference type = .ok type

theorem exists_erases : ∀ type : TypeExpr, ∃ erased, type.Erases erased
  | .scalar s => ⟨_, .scalar s⟩
  | .openArray form => ⟨_, .openArray form⟩
  | .array form element =>
    let ⟨_, h⟩ := exists_erases element
    ⟨_, .array form h⟩
  | .mapping form arguments => ⟨_, .mapping form arguments⟩
  | .record ref => ⟨_, .record ref⟩
  | .named ref => ⟨_, .named ref⟩
  | .generic head arguments => ⟨_, .generic head arguments⟩
  | .union style members => ⟨_, .written style members⟩
  | .literal values => ⟨_, .literal values⟩
  | .annotated base extras =>
    let ⟨_, h⟩ := exists_erases base
    ⟨_, .annotated extras h⟩
  | .value (.str text) => ⟨_, .text text⟩
  | .value .null | .value (.bool _) | .value (.int _) | .value (.float _) | .value (.bytes _)
  | .value (.datetime _) | .value (.list _) | .value (.tuple _) | .value (.dict _)
  | .value (.view _) | .value (.record _ _) | .value (.foreign _ _) => ⟨_, .value nofun⟩
  | .reference text => ⟨_, .reference text⟩
  | .ellipsis => ⟨_, .ellipsis⟩

namespace Erases

theorem tags_erased (h : type.Erases erased) : erased.tags = [] := by
  induction h with
  | annotated _ _ ih => exact ih
  | _ => rfl

theorem outline (h : type.Erases erased) : type.outline = erased.outline := by
  induction h with
  | array form _ ih => exact congrArg (TypeExpr.array .list) ih
  | annotated _ _ ih => exact ih
  | _ => rfl

/-- The lookup of a type gives what that of its erasure gives, seen in outline, with the tags around
the type. -/
theorem resolved (h : type.Erases erased) {onReference : String → Except Reference.Error TypeExpr}
    (hfound : Reference.replace onReference type = .ok found) :
    ∃ v, Reference.replace onReference erased = .ok v ∧ found.outline = v.outline ∧
      found.tags = v.tags ++ type.layeredTags := by
  induction h generalizing found with
  | scalar | openArray | record | named | literal | ellipsis =>
    obtain rfl := Except.ok.inj hfound
    exact ⟨_, rfl, rfl, rfl⟩
  | value hne =>
    rw [replace_value hne] at hfound
    obtain rfl := Except.ok.inj hfound
    exact ⟨_, rfl, rfl, rfl⟩
  | array form _ ih =>
    obtain ⟨element, helement, rfl⟩ := Outcome.map_eq_ok hfound
    obtain ⟨v, hv, houtline, -⟩ := ih helement
    exact ⟨.array .list v, congrArg (Except.map _) hv, congrArg (TypeExpr.array .list) houtline, rfl⟩
  | mapping form arguments =>
    obtain ⟨_, -, rfl⟩ := Outcome.map_eq_ok hfound
    exact ⟨.mapping .dict [], rfl, rfl, rfl⟩
  | generic head arguments =>
    obtain ⟨_, -, rfl⟩ := Outcome.map_eq_ok hfound
    exact ⟨.ellipsis, rfl, rfl, rfl⟩
  | annotated extras _ ih =>
    obtain ⟨base, hbase, rfl⟩ := Outcome.map_eq_ok hfound
    obtain ⟨v, hv, houtline, htags⟩ := ih hbase
    refine ⟨v, hv, (outline_withExtras _ _).trans houtline, ?_⟩
    rw [tags_withExtras, htags, layeredTags, List.append_assoc]
  | reference text => exact ⟨found, hfound, rfl, (List.append_nil _).symm⟩
  | text text =>
    unfold Reference.replace at hfound
    split at hfound
    · exact ⟨found, hfound, rfl, (List.append_nil _).symm⟩
    · cases hfound
  | written => exact ⟨found, hfound, rfl, (List.append_nil _).symm⟩
  | union hstays =>
    obtain ⟨style, members, rfl⟩ := hstays _ _ hfound
    exact ⟨.ellipsis, rfl, rfl, rfl⟩

/-- A lookup of a type that comes to an unknown name comes to it in the erasure, too, unless there is
nothing to look up in that. -/
theorem fixed_or_strict (h : type.Erases erased) :
    erased.IsFixed ∨ ∀ onReference name,
      Reference.replace onReference type = .error (.unknownName name) →
        Reference.replace onReference erased = .error (.unknownName name) := by
  induction h with
  | scalar | openArray | mapping | record | union | named | generic | literal | value | ellipsis =>
    exact .inl fun _ => rfl
  | reference | written => exact .inr fun _ _ hfails => hfails
  | text text =>
    refine .inr fun onReference name hfails => ?_
    unfold Reference.replace at hfails
    split at hfails
    · exact hfails
    · cases hfails
  | array form _ ih =>
    refine ih.imp (fun hfixed onReference => ?_) fun hstrict onReference name hfails => ?_
    · exact congrArg (Except.map _) (hfixed onReference)
    · exact congrArg (Except.map _) (hstrict onReference name (Outcome.map_eq_error hfails))
  | annotated extras _ ih =>
    exact ih.imp_right fun hstrict onReference name hfails =>
      hstrict onReference name (Outcome.map_eq_error hfails)

variable {type' found' : TypeExpr} {onReference : String → Except Reference.Error TypeExpr}

/-- Types with one erasure and the same tags around them are looked up to the same, as far as
derivation sees it. -/
theorem resembles (h : type.Erases erased) (h' : type'.Erases erased)
    (htags : type.layeredTags = type'.layeredTags)
    (hfound : Reference.replace onReference type = .ok found)
    (hfound' : Reference.replace onReference type' = .ok found') : found.Resembles found' := by
  obtain ⟨v, hv, houtline, hseen⟩ := h.resolved hfound
  obtain ⟨v', hv', houtline', hseen'⟩ := h'.resolved hfound'
  obtain rfl := Except.ok.inj (hv.symm.trans hv')
  exact ⟨houtline.trans houtline'.symm, by rw [hseen, hseen', htags]⟩

/-- If there is nothing to look up in what is left of a type, then this is what the type becomes. -/
theorem known_of_fixed (h : type.Erases erased) (hfixed : erased.IsFixed)
    (hfound : Reference.replace onReference type = .ok found) :
    found.outline = erased.outline ∧ found.tags = type.layeredTags := by
  obtain ⟨v, hv, houtline, htags⟩ := h.resolved hfound
  obtain rfl := Except.ok.inj ((hfixed _).symm.trans hv)
  rw [h.tags_erased, List.nil_append] at htags
  exact ⟨houtline, htags⟩

/-- Otherwise no name is unknown in one type only of those with one erasure. -/
theorem not_unknown (h : type.Erases erased) (h' : type'.Erases erased) (hfixed : ¬ erased.IsFixed)
    (hfound : Reference.replace onReference type = .ok found) {name : String}
    (hunknown : Reference.replace onReference type' = .error (.unknownName name)) : False := by
  obtain ⟨v, hv, -, -⟩ := h.resolved hfound
  have hfails := h'.fixed_or_strict.resolve_left hfixed _ _ hunknown
  cases hv.symm.trans hfails

theorem asArgument (h : type.Erases erased) {argument : TypeExpr}
    (hargument : type.asArgument = .ok argument) :
    argument.Erases erased ∧ argument.layeredTags = type.layeredTags := by
  cases h with
  | text text =>
    simp only [TypeExpr.asArgument] at hargument
    split at hargument
    · obtain rfl := Except.ok.inj hargument
      exact ⟨.reference text, rfl⟩
    · cases hargument
  | @value v hne =>
    cases v with
    | null =>
      obtain rfl := Except.ok.inj hargument
      exact ⟨.named .null, rfl⟩
    | str text => exact absurd rfl (hne text)
    | _ =>
      obtain rfl := Except.ok.inj hargument
      exact ⟨.value hne, rfl⟩
  | _ =>
    obtain rfl := Except.ok.inj hargument
    exact ⟨by constructor <;> assumption, rfl⟩

end Erases

/-! ## Types that differ in what is not seen -/

namespace Recast

variable {type' found' : TypeExpr}

theorem rfl {type : TypeExpr} : type.Recast type :=
  let ⟨erased, h⟩ := exists_erases type
  ⟨⟨erased, h, h⟩, Eq.refl _⟩

theorem symm (h : type.Recast type') : type'.Recast type := by
  obtain ⟨⟨erased, herases, herases'⟩, htags⟩ := h
  exact ⟨⟨erased, herases', herases⟩, htags.symm⟩

/-- The types of two fields are looked up to the same, as far as derivation sees it. -/
theorem resembles (h : type.Recast type') {scope : Reference.Scope}
    (hfound : Reference.hintOf scope type = .ok found)
    (hfound' : Reference.hintOf scope type' = .ok found') : found.Resembles found' := by
  obtain ⟨⟨erased, herases, herases'⟩, htags⟩ := h
  obtain ⟨argument, hargument, hfound⟩ := Outcome.bind_eq_ok hfound
  obtain ⟨argument', hargument', hfound'⟩ := Outcome.bind_eq_ok hfound'
  obtain ⟨herases, hlayers⟩ := herases.asArgument (Outcome.mapError_eq_ok hargument)
  obtain ⟨herases', hlayers'⟩ := herases'.asArgument (Outcome.mapError_eq_ok hargument')
  exact herases.resembles herases' (by rw [hlayers, hlayers', htags]) hfound hfound'

end Recast

end TypeExpr
end Schematic
