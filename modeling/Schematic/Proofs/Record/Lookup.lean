import Schematic.Proofs.Record.Correspondence
import Schematic.Proofs.TypeExpr.Erasure

/-!
Fields of models that are declared with types which differ in what derivation does not see.

The types of models are looked up in two rounds, and it can take one side one round and the other side
two, since a type can have references where its erasure has none.  What the type of a field is known to
become (`ModelField.Stands`) is kept by both rounds: where the sides are apart there is nothing to look
up in the erasure, which then comes to the same in either round.  When all fields of a model are complete
on both sides they resemble each other.
-/

namespace Schematic

/-! ## Declarations -/

/-- Declarations of a field that differ at most in what derivation does not see of its type. -/
structure FieldDecl.Recast (field field' : FieldDecl) : Prop where
  name : field.name = field'.name
  type : field.type.Recast field'.type
  default : field.default = field'.default
  tag : field.tag = field'.tag
  loaded : field.loaded = field'.loaded
  bare : field.bare = field'.bare

/-- Declarations of a record that differ at most in what derivation does not see of the types of its
fields. -/
structure RecordDecl.Recast (decl decl' : RecordDecl) : Prop where
  name : decl.name = decl'.name
  kind : decl.kind = decl'.kind
  fields : List.Forall₂ FieldDecl.Recast decl.fields decl'.fields
  bases : decl.bases = decl'.bases
  frozen : decl.frozen = decl'.frozen

theorem FieldDecl.Recast.symm {field field' : FieldDecl} (h : field.Recast field') :
    field'.Recast field :=
  ⟨h.name.symm, h.type.symm, h.default.symm, h.tag.symm, h.loaded.symm, h.bare.symm⟩

theorem RecordDecl.Recast.symm {decl decl' : RecordDecl} (h : decl.Recast decl') :
    decl'.Recast decl :=
  ⟨h.name.symm, h.kind.symm, h.fields.flip.imp fun _ _ hfield => hfield.symm, h.bases.symm,
    h.frozen.symm⟩

/-! ## Fields of models -/

/-- What the type of a field is known to become: what it erases to as long as it is to be looked up,
and then the outline of what that comes to. -/
structure ModelField.Stands (erased : TypeExpr) (tags : List String) (field : ModelField) : Prop where
  complete : field.isComplete = true → field.type.outline = erased.outline ∧ field.type.tags = tags
  incomplete : field.isComplete = false → field.type.Erases erased ∧ field.type.layeredTags = tags

/-- Fields of models whose types are looked up in the same rounds to the same, as far as derivation
sees it, or in different ones if there is nothing to look up in what is left of them. -/
structure ModelField.Recast (field field' : ModelField) : Prop where
  name : field.name = field'.name
  default : field.default = field'.default
  type : ∃ erased tags, field.Stands erased tags ∧ field'.Stands erased tags ∧
    (field.isComplete = field'.isComplete ∨ erased.IsFixed)

/-- Fields of models that look the same to derivation. -/
structure ModelField.Resembles (field field' : ModelField) : Prop where
  name : field.name = field'.name
  default : field.default = field'.default
  type : field.type.Resembles field'.type

/-- Fields of models that look the same to derivation once all of them are complete. -/
def ModelField.Settled (fields fields' : List ModelField) : Prop :=
  (∀ field ∈ fields, field.isComplete = true) → (∀ field ∈ fields', field.isComplete = true) →
    List.Forall₂ ModelField.Resembles fields fields'

namespace ModelField

variable {scope : Reference.Scope} {type type' erased : TypeExpr} {tags : List String}
  {field field' found found' : ModelField} {fields fields' : List ModelField}

theorem Stands.of_complete (hcomplete : field.isComplete = true)
    (houtline : field.type.outline = erased.outline) (htags : field.type.tags = tags) :
    field.Stands erased tags :=
  ⟨fun _ => ⟨houtline, htags⟩, fun hincomplete => absurd (hcomplete.symm.trans hincomplete) nofun⟩

theorem Stands.of_incomplete (hincomplete : field.isComplete = false)
    (herases : field.type.Erases erased) (htags : field.type.layeredTags = tags) :
    field.Stands erased tags :=
  ⟨fun hcomplete => absurd (hcomplete.symm.trans hincomplete) nofun, fun _ => ⟨herases, htags⟩⟩

theorem Recast.withDefault (h : field.Recast field') {default default' : Option Value}
    (hdefault : default = default') :
    ModelField.Recast { field with default } { field' with default := default' } := by
  obtain ⟨erased, tags, hstands, hstands', hsame⟩ := h.type
  exact ⟨h.name, hdefault, erased, tags, ⟨hstands.complete, hstands.incomplete⟩,
    ⟨hstands'.complete, hstands'.incomplete⟩, hsame⟩

/-- Of fields that look the same to derivation it is known alike what their types become. -/
theorem Resembles.recast (h : field.Resembles field') (hcomplete : field.isComplete = true)
    (hcomplete' : field'.isComplete = true) : field.Recast field' where
  name := h.name
  default := h.default
  type := ⟨field.type, field.type.tags, .of_complete hcomplete rfl rfl,
    .of_complete hcomplete' h.type.outline.symm h.type.tags.symm,
    .inl (hcomplete.trans hcomplete'.symm)⟩

theorem Settled.recast (h : Settled fields fields')
    (hcomplete : ∀ field ∈ fields, field.isComplete = true)
    (hcomplete' : ∀ field ∈ fields', field.isComplete = true) :
    List.Forall₂ ModelField.Recast fields fields' :=
  (Outcome.forall₂_and hcomplete hcomplete' (h hcomplete hcomplete')).imp
    fun _ _ ⟨hfield, hfield', hresembles⟩ => hresembles.recast hfield hfield'

theorem LooksUp.stands (h : field.LooksUp scope type) (hfixed : erased.IsFixed)
    (herases : type.Erases erased) : field.Stands erased type.layeredTags := by
  cases h with
  | found hcomplete hfound =>
    obtain ⟨houtline, htags⟩ := herases.known_of_fixed hfixed hfound
    exact .of_complete hcomplete houtline htags
  | unknown name hincomplete htype =>
    subst htype
    exact .of_incomplete hincomplete herases rfl

/-- Two types with one erasure are looked up alike in one scope. -/
theorem LooksUp.recast (h : field.LooksUp scope type) (h' : field'.LooksUp scope type')
    (herases : type.Erases erased) (herases' : type'.Erases erased)
    (htags : type.layeredTags = type'.layeredTags) :
    ∃ erased tags, field.Stands erased tags ∧ field'.Stands erased tags ∧
      (field.isComplete = field'.isComplete ∨ erased.IsFixed) := by
  by_cases hfixed : erased.IsFixed
  · exact ⟨erased, _, h.stands hfixed herases, htags ▸ h'.stands hfixed herases', .inr hfixed⟩
  cases h with
  | found hcomplete hfound =>
    cases h' with
    | found hcomplete' hfound' =>
      have hresembles := herases.resembles herases' htags hfound hfound'
      exact ⟨field.type, field.type.tags, .of_complete hcomplete rfl rfl,
        .of_complete hcomplete' hresembles.outline.symm hresembles.tags.symm,
        .inl (hcomplete.trans hcomplete'.symm)⟩
    | unknown name _ _ hunknown => exact (herases.not_unknown herases' hfixed hfound hunknown).elim
  | unknown name hincomplete htype hunknown =>
    subst htype
    cases h' with
    | found _ hfound' => exact (herases'.not_unknown herases hfixed hfound' hunknown).elim
    | unknown name' hincomplete' htype' =>
      subst htype'
      exact ⟨erased, _, .of_incomplete hincomplete herases rfl,
        .of_incomplete hincomplete' herases' htags.symm,
        .inl (hincomplete.trans hincomplete'.symm)⟩

theorem CompletesTo.stands (h : field.CompletesTo scope found) (hfixed : erased.IsFixed)
    (hstands : field.Stands erased tags) :
    found.type.outline = erased.outline ∧ found.type.tags = tags := by
  cases hcomplete : field.isComplete with
  | true =>
    rw [h.complete hcomplete]
    exact hstands.complete hcomplete
  | false =>
    obtain ⟨herases, rfl⟩ := hstands.incomplete hcomplete
    exact herases.known_of_fixed hfixed (h.incomplete hcomplete)

/-- The fields of two models look the same to derivation once they are complete. -/
theorem Recast.resembles (h : field.Recast field') (hfound : field.CompletesTo scope found)
    (hfound' : field'.CompletesTo scope found') : found.Resembles found' := by
  refine ⟨by rw [hfound.name, hfound'.name, h.name],
    by rw [hfound.default, hfound'.default, h.default], ?_⟩
  obtain ⟨erased, tags, hstands, hstands', hsame | hfixed⟩ := h.type
  · cases hcomplete : field.isComplete with
    | true =>
      have hcomplete' := hsame.symm.trans hcomplete
      obtain ⟨houtline, htags⟩ := hstands.complete hcomplete
      obtain ⟨houtline', htags'⟩ := hstands'.complete hcomplete'
      rw [hfound.complete hcomplete, hfound'.complete hcomplete']
      exact ⟨houtline.trans houtline'.symm, htags.trans htags'.symm⟩
    | false =>
      have hcomplete' := hsame.symm.trans hcomplete
      obtain ⟨herases, htags⟩ := hstands.incomplete hcomplete
      obtain ⟨herases', htags'⟩ := hstands'.incomplete hcomplete'
      exact herases.resembles herases' (htags.trans htags'.symm) (hfound.incomplete hcomplete)
        (hfound'.incomplete hcomplete')
  · obtain ⟨houtline, htags⟩ := hfound.stands hfixed hstands
    obtain ⟨houtline', htags'⟩ := hfound'.stands hfixed hstands'
    exact ⟨houtline.trans houtline'.symm, htags.trans htags'.symm⟩

end ModelField

namespace Registry

variable {scope : Reference.Scope}

theorem declaredField_recast {field field' : FieldDecl} (h : field.Recast field')
    {model model' : ModelField} (hmodel : declaredField scope field = .ok model)
    (hmodel' : declaredField scope field' = .ok model') : model.Recast model' := by
  obtain ⟨⟨erased, herases, herases'⟩, htags⟩ := h.type
  obtain ⟨argument, hargument, hname, hdefault, hlooks⟩ := declaredField_eq_ok hmodel
  obtain ⟨argument', hargument', hname', hdefault', hlooks'⟩ := declaredField_eq_ok hmodel'
  obtain ⟨herases, hlayers⟩ := herases.asArgument hargument
  obtain ⟨herases', hlayers'⟩ := herases'.asArgument hargument'
  exact {
    name := by rw [hname, hname', h.name]
    default := by rw [hdefault, hdefault', h.default]
    type := hlooks.recast hlooks' herases herases' (by rw [hlayers, hlayers', htags]) }

variable {registry : Registry} {c settled : RecordClass}

/-- A model that is complete once it is settled had its types looked up. -/
theorem settle_of_complete (h : registry.settle c = .ok settled) (hcomplete : settled.IsComplete) :
    completeFields? (registry.modelScope c fun _ => none) c.modelFields =
      .ok (some settled.modelFields) := by
  unfold settle at h
  obtain ⟨fields?, hfields, h⟩ := Outcome.bind_eq_ok h
  cases fields? with
  | some fields =>
    obtain rfl := Except.ok.inj h
    exact hfields
  | none =>
    obtain rfl := Except.ok.inj h
    rw [completeFields?_of_complete _ hcomplete] at hfields
    cases hfields

end Registry

end Schematic
