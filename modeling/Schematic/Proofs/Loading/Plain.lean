import Schematic.Proofs.Loading.Conformance

/-!
Plain records.  A model without a field under the name that is reserved, or a data record that
descends from no model, with defaults that can be copied.  Such a record can be built from values
for any of its fields, since every other field has a default or takes a zero value: a type whose
records are plain is constructible.
-/

namespace Schematic
namespace Registry

/-- No default among those of a record holds a view. -/
def Copyable (defaults : List (Option Value)) : Prop :=
  ∀ v, some v ∈ defaults → v.holdsView = false

/-- A record of one kind, with nothing in it that keeps an instance from being made. -/
inductive Plain (registry : Registry) (c : RecordClass) : Prop
  | model (hmodel : c.dataFields = none)
      (hnames : ∀ field ∈ c.modelFields, field.name ≠ reservedMember)
      (hcopyable : Copyable (c.modelFields.map (·.default)))
  | data {maker : RecordClass} {decls : List FieldDecl} (hdata : c.dataFields = some decls)
      (hmaker : registry.maker? c.ancestry = some maker) (hkind : c.isModel = false)
      (hnames : (decls.map (·.name)).Nodup) (hcopyable : Copyable (decls.map (·.default)))

def PlainRecords (registry : Registry) (type : TypeExpr) : Prop :=
  ∀ ref c, registry.Within (.record ref) type → registry.find? ref = some c → registry.Plain c

theorem PlainRecords.within {registry : Registry} {type inner : TypeExpr}
    (h : registry.PlainRecords type) (hinner : registry.Within inner type) :
    registry.PlainRecords inner :=
  fun ref c hwithin => h ref c (hwithin.trans hinner)

theorem PlainRecords.inner {registry : Registry} {type inner : TypeExpr}
    (h : registry.PlainRecords type) (hinner : registry.Inner inner type) :
    registry.PlainRecords inner :=
  h.within (.single hinner)

variable {registry : Registry} {c : RecordClass} {values : List (String × Value)}

/-! ## Attributes -/

theorem exists_mapM_copied {default : Option Value}
    (h : ∀ v, default = some v → v.holdsView = false) :
    ∃ slot, default.mapM copied = .ok slot := by
  cases default with
  | none => exact ⟨none, rfl⟩
  | some v =>
    have hcopied : copied v = .ok v := by rw [copied, h v rfl]; rfl
    exact ⟨some v, by rw [Option.mapM_some, hcopied]; rfl⟩

theorem exists_modelAttribute {field : ModelField}
    (h : ∀ v, field.default = some v → v.holdsView = false) :
    ∃ slot, modelAttribute values field = .ok slot := by
  unfold modelAttribute
  cases given? values field.name with
  | some v => exact ⟨_, rfl⟩
  | none =>
    obtain ⟨slot, hslot⟩ := exists_mapM_copied h
    exact ⟨(field.name, slot), by rw [hslot]; rfl⟩

theorem exists_dataAttribute {field : FieldDecl}
    (h : ∀ v, field.default = some v → v.holdsView = false) :
    ∃ slot, registry.dataAttribute c values field = .ok slot := by
  unfold dataAttribute
  cases if field.loaded then given? values field.name else none with
  | some v => exact ⟨_, rfl⟩
  | none =>
    have hcopied : ∃ slot, (field.default.filter isCopied).mapM copied = .ok slot :=
      exists_mapM_copied fun v hv => h v (Option.eq_some_of_filter_eq_some hv)
    obtain ⟨slot, hslot⟩ := hcopied
    exact ⟨_, by rw [hslot]; rfl⟩

/-! ## Instances -/

/-- Every field that has no default is given, and nothing but fields is. -/
structure Complete (fields : List RecordField) (values : List (String × Value)) : Prop where
  known : ∀ p ∈ values, ∃ f ∈ fields, f.name = p.1
  given : ∀ f ∈ fields, f.default = none → ∃ v, given? values f.name = some v

theorem Complete.exists_value {fields : List RecordField} (h : Complete fields values)
    {f : RecordField} (hf : f ∈ fields) : ∃ x, (given? values f.name <|> f.default) = some x := by
  cases hgiven : given? values f.name with
  | some v => exact ⟨v, rfl⟩
  | none =>
    cases hdefault : f.default with
    | some d => exact ⟨d, rfl⟩
    | none =>
      obtain ⟨v, hv⟩ := h.given f hf hdefault
      rw [hgiven] at hv
      cases hv

/-- Complete values make an instance of a data record, if its attributes can be set. -/
theorem constructData_complete {maker : RecordClass} {decls : List FieldDecl}
    {fields : List RecordField} (hdata : c.dataFields = some decls) (hkind : c.isModel = false)
    (hfields : registry.fields c = .ok fields) (hvalues : Complete fields values) :
    registry.constructData maker c decls values =
      decls.mapM (registry.dataAttribute c values) >>= fun slots => .ok (.record c.ref slots) := by
  have hknown : unexpected? maker.ref.name decls values = none := by
    unfold unexpected?
    rw [Option.map_eq_none_iff, List.find?_eq_none]
    rintro ⟨name, value⟩ hp hunknown
    obtain ⟨f, hf, hname⟩ := hvalues.known _ hp
    obtain ⟨decl, hdecl, hloaded, hsame, -⟩ := loaded_of_fields hdata hfields hf
    have hany : (decls.any fun f => f.loaded && f.name == name) = true :=
      List.any_eq_true.mpr ⟨decl, hdecl, by simp [hloaded, hsame, hname]⟩
    simp only [hany] at hunknown
    cases hunknown
  have hmissing : missingFields decls values = [] := by
    unfold missingFields
    rw [List.map_eq_nil_iff, List.filter_eq_nil_iff]
    intro decl hdecl habsent
    simp only [Bool.and_eq_true, Option.isNone_iff_eq_none] at habsent
    obtain ⟨⟨hloaded, hdefault⟩, hgiven⟩ := habsent
    obtain ⟨f, hf, hname, hsame⟩ := field_of_loaded hdata hfields hdecl hloaded
    obtain ⟨v, hv⟩ := hvalues.given f hf (hsame.trans hdefault)
    rw [hname, hgiven] at hv
    cases hv
  unfold constructData
  rw [hknown, hmissing, hkind]
  rfl

theorem constructModel_plain {fields : List RecordField} (hmodel : c.dataFields = none)
    (hreserved : ∀ field ∈ c.modelFields, field.name ≠ reservedMember)
    (hcopyable : Copyable (c.modelFields.map (·.default)))
    (hfields : registry.fields c = .ok fields) (hnames : (fields.map (·.name)).Nodup)
    (hvalues : Complete fields values) :
    ∃ slots, constructModel c values = .ok (.record c.ref slots) ∧ (slots.map Prod.fst).Nodup ∧
      ∀ f ∈ fields, ∃ x, (f.name, some x) ∈ slots ∧ GivenOrDeclared c values f.name x := by
  obtain rfl := fields_of_model hmodel hfields
  have hfree : values.any (·.1 == reservedMember) = false := by
    rw [List.any_eq_false]
    intro p hp
    obtain ⟨f, hf, hname⟩ := hvalues.known p hp
    obtain ⟨field, hfield, rfl⟩ := List.mem_map.mp hf
    rw [← hname]
    exact fun heq => hreserved field hfield (eq_of_beq heq)
  have hslots : ∃ slots, c.modelFields.mapM (modelAttribute values) = .ok slots := by
    rw [Outcome.exists_mapM_eq_ok_iff]
    intro field hfield
    exact exists_modelAttribute fun v hv =>
      hcopyable v (List.mem_map.mpr ⟨field, hfield, hv⟩)
  obtain ⟨slots, hslots⟩ := hslots
  obtain rfl := modelAttributes_eq_ok hslots
  refine ⟨modelSlots c.modelFields values, ?_, ?_, ?_⟩
  · rw [constructModel, hfree, hslots]
    rfl
  · rw [modelSlots_names]
    rw [List.map_map] at hnames
    exact hnames
  · intro f hf
    obtain ⟨field, hfield, rfl⟩ := List.mem_map.mp hf
    obtain ⟨x, hx⟩ := hvalues.exists_value hf
    have hslot : (field.name, some x) ∈ modelSlots c.modelFields values :=
      List.mem_map.mpr ⟨field, hfield, Prod.ext rfl hx⟩
    exact ⟨x, hslot, held_of_modelSlots hslot⟩

theorem constructData_plain {maker : RecordClass} {decls : List FieldDecl}
    {fields : List RecordField} (hdata : c.dataFields = some decls) (hkind : c.isModel = false)
    (hnames : (decls.map (·.name)).Nodup) (hcopyable : Copyable (decls.map (·.default)))
    (hfields : registry.fields c = .ok fields) (hvalues : Complete fields values) :
    ∃ slots, registry.constructData maker c decls values = .ok (.record c.ref slots) ∧
      (slots.map Prod.fst).Nodup ∧
      ∀ f ∈ fields, ∃ x, (f.name, some x) ∈ slots ∧ GivenOrDeclared c values f.name x := by
  have hslots : ∃ slots, decls.mapM (registry.dataAttribute c values) = .ok slots := by
    rw [Outcome.exists_mapM_eq_ok_iff]
    intro decl hdecl
    exact exists_dataAttribute fun v hv => hcopyable v (List.mem_map.mpr ⟨decl, hdecl, hv⟩)
  obtain ⟨slots, hslots⟩ := hslots
  have hmade : registry.constructData maker c decls values = .ok (.record c.ref slots) := by
    rw [constructData_complete hdata hkind hfields hvalues, hslots]
    rfl
  refine ⟨slots, hmade, ?_, fun f hf => ?_⟩
  · rw [dataAttributes_names hslots]
    exact hnames
  · obtain ⟨_, heq, hheld⟩ := constructData_held hdata hmade
    obtain rfl := (Value.record.inj heq).2
    obtain ⟨decl, hdecl, hloaded, hname, -⟩ := loaded_of_fields hdata hfields hf
    exact hname ▸ hheld decl hdecl hloaded

/-- An instance of a plain record can be made with complete values. -/
theorem instantiate_plain {fields : List RecordField} (hplain : registry.Plain c)
    (hfields : registry.fields c = .ok fields) (hnames : (fields.map (·.name)).Nodup)
    (hvalues : Complete fields values) :
    ∃ slots, registry.instantiate c values = .ok (.record c.ref slots) ∧
      (slots.map Prod.fst).Nodup ∧
      ∀ f ∈ fields, ∃ x, (f.name, some x) ∈ slots ∧ GivenOrDeclared c values f.name x := by
  unfold instantiate
  cases hplain with
  | model hmodel hreserved hcopyable =>
    rw [hmodel]
    exact constructModel_plain hmodel hreserved hcopyable hfields hnames hvalues
  | data hdata hmaker hkind hdecls hcopyable =>
    rw [hdata, hmaker]
    exact constructData_plain hdata hkind hdecls hcopyable hfields hvalues

/-! ## Zero values -/

/-- Completing gives complete values, and what it adds are zero values of the fields. -/
theorem exists_complete {zero : TypeExpr → Except LoadFault Value}
    {holds : TypeExpr → Value → Prop} {fields : List RecordField}
    (hzero : ∀ f ∈ fields, ∃ z, zero f.hint = .ok z ∧ holds f.hint z)
    (values : List (String × Value)) :
    ∃ completed, Loading.complete zero fields values = .ok completed ∧
      (∀ p ∈ completed, p ∈ values ∨ ∃ f ∈ fields, f.name = p.1 ∧ holds f.hint p.2) ∧
      ∀ f ∈ fields, f.default = none → ∃ v, given? completed f.name = some v := by
  cases hcompleted : Loading.complete zero fields values with
  | error fault =>
    obtain ⟨f, hf, hfails⟩ := Loading.complete_eq_error hcompleted
    obtain ⟨z, hz, -⟩ := hzero f hf
    rw [hz] at hfails
    cases hfails
  | ok completed =>
    obtain ⟨hadded, hgiven⟩ := Loading.complete_eq_ok hcompleted
    refine ⟨completed, rfl, fun p hp => (hadded p hp).imp_right ?_, hgiven⟩
    rintro ⟨f, hf, hname, hp⟩
    obtain ⟨z, hz, hholds⟩ := hzero f hf
    obtain rfl := Except.ok.inj (hz.symm.trans hp)
    exact ⟨f, hf, hname, hholds⟩

/-- A plain record can be built from values for any of its fields, if there are zero values for the
others; a field without a value holds a declared default or a zero value. -/
theorem instantiate_complete (zero : TypeExpr → Except LoadFault Value)
    (holds : TypeExpr → Value → Prop) {fields : List RecordField} (hplain : registry.Plain c)
    (hfields : registry.fields c = .ok fields) (hnames : (fields.map (·.name)).Nodup)
    (hzero : ∀ f ∈ fields, ∃ z, zero f.hint = .ok z ∧ holds f.hint z)
    (hvalues : ∀ p ∈ values, ∃ f ∈ fields, f.name = p.1) :
    ∃ slots, Loading.complete zero fields values >>= Loading.instantiate registry c =
        .ok (.record c.ref slots) ∧ (slots.map Prod.fst).Nodup ∧
      ∀ f ∈ fields, ∃ x, (f.name, some x) ∈ slots ∧
        (f.name ∉ values.map Prod.fst → c.DeclaresDefault f.name x ∨ holds f.hint x) := by
  obtain ⟨completed, hcompleted, hadded, hgiven⟩ := exists_complete hzero values
  have hcomplete : Complete fields completed := by
    refine ⟨fun p hp => ?_, hgiven⟩
    rcases hadded p hp with hmem | ⟨f, hf, hname, -⟩
    · exact hvalues p hmem
    · exact ⟨f, hf, hname⟩
  obtain ⟨slots, hslots, hdistinct, hheld⟩ := instantiate_plain hplain hfields hnames hcomplete
  refine ⟨slots, ?_, hdistinct, fun f hf => ?_⟩
  · rw [hcompleted]
    show Loading.instantiate registry c completed = _
    rw [Loading.instantiate, hslots]
    rfl
  · obtain ⟨x, hx, hfrom⟩ := hheld f hf
    refine ⟨x, hx, fun hnot => ?_⟩
    rcases hfrom with hsome | ⟨-, hdeclared⟩
    · rcases hadded _ (given?_mem hsome) with hmem | ⟨g, hg, hname, hholds⟩
      · exact absurd (List.mem_map_of_mem hmem) hnot
      · obtain rfl : g = f := List.inj_on_of_nodup_map hnames hg hf hname
        exact .inr hholds
    · exact .inl hdeclared

/-- A type with plain records that is inside none of the records on the way has a zero value, which
conforms to it. -/
theorem Describes.exists_zero [Text.Repertoire] {type : TypeExpr} {schema : Schema}
    (h : registry.Describes type schema) (hdistinct : registry.DistinctMembers type)
    (hplain : registry.PlainRecords type) {seen : List RecordRef}
    (hseen : ∀ ref ∈ seen, ¬ registry.Within (.record ref) type) :
    ∃ z, Loading.zeroOf (Loading.zeroRecord registry seen) type = .ok z ∧
      registry.Conforms type none z := by
  induction h generalizing seen with
  | scalar s =>
    cases s with
    | bool => exact ⟨_, rfl, .bool false⟩
    | str => exact ⟨_, rfl, .str ""⟩
    | int => exact ⟨_, rfl, .int 0⟩
    | float => exact ⟨_, rfl, .float _⟩
    | datetime => exact ⟨_, rfl, .datetime _⟩
  | openArray form => exact ⟨_, rfl, .openArray nofun⟩
  | array => exact ⟨_, rfl, .array (fun _ => none) nofun nofun⟩
  | mapping form arguments => exact ⟨_, rfl, .mapping []⟩
  | @annotated base schema extras _ ih =>
    have hinner : registry.Inner base (.annotated base extras) := .base base extras
    obtain ⟨z, hz, hconforms⟩ := ih (hdistinct.inner hinner) (hplain.inner hinner)
      fun ref href hwithin => hseen ref href (hwithin.tail hinner)
    exact ⟨z, hz, .annotated hconforms⟩
  | @record ref c fields schemaOf memberOf hfind hfields hhints htags ih =>
    have hrecord := Describes.record hfind hfields hhints htags
    have hzero : ∀ f ∈ fields, ∃ z,
        Loading.zeroOf (Loading.zeroRecord registry (ref :: seen)) f.hint = .ok z ∧
          registry.Conforms f.hint none z := by
      intro f hf
      have hinner : registry.Inner f.hint (.record ref) := .hint hfind hfields hf
      exact ih f hf (hdistinct.inner hinner) (hplain.inner hinner)
        (hrecord.inner_not_within hseen hinner)
    have hnames := nodup_names (hdistinct ref c fields .refl hfind hfields)
    have hvalues : ∀ p ∈ ([] : List (String × Value)), ∃ f ∈ fields, f.name = p.1 := nofun
    obtain ⟨slots, hslots, hset, hheld⟩ := instantiate_complete _ (registry.Conforms · none ·)
      (hplain ref c .refl hfind) hfields hnames hzero hvalues
    refine ⟨.record c.ref slots, ?_, ?_⟩
    · show Loading.zeroRecord registry seen ref = _
      rw [zeroRecord_eq (fun href => hseen ref href .refl) hfind hfields]
      exact hslots
    · choose! held hmem hkept using hheld
      rw [ref_of_find? hfind]
      refine .record held (fun _ => none) hfind hfields hset hmem ?_
        (fun f _ habsent => absurd rfl habsent) fun f hf _ hdefault => ?_
      · intro value entries hinput
        cases hinput
      · exact (hkept f hf (List.not_mem_nil)).resolve_left hdefault

/-! ## Constructible types -/

/-- A type with a schema is constructible if its records are plain. -/
theorem Describes.constructible_of_plain [Text.Repertoire] {type : TypeExpr} {schema : Schema}
    (h : registry.Describes type schema) (hdistinct : registry.DistinctMembers type)
    (hplain : registry.PlainRecords type) : registry.Constructible type := by
  intro ref c fields part hwithin hfind hfields hpart chosen _
  have hnames := nodup_names (hdistinct ref c fields hwithin hfind hfields)
  have hzero : ∀ f ∈ fields, ∃ z, registry.zeroValue f.hint = .ok z ∧
      registry.Conforms f.hint none z := by
    intro f hf
    have hinner : registry.Within f.hint type := .head (.hint hfind hfields hf) hwithin
    obtain ⟨inner, hdescribes⟩ := h.of_within hinner
    exact hdescribes.exists_zero (hdistinct.within hinner) (hplain.within hinner) nofun
  have hvalues : ∀ p ∈ ((fields.filter chosen).map (·.name)).map fun name => (name, Value.null),
      ∃ f ∈ fields, f.name = p.1 := by
    intro p hp
    obtain ⟨name, hname, rfl⟩ := List.mem_map.mp hp
    obtain ⟨f, hf, rfl⟩ := List.mem_map.mp hname
    exact ⟨f, (List.mem_filter.mp hf).1, rfl⟩
  obtain ⟨slots, hslots, hset, hheld⟩ := instantiate_complete registry.zeroValue
    (registry.Conforms · none ·) (hplain ref c hwithin hfind) hfields hnames hzero hvalues
  refine ⟨slots, ?_, hset, fun listed hlisted f hf => ?_⟩
  · rw [build_eq hfields]
    exact hslots
  · obtain rfl := Except.ok.inj (hfields.symm.trans hlisted)
    obtain ⟨x, hx, hkept⟩ := hheld f hf
    refine ⟨x, hx, fun hnot => hkept ?_⟩
    rw [List.map_map]
    simpa using hnot

/-! ## Reserved names -/

/-- Nothing is built of a model with a value under the reserved name. -/
theorem build_reserved (hmodel : c.dataFields = none) {v : Value}
    (hgiven : given? values reservedMember = some v) (x : Value) :
    registry.build c values ≠ .ok x := by
  intro h
  obtain ⟨fields, completed, -, hcompleted, hmade⟩ := build_eq_ok h
  have hreserved : completed.any (·.1 == reservedMember) = true :=
    List.any_eq_true.mpr ⟨_, given?_mem (Loading.given?_complete hcompleted hgiven), by simp⟩
  unfold instantiate constructModel at hmade
  rw [hmodel, hreserved] at hmade
  cases hmade

/-- A type is not constructible if there is a model in it with a field of the reserved name. -/
theorem not_constructible_of_reserved [Text.Repertoire] {type : TypeExpr} {ref : RecordRef}
    {schema : Schema}
    {fields : List RecordField} {f : RecordField} (hwithin : registry.Within (.record ref) type)
    (hfind : registry.find? ref = some c) (hmodel : c.dataFields = none)
    (hfields : registry.fields c = .ok fields)
    (hdescribes : registry.Describes (.record ref) schema) (hf : f ∈ fields)
    (hname : f.name = reservedMember) : ¬ registry.Constructible type := by
  intro h
  have hselects : schema.Selects fields fun _ => true := fun _ _ _ _ _ => rfl
  obtain ⟨slots, hbuild, -⟩ := h ref c fields schema hwithin hfind hfields hdescribes _ hselects
  have hmem : (reservedMember, Value.null) ∈
      ((fields.filter fun _ => true).map (·.name)).map fun name => (name, Value.null) := by
    rw [List.filter_true, List.map_map]
    exact List.mem_map.mpr ⟨f, hf, by rw [← hname]; rfl⟩
  obtain ⟨v, hv⟩ : ∃ v, given? (((fields.filter fun _ => true).map (·.name)).map fun name =>
      (name, Value.null)) reservedMember = some v := by
    rw [← Option.isSome_iff_exists, given?, Option.isSome_map, List.find?_isSome]
    exact ⟨_, hmem, by simp⟩
  exact build_reserved hmodel hv _ hbuild

end Registry
end Schematic
