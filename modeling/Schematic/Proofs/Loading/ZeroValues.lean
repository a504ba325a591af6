import Schematic.Proofs.Derivation.Existence
import Schematic.Proofs.Loading.Exactness
import Schematic.Proofs.Record.Attributes
import Schematic.Proofs.Session.Returns

/-!
Zero values of types with a schema.  No record is inside itself, so the zero value of a record is
what is built of it from no values, whatever records are on the way to it: `Describes.zeroValue_record`
makes the induction over derivation one over zero values.  What remains is whether instances can be
made, which depends on each record alone.
-/

namespace Schematic
namespace Registry

/-- The records that the zero value of a type fills: the one that it is an instance of, and those
that its fields without a default hold. -/
inductive Fills (registry : Registry) : TypeExpr → RecordRef → Prop
  | record (ref : RecordRef) : Fills registry (.record ref) ref
  | annotated {base : TypeExpr} {ref : RecordRef} (extras : List Extra)
      (hbase : Fills registry base ref) : Fills registry (.annotated base extras) ref
  | hint {ref inner : RecordRef} {c : RecordClass} {fields : List RecordField} {f : RecordField}
      (hfind : registry.find? ref = some c) (hfields : registry.fields c = .ok fields)
      (hf : f ∈ fields) (hdefault : f.default = none) (hinner : Fills registry f.hint inner) :
      Fills registry (.record ref) inner

/-- The names of the fields without a default. -/
def undeclared (fields : List RecordField) : List String :=
  (fields.filter (·.default.isNone)).map (·.name)

/-- An instance of a record can be made from values for those of its fields that have no
default. -/
def Fillable (registry : Registry) (c : RecordClass) (fields : List RecordField) : Prop :=
  ∃ x, registry.instantiate c ((undeclared fields).map fun name => (name, .null)) = .ok x

/-- A value is the zero value of a type.  A record holds the default that is declared for a field, or
else the zero value of its type, in every field that it takes a value for. -/
inductive IsZero (registry : Registry) : TypeExpr → Value → Prop
  | scalar (s : Scalar) : IsZero registry (.scalar s) s.zero
  | openArray (form : ArrayForm) : IsZero registry (.openArray form) (.list [])
  | array (form : ArrayForm) (element : TypeExpr) :
      IsZero registry (.array form element) (.list [])
  | mapping (form : MappingForm) (arguments : List TypeExpr) :
      IsZero registry (.mapping form arguments) (.dict [])
  | annotated {base : TypeExpr} {z : Value} (extras : List Extra) (hbase : IsZero registry base z) :
      IsZero registry (.annotated base extras) z
  | record {ref : RecordRef} {c : RecordClass} {fields : List RecordField}
      {slots : List (String × Option Value)} (held : RecordField → Value)
      (hfind : registry.find? ref = some c) (hfields : registry.fields c = .ok fields)
      (hslots : (slots.map Prod.fst).Nodup)
      (hset : ∀ f ∈ fields, registry.Takes c f.name → (f.name, some (held f)) ∈ slots)
      (hunset : ∀ f ∈ fields, ¬ registry.Takes c f.name → ∀ x, (f.name, some x) ∉ slots)
      (hdeclared : ∀ f ∈ fields, registry.Takes c f.name → f.default ≠ none →
        registry.keptDefault? c f = some (held f))
      (hzero : ∀ f ∈ fields, registry.Takes c f.name → f.default = none →
        IsZero registry f.hint (held f)) :
      IsZero registry (.record ref) (.record ref slots)

variable {registry : Registry} {c : RecordClass} {fields : List RecordField}
  {values : List (String × Value)}

/-! ## Completing nothing -/

/-- Completing gives values for the fields without a default, if their types have zero values. -/
theorem exists_complete_of_undeclared {zero : TypeExpr → Except LoadFault Value}
    (h : ∀ f ∈ fields, f.default = none → ∃ z, zero f.hint = .ok z)
    (values : List (String × Value)) :
    ∃ completed, Loading.complete zero fields values = .ok completed := by
  induction fields generalizing values with
  | nil => exact ⟨values, rfl⟩
  | cons f rest ih =>
    have hrest := ih fun g hg => h g (List.mem_cons_of_mem _ hg)
    rw [Loading.complete_cons]
    split
    next => exact hrest values
    next hset =>
      have hdefault : f.default = none := by
        rw [Bool.or_eq_true, not_or, Option.not_isSome_iff_eq_none] at hset
        exact hset.2
      obtain ⟨z, hz⟩ := h f List.mem_cons_self hdefault
      obtain ⟨completed, hcompleted⟩ := hrest (values ++ [(f.name, z)])
      exact ⟨completed, by rw [hz]; exact hcompleted⟩

theorem complete_names {zero : TypeExpr → Except LoadFault Value}
    {completed : List (String × Value)}
    (h : Loading.complete zero fields values = .ok completed)
    (hnames : (fields.map (·.name)).Nodup)
    (hfresh : ∀ f ∈ fields, f.name ∉ values.map Prod.fst) :
    completed.map Prod.fst = values.map Prod.fst ++ undeclared fields := by
  induction fields generalizing values with
  | nil => rw [← Except.ok.inj h, undeclared, List.filter_nil, List.map_nil, List.append_nil]
  | cons f rest ih =>
    obtain ⟨hfirst, hrest⟩ := List.nodup_cons.mp hnames
    have habsent : values.any (·.1 == f.name) = false := by
      rw [List.any_eq_false]
      intro p hp heq
      exact hfresh f List.mem_cons_self (List.mem_map.mpr ⟨p, hp, eq_of_beq heq⟩)
    have hlater : ∀ g ∈ rest, g.name ∉ values.map Prod.fst :=
      fun g hg => hfresh g (List.mem_cons_of_mem _ hg)
    rw [Loading.complete_cons, habsent, Bool.false_or] at h
    split at h
    next hsome =>
      rw [ih h hrest hlater, undeclared, undeclared, List.filter_cons_of_neg
        (by rw [Option.isNone_iff_eq_none]; exact Option.isSome_iff_ne_none.mp hsome)]
    next hnone =>
      obtain ⟨z, -, h⟩ := Outcome.bind_eq_ok h
      rw [ih h hrest, undeclared, undeclared, List.filter_cons_of_pos
        (by rw [Option.isNone_iff_eq_none]; exact Option.not_isSome_iff_eq_none.mp hnone)]
      · simp
      · intro g hg
        rw [List.map_append, List.mem_append, not_or]
        refine ⟨hlater g hg, fun hmem => hfirst ?_⟩
        rw [List.map_singleton, List.mem_singleton] at hmem
        exact List.mem_map.mpr ⟨g, hg, hmem⟩

/-- A record is built from no values if its fields without a default have zero values, and an
instance can be made from those. -/
theorem exists_build_nil_iff (hfields : registry.fields c = .ok fields)
    (hnames : (fields.map (·.name)).Nodup) :
    (∃ x, registry.build c [] = .ok x) ↔
      (∀ f ∈ fields, f.default = none → ∃ z, registry.zeroValue f.hint = .ok z) ∧
        registry.Fillable c fields := by
  have hmade {completed : List (String × Value)}
      (h : Loading.complete registry.zeroValue fields [] = .ok completed) :
      registry.Fillable c fields ↔ ∃ x, registry.instantiate c completed = .ok x := by
    have halike := instantiate_alike (forall₂_agreeOff_null completed) registry c
    rw [complete_names h hnames fun _ _ => List.not_mem_nil] at halike
    constructor
    · rintro ⟨x, hx⟩
      obtain ⟨y, hy, -⟩ := halike.eq_ok hx
      exact ⟨y, hy⟩
    · rintro ⟨x, hx⟩
      obtain ⟨y, hy, -⟩ := halike.symm.eq_ok hx
      exact ⟨y, hy⟩
  rw [build_eq hfields]
  constructor
  · rintro ⟨x, hx⟩
    obtain ⟨completed, hcompleted, hx⟩ := Outcome.bind_eq_ok hx
    refine ⟨fun f hf hdefault => ?_, (hmade hcompleted).mpr ⟨x, Outcome.mapError_eq_ok hx⟩⟩
    obtain ⟨z, hz, -⟩ := (given?_complete_of_none hcompleted hnames hf rfl).1 hdefault
    exact ⟨z, hz⟩
  · rintro ⟨hzero, hfillable⟩
    obtain ⟨completed, hcompleted⟩ := exists_complete_of_undeclared hzero []
    obtain ⟨x, hx⟩ := (hmade hcompleted).mp hfillable
    refine ⟨x, ?_⟩
    rw [hcompleted]
    show Loading.instantiate registry c completed = _
    rw [Loading.instantiate, hx]
    rfl

/-! ## Slots -/

theorem mem_of_attribute? {ref : RecordRef} {slots : List (String × Option Value)} {name : String}
    {x : Value} (h : (Value.record ref slots).attribute? name = some x) : (name, some x) ∈ slots := by
  obtain ⟨p, hp, hx⟩ := Option.bind_eq_some_iff.mp h
  obtain rfl : p.1 = name := by simpa using List.find?_some hp
  exact hx ▸ List.mem_of_find?_eq_some hp

/-- The slots of an instance have distinct names. -/
theorem instantiate_slots (hdistinct : c.DistinctFields) {x : Value}
    (h : registry.instantiate c values = .ok x) :
    ∃ slots, x = .record c.ref slots ∧ (slots.map Prod.fst).Nodup := by
  unfold instantiate at h
  split at h
  next =>
    refine ⟨_, constructModel_eq_ok h, ?_⟩
    rw [modelSlots_names]
    exact hdistinct.model
  next decls hdata _ =>
    refine ⟨_, (validateModel_eq_ok h).2, ?_⟩
    rw [List.map_map]
    exact hdistinct.data decls hdata
  next decls maker hdata _ =>
    obtain ⟨-, -, slots, hslots, rfl⟩ := constructData_eq_ok h
    refine ⟨slots, rfl, ?_⟩
    rw [dataAttributes_names hslots]
    exact hdistinct.data decls hdata

theorem nodup_fields (hdistinct : c.DistinctFields) (hfields : registry.fields c = .ok fields) :
    (fields.map (·.name)).Nodup := by
  cases hdata : c.dataFields with
  | none =>
    obtain rfl := fields_of_model hdata hfields
    rw [List.map_map]
    exact hdistinct.model
  | some decls =>
    obtain ⟨hintOf, rfl⟩ := fields_of_data hdata hfields
    rw [List.map_map]
    exact (hdistinct.data decls hdata).sublist (List.filter_sublist.map _)

theorem declaresDefault_of_kept (hfields : registry.fields c = .ok fields) {f : RecordField}
    (hf : f ∈ fields) {x : Value} (h : registry.keptDefault? c f = some x) :
    c.DeclaresDefault f.name x := by
  unfold keptDefault? at h
  split at h
  next =>
    obtain ⟨field, hfield, hdefault⟩ := Option.bind_eq_some_iff.mp h
    exact .inr ⟨field, List.mem_of_find?_eq_some hfield, by simpa using List.find?_some hfield,
      hdefault⟩
  next =>
    cases hdata : c.dataFields with
    | some decls =>
      obtain ⟨decl, hdecl, -, hname, hdefault⟩ := loaded_of_fields hdata hfields hf
      exact .inl ⟨decls, hdata, decl, hdecl, hname, hdefault.trans h⟩
    | none =>
      obtain rfl := fields_of_model hdata hfields
      obtain ⟨field, hfield, rfl⟩ := List.mem_map.mp hf
      exact .inr ⟨field, hfield, rfl, h⟩

/-! ## Zero values of records -/

theorem complete_congr {zero zero' : TypeExpr → Except LoadFault Value}
    (h : ∀ f ∈ fields, zero f.hint = zero' f.hint) :
    Loading.complete zero fields values = Loading.complete zero' fields values := by
  induction fields generalizing values with
  | nil => rfl
  | cons f rest ih =>
    have hrest {values : List (String × Value)} :=
      @ih values fun g hg => h g (List.mem_cons_of_mem _ hg)
    rw [Loading.complete_cons, Loading.complete_cons, h f List.mem_cons_self, hrest]
    simp only [hrest]

/-- The records on the way to a type do not matter to its zero value, when none of them is inside
it. -/
theorem Describes.zeroOf_seen [Text.Repertoire] {type : TypeExpr} {schema : Schema}
    (h : registry.Describes type schema) {seen seen' : List RecordRef}
    (hseen : ∀ ref ∈ seen, ¬ registry.Within (.record ref) type)
    (hseen' : ∀ ref ∈ seen', ¬ registry.Within (.record ref) type) :
    Loading.zeroOf (Loading.zeroRecord registry seen) type =
      Loading.zeroOf (Loading.zeroRecord registry seen') type := by
  induction h generalizing seen seen' with
  | scalar | openArray | array | mapping => rfl
  | annotated extras _ ih =>
    exact ih (fun ref href hwithin => hseen ref href (hwithin.tail (.base _ extras)))
      (fun ref href hwithin => hseen' ref href (hwithin.tail (.base _ extras)))
  | @record ref c fields schemaOf memberOf hfind hfields hhints htags ih =>
    have hrecord := Describes.record hfind hfields hhints htags
    show Loading.zeroRecord registry seen ref = Loading.zeroRecord registry seen' ref
    rw [zeroRecord_eq (fun href => hseen ref href .refl) hfind hfields,
      zeroRecord_eq (fun href => hseen' ref href .refl) hfind hfields]
    refine congrArg (· >>= Loading.instantiate registry c) (complete_congr fun f hf => ?_)
    have hinner : registry.Inner f.hint (.record ref) := .hint hfind hfields hf
    exact ih f hf (hrecord.inner_not_within hseen hinner) (hrecord.inner_not_within hseen' hinner)

/-- The zero value of a record is what is built of it from no values. -/
theorem Describes.zeroValue_record [Text.Repertoire] {ref : RecordRef} {schema : Schema}
    (h : registry.Describes (.record ref) schema) (hfind : registry.find? ref = some c) :
    registry.zeroValue (.record ref) = registry.build c [] := by
  have hrecord := h
  cases h with
  | @record ref _ fields _ _ hfind' hfields hhints htags =>
    obtain rfl := Option.some.inj (hfind.symm.trans hfind')
    show Loading.zeroRecord registry [] ref = _
    rw [zeroRecord_eq List.not_mem_nil hfind hfields, build_eq hfields]
    have hseen : ∀ r ∈ ([] : List RecordRef), ¬ registry.Within (.record r) (.record ref) := nofun
    refine congrArg (· >>= Loading.instantiate registry c) (complete_congr fun f hf => ?_)
    exact (hhints f hf).zeroOf_seen
      (hrecord.inner_not_within hseen (.hint hfind hfields hf)) nofun

/-! ## Zero values of types -/

section Zero

variable {type : TypeExpr} {schema : Schema} {z : Value}

theorem Describes.isZero [Text.Repertoire] (h : registry.Describes type schema)
    (hdistinct : ∀ c ∈ registry.classes, c.DistinctFields)
    (hzero : registry.zeroValue type = .ok z) : registry.IsZero type z := by
  induction h generalizing z with
  | scalar s => exact Except.ok.inj hzero ▸ .scalar s
  | openArray form => exact Except.ok.inj hzero ▸ .openArray form
  | @array form element => exact Except.ok.inj hzero ▸ .array form element
  | mapping form arguments => exact Except.ok.inj hzero ▸ .mapping form arguments
  | annotated extras _ ih => exact .annotated extras (ih hzero)
  | @record ref c fields schemaOf memberOf hfind hfields hhints htags ih =>
    rw [(Describes.record hfind hfields hhints htags).zeroValue_record hfind] at hzero
    have hclass := hdistinct c (List.mem_of_find?_eq_some hfind)
    obtain ⟨slots, rfl, hslots⟩ : ∃ slots, z = .record ref slots ∧ (slots.map Prod.fst).Nodup := by
      obtain ⟨_, completed, -, -, hmade⟩ := build_eq_ok hzero
      rw [← ref_of_find? hfind]
      exact instantiate_slots hclass hmade
    have hattributes := fun f hf =>
      build_attribute? hclass hfields (nodup_fields hclass hfields) hzero (f := f) hf
    -- what the record holds in a field that it takes a value for
    have hheld : ∀ f ∈ fields, ∃ x, registry.Takes c f.name → (f.name, some x) ∈ slots ∧
        (f.default ≠ none → registry.keptDefault? c f = some x) ∧
        (f.default = none → registry.IsZero f.hint x) := by
      intro f hf
      by_cases htakes : registry.Takes c f.name
      · obtain ⟨-, hdeclared, hundeclared⟩ := (hattributes f hf).1 htakes
        by_cases hdefault : f.default = none
        · obtain ⟨x, hx, hattribute⟩ := hundeclared rfl hdefault
          exact ⟨x, fun _ => ⟨mem_of_attribute? hattribute, fun hno => absurd hdefault hno,
            fun _ => ih f hf hx⟩⟩
        · obtain ⟨x, hx, hattribute⟩ := hdeclared rfl hdefault
          exact ⟨x, fun _ => ⟨mem_of_attribute? hattribute, fun _ => hx,
            fun hno => absurd hno hdefault⟩⟩
      · exact ⟨.null, fun hno => absurd hno htakes⟩
    choose! held hheld using hheld
    refine .record held hfind hfields hslots (fun f hf htakes => (hheld f hf htakes).1) ?_
      (fun f hf htakes => (hheld f hf htakes).2.1) (fun f hf htakes => (hheld f hf htakes).2.2)
    intro f hf htakes x hx
    have hnone := (hattributes f hf).2 htakes
    rw [Value.attribute?_of_mem hslots hx] at hnone
    cases hnone

theorem IsZero.ne_null (h : registry.IsZero type z) : z ≠ .null := by
  induction h with
  | scalar s => cases s <;> nofun
  | openArray | array | mapping | record => nofun
  | annotated extras _ ih => exact ih

/-- Every record that the zero value of a type fills takes values for all of its fields. -/
def TakesAll (registry : Registry) (type : TypeExpr) : Prop :=
  ∀ ref c fields, registry.Fills type ref → registry.find? ref = some c →
    registry.fields c = .ok fields → ∀ f ∈ fields, registry.Takes c f.name

theorem IsZero.conforms (h : registry.IsZero type z) (htakes : registry.TakesAll type) :
    registry.Conforms type none z := by
  induction h with
  | scalar s =>
    cases s with
    | bool => exact .bool false
    | str => exact .str ""
    | int => exact .int 0
    | float => exact .float _
    | datetime => exact .datetime _
  | openArray form => exact .openArray nofun
  | array form element => exact .array (fun _ => none) nofun nofun
  | mapping form arguments => exact .mapping []
  | annotated extras _ ih =>
    exact .annotated (ih fun ref c fields hfills => htakes ref c fields (.annotated extras hfills))
  | @record ref c fields slots held hfind hfields hslots hset hunset hdeclared hzero ih =>
    have hall := htakes ref c fields (.record ref) hfind hfields
    refine .record held (fun _ => none) hfind hfields hslots (fun f hf => hset f hf (hall f hf))
      nofun (fun f hf hsource => absurd rfl hsource) (fun f hf _ hdefault => ?_)
    by_cases hnone : f.default = none
    · exact ih f hf (hall f hf) hnone fun inner d listed hfills =>
        htakes inner d listed (.hint hfind hfields hf hnone hfills)
    · exact absurd (declaresDefault_of_kept hfields hf (hdeclared f hf (hall f hf) hnone)) hdefault

/-- There is a zero value if and only if an instance can be made of each record that it fills. -/
theorem Describes.exists_zero_iff [Text.Repertoire] (h : registry.Describes type schema)
    (hdistinct : ∀ c ∈ registry.classes, c.DistinctFields) :
    (∃ z, registry.zeroValue type = .ok z) ↔
      ∀ ref c fields, registry.Fills type ref → registry.find? ref = some c →
        registry.fields c = .ok fields → registry.Fillable c fields := by
  induction h with
  | scalar | openArray | array | mapping =>
    exact iff_of_true ⟨_, rfl⟩ fun ref c fields hfills => by cases hfills
  | annotated extras _ ih =>
    refine Iff.trans ih ⟨fun hall ref c fields hfills => ?_,
      fun hall ref c fields hfills => hall ref c fields (.annotated extras hfills)⟩
    cases hfills with
    | annotated _ hbase => exact hall ref c fields hbase
  | @record ref c fields schemaOf memberOf hfind hfields hhints htags ih =>
    have hclass := hdistinct c (List.mem_of_find?_eq_some hfind)
    rw [(Describes.record hfind hfields hhints htags).zeroValue_record hfind,
      exists_build_nil_iff hfields (nodup_fields hclass hfields)]
    constructor
    · rintro ⟨hzero, hfillable⟩ ref' c' fields' hfills hfind' hfields'
      cases hfills with
      | record =>
        obtain ⟨rfl, rfl⟩ := listed_unique hfind hfields hfind' hfields'
        exact hfillable
      | hint hfound hlisted hf hdefault hinner =>
        obtain ⟨rfl, rfl⟩ := listed_unique hfind hfields hfound hlisted
        exact (ih _ hf).mp (hzero _ hf hdefault) ref' c' fields' hinner hfind' hfields'
    · intro hall
      refine ⟨fun f hf hdefault => (ih f hf).mpr ?_, hall ref c fields (.record ref) hfind hfields⟩
      exact fun inner d listed hinner =>
        hall inner d listed (.hint hfind hfields hf hdefault hinner)

end Zero

/-! ## Loading nothing -/

/-- A record without required fields and without defaults of members accepts an empty object, of
which its zero value is loaded. -/
theorem Describes.load_empty [Text.Repertoire] {ref : RecordRef} {schema : Schema}
    (h : registry.Describes (.record ref) schema)
    (hoptional : ∀ p ∈ schema.fields, p.2.required = false ∧ p.2.default = .null) :
    schema.validate (.dict []) = .ok () ∧
      (schema.load registry (.dict []) (.record ref)).result =
        registry.zeroValue (.record ref) := by
  have hrecord := h
  cases h with
  | @record _ c fields schemaOf memberOf hfind hfields hhints htags =>
    have hentries : (Value.dict []).entries? = some [] := rfl
    have hinputs : (recordSchema fields memberOf).inputs [] fields = [] := by
      refine List.filterMap_eq_nil_iff.mpr fun f _ => ?_
      rw [Schema.input?, Option.bind_eq_none_iff]
      intro member hmember
      exact if_pos (Value.isNull_iff.mpr (hoptional _ (Schema.find?_mem hmember)).2)
    constructor
    · rw [Schema.validate_eq_ok_iff, Schema.accepts_object_iff rfl hentries]
      exact fun p hp => ⟨fun _ => (hoptional p hp).1, fun hpresent => absurd rfl hpresent⟩
    · have hload : ((recordSchema fields memberOf).load registry (.dict []) (.record ref)).result =
          (recordSchema fields memberOf).loadInputs registry [] fields >>= registry.build c :=
        (Schema.load_record rfl hentries rfl hfind hfields).1
      rw [Schema.loadInputs, hinputs] at hload
      exact hload.trans (hrecord.zeroValue_record hfind).symm

/-! ## Records that can be filled -/

theorem fillable_of_plain (hplain : registry.Plain c) (hfields : registry.fields c = .ok fields)
    (hnames : (fields.map (·.name)).Nodup) : registry.Fillable c fields := by
  have hvalues : Complete fields ((undeclared fields).map fun name => (name, .null)) := by
    constructor
    · intro p hp
      obtain ⟨name, hname, rfl⟩ := List.mem_map.mp hp
      obtain ⟨f, hf, rfl⟩ := List.mem_map.mp hname
      exact ⟨f, (List.mem_filter.mp hf).1, rfl⟩
    · intro f hf hdefault
      have hname : f.name ∈ undeclared fields :=
        List.mem_map_of_mem (List.mem_filter.mpr ⟨hf, by rw [hdefault]; rfl⟩)
      have hmem : (f.name, Value.null) ∈ (undeclared fields).map fun name => (name, .null) :=
        List.mem_map_of_mem hname
      refine ⟨.null, given?_of_mem ?_ hmem⟩
      rw [List.map_map]
      exact (List.map_id _).symm ▸ hnames.sublist (List.filter_sublist.map _)
  obtain ⟨slots, hslots, -⟩ := instantiate_plain hplain hfields hnames hvalues
  exact ⟨_, hslots⟩

/-- A type with a schema has a zero value if and only if an instance can be made of each record that
the zero value fills, from values for the fields without a default; that an instance cannot be made
is all that zero values fail with.  The zero value is not null, and it conforms to the type if every
record in it takes values for all of its fields.  A record of which no field is required or has a
default in its tag is loaded from an empty object as its zero value, wherever its schema is
served. -/
theorem zeroValue_of_derived [Text.Repertoire] (hdefined : initial.Before registry)
    {type : TypeExpr} {schema : Schema} (hderive : registry.derive type = .ok schema) :
    ((∃ z, registry.zeroValue type = .ok z) ↔
        ∀ ref c fields, registry.Fills type ref → registry.find? ref = some c →
          registry.fields c = .ok fields → registry.Fillable c fields) ∧
      (∀ z, registry.zeroValue type = .ok z → z ≠ .null ∧ registry.IsZero type z ∧
        (registry.TakesAll type → registry.Conforms type none z)) ∧
      (∀ fault, registry.zeroValue type = .error fault → ∃ e, fault = .instanceFault e) ∧
      ∀ ref, type = .record ref →
        (∀ p ∈ schema.fields, p.2.required = false ∧ p.2.default = .null) →
          ∀ s : Session, s.registry = registry → (s.schemaFor type).1 = .ok schema →
            (s.load (.dict []) type).1 = (registry.zeroValue type).map .ok := by
  have hdescribes := describes_of_derive hderive
  have hdistinct := hdefined.distinctFields
  refine ⟨hdescribes.exists_zero_iff hdistinct, fun z hz => ?_, fun fault herror => ?_, ?_⟩
  · have hzero := hdescribes.isZero hdistinct hz
    exact ⟨hzero.ne_null, hzero, hzero.conforms⟩
  · have hseen : ∀ ref ∈ ([] : List RecordRef), ¬ registry.Within (.record ref) type := nofun
    exact hdescribes.zero_eq_error hseen herror
  · rintro ref rfl hoptional s hregistry hserved
    obtain ⟨hvalid, hload⟩ := hdescribes.load_empty hoptional
    have hsame : (s.schemaFor (.record ref)).2.2.registry = registry := hregistry
    rw [Session.load_served hserved, Session.validateAndLoad, hvalid, hsame]
    exact congrArg (Except.map Except.ok) hload

/-- A leg is loaded from an empty object as the leg between two stops without a name. -/
theorem zeroValue_of_derived_legs :
    ∃ schema z, legs.derive (.record legRef) = .ok schema ∧
      legs.zeroValue (.record legRef) = .ok z ∧ z ≠ .null ∧
      legs.Conforms (.record legRef) none z ∧
      ((⟨legs, .empty 4⟩ : Session).load (.dict []) (.record legRef)).1 = .ok (.ok z) := by
  have hrun : (legs.derive (.record legRef)).toOption.map (fun schema =>
      schema.fields.all fun p => !p.2.required && p.2.default.isNull) = some true := by
    decide +kernel
  have hsome : (legs.zeroValue (.record legRef)).isOk = true := by decide +kernel
  obtain ⟨z, hz⟩ := Outcome.exists_of_isOk hsome
  cases hderive : legs.derive (.record legRef) with
  | error reason => rw [hderive] at hrun; cases hrun
  | ok schema =>
    rw [hderive] at hrun
    have hoptional : ∀ p ∈ schema.fields, p.2.required = false ∧ p.2.default = .null := by
      intro p hp
      simpa [Value.isNull_iff] using List.all_eq_true.mp (Option.some.inj hrun) p hp
    obtain ⟨-, hzero, -, hload⟩ := zeroValue_of_derived (.single ⟨_, defineAll_legs⟩) hderive
    obtain ⟨hpresent, -, hconforms⟩ := hzero z hz
    have htakes : legs.TakesAll (.record legRef) := by
      intro ref c fields _ hfind _ f _ hmade
      have hclasses : ∀ c ∈ legs.classes, legs.madeAsModel c = false := by decide +kernel
      rw [hclasses c (List.mem_of_find?_eq_some hfind)] at hmade
      cases hmade
    have hserved : ((⟨legs, .empty 4⟩ : Session).schemaFor (.record legRef)).1 = .ok schema :=
      hderive
    refine ⟨schema, z, rfl, hz, hpresent, hconforms htakes, ?_⟩
    rw [hload legRef rfl hoptional ⟨legs, .empty 4⟩ rfl hserved, hz]
    rfl

/-- A ticket has no zero value: that of its field cannot be given under the reserved name. -/
theorem ticket_without_zero :
    initial.defineAll [ticketDecl] = .ok tickets ∧
      (∃ schema, tickets.derive (.record ticketRef) = .ok schema) ∧
      tickets.zeroValue (.record ticketRef) =
        .error (.instanceFault (.givenTwice "BaseModel.model_construct" "cls")) := by
  have hsome : (tickets.derive (.record ticketRef)).isOk = true := by decide +kernel
  refine ⟨rfl, Outcome.exists_of_isOk hsome, ?_⟩
  have hfind : tickets.find? ticketRef = some ticketClass := rfl
  show Loading.zeroRecord tickets [] ticketRef = _
  rw [zeroRecord_eq List.not_mem_nil hfind rfl]
  rfl

end Registry
end Schematic
