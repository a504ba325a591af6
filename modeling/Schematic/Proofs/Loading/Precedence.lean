import Schematic.Proofs.Derivation.Nodes
import Schematic.Proofs.Loading.Revision
import Schematic.Proofs.Record.Attributes

/-!
Where the values of a loaded record come from.  There are four sources for a field, one after the
other: the value of its member, the default of the member, the declared default, and the zero value
of its type.  The first two are the inputs of the record, the other two are added when it is built.

Nothing of this depends on the order of the entries, since they are only looked up.
-/

namespace Schematic

namespace Schema

variable {registry : Registry} {schema : Schema} {entries entries' : List (Value × Value)}
  {value value' : Value}

/-- A member without a value has its default as the input of the field. -/
theorem input?_of_default {f : RecordField} {member : Field}
    (hmember : Field.find? (memberName f.name) schema.fields = some member)
    (hlookup : Value.lookup (memberName f.name) entries = .null) (hdefault : member.default ≠ .null) :
    schema.input? entries f = some ⟨f, member.schema, member.default⟩ := by
  have hvalue : Field.valueIn member (memberName f.name) entries = member.default := by
    rw [Field.valueIn, hlookup]
    rfl
  rw [input?, hmember, Option.bind_some, hvalue, Value.isNull_eq_false hdefault]
  rfl

theorem input?_of_null {f : RecordField} {member : Field}
    (hmember : Field.find? (memberName f.name) schema.fields = some member)
    (hlookup : Value.lookup (memberName f.name) entries = .null) (hdefault : member.default = .null) :
    schema.input? entries f = none := by
  have hvalue : Field.valueIn member (memberName f.name) entries = .null := by
    rw [Field.valueIn, hlookup, hdefault]
    rfl
  rw [input?, hmember, Option.bind_some, hvalue]
  rfl

theorem validate_perm (hkind : schema.kind = .object) (hentries : value.entries? = some entries)
    (hentries' : value'.entries? = some entries') (hperm : entries'.Perm entries)
    (hkeys : (entries.map Prod.fst).Nodup) : schema.validate value' = schema.validate value := by
  rw [validate_object hkind hentries', validate_object hkind hentries]
  exact validateFields_congr fun p _ => by rw [Value.lookup_perm p.1 hperm hkeys]

theorem load_perm (hkind : schema.kind = .object) (hentries : value.entries? = some entries)
    (hentries' : value'.entries? = some entries') (hperm : entries'.Perm entries)
    (hkeys : (entries.map Prod.fst).Nodup) (ref : RecordRef) :
    schema.load registry value' (.record ref) = schema.load registry value (.record ref) := by
  rw [load_object hkind, load_object hkind]
  refine Loading.object_congr hentries' hentries nofun fun _ _ fields _ _ _ => ?_
  refine Loading.memberValues_congr fun f _ member _ => ?_
  have hvalue : member.valueIn (memberName f.name) entries' =
      member.valueIn (memberName f.name) entries := by
    rw [Loading.Member.valueIn, Loading.Member.valueIn, Value.lookup_perm _ hperm hkeys]
  rw [hvalue]
  exact ⟨rfl, rfl⟩

end Schema

namespace Registry

/-- The value of a field of a record of class `c` that is loaded from entries, by the first of its
sources that has one. -/
inductive Supplies (registry : Registry) (c : RecordClass) (entries : List (Value × Value))
    (f : RecordField) (member : Field) : Value → Prop
  | loaded {w : Value} (hvalue : Value.lookup (memberName f.name) entries ≠ .null)
      (hload : (member.schema.load registry (Value.lookup (memberName f.name) entries)
        f.hint).result = .ok w) : Supplies registry c entries f member w
  | memberDefault (hnull : Value.lookup (memberName f.name) entries = .null)
      (hdefault : member.default ≠ .null) : Supplies registry c entries f member member.default
  | declared {w : Value} (hnull : Value.lookup (memberName f.name) entries = .null)
      (hmember : member.default = .null) (hdeclared : f.default ≠ none)
      (hkept : registry.keptDefault? c f = some w) : Supplies registry c entries f member w
  | zero {w : Value} (hnull : Value.lookup (memberName f.name) entries = .null)
      (hmember : member.default = .null) (hundeclared : f.default = none)
      (hzero : registry.zeroValue f.hint = .ok w) : Supplies registry c entries f member w

variable {registry : Registry} {ref : RecordRef} {c : RecordClass} {fields : List RecordField}
  {schemaOf : RecordField → Schema} {memberOf : RecordField → Field}
  {entries : List (Value × Value)} {values : List (String × Value)} {f : RecordField}

namespace DescribedRecord

/-- What the inputs of a record supply to the building of it: the value of the member of a field, its
default, or nothing. -/
theorem given?_cases [Text.Repertoire] (h : registry.DescribedRecord ref c fields schemaOf memberOf)
    (hvalues : (recordSchema fields memberOf).loadInputs registry entries fields = .ok values)
    (hf : f ∈ fields) :
    (∃ w, registry.Supplies c entries f (memberOf f) w ∧ given? values f.name = some w) ∨
      Value.lookup (memberName f.name) entries = .null ∧ (memberOf f).default = .null ∧
        given? values f.name = none := by
  have hmember := h.find?_member hf
  obtain ⟨hinput, hnone⟩ := loaded_of_input? h.distinct hvalues hf
  by_cases hlookup : Value.lookup (memberName f.name) entries = .null
  · by_cases hdefault : (memberOf f).default = .null
    · have habsent := hnone (Schema.input?_of_null hmember hlookup hdefault)
      refine .inr ⟨hlookup, hdefault, Option.map_eq_none_iff.mpr ?_⟩
      exact List.find?_eq_none.mpr fun p hp hname =>
        habsent (List.mem_map.mpr ⟨p, hp, by simpa using hname⟩)
    · obtain ⟨w, hload, hgiven⟩ := hinput _ (Schema.input?_of_default hmember hlookup hdefault)
      have hwell := h.describes.wellFormed.hasDefault (Schema.find?_mem hmember)
      have hkept : (memberOf f).schema.load registry (memberOf f).default f.hint =
          pure (memberOf f).default := hwell.load hdefault registry f.hint
      rw [Loading.Input.load, hkept] at hload
      obtain rfl := Except.ok.inj hload
      exact .inl ⟨_, .memberDefault hlookup hdefault, hgiven⟩
  · obtain ⟨w, hload, hgiven⟩ := hinput _ (Schema.input?_of_lookup hmember hlookup)
    exact .inl ⟨w, .loaded hlookup hload, hgiven⟩

theorem loaded_attribute? [Text.Repertoire]
    (h : registry.DescribedRecord ref c fields schemaOf memberOf)
    (hdistinct : c.DistinctFields) {value x : Value} (hentries : value.entries? = some entries)
    (hload : ((recordSchema fields memberOf).load registry value (.record ref)).result = .ok x)
    (hf : f ∈ fields) :
    (registry.Takes c f.name →
        ∃ w, registry.Supplies c entries f (memberOf f) w ∧ x.attribute? f.name = some w) ∧
      (¬ registry.Takes c f.name → x.attribute? f.name = none) := by
  rw [(h.load_eq hentries).1] at hload
  obtain ⟨values, hvalues, hbuild⟩ := Outcome.bind_eq_ok hload
  obtain ⟨htaken, hnot⟩ := build_attribute? hdistinct h.listed (nodup_names h.distinct) hbuild hf
  refine ⟨fun htakes => ?_, hnot⟩
  obtain ⟨hgiven, hdeclared, hzero⟩ := htaken htakes
  rcases h.given?_cases hvalues hf with ⟨w, hsupplies, hw⟩ | ⟨hnull, hmember, hnone⟩
  · exact ⟨w, hsupplies, hgiven w hw⟩
  · by_cases hdefault : f.default = none
    · obtain ⟨z, hz, hattribute⟩ := hzero hnone hdefault
      exact ⟨z, .zero hnull hmember hdefault hz, hattribute⟩
    · obtain ⟨v, hv, hattribute⟩ := hdeclared hnone hdefault
      exact ⟨v, .declared hnull hmember hdefault hv, hattribute⟩

end DescribedRecord

/-- Every field of a loaded record that the instance takes a value for holds what the first of its
sources supplies, and the fields of a record of both kinds that it takes none for are not set.
Neither validation nor loading depends on the order of the entries. -/
theorem loaded_attributes [Text.Repertoire] (hdefined : initial.Before registry) {schema : Schema}
    (hderive : registry.derive (.record ref) = .ok schema)
    (hfind : registry.find? ref = some c) (hfields : registry.fields c = .ok fields)
    (hdistinct : (fields.map fun f => memberName f.name).Nodup) {value : Value}
    (hentries : value.entries? = some entries) :
    (∀ x, (schema.load registry value (.record ref)).result = .ok x → ∀ f ∈ fields,
        ∃ member, Field.find? (memberName f.name) schema.fields = some member ∧
          (registry.Takes c f.name →
            ∃ w, registry.Supplies c entries f member w ∧ x.attribute? f.name = some w) ∧
          (¬ registry.Takes c f.name → x.attribute? f.name = none)) ∧
      ∀ value' entries', value'.entries? = some entries' → entries'.Perm entries →
        (entries.map Prod.fst).Nodup →
          schema.validate value' = schema.validate value ∧
            schema.load registry value' (.record ref) =
              schema.load registry value (.record ref) := by
  obtain ⟨schemaOf, memberOf, hrecord, rfl⟩ :=
    (describes_of_derive hderive).describedRecord hfind hfields hdistinct
  have hclass : c.DistinctFields :=
    hdefined.distinctFields c (List.mem_of_find?_eq_some hfind)
  constructor
  · intro x hload f hf
    exact ⟨memberOf f, hrecord.find?_member hf,
      hrecord.loaded_attribute? hclass hentries hload hf⟩
  · intro value' entries' hentries' hperm hkeys
    exact ⟨Schema.validate_perm rfl hentries hentries' hperm hkeys,
      Schema.load_perm rfl hentries hentries' hperm hkeys ref⟩

def orderRef : RecordRef := ⟨2, .data, recordModule, "Order", false⟩

def orderDecl : RecordDecl :=
  ⟨"Order", .data, [⟨"Item", .scalar .str, none, "", true, false⟩,
    ⟨"Count", .scalar .int, none, "default:\"5\"", true, false⟩,
    ⟨"Note", .scalar .str, some (.str "-"), "", true, false⟩,
    ⟨"Paid", .scalar .bool, none, "", true, false⟩], [], false⟩

def orderClass : RecordClass :=
  ⟨orderRef, [orderRef, .root], orderDecl.fields, some orderDecl.fields, []⟩

def orderFields : List RecordField :=
  [⟨"Item", .scalar .str, "", none⟩, ⟨"Count", .scalar .int, "default:\"5\"", none⟩,
    ⟨"Note", .scalar .str, "", some (.str "-")⟩, ⟨"Paid", .scalar .bool, "", none⟩]

def orders : Registry := ⟨initial.classes ++ [orderClass]⟩

theorem defineAll_orders : initial.defineAll [orderDecl] = .ok orders := by
  have hdefine : initial.define orderDecl = .ok orders :=
    define_data rfl rfl (by decide +kernel)
  exact defineAll_single hdefine rfl

/-- An order is loaded from its item alone, and holds a value for each of its fields. -/
theorem loaded_attributes_orders :
    ∃ schema x, orders.derive (.record orderRef) = .ok schema ∧
      (schema.load orders (.dict [(.str "item", .str "tea")]) (.record orderRef)).result = .ok x ∧
      ∀ f ∈ orderFields, ∃ member w,
        orders.Supplies orderClass [(.str "item", .str "tea")] f member w ∧
          x.attribute? f.name = some w := by
  have hrun : (orders.derive (.record orderRef)).toOption.map (fun schema =>
      (schema.load orders (.dict [(.str "item", .str "tea")]) (.record orderRef)).result.isOk) =
        some true := by
    decide +kernel
  cases hderive : orders.derive (.record orderRef) with
  | error reason => rw [hderive] at hrun; cases hrun
  | ok schema =>
    rw [hderive] at hrun
    obtain ⟨x, hload⟩ := Outcome.exists_of_isOk (Option.some.inj hrun)
    have hdistinct : (orderFields.map fun f => memberName f.name).Nodup := by decide +kernel
    have hfind : orders.find? orderRef = some orderClass := rfl
    have hfields : orders.fields orderClass = .ok orderFields := rfl
    obtain ⟨hattributes, -⟩ := loaded_attributes (.single ⟨_, defineAll_orders⟩) hderive hfind
      hfields hdistinct (rfl : (Value.dict [(.str "item", .str "tea")]).entries? = _)
    refine ⟨schema, x, rfl, hload, fun f hf => ?_⟩
    obtain ⟨member, -, htaken, -⟩ := hattributes x hload f hf
    obtain ⟨w, hsupplies, hattribute⟩ := htaken nofun
    exact ⟨member, w, hsupplies, hattribute⟩

/-! ## A field that is none of the model -/

def cornerDecl : RecordDecl :=
  ⟨"Corner", .data, [⟨"_x", .scalar .int, none, "", true, false⟩], [], false⟩

def shapeDecl : RecordDecl := ⟨"Shape", .model, [], [], false⟩

def pointDecl : RecordDecl := ⟨"Point", .model, [], ["Shape", "Corner"], false⟩

def cornerRef : RecordRef := ⟨2, .data, recordModule, "Corner", false⟩

def shapeRef : RecordRef := ⟨3, .model, recordModule, "Shape", false⟩

def pointRef : RecordRef := ⟨4, .model, recordModule, "Point", false⟩

def cornerClass : RecordClass :=
  ⟨cornerRef, [cornerRef, .root], cornerDecl.fields, some cornerDecl.fields, []⟩

def shapeClass : RecordClass := ⟨shapeRef, shapeRef :: RecordKind.roots .model, [], none, []⟩

def pointClass : RecordClass :=
  ⟨pointRef, [pointRef, shapeRef, .modelRoot, cornerRef, .root], [], some cornerDecl.fields, []⟩

def points : Registry := ⟨initial.classes ++ [cornerClass, shapeClass, pointClass]⟩

theorem defineAll_points : initial.defineAll [cornerDecl, shapeDecl, pointDecl] = .ok points := by
  have hcorner : initial.define cornerDecl = .ok ⟨initial.classes ++ [cornerClass]⟩ :=
    define_data rfl rfl (by decide +kernel)
  have hdefine : [cornerDecl, shapeDecl, pointDecl].foldlM define initial = .ok points := by
    rw [Outcome.foldlM_cons_of_ok hcorner]
    rfl
  exact defineAll_of_settled hdefine rfl

/-- A point is loaded from a value for its field, and the field is not set. -/
theorem point_not_set :
    initial.defineAll [cornerDecl, shapeDecl, pointDecl] = .ok points ∧
      ∃ schema, points.derive (.record pointRef) = .ok schema ∧
        schema.validate (.dict [(.str "_x", .int 5)]) = .ok () ∧
        ∃ x, (schema.load points (.dict [(.str "_x", .int 5)]) (.record pointRef)).result =
            .ok x ∧ x.attribute? "_x" = none := by
  let accepts (schema : Schema) : Bool := (schema.validate (.dict [(.str "_x", .int 5)])).isOk
  let unset (schema : Schema) : Bool :=
    match (schema.load points (.dict [(.str "_x", .int 5)]) (.record pointRef)).result with
    | .ok x => (x.attribute? "_x").isNone
    | .error _ => false
  have hrun : (points.derive (.record pointRef)).toOption.map
      (fun schema => (accepts schema, unset schema)) = some (true, true) := by
    decide +kernel
  refine ⟨defineAll_points, ?_⟩
  cases hderive : points.derive (.record pointRef) with
  | error reason => rw [hderive] at hrun; cases hrun
  | ok schema =>
    rw [hderive] at hrun
    obtain ⟨haccepts, hunset⟩ := Prod.mk.inj (Option.some.inj hrun)
    obtain ⟨_, hvalid⟩ := Outcome.exists_of_isOk haccepts
    refine ⟨schema, rfl, hvalid, ?_⟩
    cases hload : (schema.load points (.dict [(.str "_x", .int 5)]) (.record pointRef)).result with
    | error fault => simp only [unset, hload] at hunset; cases hunset
    | ok x =>
      simp only [unset, hload] at hunset
      exact ⟨x, rfl, Option.isNone_iff_eq_none.mp hunset⟩

end Registry
end Schematic
