import Mathlib.Data.List.Nodup
import Schematic.Proofs.Outcome
import Schematic.Record.Instance

/-!
Instances of records.  Whether one can be made depends on the names of the values that are given
and not on the values, which are put in as they are: `instantiate_alike` compares two instances of
one record, made with values under the same names.  `instantiate_held` says what a field of an
instance holds, the value given for it or else its declared default.
-/

namespace Schematic

/-- A default that a record declares for a field. -/
def RecordClass.DeclaresDefault (c : RecordClass) (name : String) (value : Value) : Prop :=
  (∃ fields, c.dataFields = some fields ∧
      ∃ field ∈ fields, field.name = name ∧ field.default = some value) ∨
    ∃ field ∈ c.modelFields, field.name = name ∧ field.default = some value

namespace Registry

open Outcome (Alike)

/-! ## Values under the same names -/

/-- Two values under one name, the same unless they are given. -/
def AgreeOff (given : List String) (p q : String × Value) : Prop :=
  p.1 = q.1 ∧ (p.1 ∉ given → p.2 = q.2)

/-- What two instances hold under one name: nothing, or values that agree. -/
def SlotsAgree (given : List String) (p q : String × Option Value) : Prop :=
  p.1 = q.1 ∧ p.2.isSome = q.2.isSome ∧ (p.1 ∉ given → p.2 = q.2)

/-- Two instances of one record that hold values under the same names. -/
def InstancesAgree (given : List String) (ref : RecordRef) (x y : Value) : Prop :=
  ∃ slots slots', x = .record ref slots ∧ y = .record ref slots' ∧
    List.Forall₂ (SlotsAgree given) slots slots'

section Agree

variable {given : List String} {values values' : List (String × Value)}

theorem SlotsAgree.refl (p : String × Option Value) : SlotsAgree given p p :=
  ⟨rfl, rfl, fun _ => rfl⟩

/-- A name has a value on both sides, the same one unless it is given, or on none. -/
theorem given?_cases (h : List.Forall₂ (AgreeOff given) values values') (name : String) :
    (given? values name = none ∧ given? values' name = none) ∨
      ∃ v v', given? values name = some v ∧ given? values' name = some v' ∧
        (name ∉ given → v = v') := by
  induction h with
  | nil => exact .inl ⟨rfl, rfl⟩
  | @cons p q rest rest' hpq _ ih =>
    obtain ⟨key, value⟩ := p
    obtain ⟨key', value'⟩ := q
    obtain ⟨rfl, hvalue⟩ : key = key' ∧ (key ∉ given → value = value') := hpq
    by_cases hkey : key = name
    · subst hkey
      exact .inr ⟨value, value', by simp [given?], by simp [given?], hvalue⟩
    · simpa [given?, hkey] using ih

theorem isNone_given?_eq (h : List.Forall₂ (AgreeOff given) values values') (name : String) :
    (given? values name).isNone = (given? values' name).isNone := by
  rcases given?_cases h name with ⟨hnone, hnone'⟩ | ⟨v, v', hsome, hsome', -⟩
  · rw [hnone, hnone']
  · rw [hsome, hsome']
    rfl

theorem map_fst_eq (h : List.Forall₂ (AgreeOff given) values values') :
    values.map Prod.fst = values'.map Prod.fst := by
  induction h with
  | nil => rfl
  | cons hpq _ ih => rw [List.map_cons, List.map_cons, hpq.1, ih]

theorem slots_names_eq {slots slots' : List (String × Option Value)}
    (h : List.Forall₂ (SlotsAgree given) slots slots') :
    slots.map Prod.fst = slots'.map Prod.fst := by
  induction h with
  | nil => rfl
  | cons hpq _ ih => rw [List.map_cons, List.map_cons, hpq.1, ih]

theorem any_fst_eq (h : List.Forall₂ (AgreeOff given) values values') (test : String → Bool) :
    values.any (fun p => test p.1) = values'.any (fun p => test p.1) := by
  have hmap (values : List (String × Value)) :
      values.any (fun p => test p.1) = (values.map Prod.fst).any test := by
    rw [List.any_map]
    rfl
  rw [hmap, hmap, map_fst_eq h]

theorem modelAttribute_alike (h : List.Forall₂ (AgreeOff given) values values')
    (field : ModelField) :
    Alike (SlotsAgree given) (modelAttribute values field) (modelAttribute values' field) := by
  unfold modelAttribute
  rcases given?_cases h field.name with ⟨hnone, hnone'⟩ | ⟨v, v', hsome, hsome', heq⟩
  · rw [hnone, hnone']
    exact Alike.rfl SlotsAgree.refl _
  · rw [hsome, hsome']
    exact .ok ⟨rfl, rfl, fun hname => congrArg some (heq hname)⟩

theorem constructModel_alike (h : List.Forall₂ (AgreeOff given) values values')
    (c : RecordClass) :
    Alike (InstancesAgree given c.ref) (constructModel c values) (constructModel c values') := by
  unfold constructModel
  rw [any_fst_eq h (· == reservedMember)]
  split
  next => exact .error _
  next =>
    have hattributes := Alike.mapM fun field (_ : field ∈ c.modelFields) =>
      modelAttribute_alike h field
    refine hattributes.bind fun slots slots' hslots => ?_
    exact .ok ⟨slots, slots', rfl, rfl, hslots⟩

/-- The slot of a name, none if there is no such name. -/
theorem slot_cases {slots slots' : List (String × Option Value)}
    (h : List.Forall₂ (SlotsAgree given) slots slots') (name : String) :
    SlotsAgree given (name, (slots.find? (·.1 == name)).bind Prod.snd)
      (name, (slots'.find? (·.1 == name)).bind Prod.snd) := by
  induction h with
  | nil => exact .refl _
  | @cons p q rest rest' hpq _ ih =>
    obtain ⟨key, slot⟩ := p
    obtain ⟨key', slot'⟩ := q
    obtain ⟨rfl, hslot⟩ : key = key' ∧ _ := hpq
    by_cases hkey : key = name
    · subst hkey
      simpa [SlotsAgree] using hslot
    · simpa [hkey] using ih

theorem validateModel_alike (h : List.Forall₂ (AgreeOff given) values values') (c : RecordClass)
    (fields : List FieldDecl) :
    Alike (InstancesAgree given c.ref) (validateModel c fields values)
      (validateModel c fields values') := by
  unfold validateModel
  simp only [isNone_given?_eq h]
  split
  next => exact .error _
  next =>
    have hattributes := Alike.mapM fun field (_ : field ∈ c.modelFields) =>
      modelAttribute_alike h field
    refine hattributes.bind fun slots slots' hslots => ?_
    refine .ok ⟨_, _, rfl, rfl, ?_⟩
    rw [List.forall₂_map_left_iff, List.forall₂_map_right_iff, List.forall₂_same]
    exact fun f _ => slot_cases hslots f.name

theorem unexpected?_eq (h : List.Forall₂ (AgreeOff given) values values') (record : String)
    (fields : List FieldDecl) :
    unexpected? record fields values = unexpected? record fields values' := by
  have hfind (test : String → Bool) (result : String → InstanceFault) :
      (values.find? fun p => test p.1).map (fun p => result p.1) =
        (values'.find? fun p => test p.1).map (fun p => result p.1) := by
    induction h with
    | nil => rfl
    | @cons p q rest rest' hpq _ ih =>
      rw [List.find?_cons, List.find?_cons, hpq.1]
      cases test q.1
      · exact ih
      · exact congrArg (fun name => some (result name)) hpq.1
  exact hfind (fun name => !fields.any fun f => f.loaded && f.name == name) fun name =>
    if name == "self" && !fields.any fun f => f.name == name then
      .givenTwice (record ++ ".__init__") name
    else .unexpected record name

theorem dataAttribute_alike (h : List.Forall₂ (AgreeOff given) values values')
    (registry : Registry) (c : RecordClass) (field : FieldDecl) :
    Alike (SlotsAgree given) (registry.dataAttribute c values field)
      (registry.dataAttribute c values' field) := by
  unfold dataAttribute
  cases field.loaded with
  | false => exact Alike.rfl SlotsAgree.refl _
  | true =>
    simp only [if_true]
    rcases given?_cases h field.name with ⟨hnone, hnone'⟩ | ⟨v, v', hsome, hsome', heq⟩
    · rw [hnone, hnone']
      exact Alike.rfl SlotsAgree.refl _
    · rw [hsome, hsome']
      exact .ok ⟨rfl, rfl, fun hname => congrArg some (heq hname)⟩

theorem constructData_alike (h : List.Forall₂ (AgreeOff given) values values')
    (registry : Registry) (maker c : RecordClass) (fields : List FieldDecl) :
    Alike (InstancesAgree given c.ref) (registry.constructData maker c fields values)
      (registry.constructData maker c fields values') := by
  have hmissing : missingFields fields values = missingFields fields values' := by
    unfold missingFields
    simp only [isNone_given?_eq h]
  unfold constructData
  rw [unexpected?_eq h, hmissing]
  cases unexpected? maker.ref.name fields values' with
  | some fault => exact .error _
  | none =>
    dsimp only
    split
    next => exact .error _
    next =>
      split
      next => exact .error _
      next =>
        refine (Alike.mapM fun field _ => dataAttribute_alike h registry c field).bind
          fun slots slots' hslots => ?_
        exact .ok ⟨slots, slots', rfl, rfl, hslots⟩

/-- Instances of one record that are made with values under the same names agree, or cannot be
made for the same reason. -/
theorem instantiate_alike (h : List.Forall₂ (AgreeOff given) values values')
    (registry : Registry) (c : RecordClass) :
    Alike (InstancesAgree given c.ref) (registry.instantiate c values)
      (registry.instantiate c values') := by
  unfold instantiate
  split
  next => exact constructModel_alike h c
  next => exact validateModel_alike h c _
  next => exact constructData_alike h registry _ c _

end Agree

/-! ## What an instance holds -/

theorem given?_mem {values : List (String × Value)} {name : String} {v : Value}
    (h : given? values name = some v) : (name, v) ∈ values := by
  obtain ⟨p, hp, rfl⟩ := Option.map_eq_some_iff.mp h
  obtain rfl : p.1 = name := by simpa using List.find?_some hp
  exact List.mem_of_find?_eq_some hp

theorem given?_of_mem {values : List (String × Value)} (hnames : (values.map Prod.fst).Nodup)
    {name : String} {v : Value} (h : (name, v) ∈ values) : given? values name = some v := by
  have hfound : (values.find? (·.1 == name)).isSome = true := by
    rw [List.find?_isSome]
    exact ⟨_, h, by simp⟩
  obtain ⟨p, hp⟩ := Option.isSome_iff_exists.mp hfound
  have hname : p.1 = name := by simpa using List.find?_some hp
  obtain rfl : p = (name, v) :=
    List.inj_on_of_nodup_map hnames (List.mem_of_find?_eq_some hp) h hname
  rw [given?, hp]
  rfl

theorem copied_eq_ok {v w : Value} (h : copied v = .ok w) : w = v := by
  unfold copied at h
  split at h
  next => cases h
  next => exact (Except.ok.inj h).symm

theorem mapM_copied_eq_ok {default slot : Option Value} (h : default.mapM copied = .ok slot) :
    slot = default := by
  cases default with
  | none => exact (Except.ok.inj h).symm
  | some v =>
    obtain ⟨w, hw, h⟩ := Outcome.bind_eq_ok h
    rw [← Except.ok.inj h, copied_eq_ok hw]

/-- A field of a model holds the value given for it, or else its default. -/
theorem modelAttribute_eq_ok {values : List (String × Value)} {field : ModelField}
    {slot : String × Option Value} (h : modelAttribute values field = .ok slot) :
    slot = (field.name, given? values field.name <|> field.default) := by
  unfold modelAttribute at h
  cases hgiven : given? values field.name with
  | some v =>
    rw [hgiven] at h
    exact (Except.ok.inj h).symm
  | none =>
    rw [hgiven] at h
    obtain ⟨copy, hcopy, h⟩ := Outcome.bind_eq_ok h
    rw [← Except.ok.inj h, mapM_copied_eq_ok hcopy]
    rfl

/-- What the fields of a model hold in an instance that is made with the given values. -/
def modelSlots (fields : List ModelField) (values : List (String × Value)) :
    List (String × Option Value) :=
  fields.map fun f => (f.name, given? values f.name <|> f.default)

theorem modelAttributes_eq_ok {fields : List ModelField} {values : List (String × Value)}
    {slots : List (String × Option Value)} (h : fields.mapM (modelAttribute values) = .ok slots) :
    slots = modelSlots fields values := by
  rw [modelSlots, ← List.forall₂_eq_eq_eq, List.forall₂_map_right_iff]
  exact (Outcome.mapM_eq_ok h).flip.imp fun _ _ => modelAttribute_eq_ok

theorem modelSlots_names (fields : List ModelField) (values : List (String × Value)) :
    (modelSlots fields values).map Prod.fst = fields.map (·.name) := by
  rw [modelSlots, List.map_map]
  rfl

theorem dataAttribute_name {registry : Registry} {c : RecordClass}
    {values : List (String × Value)} {field : FieldDecl} {slot : String × Option Value}
    (h : registry.dataAttribute c values field = .ok slot) : slot.1 = field.name := by
  unfold dataAttribute at h
  split at h
  next => exact Except.ok.inj h ▸ rfl
  next =>
    obtain ⟨own, -, h⟩ := Outcome.bind_eq_ok h
    exact Except.ok.inj h ▸ rfl

theorem dataAttributes_names {registry : Registry} {c : RecordClass}
    {values : List (String × Value)} {fields : List FieldDecl}
    {slots : List (String × Option Value)}
    (h : fields.mapM (registry.dataAttribute c values) = .ok slots) :
    slots.map Prod.fst = fields.map (·.name) := by
  rw [← List.forall₂_eq_eq_eq, List.forall₂_map_left_iff, List.forall₂_map_right_iff]
  exact (Outcome.mapM_eq_ok h).flip.imp fun _ _ => dataAttribute_name

/-- A loaded field of a data record holds the value given for it, or else its default. -/
theorem dataAttribute_eq_ok {registry : Registry} {c : RecordClass}
    {values : List (String × Value)} {field : FieldDecl} {slot : String × Option Value}
    (hloaded : field.loaded = true) (h : registry.dataAttribute c values field = .ok slot) :
    slot = (field.name, given? values field.name <|> field.default) := by
  unfold dataAttribute at h
  rw [hloaded] at h
  simp only [if_true] at h
  cases hgiven : given? values field.name with
  | some v =>
    rw [hgiven] at h
    exact (Except.ok.inj h).symm
  | none =>
    rw [hgiven] at h
    obtain ⟨copy, hcopy, h⟩ := Outcome.bind_eq_ok h
    rw [← Except.ok.inj h, mapM_copied_eq_ok hcopy]
    cases hdefault : field.default with
    | none => rfl
    | some v => cases hcopied : isCopied v <;> simp [Option.filter, hcopied]

theorem constructModel_eq_ok {c : RecordClass} {values : List (String × Value)} {x : Value}
    (h : constructModel c values = .ok x) : x = .record c.ref (modelSlots c.modelFields values) := by
  unfold constructModel at h
  split at h
  next => cases h
  next =>
    obtain ⟨slots, hslots, h⟩ := Outcome.bind_eq_ok h
    obtain rfl := modelAttributes_eq_ok hslots
    exact (Except.ok.inj h).symm

/-- A record is made as a model only if there is something for every field of the model. -/
theorem validateModel_eq_ok {c : RecordClass} {fields : List FieldDecl}
    {values : List (String × Value)} {x : Value} (h : validateModel c fields values = .ok x) :
    (∀ field ∈ c.modelFields, (given? values field.name <|> field.default).isSome = true) ∧
      x = .record c.ref (fields.map fun f =>
        (f.name, ((modelSlots c.modelFields values).find? (·.1 == f.name)).bind Prod.snd)) := by
  unfold validateModel at h
  dsimp only at h
  split at h
  next => cases h
  next habsent =>
    obtain ⟨slots, hslots, h⟩ := Outcome.bind_eq_ok h
    obtain rfl := modelAttributes_eq_ok hslots
    refine ⟨fun field hfield => ?_, (Except.ok.inj h).symm⟩
    have hempty : c.modelFields.filter
        (fun f => f.default.isNone && (given? values f.name).isNone) = [] := by
      simpa using habsent
    have hkept := List.filter_eq_nil_iff.mp hempty field hfield
    cases hgiven : given? values field.name with
    | some v => rfl
    | none =>
      cases hdefault : field.default with
      | some v => rfl
      | none => rw [hgiven, hdefault] at hkept; exact absurd rfl hkept

theorem constructData_eq_ok {registry : Registry} {maker c : RecordClass}
    {fields : List FieldDecl} {values : List (String × Value)} {x : Value}
    (h : registry.constructData maker c fields values = .ok x) :
    unexpected? maker.ref.name fields values = none ∧ missingFields fields values = [] ∧
      ∃ slots, fields.mapM (registry.dataAttribute c values) = .ok slots ∧
        x = .record c.ref slots := by
  unfold constructData at h
  cases hunexpected : unexpected? maker.ref.name fields values with
  | some fault => rw [hunexpected] at h; cases h
  | none =>
    rw [hunexpected] at h
    dsimp only at h
    split at h
    next => cases h
    next hmissing =>
      split at h
      next => cases h
      next =>
        obtain ⟨slots, hslots, h⟩ := Outcome.bind_eq_ok h
        exact ⟨rfl, by simpa using hmissing, slots, hslots, (Except.ok.inj h).symm⟩

/-- A value that was given under a name, or else one that is declared for it. -/
def GivenOrDeclared (c : RecordClass) (values : List (String × Value)) (name : String)
    (v : Value) : Prop :=
  given? values name = some v ∨ given? values name = none ∧ c.DeclaresDefault name v

theorem givenOrDeclared_of_orElse {c : RecordClass} {values : List (String × Value)}
    {name : String} {default : Option Value} {v : Value}
    (hdefault : ∀ v, default = some v → c.DeclaresDefault name v)
    (h : (given? values name <|> default) = some v) : GivenOrDeclared c values name v := by
  cases hgiven : given? values name with
  | some w =>
    rw [hgiven] at h
    exact .inl (hgiven.trans h)
  | none =>
    rw [hgiven] at h
    exact .inr ⟨hgiven, hdefault v h⟩

theorem held_of_modelSlots {c : RecordClass} {values : List (String × Value)} {name : String}
    {v : Value} (h : (name, some v) ∈ modelSlots c.modelFields values) :
    GivenOrDeclared c values name v := by
  obtain ⟨field, hfield, heq⟩ := List.mem_map.mp h
  obtain ⟨rfl, hslot⟩ := Prod.mk.inj heq
  exact givenOrDeclared_of_orElse (fun v hv => .inr ⟨field, hfield, rfl, hv⟩) hslot

theorem constructModel_held {c : RecordClass} {values : List (String × Value)} {x : Value}
    (h : constructModel c values = .ok x) :
    ∃ slots, x = .record c.ref slots ∧
      ∀ name v, (name, some v) ∈ slots → GivenOrDeclared c values name v :=
  ⟨_, constructModel_eq_ok h, fun _ _ => held_of_modelSlots⟩

theorem validateModel_held {c : RecordClass} {fields : List FieldDecl}
    {values : List (String × Value)} {x : Value} (h : validateModel c fields values = .ok x) :
    ∃ slots, x = .record c.ref slots ∧
      ∀ name v, (name, some v) ∈ slots → GivenOrDeclared c values name v := by
  refine ⟨_, (validateModel_eq_ok h).2, fun name v hmem => ?_⟩
  obtain ⟨field, -, heq⟩ := List.mem_map.mp hmem
  obtain ⟨rfl, hslot⟩ := Prod.mk.inj heq
  obtain ⟨p, hp, hvalue⟩ := Option.bind_eq_some_iff.mp hslot
  obtain hname : p.1 = field.name := by simpa using List.find?_some hp
  have hattribute : (field.name, some v) ∈ modelSlots c.modelFields values := by
    rw [← hname, ← hvalue]
    exact List.mem_of_find?_eq_some hp
  exact held_of_modelSlots hattribute

/-- A data record is made only if every loaded field comes to hold something. -/
theorem constructData_held {registry : Registry} {maker c : RecordClass}
    {fields : List FieldDecl} {values : List (String × Value)} {x : Value}
    (hdata : c.dataFields = some fields)
    (h : registry.constructData maker c fields values = .ok x) :
    ∃ slots, x = .record c.ref slots ∧ ∀ field ∈ fields, field.loaded = true →
      ∃ v, (field.name, some v) ∈ slots ∧ GivenOrDeclared c values field.name v := by
  obtain ⟨-, hmissing, slots, hslots, rfl⟩ := constructData_eq_ok h
  refine ⟨slots, rfl, fun field hfield hloaded => ?_⟩
  obtain ⟨slot, hslot, hattribute⟩ :=
    Outcome.exists_of_mem_left (Outcome.mapM_eq_ok hslots) hfield
  obtain rfl := dataAttribute_eq_ok hloaded hattribute
  cases hvalue : (given? values field.name <|> field.default) with
  | some v =>
    rw [hvalue] at hslot
    exact ⟨v, hslot, givenOrDeclared_of_orElse
      (fun v hv => .inl ⟨fields, hdata, field, hfield, rfl, hv⟩) hvalue⟩
  | none =>
    -- a field without a value and a default is among the missing ones
    obtain ⟨hgiven, hdefault⟩ : given? values field.name = none ∧ field.default = none := by
      simpa using hvalue
    have hmem : field.name ∈ missingFields fields values :=
      List.mem_map.mpr ⟨field, List.mem_filter.mpr
        ⟨hfield, by rw [hloaded, hgiven, hdefault]; rfl⟩, rfl⟩
    rw [hmissing] at hmem
    cases hmem

/-! ## The fields of a record -/

theorem fields_of_model {registry : Registry} {c : RecordClass} {fields : List RecordField}
    (hmodel : c.dataFields = none) (h : registry.fields c = .ok fields) :
    fields = c.modelFields.map modelField := by
  unfold Registry.fields at h
  rw [hmodel] at h
  exact (Except.ok.inj h).symm

theorem fields_of_data {registry : Registry} {c : RecordClass} {decls : List FieldDecl}
    {fields : List RecordField} (hdata : c.dataFields = some decls)
    (h : registry.fields c = .ok fields) :
    ∃ hintOf : FieldDecl → TypeExpr,
      fields = (decls.filter (·.loaded)).map fun decl => dataField decl (hintOf decl) := by
  unfold Registry.fields at h
  rw [hdata] at h
  obtain ⟨hints, -, h⟩ := Outcome.bind_eq_ok h
  exact ⟨_, (Except.ok.inj h).symm⟩

/-- The declaration of a field of a data record. -/
theorem loaded_of_fields {registry : Registry} {c : RecordClass} {decls : List FieldDecl}
    {fields : List RecordField} (hdata : c.dataFields = some decls)
    (hfields : registry.fields c = .ok fields) {f : RecordField} (hf : f ∈ fields) :
    ∃ decl ∈ decls, decl.loaded = true ∧ decl.name = f.name ∧ decl.default = f.default := by
  obtain ⟨hintOf, rfl⟩ := fields_of_data hdata hfields
  obtain ⟨decl, hdecl, rfl⟩ := List.mem_map.mp hf
  obtain ⟨hmem, hloaded⟩ := List.mem_filter.mp hdecl
  exact ⟨decl, hmem, hloaded, rfl, rfl⟩

/-- The field of a declaration of a data record that takes part in loading. -/
theorem field_of_loaded {registry : Registry} {c : RecordClass} {decls : List FieldDecl}
    {fields : List RecordField} (hdata : c.dataFields = some decls)
    (hfields : registry.fields c = .ok fields) {decl : FieldDecl} (hdecl : decl ∈ decls)
    (hloaded : decl.loaded = true) :
    ∃ f ∈ fields, f.name = decl.name ∧ f.default = decl.default := by
  obtain ⟨hintOf, rfl⟩ := fields_of_data hdata hfields
  exact ⟨_, List.mem_map.mpr ⟨decl, List.mem_filter.mpr ⟨hdecl, hloaded⟩, rfl⟩, rfl, rfl⟩

/-! ## Instances of records -/

/-- A field that holds something holds the value given for it, or else a declared default. -/
theorem instantiate_held {registry : Registry} {c : RecordClass} {fields : List RecordField}
    {values : List (String × Value)} {x : Value} (hfields : registry.fields c = .ok fields)
    (h : registry.instantiate c values = .ok x) :
    ∃ slots, x = .record c.ref slots ∧ ∀ f ∈ fields, ∀ v, (f.name, some v) ∈ slots →
      ∃ w, (f.name, some w) ∈ slots ∧ GivenOrDeclared c values f.name w := by
  unfold instantiate at h
  split at h
  next =>
    obtain ⟨slots, hx, hheld⟩ := constructModel_held h
    exact ⟨slots, hx, fun f _ v hv => ⟨v, hv, hheld f.name v hv⟩⟩
  next =>
    obtain ⟨slots, hx, hheld⟩ := validateModel_held h
    exact ⟨slots, hx, fun f _ v hv => ⟨v, hv, hheld f.name v hv⟩⟩
  next hdata _ =>
    obtain ⟨slots, hx, hheld⟩ := constructData_held hdata h
    refine ⟨slots, hx, fun f hf v _ => ?_⟩
    obtain ⟨decl, hdecl, hloaded, hname, -⟩ := loaded_of_fields hdata hfields hf
    exact hname ▸ hheld decl hdecl hloaded

end Registry
end Schematic
