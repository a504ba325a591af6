import Schematic.Proofs.Derivation.Interchange
import Schematic.Proofs.Loading.Plain
import Schematic.Proofs.Schema.Induction

/-!
Loading into data records, and into the models in their places.  Values with the same contents are taken
apart in the same way, a field that is left without a value holds the default or the zero value on both
sides, and the instances have the same contents again: `load_models`, by induction over the schema.
-/

namespace Schematic

open Outcome (Alike)

/-! ## Values with the same contents -/

namespace Value

variable {v w : Value}

/-- What is made of a value follows its contents, if that commutes with putting models in. -/
theorem SameContents.alike {α ε : Type} {f : Value → Except ε α} {g : α → α}
    (hf : ∀ v, f v.withModels = (f v).map g) (h : v.SameContents w) :
    Alike (fun a b => g a = g b) (f v) (f w) := by
  have heq : (f v).map g = (f w).map g := by
    rw [← hf, ← hf]
    exact congrArg f h
  cases hv : f v with
  | error e =>
    rw [hv] at heq
    rw [Outcome.map_eq_error heq.symm]
    exact .error e
  | ok a =>
    rw [hv] at heq
    obtain ⟨b, hb, hsame⟩ := Outcome.map_eq_ok heq.symm
    rw [hb]
    exact .ok hsame.symm

theorem SameContents.lookup {entries entries' : List (Value × Value)}
    (h : entriesWithModels entries = entriesWithModels entries') (name : String) :
    (Value.lookup name entries).SameContents (Value.lookup name entries') := by
  unfold SameContents
  rw [← lookup_withModels, h, lookup_withModels]

theorem sameItems_iff {items items' : List Value} :
    itemsWithModels items = itemsWithModels items' ↔ List.Forall₂ SameContents items items' := by
  rw [itemsWithModels_eq, itemsWithModels_eq, ← List.forall₂_eq_eq_eq, List.forall₂_map_left_iff,
    List.forall₂_map_right_iff]
  rfl

/-- Slots under the same names with the same contents. -/
def SameSlots (slots slots' : List (String × Option Value)) : Prop :=
  List.Forall₂ (fun p q => p.1 = q.1 ∧ p.2.map withModels = q.2.map withModels) slots slots'

theorem SameContents.record {ref ref' : RecordRef} (href : ref'.asModel = ref.asModel)
    {slots slots' : List (String × Option Value)} (h : SameSlots slots slots') :
    (Value.record ref slots).SameContents (.record ref' slots') := by
  have hslots : fieldsWithModels slots = fieldsWithModels slots' := by
    rw [fieldsWithModels_eq, fieldsWithModels_eq]
    exact Outcome.map_eq_of_forall₂ (fun p q hpq => Prod.ext hpq.1 hpq.2) h
  show Value.record ref.asModel _ = Value.record ref'.asModel _
  rw [href, hslots]

end Value

open Value (MembersRelated SameContents SameSlots)

variable {values values' : List (String × Value)}

theorem Value.MembersRelated.any_name {r : Value → Value → Prop} (h : MembersRelated r values values')
    (name : String) : values.any (·.1 == name) = values'.any (·.1 == name) := by
  have hnames : values.map Prod.fst = values'.map Prod.fst :=
    Outcome.map_eq_of_forall₂ (fun p q hpq => hpq.1) h
  have hany (values : List (String × Value)) :
      values.any (·.1 == name) = (values.map Prod.fst).any (· == name) := by
    rw [List.any_map]
    rfl
  rw [hany, hany, hnames]

namespace Registry

/-! ## Instances -/

theorem given?_related (h : MembersRelated SameContents values values') (name : String) :
    (given? values name = none ∧ given? values' name = none) ∨
      ∃ v v', given? values name = some v ∧ given? values' name = some v' ∧ v.SameContents v' := by
  unfold given?
  rcases Outcome.find?_related (p := fun p : String × Value => p.1 == name)
    (q := fun p : String × Value => p.1 == name) (fun p q hpq => by rw [hpq.1]) h with
    ⟨hnone, hnone'⟩ | ⟨p, q, hp, hq, -, hsame⟩
  · rw [hnone, hnone']
    exact .inl ⟨rfl, rfl⟩
  · rw [hp, hq]
    exact .inr ⟨p.2, q.2, rfl, rfl, hsame⟩

abbrev SameSlot (p q : String × Option Value) : Prop :=
  p.1 = q.1 ∧ p.2.map Value.withModels = q.2.map Value.withModels

theorem modelAttribute_same (h : MembersRelated SameContents values values') (field : ModelField) :
    Alike SameSlot (modelAttribute values field) (modelAttribute values' field) := by
  unfold modelAttribute
  rcases given?_related h field.name with ⟨hnone, hnone'⟩ | ⟨v, v', hv, hv', hsame⟩
  · rw [hnone, hnone']
    exact Alike.rfl (fun _ => ⟨rfl, rfl⟩) _
  · rw [hv, hv']
    exact .ok ⟨rfl, congrArg some hsame⟩

variable {known : RecordRef → Prop} {registry models : Registry} {c model : RecordClass}

theorem attribute_models {decl : FieldDecl} {field : ModelField} (hfield : decl.IsModelled known field)
    (h : MembersRelated SameContents values values') :
    Alike SameSlot (registry.dataAttribute c values decl) (modelAttribute values' field) := by
  unfold dataAttribute modelAttribute
  rw [hfield.common.loaded, hfield.name, hfield.default]
  simp only [if_true]
  rcases given?_related h decl.name with ⟨hnone, hnone'⟩ | ⟨v, v', hv, hv', hsame⟩
  · rw [hnone, hnone']
    cases hdefault : decl.default with
    | none => exact .ok ⟨rfl, rfl⟩
    | some v =>
      have hview := Value.holdsView_withModels v
      have hslot : SameSlot (decl.name, some v) (decl.name, some v.withModels) :=
        ⟨rfl, congrArg some (SameContents.withModels v)⟩
      simp only [Option.filter_some, Option.map_some, Option.mapM_some, copied, hview]
      cases hcopied : isCopied v with
      | false =>
        rw [hfield.common.copyable v hdefault hcopied]
        exact .ok hslot
      | true =>
        rw [if_pos rfl, Option.mapM_some, copied]
        cases v.holdsView with
        | true => exact .error _
        | false => exact .ok hslot
  · rw [hv, hv']
    exact .ok ⟨rfl, congrArg some hsame⟩

namespace SeenAs

theorem isModel_declared (h : registry.SeenAs models) (hc : c ∈ registry.classes)
    (hmodelled : c.IsModelled registry.Holds model) : c.isModel = false := by
  rw [← Bool.not_eq_true, RecordClass.isModel, List.contains_iff_mem]
  intro hroot
  rcases h.corresponds.ancestors c hc hmodelled.module _ hroot with heq | hdeclared
  · exact absurd heq (by decide)
  · exact absurd hdeclared.1 (by decide)

theorem maker?_declared (h : registry.SeenAs models) (hc : c ∈ registry.classes)
    (hmodelled : c.IsModelled registry.Holds model) : registry.maker? c.ancestry = some c := by
  obtain ⟨above, habove, -⟩ := hmodelled.rooted
  have hne : c.ref ≠ .modelRoot := by
    intro heq
    have hkind := hmodelled.kind
    rw [heq] at hkind
    cases hkind
  rw [habove, List.cons_append, maker?, if_neg hne, if_pos hmodelled.kind,
    h.corresponds.find?_of_mem hc]
  rfl

theorem constructModel_same (c : RecordClass) (h : MembersRelated SameContents values values') :
    Alike SameContents (constructModel c values) (constructModel c values') := by
  unfold constructModel
  rw [h.any_name]
  split
  · exact .error _
  · have hattributes := Alike.mapM fun field (_ : field ∈ c.modelFields) => modelAttribute_same h field
    exact hattributes.bind fun slots slots' hslots => .ok (.record rfl hslots)

theorem instantiate (h : registry.SeenAs models) (hc : c ∈ registry.classes)
    (hmodel : c.Corresponds registry.Holds model) {fields : List RecordField}
    (hfields : registry.fields c = .ok fields) (hcomplete : Complete fields values)
    (hvalues : MembersRelated SameContents values values') :
    Alike SameContents (registry.instantiate c values) (models.instantiate model values') := by
  cases hmodel with
  | library hlibrary =>
    have hdata := (RecordClass.forall_library (P := fun c => c.dataFields = none)).mpr ⟨rfl, rfl⟩ c
      hlibrary
    unfold Registry.instantiate
    rw [hdata]
    exact constructModel_same c hvalues
  | declared hmodelled =>
    obtain ⟨decls, hdecls, hrelated⟩ := hmodelled.fields
    have hfree : values'.any (·.1 == reservedMember) = false := by
      rw [← hvalues.any_name, List.any_eq_false]
      intro p hp
      obtain ⟨f, hf, hname⟩ := hcomplete.known p hp
      obtain ⟨decl, hdecl, -, hsame, -⟩ := loaded_of_fields hdecls hfields hf
      obtain ⟨_, -, hfield⟩ := Outcome.exists_of_mem_left hrelated hdecl
      rw [← hname, ← hsame]
      exact fun heq => hfield.common.free (eq_of_beq heq)
    have hattributes : Alike SameSlots (decls.mapM (registry.dataAttribute c values))
        (model.modelFields.mapM (modelAttribute values')) :=
      Alike.mapM_related (hrelated.imp fun decl field hfield => attribute_models hfield hvalues)
    -- A model is made without the checks of a data record, and these pass for complete values.
    unfold Registry.instantiate
    rw [hdecls, h.maker?_declared hc hmodelled, hmodelled.noData]
    show Alike _ (registry.constructData c c decls values) (constructModel model values')
    rw [constructData_complete hdecls (h.isModel_declared hc hmodelled) hfields hcomplete,
      constructModel, hfree]
    refine hattributes.bind fun slots slots' hslots => .ok (.record ?_ hslots)
    rw [hmodelled.ref, RecordRef.asModel_asModel]

end SeenAs
end Registry

/-! ## Zero values and records -/

namespace Loading

variable {known : RecordRef → Prop} {onRecord onRecord' : RecordRef → Except LoadFault Value}

theorem zeroOf_base (onRecord : RecordRef → Except LoadFault Value) :
    ∀ type : TypeExpr, zeroOf onRecord type.base = zeroOf onRecord type
  | .annotated base _ => zeroOf_base onRecord base
  | .scalar _ | .openArray _ | .array _ _ | .mapping _ _ | .record _ | .named _ | .generic _ _
  | .union _ _ | .literal _ | .value _ | .reference _ | .ellipsis => rfl

theorem zeroOf_withModels
    (hrecord : ∀ ref, known ref → Alike SameContents (onRecord ref) (onRecord' ref.asModel)) :
    ∀ type : TypeExpr, type.Over known →
      Alike SameContents (zeroOf onRecord type) (zeroOf onRecord' type.withModels)
  | .record ref, h => hrecord ref (TypeExpr.over_record.mp h)
  | .annotated base _, h => zeroOf_withModels hrecord base (TypeExpr.over_annotated.mp h)
  | .scalar _, _ | .openArray _, _ | .array _ _, _ | .mapping _ _, _ | .named _, _ | .generic _ _, _
  | .union _ _, _ | .literal _, _ | .value _, _ | .reference _, _ | .ellipsis, _ =>
    Alike.rfl SameContents.refl _

theorem zeroOf_seen
    (hrecord : ∀ ref, known ref → Alike SameContents (onRecord ref) (onRecord' ref.asModel))
    {type type' : TypeExpr} (h : type.SeenAs known type') :
    Alike SameContents (zeroOf onRecord type) (zeroOf onRecord' type') := by
  rw [← zeroOf_base onRecord, ← zeroOf_base onRecord', h.base]
  exact zeroOf_withModels hrecord _ (TypeExpr.over_base.mpr h.isOver)

/-- The same fields are completed, with zero values of the same contents. -/
theorem complete_seen {zero zero' : TypeExpr → Except LoadFault Value}
    (hzero : ∀ type type', type.SeenAs known type' → Alike SameContents (zero type) (zero' type'))
    {fields fields' : List RecordField} (hfields : List.Forall₂ (RecordField.SeenAs known) fields fields')
    (hvalues : MembersRelated SameContents values values') :
    Alike (MembersRelated SameContents) (complete zero fields values)
      (complete zero' fields' values') := by
  induction hfields generalizing values values' with
  | nil => exact .ok hvalues
  | @cons field field' _ _ hfield _ ih =>
    rw [complete_cons, complete_cons, hfield.name, hfield.default, hvalues.any_name]
    split
    · exact ih hvalues
    · refine (hzero _ _ hfield.hint).bind fun z z' hz => ih ?_
      exact List.rel_append hvalues (.cons ⟨rfl, hz⟩ .nil)

end Loading

namespace Registry.SeenAs

open Loading (complete zeroOf zeroRecord)

variable {registry models : Registry} {c model : RecordClass}

theorem instantiate_complete (h : registry.SeenAs models) (hc : c ∈ registry.classes)
    (hmodel : c.Corresponds registry.Holds model) {zero zero' : TypeExpr → Except LoadFault Value}
    (hzero : ∀ type type', type.SeenAs registry.Holds type' →
      Alike SameContents (zero type) (zero' type'))
    {fields fields' : List RecordField} (hfields : registry.fields c = .ok fields)
    (hseen : List.Forall₂ (RecordField.SeenAs registry.Holds) fields fields')
    (hnames : ∀ p ∈ values, ∃ f ∈ fields, f.name = p.1)
    (hvalues : MembersRelated SameContents values values') :
    Alike SameContents (complete zero fields values >>= Loading.instantiate registry c)
      (complete zero' fields' values' >>= Loading.instantiate models model) := by
  refine (Loading.complete_seen hzero hseen hvalues).bind_of_ok
    fun completed completed' hresult hrelated => ?_
  obtain ⟨hadded, hgiven⟩ := Loading.complete_eq_ok hresult
  have hall : Complete fields completed := by
    refine ⟨fun p hp => ?_, hgiven⟩
    rcases hadded p hp with hmem | ⟨f, hf, hname, -⟩
    · exact hnames p hmem
    · exact ⟨f, hf, hname⟩
  exact (h.instantiate hc hmodel hfields hall hrelated).mapError _

theorem zeroRecord_models (h : registry.SeenAs models) {seen : List RecordRef}
    {ref : RecordRef} (hseen : ∀ ref ∈ seen, registry.Holds ref) (href : registry.Holds ref) :
    Alike SameContents (zeroRecord registry seen ref)
      (zeroRecord models (seen.map RecordRef.asModel) ref.asModel) := by
  fun_induction zeroRecord registry seen ref with
  | case1 seen ref hmem =>
    rw [zeroRecord, dif_pos ((h.mem_map_asModel_iff hseen href).mpr hmem), RecordRef.asModel_name]
    exact .error _
  | case2 seen ref hmem hnone =>
    obtain ⟨c, _, _, _, hfind, -⟩ := h.find? href
    rw [hfind] at hnone
    cases hnone
  | case3 seen ref hmem c hfind ih =>
    obtain ⟨c', model, fields, fields', hfind', hmodel, hc, hcorresponds, hfields, hfields', hrelated⟩ :=
      h.find? href
    obtain rfl := Option.some.inj (hfind.symm.trans hfind')
    have hinner : ∀ type type', type.SeenAs registry.Holds type' → Alike SameContents
        (zeroOf (zeroRecord registry (ref :: seen)) type)
        (zeroOf (zeroRecord models (ref.asModel :: seen.map RecordRef.asModel)) type') :=
      fun type type' htype => Loading.zeroOf_seen
        (fun inner hholds => ih inner (List.forall_mem_cons.mpr ⟨href, hseen⟩) hholds) htype
    rw [zeroRecord_eq (fun hin => hmem ((h.mem_map_asModel_iff hseen href).mp hin)) hmodel hfields',
      fieldsOf_eq hfields]
    exact h.instantiate_complete hc hcorresponds hinner hfields hrelated (List.forall_mem_nil _) .nil

theorem build (h : registry.SeenAs models) (hc : c ∈ registry.classes)
    (hmodel : c.Corresponds registry.Holds model) {fields fields' : List RecordField}
    (hfields : registry.fields c = .ok fields) (hfields' : models.fields model = .ok fields')
    (hseen : List.Forall₂ (RecordField.SeenAs registry.Holds) fields fields')
    (hnames : ∀ p ∈ values, ∃ f ∈ fields, f.name = p.1)
    (hvalues : MembersRelated SameContents values values') :
    Alike SameContents (registry.build c values) (models.build model values') := by
  have hzero : ∀ type type', type.SeenAs registry.Holds type' →
      Alike SameContents (registry.zeroValue type) (models.zeroValue type') :=
    fun type type' htype => Loading.zeroOf_seen
      (fun ref href => h.zeroRecord_models (List.forall_mem_nil _) href) htype
  rw [build_eq hfields, build_eq hfields']
  exact h.instantiate_complete hc hmodel hzero hfields hseen hnames hvalues

end Registry.SeenAs

/-! ## Loading -/

/-- Two results with the same events, related or failed alike. -/
def Noted.Alike {α β : Type} (r : α → β → Prop) (x : Noted α) (y : Noted β) : Prop :=
  x.events = y.events ∧ Outcome.Alike r x.result y.result

namespace Noted

variable {α β γ δ : Type} {r : α → β → Prop} {s : γ → δ → Prop}

theorem Alike.of {x : Except LoadFault α} {y : Except LoadFault β} (h : Outcome.Alike r x y) :
    Alike r (Noted.of x) (Noted.of y) :=
  ⟨rfl, h⟩

theorem Alike.pure {a : α} {b : β} (h : r a b) : Alike r (pure a : Noted α) (pure b) :=
  ⟨rfl, .ok h⟩

theorem Alike.bind {x : Noted α} {y : Noted β} {f : α → Noted γ} {g : β → Noted δ}
    (h : Alike r x y) (hfg : ∀ a b, r a b → Alike s (f a) (g b)) : Alike s (x >>= f) (y >>= g) := by
  obtain ⟨events, result⟩ := x
  obtain ⟨events', result'⟩ := y
  obtain ⟨hevents, hresult⟩ := h
  obtain rfl : events = events' := hevents
  cases hresult with
  | error fault => exact ⟨rfl, .error fault⟩
  | ok hab =>
    obtain ⟨hmore, hnext⟩ := hfg _ _ hab
    exact ⟨congrArg (events ++ ·) hmore, hnext⟩

theorem Alike.forEach {f : α → Noted γ} {g : β → Noted δ} {as : List α} {bs : List β}
    (h : List.Forall₂ (fun a b => Alike s (f a) (g b)) as bs) :
    Alike (List.Forall₂ s) (forEach f as) (forEach g bs) := by
  induction h with
  | nil => exact .pure .nil
  | cons hhead _ ih => exact hhead.bind fun c d hcd => ih.bind fun cs ds hrest => .pure (.cons hcd hrest)

end Noted

namespace Loading

/-- What is made of a scalar does not depend on the records that a value holds. -/
theorem scalar_same {v w : Value} (h : v.SameContents w) :
    boolean v = boolean w ∧ text v = text w ∧ integer v = integer w ∧ number v = number w ∧
      dateTime v = dateTime w := by
  have hmodels (v : Value) : boolean v.withModels = boolean v ∧ text v.withModels = text v ∧
      integer v.withModels = integer v ∧ number v.withModels = number v ∧
      dateTime v.withModels = dateTime v := by
    cases v with
    | record ref fields =>
      have hname := ref.asModel_name
      simp only [Value.withModels, boolean, text, integer, number, dateTime, Value.className, hname,
        and_self]
    | _ => exact ⟨rfl, rfl, rfl, rfl, rfl⟩
  obtain ⟨hboolean, htext, hinteger, hnumber, hdateTime⟩ := hmodels v
  rw [← hboolean, ← htext, ← hinteger, ← hnumber, ← hdateTime, h]
  exact hmodels w

theorem entriesOf_withModels (v : Value) :
    entriesOf v.withModels = (entriesOf v).map Value.entriesWithModels := by
  unfold entriesOf
  rw [Value.isNull_withModels, Value.entries?_withModels, Value.className_withModels]
  cases v.isNull with
  | true => rfl
  | false => cases v.entries? <;> rfl

theorem itemsOf_withModels (v : Value) :
    itemsOf v.withModels = (itemsOf v).map Value.itemsWithModels := by
  unfold itemsOf
  rw [Value.isNull_withModels, Value.items?_withModels, Value.className_withModels]
  cases v.isNull with
  | true => rfl
  | false => cases v.items? <;> rfl

/-- Ways to load the members of a record and those of the model in its place. -/
def MembersSeen (known : RecordRef → Prop) (members members' : List (String × Member)) : Prop :=
  ∀ name, (Member.find? name members = none ∧ Member.find? name members' = none) ∨
    ∃ member member', Member.find? name members = some member ∧
      Member.find? name members' = some member' ∧ member.default = member'.default ∧
      ∀ v w type type', v.SameContents w → type.SeenAs known type' →
        Noted.Alike SameContents (member.load v type) (member'.load w type')

variable {known : RecordRef → Prop} {members members' : List (String × Member)}

theorem memberValues_seen (hmembers : MembersSeen known members members')
    {entries entries' : List (Value × Value)}
    (hentries : Value.entriesWithModels entries = Value.entriesWithModels entries')
    {fields fields' : List RecordField}
    (hfields : List.Forall₂ (RecordField.SeenAs known) fields fields') :
    Noted.Alike (fun values values' => MembersRelated SameContents values values' ∧
        ∀ p ∈ values, ∃ f ∈ fields, f.name = p.1)
      (memberValues members entries fields) (memberValues members' entries' fields') := by
  induction hfields with
  | nil => exact .pure ⟨.nil, List.forall_mem_nil _⟩
  | @cons field field' rest rest' hfield _ ih =>
    have hrest : Noted.Alike (fun values values' => MembersRelated SameContents values values' ∧
        ∀ p ∈ values, ∃ f ∈ field :: rest, f.name = p.1)
        (memberValues members entries rest) (memberValues members' entries' rest') := by
      refine ⟨ih.1, ih.2.imp fun values values' hvalues => ⟨hvalues.1, fun p hp => ?_⟩⟩
      obtain ⟨f, hf, hname⟩ := hvalues.2 p hp
      exact ⟨f, List.mem_cons_of_mem _ hf, hname⟩
    rw [memberValues, memberValues, hfield.name]
    dsimp only
    rcases hmembers (memberName field.name) with
      ⟨hnone, hnone'⟩ | ⟨member, member', hmember, hmember', hdefault, hload⟩
    · rw [hnone, hnone']
      exact hrest
    · rw [hmember, hmember']
      have hlookup := SameContents.lookup hentries (memberName field.name)
      have hvalue : (member.valueIn (memberName field.name) entries).SameContents
          (member'.valueIn (memberName field.name) entries') := by
        unfold Member.valueIn
        dsimp only
        rw [hlookup.isNull, hdefault]
        split
        · exact .refl _
        · exact hlookup
      dsimp only
      rw [hvalue.isNull]
      split
      · exact hrest
      · refine (hload _ _ _ _ hvalue hfield.hint).bind fun v w hsame =>
          hrest.bind fun values values' hvalues => .pure ⟨.cons ⟨rfl, hsame⟩ hvalues.1, ?_⟩
        rw [List.forall_mem_cons]
        exact ⟨⟨field, List.mem_cons_self, rfl⟩, hvalues.2⟩

theorem object_models {registry models : Registry} (h : registry.SeenAs models)
    (hmembers : MembersSeen registry.Holds members members') {v w : Value} (hvalue : v.SameContents w)
    {type : TypeExpr} (htype : type.Over registry.Holds) :
    Noted.Alike SameContents (object registry members v type)
      (object models members' w type.withModels) := by
  unfold object
  refine (Noted.Alike.of (SameContents.alike entriesOf_withModels hvalue)).bind
    fun entries entries' hentries => ?_
  cases type with
  | mapping form arguments => exact .pure (congrArg Value.dict hentries)
  | record ref =>
    obtain ⟨c, model, fields, fields', hfind, hmodel, hc, hcorresponds, hfields, hfields', hrelated⟩ :=
      h.find? (TypeExpr.over_record.mp htype)
    simp only [TypeExpr.withModels, hfind, hmodel]
    unfold fieldsOf
    rw [hfields, hfields']
    refine (memberValues_seen hmembers hentries hrelated).bind fun values values' hvalues => .of ?_
    exact h.build hc hcorresponds hfields hfields' hrelated hvalues.2 hvalues.1
  | _ =>
    rw [← TypeExpr.refuseObject_withModels]
    exact .of (.error _)

end Loading

namespace TypeExpr

variable {known : RecordRef → Prop}

theorem over_elementType {type : TypeExpr} (h : type.Over known) :
    (Loading.elementType type).Over known := by
  cases type with
  | array form element => exact over_array.mp h
  | mapping form arguments =>
    cases arguments with
    | nil => exact List.forall_mem_nil _
    | cons key rest => exact over_mapping.mp h key List.mem_cons_self
  | generic head arguments =>
    cases arguments with
    | nil => exact List.forall_mem_nil _
    | cons first rest => exact over_generic.mp h first List.mem_cons_self
  | union style members =>
    cases members with
    | nil => exact List.forall_mem_nil _
    | cons first rest => exact over_union.mp h first List.mem_cons_self
  | literal values => cases values <;> exact List.forall_mem_nil _
  | _ => exact List.forall_mem_nil _

theorem SeenAs.elementType {type type' : TypeExpr} (h : type.SeenAs known type') :
    (Loading.elementType type.base).SeenAs known (Loading.elementType type'.base) := by
  rw [h.base, elementType_withModels]
  exact seenAs_withModels (over_elementType (over_base.mpr h.isOver))

end TypeExpr

namespace Schema

variable {registry models : Registry}

theorem membersSeen_loadMembers {fields : List (String × Field)}
    (h : ∀ p ∈ fields, ∀ v w type type', v.SameContents w → type.SeenAs registry.Holds type' →
      Noted.Alike SameContents (p.2.schema.load registry v type) (p.2.schema.load models w type')) :
    Loading.MembersSeen registry.Holds (loadMembers registry fields)
      (loadMembers models fields) := by
  intro name
  rw [find?_loadMembers, find?_loadMembers]
  cases hmember : Field.find? name fields with
  | none => exact .inl ⟨rfl, rfl⟩
  | some member =>
    refine .inr ⟨_, _, rfl, rfl, ?_, ?_⟩
    · rw [loadMember_eq, loadMember_eq]
    · intro v w type type' hvalue htype
      rw [loadMember_eq, loadMember_eq]
      exact h _ (find?_mem hmember) v w type type' hvalue htype

theorem loadElements_models {elements : Option Schema} {type type' : TypeExpr}
    (h : ∀ element ∈ elements, ∀ v w, v.SameContents w →
      Noted.Alike SameContents (element.load registry v type) (element.load models w type'))
    {items items' : List Value} (hitems : Value.itemsWithModels items = Value.itemsWithModels items') :
    Noted.Alike SameContents (loadElements registry elements items type)
      (loadElements models elements items' type') := by
  cases elements with
  | none => exact .pure (congrArg Value.list hitems)
  | some element =>
    have hall : List.Forall₂ (fun v w => Noted.Alike SameContents (element.load registry v type)
        (element.load models w type')) items items' :=
      (Value.sameItems_iff.mp hitems).imp (h element rfl)
    refine (Noted.Alike.forEach hall).bind fun loaded loaded' hloaded => .pure ?_
    exact congrArg Value.list (Value.sameItems_iff.mpr hloaded)

end Schema

/-- The same is loaded into a type over models as into the type over the records. -/
theorem Schema.load_models {registry models : Registry} (h : registry.SeenAs models)
    (schema : Schema) {v w : Value} {type type' : TypeExpr} (hvalue : v.SameContents w)
    (htype : type.SeenAs registry.Holds type') :
    Noted.Alike SameContents (schema.load registry v type) (schema.load models w type') := by
  induction schema using Schema.inductionOn generalizing v w type type' with
  | step schema hfields helements =>
    obtain ⟨hboolean, htext, hinteger, hnumber, hdateTime⟩ := Loading.scalar_same hvalue
    have hsame (x : Noted Value) : Noted.Alike SameContents x x :=
      ⟨rfl, Alike.rfl SameContents.refl _⟩
    obtain ⟨kind, description, fields, elements⟩ := schema
    cases kind with
    | boolean =>
      show Noted.Alike _ (.of (Loading.boolean v)) (.of (Loading.boolean w))
      rw [hboolean]
      exact hsame _
    | string =>
      show Noted.Alike _ (.of (Loading.text v)) (.of (Loading.text w))
      rw [htext]
      exact hsame _
    | integer =>
      show Noted.Alike _ (.of (Loading.integer v)) (.of (Loading.integer w))
      rw [hinteger]
      exact hsame _
    | number =>
      show Noted.Alike _ (.of (Loading.number v)) (.of (Loading.number w))
      rw [hnumber]
      exact hsame _
    | datetime =>
      show Noted.Alike _ (Loading.dateTime v) (Loading.dateTime w)
      rw [hdateTime]
      exact hsame _
    | object =>
      rw [load_object rfl, load_object rfl, htype.base]
      refine Loading.object_models h ?_ hvalue (TypeExpr.over_base.mpr htype.isOver)
      exact membersSeen_loadMembers fun p hp v w type type' => hfields p hp
    | array =>
      show Noted.Alike _ (Noted.of (Loading.itemsOf v) >>= fun items => _)
        (Noted.of (Loading.itemsOf w) >>= fun items => _)
      refine (Noted.Alike.of (SameContents.alike Loading.itemsOf_withModels hvalue)).bind
        fun items items' hitems => ?_
      refine loadElements_models (fun element helement v w hsame => ?_) hitems
      exact helements element helement hsame htype.elementType

end Schematic
