import Schematic.Proofs.Derivation.Stability
import Schematic.Proofs.Loading.Soundness

/-!
Loading again.  A value of a type without records is loaded in the form that the type asks for: a
timestamp becomes a point in time, a float without a fraction an integer, a view a dictionary and a
tuple a list.  A value in this form is accepted by the schema and loaded as it is, so that nothing
is left to do for loading the second time.

Records are different: what is loaded for a record is an instance, and no object to be loaded.
-/

namespace Schematic

/-- The type is written without records, unless they are arguments of mappings, which loading does
not look at. -/
inductive TypeExpr.RecordFree : TypeExpr → Prop
  | scalar (s : Scalar) : RecordFree (.scalar s)
  | openArray (form : ArrayForm) : RecordFree (.openArray form)
  | array (form : ArrayForm) {element : TypeExpr} (h : RecordFree element) :
      RecordFree (.array form element)
  | mapping (form : MappingForm) (arguments : List TypeExpr) :
      RecordFree (.mapping form arguments)
  | annotated {base : TypeExpr} (extras : List Extra) (h : RecordFree base) :
      RecordFree (.annotated base extras)

/-- A step for every element that leaves each of them as it is. -/
theorem Noted.forEach_pure {α : Type} {f : α → Noted α} {as : List α}
    (h : ∀ a ∈ as, f a = pure a) : forEach f as = pure as := by
  induction as with
  | nil => rfl
  | cons a rest ih =>
    obtain ⟨hhead, htail⟩ := List.forall_mem_cons.mp h
    rw [forEach, hhead, ih htail]
    rfl

namespace TypeExpr

variable {registry : Registry} {type part : TypeExpr}

theorem RecordFree.inner (h : type.RecordFree) (hinner : registry.Inner part type) :
    part.RecordFree := by
  cases hinner with
  | base base extras => cases h with | annotated _ hbase => exact hbase
  | element form element => cases h with | array _ helement => exact helement
  | hint => cases h

theorem RecordFree.within (h : type.RecordFree) (hwithin : registry.Within part type) :
    part.RecordFree := by
  induction hwithin using Relation.ReflTransGen.head_induction_on with
  | refl => exact h
  | head hinner _ ih => exact ih.inner hinner

/-- What is defined does not matter to the schema of a type without records. -/
theorem RecordFree.derive_eq [Text.Repertoire] {schema : Schema} (h : type.RecordFree)
    (hderive : registry.derive type = .ok schema) (other : Registry) :
    other.derive type = .ok schema :=
  Registry.derive_of_shares hderive fun _ hwithin => nomatch h.within hwithin

end TypeExpr

namespace Schema

/-- A value in the form that a type asks for: it is accepted, and loaded as it is. -/
structure Settles (schema : Schema) (type : TypeExpr) (x : Value) : Prop where
  accepts : schema.Accepts x
  load_eq : ∀ registry, schema.load registry x type = pure x

variable {registry : Registry} {schema element : Schema} {type : TypeExpr} {value x : Value}

/-! ## Forms that types ask for -/

theorem settles_of_loads (hobject : schema.kind ≠ .object) (harray : schema.kind ≠ .array)
    (h : schema.kind.Loads value x) : schema.Settles type x := by
  obtain ⟨kind, description, fields, elements⟩ := schema
  cases h with
  | boolean b => exact ⟨.scalar hobject harray (.boolean b), fun _ => rfl⟩
  | string s => exact ⟨.scalar hobject harray (.string s), fun _ => rfl⟩
  | integer i => exact ⟨.scalar hobject harray (.integer i), fun _ => rfl⟩
  | @wholeFloat _ i => exact ⟨.scalar hobject harray (.integer i), fun _ => rfl⟩
  | number x => exact ⟨.scalar hobject harray (.number x), fun _ => rfl⟩
  | @widened _ x => exact ⟨.scalar hobject harray (.number x), fun _ => rfl⟩
  | datetime d => exact ⟨.scalar hobject harray (.datetime d), fun _ => rfl⟩
  | @timestamp _ d => exact ⟨.scalar hobject harray (.datetime d), fun _ => rfl⟩

theorem settles_openList (form : ArrayForm) (items : List Value) :
    (Schema.ofKind .array).Settles (.openArray form) (.list items) :=
  ⟨.array rfl rfl nofun, fun _ => rfl⟩

theorem settles_list (form : ArrayForm) {items : List Value}
    (h : ∀ item ∈ items, element.Settles type item) :
    (Schema.arrayOf element).Settles (.array form type) (.list items) := by
  constructor
  · refine (accepts_array_iff rfl rfl).mpr fun element' helement item hitem => ?_
    obtain rfl := Option.some.inj helement
    exact (h item hitem).accepts
  · intro registry
    rw [load_array rfl rfl]
    show (Noted.forEach (fun item => element.load registry item type) items >>= fun loaded =>
      pure (Value.list loaded)) = _
    rw [Noted.forEach_pure fun item hitem => (h item hitem).load_eq registry]
    rfl

theorem settles_dict (form : MappingForm) (arguments : List TypeExpr)
    (entries : List (Value × Value)) :
    (Schema.ofKind .object).Settles (.mapping form arguments) (.dict entries) :=
  ⟨.object rfl rfl nofun nofun, fun _ => rfl⟩

/-! ## What loading gives -/

theorem settles_scalar (s : Scalar) (haccepts : (Schema.ofKind s.kind).Accepts value)
    (hload : ((Schema.ofKind s.kind).load registry value (.scalar s)).result = .ok x) :
    (Schema.ofKind s.kind).Settles (.scalar s) x := by
  have hobject : (Schema.ofKind s.kind).kind ≠ .object := by cases s <;> exact Kind.noConfusion
  have harray : (Schema.ofKind s.kind).kind ≠ .array := by cases s <;> exact Kind.noConfusion
  rcases load_scalar registry (.scalar s) hobject harray haccepts.holds with
    ⟨y, hloads, hy⟩ | ⟨-, _, -, -, hlarge⟩
  · rw [hy] at hload
    obtain rfl : y = x := Except.ok.inj hload
    exact settles_of_loads hobject harray hloads
  · rw [hlarge] at hload
    cases hload

theorem settles_array (form : ArrayForm) (haccepts : (Schema.arrayOf element).Accepts value)
    (hload : ((Schema.arrayOf element).load registry value (.array form type)).result = .ok x)
    (ih : ∀ item y, element.Accepts item → (element.load registry item type).result = .ok y →
      element.Settles type y) :
    (Schema.arrayOf element).Settles (.array form type) x := by
  obtain ⟨items, hitems⟩ := Kind.Holds.items haccepts.holds
  have hall := (accepts_array_iff rfl hitems).mp haccepts element rfl
  rw [load_array rfl hitems, loadElements_result] at hload
  obtain ⟨loaded, hloaded, hx⟩ := Outcome.bind_eq_ok hload
  obtain rfl := Except.ok.inj hx
  refine settles_list form fun y hy => ?_
  obtain ⟨item, hitem, hresult⟩ := Outcome.exists_of_mem_right (Outcome.mapM_eq_ok hloaded) hy
  exact ih item y (hall item hitem) hresult

/-- Whatever is loaded for a type without records is in the form that the type asks for. -/
theorem settles_of_load [Text.Repertoire] (hdescribes : registry.Describes type schema)
    (htype : type.RecordFree) (haccepts : schema.Accepts value)
    (hload : (schema.load registry value type).result = .ok x) : schema.Settles type x := by
  induction hdescribes generalizing value x with
  | scalar s => exact settles_scalar s haccepts hload
  | openArray form =>
    obtain ⟨items, hitems⟩ := Kind.Holds.items haccepts.holds
    rw [load_array rfl hitems] at hload
    obtain rfl : Value.list items = x := Except.ok.inj hload
    exact settles_openList form items
  | @array form _ _ _ ih =>
    cases htype with
    | array _ helement => exact settles_array form haccepts hload fun _ _ => ih helement
  | mapping form arguments =>
    obtain ⟨entries, hentries⟩ := Kind.Holds.entries haccepts.holds
    rw [load_mapping rfl hentries rfl] at hload
    obtain rfl : Value.dict entries = x := Except.ok.inj hload
    exact settles_dict form arguments entries
  | annotated extras _ ih =>
    cases htype with
    | annotated _ hbase =>
      rw [Registry.load_annotated] at hload
      obtain ⟨haccepted, hagain⟩ := ih hbase haccepts hload
      exact ⟨haccepted, fun registry => (Registry.load_annotated _ _ _ _).trans (hagain registry)⟩
  | record => cases htype

end Schema
end Schematic
