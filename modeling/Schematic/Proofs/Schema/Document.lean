import Schematic.Definition
import Schematic.Proofs.Value.Members

/-!
The documents of schemas as dictionaries.  A document never has two members of one name, so that
the dictionary has the same members in the same order.  Members that would say nothing are left
out, and `membersOf_schema` and `membersOf_own` say what decoding finds of the others.
-/

namespace Schematic

namespace Json

/-- The entries of a dictionary that shows members. -/
def entries (members : List (String × Json)) : List (Value × Value) :=
  members.map fun p => (.str p.1, p.2.toValue)

theorem entries_append (front back : List (String × Json)) :
    entries (front ++ back) = entries front ++ entries back :=
  List.map_append

theorem memberValues_eq (found : List (String × Value)) (members : List (String × Json)) :
    memberValues found members = (members.map fun p => (p.1, p.2.toValue)).foldl
      (fun found p => Value.putMember p.1 p.2 found) found := by
  induction members generalizing found with
  | nil => rfl
  | cons p rest ih => exact ih _

/-- An object without repeated names keeps its members as they stand. -/
theorem toValue_object {members : List (String × Json)} (h : (members.map Prod.fst).Nodup) :
    (Json.object members).toValue = .dict (entries members) := by
  have hnames : ((members.map fun p => (p.1, p.2.toValue)).map Prod.fst).Nodup := by
    rw [List.map_map]
    exact h
  show Value.object (memberValues [] members) = _
  rw [memberValues_eq, Value.putMembers_nil_of_nodup hnames, Value.object, entries, List.map_map]
  rfl

theorem itemValues_eq (items : List Json) : itemValues items = items.map toValue := by
  induction items with
  | nil => rfl
  | cons item rest ih => rw [itemValues, ih, List.map_cons]

end Json

namespace Schema

/-! ## Names of members -/

/-- The names that the members of a document can have, in order. -/
def documentNames : List String :=
  ["type", "description", "fields", "elements", "required", "default", "tags"]

theorem optionalMember_names (name : String) (absent : Bool) (json : Json) :
    ((optionalMember name absent json).map Prod.fst).Sublist [name] := by
  cases absent
  · exact List.Sublist.refl _
  · exact List.nil_sublist _

theorem encodeElements_names (elements : Option Schema) :
    ((encodeElements elements).map Prod.fst).Sublist ["elements"] := by
  cases elements
  · exact List.nil_sublist _
  · exact List.Sublist.refl _

theorem encodeMembers_names (schema : Schema) :
    (schema.encodeMembers.map Prod.fst).Sublist
      ["type", "description", "fields", "elements"] := by
  obtain ⟨kind, description, fields, elements⟩ := schema
  show ("type" :: ((optionalMember _ _ _ ++ optionalMember _ _ _ ++
    encodeElements elements).map Prod.fst)).Sublist _
  rw [List.map_append, List.map_append]
  exact .cons_cons _ (((optionalMember_names _ _ _).append (optionalMember_names _ _ _)).append
    (encodeElements_names elements))

theorem encodeOwn_names (required : Bool) (default : Value) (tags : List String) :
    ((encodeOwn required default tags).map Prod.fst).Sublist ["required", "default", "tags"] := by
  rw [encodeOwn, List.map_append, List.map_append]
  exact ((optionalMember_names _ _ _).append (optionalMember_names _ _ _)).append
    (optionalMember_names _ _ _)

theorem encodeField_eq (field : Field) :
    encodeField field =
      field.schema.encodeMembers ++ encodeOwn field.required field.default field.tags := by
  obtain ⟨schema, required, default, tags⟩ := field
  rfl

theorem encodeField_names (field : Field) :
    ((encodeField field).map Prod.fst).Sublist documentNames := by
  rw [encodeField_eq, List.map_append]
  exact (encodeMembers_names field.schema).append (encodeOwn_names _ _ _)

theorem encodeMembers_nodup (schema : Schema) : (schema.encodeMembers.map Prod.fst).Nodup :=
  List.Nodup.sublist (encodeMembers_names schema) (by decide)

theorem encodeField_nodup (field : Field) : ((encodeField field).map Prod.fst).Nodup :=
  List.Nodup.sublist (encodeField_names field) (by decide)

theorem encodeFields_eq (fields : List (String × Field)) :
    encodeFields fields = fields.map fun p => (p.1, .object (encodeField p.2)) := by
  induction fields with
  | nil => rfl
  | cons p rest ih =>
    obtain ⟨name, field⟩ := p
    rw [encodeFields, ih, List.map_cons]

theorem toValue_encode (schema : Schema) :
    schema.encode.toValue = .dict (Json.entries schema.encodeMembers) :=
  Json.toValue_object (encodeMembers_nodup schema)

theorem toValue_encodeFields {fields : List (String × Field)}
    (h : (fields.map Prod.fst).Nodup) :
    (Json.object (encodeFields fields)).toValue =
      .dict (fields.map fun p => (.str p.1, .dict (Json.entries (encodeField p.2)))) := by
  have hnames : ((encodeFields fields).map Prod.fst).Nodup := by
    rw [encodeFields_eq, List.map_map]
    exact h
  rw [Json.toValue_object hnames, Json.entries, encodeFields_eq, List.map_map]
  congr 1
  refine List.map_congr_left fun p _ => ?_
  exact congrArg (Prod.mk (Value.str p.1)) (Json.toValue_object (encodeField_nodup p.2))

end Schema

namespace Decode

open Schema (optionalMember)

variable {medium : Medium} {room : Nat}

/-! ## What decoding finds -/

/-- What is found of a member that is left out in some cases. -/
def shown (absent : Bool) (json : Json) : Option Value :=
  if absent then none else some json.toValue

theorem membersOf_own (required : Bool) (default : Value) (tags : List String) :
    membersOf medium room (Json.entries (Schema.encodeOwn required default tags)) =
      { required := shown (!required) (.bool required)
        default := shown default.isNull (Schema.encodeDefault default)
        tags := shown tags.isEmpty (.array (tags.map .str)) } := by
  unfold Schema.encodeOwn
  cases required <;> cases default.isNull <;> cases tags.isEmpty <;> rfl

/-- A further member in front of others. -/
def withEntry (medium : Medium) (room : Nat) (entry : Value × Value) (m : Members) : Members :=
  match entry.1 with
  | .str "fields" => { m with fields := m.fields <|> some (fieldsOf medium room entry.2) }
  | .str "elements" => { m with elements := m.elements <|> some (elementsOf medium room entry.2) }
  | .str name => m.withValue name entry.2
  | _ => m

theorem membersOf_append (front back : List (Value × Value)) :
    membersOf medium room (front ++ back) =
      front.foldr (withEntry medium room) (membersOf medium room back) := by
  induction front with
  | nil => rfl
  | cons entry front ih =>
    rw [List.foldr_cons, ← ih]
    rfl

/-- The members of a schema, in front of those that a schema does not have. -/
theorem membersOf_schema (schema : Schema) {rest : List (Value × Value)} {m : Members}
    (hrest : membersOf medium room rest = m) (htype : m.type = none)
    (hdescription : m.description = none) (hfields : m.fields = none)
    (helements : m.elements = none) :
    membersOf medium room (Json.entries schema.encodeMembers ++ rest) =
      { m with
        type := some (.str schema.kind.name)
        description := shown (schema.description == "") (.str schema.description)
        fields := (shown schema.fields.isEmpty (.object (Schema.encodeFields schema.fields))).map
          (fieldsOf medium room)
        elements := schema.elements.map fun element =>
          elementsOf medium room element.encode.toValue } := by
  obtain ⟨kind, description, fields, elements⟩ := schema
  obtain ⟨type, _, _, _, required, default, tags⟩ := m
  cases htype
  cases hdescription
  cases hfields
  cases helements
  rw [membersOf_append, hrest]
  unfold Schema.encodeMembers
  cases description == "" <;> cases fields.isEmpty <;> cases elements <;> rfl

end Decode
end Schematic
