import Schematic.Proofs.Derivation.Nodes
import Schematic.Proofs.Loading.Steps
import Schematic.Proofs.Record.Building
import Schematic.Proofs.Schema.Reading

/-!
The defaults of schemas that are read from documents.  Reading checks no default: that of a field is
the one of its part of the document, read again for the kind, and it fits the field if and only if
that one does.

Where all defaults fit, everything that is loaded was accepted by its schema, a value because the
whole of it was and a default because it fits.  So nothing that is loaded is of the wrong kind.
-/

namespace Schematic

/-- A default is none at all, or one of a scalar that the schema accepts. -/
def Schema.Fits (schema : Schema) (default : Value) : Prop :=
  default = .null ∨
    schema.kind ≠ .object ∧ schema.kind ≠ .array ∧ schema.validate default = .ok ()

theorem Schema.fits_of_holds {schema : Schema} {default : Value} (hobject : schema.kind ≠ .object)
    (harray : schema.kind ≠ .array) (h : schema.kind.Holds default) : schema.Fits default :=
  .inr ⟨hobject, harray, validate_scalar hobject harray h⟩

namespace Decode

variable {medium : Medium} {room : Nat}

/-- The default that a part of a document gives. -/
def givenDefault (part : Value) : Value :=
  ((part.entries?.bind (Value.lastAt? "default")).getD .null)

/-- The kind of what is read from members with a text as their type. -/
theorem kind_of_text {m : Members} {schema : Schema} {name : String}
    (h : m.toSchema medium room = .ok schema) (htype : m.type.getD .null = .str name) :
    Kind.ofName? name = some schema.kind := by
  obtain ⟨hkind, -⟩ := toSchema_eq_ok_iff.mp h
  cases hfound : m.type with
  | none => rw [hfound] at htype; cases htype
  | some type =>
    obtain rfl : type = .str name := by rw [hfound] at htype; exact htype
    rw [hfound] at hkind
    have hread := inside_eq_ok (Checked.under_eq_ok hkind)
    have htext : Reading.text medium (.str name) = .ok name := rfl
    rw [Decode.kind, htext] at hread
    dsimp only at hread
    cases hname : Kind.ofName? name with
    | none => rw [hname] at hread; cases hread
    | some kind => rw [hname] at hread; rw [Except.ok.inj hread]

/-- A default that is read again fits if and only if it did before. -/
theorem restore_fits {type given default : Value} {schema : Schema}
    (hkind : ∀ name, type = .str name → Kind.ofName? name = some schema.kind)
    (h : restore type given = .ok default) : schema.Fits default ↔ schema.Fits given := by
  unfold restore at h
  split at h
  next text =>
    have hdatetime : schema.kind = .datetime := (Option.some.inj (hkind _ rfl)).symm
    split at h
    next d hparse =>
      obtain rfl := Except.ok.inj h
      have hholds : schema.kind.Holds (.datetime d) ∧ schema.kind.Holds (.str text) := by
        rw [hdatetime]
        exact ⟨.datetime d, .timestamp hparse⟩
      refine iff_of_true (Schema.fits_of_holds ?_ ?_ hholds.1) (Schema.fits_of_holds ?_ ?_ hholds.2)
      all_goals rw [hdatetime]; exact nofun
    next => rw [Except.ok.inj h]
  next i =>
    have hnumber : schema.kind = .number := (Option.some.inj (hkind _ rfl)).symm
    split at h
    next x _ =>
      obtain rfl := Except.ok.inj h
      have hholds : schema.kind.Holds (.float x) ∧ schema.kind.Holds (.int i) := by
        rw [hnumber]
        exact ⟨.number x, .integerNumber i⟩
      refine iff_of_true (Schema.fits_of_holds ?_ ?_ hholds.1) (Schema.fits_of_holds ?_ ?_ hholds.2)
      all_goals rw [hnumber]; exact nofun
    next => cases h
  next => rw [Except.ok.inj h]

/-- The default of a field fits if and only if the one of its document does. -/
theorem fieldOf_fits {document : Value} {field : Field}
    (h : fieldOf medium room document = .ok field) :
    field.schema.Fits field.default ↔ field.schema.Fits (givenDefault document) := by
  obtain ⟨entries, restoring, hentries, h⟩ := fieldOf_eq_ok h
  obtain ⟨hschema, -, hdefault, -⟩ := toField_eq_ok_iff.mp h
  have hgiven : ((membersOf medium room entries).default).getD .null = givenDefault document := by
    rw [givenDefault, hentries, membersOf_eq]
    rfl
  rw [defaultOf, hgiven] at hdefault
  cases restoring with
  | true => exact restore_fits (fun name htype => kind_of_text hschema htype) hdefault
  | false => rw [Except.ok.inj hdefault]

end Decode

/-! ## Fields of a definition -/

/-- A field of a definition: the definition itself, or a declared member at any depth. -/
inductive Definition.HasField : Definition → Field → Prop
  | root (field : Field) : HasField (.field field) field
  | member {d : Definition} {schema node : Schema} {p : String × Field}
      (hschema : d.schema? = some schema) (hnode : schema.Node node) (hp : p ∈ node.fields) :
      HasField d p.2

/-- A definition that was read from a document, and the document as a value. -/
inductive Definition.ReadFrom : Definition → Value → Prop
  | text {target : Target} {text : List UInt8} {d : Definition} {json : Json}
      (h : ofText target text = .ok d) (hread : Json.read true text = .ok json) :
      ReadFrom d json.toValue
  | value {target : Target} {document : Value} {d : Definition}
      (h : ofValue target document = .ok d) : ReadFrom d document

namespace Decode

variable {medium : Medium} {room : Nat}

/-- Every node of a schema is read from a part of its document. -/
theorem part_of_node {document : Value} {schema node : Schema}
    (h : schemaOf medium room document = .ok schema) (hnode : schema.Node node) :
    ∃ part room', Part document part ∧ schemaOf medium room' part = .ok node := by
  induction hnode with
  | root => exact ⟨document, room, .root, h⟩
  | field _ hp ih =>
    obtain ⟨outer, room', houter, hread⟩ := ih
    obtain ⟨part, hpart, hfield⟩ := (parts_of_schemaOf hread).1 _ hp
    exact ⟨part, room' - 1, houter.trans hpart, schemaOf_of_fieldOf hfield⟩
  | element _ helement ih =>
    obtain ⟨outer, room', houter, hread⟩ := ih
    obtain ⟨part, hpart, hschema⟩ := (parts_of_schemaOf hread).2 _ helement
    exact ⟨part, room' - 1, houter.trans hpart, hschema⟩

end Decode

namespace Definition

/-- A definition that is read from a document is a schema or a field that is. -/
theorem ReadFrom.cases {d : Definition} {document : Value} (h : d.ReadFrom document) :
    (∃ medium room schema, d = .schema schema ∧
        Decode.schemaOf medium room document = .ok schema) ∨
      ∃ medium room field, d = .field field ∧
        Decode.fieldOf medium room document = .ok field := by
  cases h with
  | @text target text _ json h hread =>
    simp only [ofText, hread] at h
    cases target with
    | schema =>
      obtain ⟨schema, hschema, rfl⟩ := Outcome.map_eq_ok h
      exact .inl ⟨.json, Decode.maxRoom, schema, rfl, Decode.schemaOf_of_json json hschema _⟩
    | field =>
      obtain ⟨field, hfield, rfl⟩ := Outcome.map_eq_ok h
      exact .inr ⟨.json, Decode.maxRoom, field, rfl, hfield⟩
  | @value target _ _ h =>
    cases target with
    | schema =>
      obtain ⟨schema, hschema, rfl⟩ := Outcome.map_eq_ok h
      exact .inl ⟨.value, Decode.maxRoom, schema, rfl, hschema⟩
    | field =>
      obtain ⟨field, hfield, rfl⟩ := Outcome.map_eq_ok h
      exact .inr ⟨.value, Decode.maxRoom, field, rfl, hfield⟩

/-- Every field of a definition that is read from a document is read from a part of it. -/
theorem ReadFrom.part {d : Definition} {document : Value} (h : d.ReadFrom document) {field : Field}
    (hfield : d.HasField field) :
    ∃ medium room part, Decode.Part document part ∧ Decode.fieldOf medium room part = .ok field := by
  have hmember {medium : Medium} {room : Nat} {schema node : Schema} {p : String × Field}
      (hschema : Decode.schemaOf medium room document = .ok schema) (hnode : schema.Node node)
      (hp : p ∈ node.fields) :
      ∃ medium room part, Decode.Part document part ∧
        Decode.fieldOf medium room part = .ok p.2 := by
    obtain ⟨outer, room', houter, hread⟩ := Decode.part_of_node hschema hnode
    obtain ⟨part, hpart, hf⟩ := (Decode.parts_of_schemaOf hread).1 p hp
    exact ⟨medium, room' - 1, part, houter.trans hpart, hf⟩
  rcases h.cases with ⟨medium, room, schema, rfl, hschema⟩ | ⟨medium, room, f, rfl, hf⟩
  · cases hfield with
    | member hsome hnode hp =>
      obtain rfl := Option.some.inj hsome
      exact hmember hschema hnode hp
  · cases hfield with
    | root => exact ⟨medium, room, document, .root, hf⟩
    | member hsome hnode hp =>
      obtain rfl := Option.some.inj hsome
      exact hmember (Decode.schemaOf_of_fieldOf hf) hnode hp

end Definition

/-! ## Loading with defaults that fit -/

def LoadFault.IsWrongKind (fault : LoadFault) : Prop :=
  ∃ className kind, fault = .wrongKind className kind

namespace Loading

variable {registry : Registry} {fault : LoadFault}

theorem zeroOf_not_wrongKind {onRecord : RecordRef → Except LoadFault Value}
    (hrecord : ∀ ref fault, onRecord ref = .error fault → ¬ fault.IsWrongKind) {type : TypeExpr}
    (h : zeroOf onRecord type = .error fault) : ¬ fault.IsWrongKind := by
  fun_induction zeroOf onRecord type with
  | case5 ref => exact hrecord ref fault h
  | case6 base extras ih => exact ih h
  | case1 | case2 | case3 | case4 | case7 => cases h

theorem zeroRecord_not_wrongKind {seen : List RecordRef} {ref : RecordRef}
    (h : zeroRecord registry seen ref = .error fault) : ¬ fault.IsWrongKind := by
  fun_induction zeroRecord registry seen ref generalizing fault with
  | case1 =>
    obtain rfl := Except.error.inj h
    rintro ⟨_, _, heq⟩
    cases heq
  | case2 => cases h
  | case3 seen ref hseen c hfind ih =>
    rcases Outcome.bind_eq_error h with hfields | ⟨fields, -, h⟩
    · obtain ⟨e, -, rfl⟩ := Outcome.mapError_eq_error hfields
      rintro ⟨_, _, heq⟩
      cases heq
    · rcases Outcome.bind_eq_error h with hcomplete | ⟨values, -, h⟩
      · obtain ⟨f, -, hzero⟩ := complete_eq_error hcomplete
        exact zeroOf_not_wrongKind (fun inner fault herror => ih inner herror) hzero
      · obtain ⟨e, -, rfl⟩ := Outcome.mapError_eq_error h
        rintro ⟨_, _, heq⟩
        cases heq

theorem build_not_wrongKind {c : RecordClass} {fields : List RecordField}
    {values : List (String × Value)} (hfields : registry.fields c = .ok fields)
    (h : registry.build c values = .error fault) : ¬ fault.IsWrongKind := by
  rcases Registry.build_eq_error hfields h with ⟨f, -, hzero⟩ | ⟨e, rfl⟩
  · exact zeroOf_not_wrongKind (fun _ _ => zeroRecord_not_wrongKind) hzero
  · rintro ⟨_, _, heq⟩
    cases heq

theorem refuseObject_not_wrongKind (type : TypeExpr) : ¬ (refuseObject type).IsWrongKind := by
  unfold refuseObject
  rintro ⟨_, _, heq⟩
  split at heq <;> cases heq

/-- An object is kept, loaded into a record with fields, or refused for its type. -/
theorem object_eq_error {members : List (String × Member)} {value : Value}
    {entries : List (Value × Value)} (hentries : value.entries? = some entries) {type : TypeExpr}
    (h : (object registry members value type).result = .error fault) :
    (∃ ref c fields, type = .record ref ∧ registry.find? ref = some c ∧
        registry.fields c = .ok fields) ∨ ¬ fault.IsWrongKind := by
  unfold object at h
  rw [Noted.result_bind, Schema.entriesOf_eq hentries] at h
  cases type with
  | mapping => cases h
  | record ref =>
    cases hfind : registry.find? ref with
    | none =>
      simp only [hfind] at h
      obtain rfl := Except.error.inj h
      exact .inr (refuseObject_not_wrongKind _)
    | some c =>
      cases hfields : registry.fields c with
      | ok fields => exact .inl ⟨ref, c, fields, rfl, hfind, hfields⟩
      | error e =>
        simp only [hfind, fieldsOf, hfields] at h
        obtain rfl := Except.error.inj h
        refine .inr ?_
        rintro ⟨_, _, heq⟩
        cases heq
  | _ =>
    obtain rfl := Except.error.inj h
    exact .inr (refuseObject_not_wrongKind _)

end Loading

namespace Schema

variable {registry : Registry} {schema : Schema}

/-- The defaults of all members fit, at every depth. -/
def DefaultsFit (schema : Schema) : Prop :=
  ∀ node, schema.Node node → ∀ p ∈ node.fields, p.2.schema.Fits p.2.default

theorem Node.trans {node inner : Schema} (h : schema.Node node) (hinner : node.Node inner) :
    schema.Node inner := by
  induction hinner with
  | root => exact h
  | field _ hp ih => exact .field ih hp
  | element _ helement ih => exact .element ih helement

theorem DefaultsFit.node {node : Schema} (h : schema.DefaultsFit) (hnode : schema.Node node) :
    node.DefaultsFit :=
  fun inner hinner => h inner (hnode.trans hinner)

theorem Fits.accepts {default : Value} (h : schema.Fits default) (hpresent : default ≠ .null) :
    schema.Accepts default := by
  rcases h with hnull | ⟨-, -, hvalid⟩
  · exact absurd hnull hpresent
  · exact (validate_eq_ok_iff schema default).mp hvalid

/-- What is loaded for a field is accepted by the schema of a member. -/
theorem exists_accepts_input {entries : List (Value × Value)} {fields : List RecordField}
    {value : Value} (hfit : schema.DefaultsFit) (haccepts : schema.Accepts value)
    (hkind : schema.kind = .object) (hentries : value.entries? = some entries)
    {i : Loading.Input} (h : i ∈ schema.inputs entries fields) :
    ∃ p ∈ schema.fields, i.schema = p.2.schema ∧ p.2.schema.Accepts i.value := by
  obtain ⟨-, hinput⟩ := mem_inputs h
  obtain ⟨-, hpresent, member, hmember, hsame, hvalue⟩ := input?_eq_some hinput
  refine ⟨_, hmember, hsame, ?_⟩
  rcases hvalue with hlookup | hdefault
  · rw [hlookup] at hpresent ⊢
    exact ((accepts_object_iff hkind hentries).mp haccepts _ hmember).2 hpresent
  · rw [hdefault] at hpresent ⊢
    exact (hfit schema .root _ hmember).accepts hpresent

/-- Nothing in an accepted value, and no default that fits, is of the wrong kind. -/
theorem load_not_wrongKind (hfit : schema.DefaultsFit) {value : Value}
    (haccepts : schema.Accepts value) {type : TypeExpr} {fault : LoadFault}
    (h : (schema.load registry value type).result = .error fault) : ¬ fault.IsWrongKind := by
  induction schema using Schema.inductionOn generalizing value type with
  | step schema ihfields ihelements =>
    cases schema.kind.shape value with
    | other hholds => exact absurd haccepts.holds hholds
    | scalar hobject harray hholds =>
      rcases load_scalar registry type hobject harray hholds with ⟨x, -, hload⟩ | ⟨-, i, -, -, hload⟩
      · rw [hload] at h
        cases h
      · rw [hload] at h
        obtain rfl := Except.error.inj h
        rintro ⟨_, _, heq⟩
        cases heq
    | @object entries hkind hentries =>
      have hobject := h
      rw [load_object hkind] at hobject
      rcases Loading.object_eq_error hentries hobject with
        ⟨ref, c, fields, hbase, hfind, hfields⟩ | hfault
      · rw [(load_record hkind hentries hbase hfind hfields).1] at h
        rcases Outcome.bind_eq_error h with hinputs | ⟨values, -, hbuild⟩
        · obtain ⟨i, hi, hload⟩ := Outcome.mapM_eq_error hinputs
          rcases Outcome.bind_eq_error hload with hload | ⟨x, -, hpure⟩
          · obtain ⟨p, hp, hsame, haccepted⟩ :=
              exists_accepts_input hfit haccepts hkind hentries hi
            rw [Loading.Input.load, hsame] at hload
            exact ihfields p hp (hfit.node (.field .root hp)) haccepted hload
          · cases hpure
        · exact Loading.build_not_wrongKind hfields hbuild
      · exact hfault
    | @array items hkind hitems =>
      rw [load_array hkind hitems, loadElements_result] at h
      cases helements : schema.elements with
      | none => rw [helements] at h; cases h
      | some element =>
        rw [helements] at h
        rcases Outcome.bind_eq_error h with hitem | ⟨loaded, -, h⟩
        · obtain ⟨item, hmem, hload⟩ := Outcome.mapM_eq_error hitem
          have haccepted := (accepts_array_iff hkind hitems).mp haccepts element helements item hmem
          exact ihelements element helements (hfit.node (.element .root helements)) haccepted hload
        · cases h

/-- A default that fits is loaded, unless it is an integer beyond the range of floats. -/
theorem Fits.report?_eq_none {default : Value} (h : schema.Fits default)
    (hpresent : default ≠ .null) {type : TypeExpr} {fault : LoadFault}
    (hload : (schema.load registry default type).result = .error fault) :
    fault.report? = none := by
  rcases h with hnull | ⟨hobject, harray, hvalid⟩
  · exact absurd hnull hpresent
  · have hholds := ((validate_eq_ok_iff schema default).mp hvalid).holds
    rcases load_scalar registry type hobject harray hholds with ⟨x, -, hpure⟩ | ⟨-, i, -, -, hlarge⟩
    · rw [hpure] at hload
      cases hload
    · rw [hlarge] at hload
      obtain rfl := Except.error.inj hload
      rfl

end Schema

namespace Definition

/-- Every field of a definition that is read from a document has the default of a part of the
document, which fits the field if and only if it fitted there.  If all of them fit, nothing in an
accepted value is loaded as of the wrong kind, and no default breaks a precondition of loading. -/
theorem decoded_defaults {d : Definition} {document : Value} (h : d.ReadFrom document) :
    (∀ field, d.HasField field → ∃ medium room part, Decode.Part document part ∧
        Decode.fieldOf medium room part = .ok field ∧
        (field.schema.Fits field.default ↔ field.schema.Fits (Decode.givenDefault part))) ∧
      ((∀ field, d.HasField field → field.schema.Fits field.default) →
        ∀ (registry : Registry) (type : TypeExpr) (fault : LoadFault),
          (∀ value, d.validate value = .ok () →
              (d.load registry value type).result = .error fault → ¬ fault.IsWrongKind) ∧
            ∀ field, d.HasField field → field.default ≠ .null →
              (field.schema.load registry field.default type).result = .error fault →
                fault.report? = none) := by
  constructor
  · intro field hfield
    obtain ⟨medium, room, part, hpart, hread⟩ := h.part hfield
    exact ⟨medium, room, part, hpart, hread, Decode.fieldOf_fits hread⟩
  · intro hfit registry type fault
    refine ⟨fun value hvalid hload => ?_, fun field hfield hpresent =>
      (hfit field hfield).report?_eq_none hpresent⟩
    have hdefaults (schema : Schema) (hschema : d.schema? = some schema) : schema.DefaultsFit :=
      fun node hnode p hp => hfit p.2 (.member hschema hnode hp)
    cases d with
    | schema s =>
      exact s.load_not_wrongKind (hdefaults s rfl) ((s.validate_eq_ok_iff value).mp hvalid) hload
    | field f =>
      exact f.schema.load_not_wrongKind (hdefaults f.schema rfl)
        ((f.schema.validate_eq_ok_iff value).mp hvalid) hload
    | unchecked kind description =>
      rcases h.cases with ⟨_, _, _, heq, -⟩ | ⟨_, _, _, heq, -⟩ <;> cases heq

/-- The document of a member with a default, and its schema. -/
def stepText : List UInt8 :=
  Text.Utf8.encode
    "\x7b\"type\":\"object\",\"fields\":\x7b\"step\":\x7b\"type\":\"number\",\"default\":2\x7d\x7d\x7d"

/-- The default of a step is read again as a float, and fits as the integer does that it was. -/
theorem decoded_defaults_step :
    ∃ json d field, Json.read true stepText = .ok json ∧ ofText .schema stepText = .ok d ∧
      d.HasField field ∧ field.default ≠ .null ∧
      ∃ part, Decode.Part json.toValue part ∧ field.schema.Fits (Decode.givenDefault part) := by
  let fits (p : String × Field) : Bool :=
    !p.2.default.isNull && p.2.schema.kind == .number && (p.2.schema.validate p.2.default).isOk
  have hread : (Json.read true stepText).isOk = true := by decide +kernel
  have hrun : (ofText .schema stepText).toOption.map (fun d => d.fields.any fits) = some true := by
    decide +kernel
  obtain ⟨json, hjson⟩ := Outcome.exists_of_isOk hread
  cases htext : ofText .schema stepText with
  | error refusal => rw [htext] at hrun; cases hrun
  | ok d =>
    rw [htext] at hrun
    obtain ⟨p, hp, hfits⟩ := List.any_eq_true.mp (Option.some.inj hrun)
    have hroot : d.ReadFrom json.toValue := .text htext hjson
    rcases hroot.cases with ⟨_, _, schema, rfl, -⟩ | ⟨_, _, f, rfl, -⟩
    · have hfield : (Definition.schema schema).HasField p.2 := .member rfl .root hp
      simp only [fits, Bool.and_eq_true, beq_iff_eq, Bool.not_eq_true'] at hfits
      obtain ⟨⟨hpresent, hkind⟩, hvalid⟩ := hfits
      obtain ⟨_, hvalid⟩ := Outcome.exists_of_isOk hvalid
      obtain ⟨_, _, part, hpart, -, hiff⟩ := (decoded_defaults hroot).1 p.2 hfield
      refine ⟨json, _, p.2, hjson, rfl, hfield, ?_, part, hpart, hiff.mp (.inr ⟨?_, ?_, hvalid⟩)⟩
      · intro hnull
        rw [hnull] at hpresent
        cases hpresent
      all_goals rw [hkind]; exact nofun
    · unfold ofText at htext
      rw [hjson] at htext
      obtain ⟨_, -, heq⟩ := Outcome.map_eq_ok htext
      cases heq

/-- The document of a field of integers with a text as its default. -/
def countText : List UInt8 :=
  Text.Utf8.encode "\x7b\"type\":\"integer\",\"default\":\"x\"\x7d"

/-- A count is read with its text as the default, which the count does not accept, and which is of
the wrong kind when it is loaded. -/
theorem count_default_kept :
    ∃ field, ofText .field countText = .ok (.field field) ∧
      (Definition.field field).HasField field ∧ field.default = .str "x" ∧
      ¬ field.schema.Fits field.default ∧
      (field.schema.load Registry.initial field.default (.scalar .int)).result =
        .error (.wrongKind "str" .integer) := by
  let isCount (field : Field) : Bool :=
    field.schema.kind == .integer && field.default.same (.str "x")
  have hrun : ((Json.read true countText).toOption.bind fun json =>
      (Decode.fieldOf .json Decode.maxRoom json.toValue).toOption.map isCount) = some true := by
    decide +kernel
  cases hread : Json.read true countText with
  | error fault => rw [hread] at hrun; cases hrun
  | ok json =>
    cases hfield : Decode.fieldOf .json Decode.maxRoom json.toValue with
    | error refusal => simp only [hread, Except.toOption, Option.bind, hfield] at hrun; cases hrun
    | ok field =>
      have htext : ofText .field countText = .ok (.field field) := by
        unfold ofText
        rw [hread]
        show (Decode.fieldOf .json Decode.maxRoom json.toValue).map Definition.field = _
        rw [hfield]
        rfl
      have hcount : isCount field = true := by
        simpa only [hread, Except.toOption, Option.bind, hfield, Option.map, Option.some.injEq]
          using hrun
      obtain ⟨hkind, hdefault⟩ := Bool.and_eq_true_iff.mp hcount
      obtain ⟨schema, required, default, tags⟩ := field
      obtain ⟨kind, description, fields, elements⟩ := schema
      obtain rfl : kind = .integer := eq_of_beq hkind
      cases default with
      | str text =>
        obtain rfl : text = "x" := eq_of_beq hdefault
        refine ⟨_, htext, .root _, rfl, ?_, rfl⟩
        rintro (hnull | ⟨-, -, hvalid⟩)
        · cases hnull
        · cases hvalid
      | _ => cases hdefault

end Definition
end Schematic
