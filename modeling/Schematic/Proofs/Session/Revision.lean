import Schematic.Proofs.Loading.Revision
import Schematic.Proofs.Session.Staleness

/-!
Loading revised values in a session.  Undeclared members and nulls can be left out of a value, and
defaults written into it, and the session loads the same thing with the same events.

There are two ways to see a difference.  A session may serve a schema from before a record was
defined anew, and what the schema of now does not declare can be declared there.  And where two
fields of a record have one member between them, the first of them is loaded by the schema of the
second: a mapping then takes entries from an object whose schema declares members.
-/

namespace Schematic

namespace Definition

/-- At no node of a definition two declared members have one name. -/
def DistinctNames (d : Definition) : Prop :=
  ∀ schema, d.schema? = some schema → schema.DistinctNames

/-- The value without undeclared members and without declared members that are null. -/
def strip (d : Definition) (value : Value) : Value :=
  match d.schema? with
  | some declared => declared.strip value
  | none => value

theorem validate_strip {d : Definition} (hnames : d.DistinctNames) (value : Value) :
    d.validate (d.strip value) = d.validate value := by
  unfold validate strip
  cases hschema : d.schema? with
  | none => rfl
  | some schema =>
    exact Schema.validate_revise Schema.declaredOnly_keepsMembers (hnames schema hschema) value

end Definition

namespace Session

variable {s : Session} {type : TypeExpr} {schema : Schema} {value value' : Value}

/-- A session loads two values alike if the only schema that it can serve does. -/
theorem load_congr [Text.Repertoire]
    (hserved : ∀ served, (s.schemaFor type).1 = .ok served → served = schema)
    (hvalidate : schema.validate value = schema.validate value')
    (hload : schema.load s.registry value type = schema.load s.registry value' type) :
    s.load value type = s.load value' type := by
  have hregistry : (s.schemaFor type).2.2.registry = s.registry := rfl
  unfold load
  rcases hanswer : s.schemaFor type with ⟨result, events, next⟩
  rw [hanswer] at hserved hregistry
  cases result with
  | error reason => cases reason <;> rfl
  | ok served =>
    obtain rfl := hserved served rfl
    have hsame : next.validateAndLoad served value type =
        next.validateAndLoad served value' type := by
      unfold validateAndLoad
      rw [hvalidate, show next.registry = s.registry from hregistry, hload]
    simp only [hsame]

theorem loaded_of_map {α : Type} {loaded : Loaded} {f : Value → α} {a : α}
    (h : loaded.map (fun outcome => outcome.map f) = .ok (.ok a)) :
    ∃ x, loaded = .ok (.ok x) ∧ f x = a := by
  obtain ⟨outcome, rfl, houtcome⟩ := Outcome.map_eq_ok h
  obtain ⟨x, rfl, hx⟩ := Outcome.map_eq_ok houtcome
  exact ⟨x, rfl, hx⟩

/-- Undeclared members and declared members that are null do not matter to validation, by any
definition.  They do not matter to loading by the schema of a type whose records have a member for
each field, and so not to a session that serves this schema for the type, if it serves any. -/
theorem same_without_undeclared [Text.Repertoire] (value : Value) :
    (∀ d : Definition, d.DistinctNames → d.validate (d.strip value) = d.validate value) ∧
      ∀ (s : Session) (type : TypeExpr) (schema : Schema), s.registry.derive type = .ok schema →
        s.registry.DistinctMembers type →
          schema.load s.registry (schema.strip value) type = schema.load s.registry value type ∧
            ((∀ served, (s.schemaFor type).1 = .ok served → served = schema) →
              s.load (schema.strip value) type = s.load value type) := by
  refine ⟨fun d hnames => Definition.validate_strip hnames value, ?_⟩
  intro s type schema hderive hdistinct
  have hdescribes := Registry.describes_of_derive hderive
  have hnames := hdescribes.wellFormed.distinctNames
  have hvalidate : schema.validate (schema.strip value) = schema.validate value :=
    Schema.validate_revise Schema.declaredOnly_keepsMembers hnames value
  have hload : schema.load s.registry (schema.strip value) type =
      schema.load s.registry value type :=
    Schema.load_revise Schema.declaredOnly_keepsMembers.keepsValues hnames
      (hdescribes.aligned hdistinct) value
  exact ⟨hload, fun hserved => load_congr hserved hvalidate hload⟩

open Registry

def limitRef : RecordRef := ⟨2, .data, recordModule, "Limit", false⟩

def limitDecl : RecordDecl :=
  ⟨"Limit", .data, [⟨"Count", .scalar .int, none, "default:\"5\"", true, false⟩], [], false⟩

def limitClass : RecordClass :=
  ⟨limitRef, [limitRef, .root], limitDecl.fields, some limitDecl.fields, []⟩

def limits : Registry := ⟨initial.classes ++ [limitClass]⟩

/-- A session in which limits are defined and nothing was asked for. -/
def limitSession : Session :=
  ⟨limits, .empty SchemaCache.defaultCapacity⟩

theorem distinctMembers_limits : limits.DistinctMembers (.record limitRef) := by
  have hfields : limits.fields limitClass =
      .ok [⟨"Count", .scalar .int, "default:\"5\"", none⟩] := rfl
  refine distinctMembers_record rfl hfields (List.nodup_singleton _) fun f hf => ?_
  obtain rfl := List.mem_singleton.mp hf
  exact distinctMembers_scalar _

theorem same_without_undeclared_limits :
    ∃ schema, limits.derive (.record limitRef) = .ok schema ∧ ∀ value,
      (Definition.schema schema).validate ((Definition.schema schema).strip value) =
          (Definition.schema schema).validate value ∧
        limitSession.load (schema.strip value) (.record limitRef) =
          limitSession.load value (.record limitRef) := by
  have hsome : (limits.derive (.record limitRef)).isOk = true := by decide +kernel
  obtain ⟨schema, hderive⟩ := Outcome.exists_of_isOk hsome
  refine ⟨schema, hderive, fun value => ?_⟩
  obtain ⟨hvalidate, hload⟩ := same_without_undeclared value
  constructor
  · refine hvalidate (.schema schema) fun schema' hschema => ?_
    obtain rfl := Option.some.inj hschema
    exact (describes_of_derive hderive).wellFormed.distinctNames
  · refine (hload limitSession _ schema hderive distinctMembers_limits).2 fun served hserved => ?_
    exact Except.ok.inj (hserved.symm.trans hderive)

def bodyRef : RecordRef := ⟨4, .data, recordModule, "Page", false⟩

def bodyDecl : RecordDecl :=
  ⟨"Page", .data, [⟨"Body", .scalar .str, none, "", true, false⟩], [], false⟩

def bodyClass : RecordClass :=
  ⟨bodyRef, [bodyRef, .root], bodyDecl.fields, some bodyDecl.fields, []⟩

def bodies : Registry := ⟨initial.classes ++ [linkClass, pageClass, bodyClass]⟩

/-- A session in which links were asked for when pages had a title; they have a body now. -/
def titleSession : Session :=
  { ((⟨pages, .empty SchemaCache.defaultCapacity⟩ : Session).schemaFor (.record linkRef)).2.2 with
    registry := bodies }

theorem reachable_titleSession : titleSession.Reachable := by
  have hlink : initial.define linkDecl = .ok links :=
    define_data rfl rfl (by decide +kernel)
  have hpage : links.define pageDecl = .ok pages :=
    define_data rfl rfl (by decide +kernel)
  have hbody : pages.define bodyDecl = .ok bodies :=
    define_data rfl rfl (by decide +kernel)
  have hlinks : (⟨links, .empty SchemaCache.defaultCapacity⟩ : Session).Reachable :=
    reachable_start.define (define_of_registry (defineAll_single hlink rfl))
  have hpages : (⟨pages, .empty SchemaCache.defaultCapacity⟩ : Session).Reachable :=
    hlinks.define (define_of_registry (defineAll_single hpage rfl))
  exact (hpages.schemaFor (.record linkRef)).define
    (define_of_registry (defineAll_single hbody rfl))

theorem distinctMembers_bodies : bodies.DistinctMembers (.record linkRef) := by
  have hrun : (bodies.fields linkClass).map (fun fields =>
      fields.map fun f => f.hint.same (.record bodyRef)) = .ok [true] := by
    decide +kernel
  obtain ⟨fields, hlink, hhints⟩ := Outcome.map_eq_ok hrun
  obtain ⟨target, rfl, htarget⟩ := List.map_eq_singleton_iff.mp hhints
  have hhint : target.hint = .record bodyRef := TypeExpr.eq_record_of_same htarget
  have hbody : bodies.fields bodyClass = .ok [⟨"Body", .scalar .str, "", none⟩] := rfl
  refine distinctMembers_record rfl hlink (List.nodup_singleton _) fun f hf => ?_
  rw [List.mem_singleton.mp hf, hhint]
  refine distinctMembers_record rfl hbody (List.nodup_singleton _) fun f hf => ?_
  rw [List.mem_singleton.mp hf]
  exact distinctMembers_scalar _

def titledLink : Value :=
  .dict [(.str "target", .dict [(.str "title", .int 5)])]

/-- The title of a page is looked at in a session that serves a schema of old, although the schema
of links does not declare it. -/
theorem title_still_read :
    titleSession.Reachable ∧ titleSession.registry.DistinctMembers (.record linkRef) ∧
      ∃ schema, titleSession.registry.derive (.record linkRef) = .ok schema ∧
        (titleSession.load titledLink (.record linkRef)).1 =
          .ok (.error ⟨.mismatch .string, [.member "target", .member "title"]⟩) ∧
        ∃ x, (titleSession.load (schema.strip titledLink) (.record linkRef)).1 = .ok (.ok x) := by
  have hrun : (titleSession.registry.derive (.record linkRef)).map (fun schema =>
      ((titleSession.load titledLink (.record linkRef)).1.map fun outcome => outcome.map fun _ => (),
        (titleSession.load (schema.strip titledLink) (.record linkRef)).1.map
          fun outcome => outcome.map fun _ => ())) =
        .ok (.ok (.error ⟨.mismatch .string, [.member "target", .member "title"]⟩),
          .ok (.ok ())) := by
    decide +kernel
  obtain ⟨schema, hderive, hboth⟩ := Outcome.map_eq_ok hrun
  obtain ⟨hfails, hloads⟩ := Prod.mk.inj hboth
  obtain ⟨failed, hfailed, hfailure⟩ := Outcome.map_eq_ok hfails
  obtain ⟨x, hx, -⟩ := loaded_of_map hloads
  refine ⟨reachable_titleSession, distinctMembers_bodies, schema, hderive, ?_, x, hx⟩
  rw [hfailed, Outcome.map_eq_error hfailure]

/-! ## Defaults -/

/-- A value that is accepted stays so with the defaults written in.  Loading by the schema of a type
does not see the difference if nothing that is declared to have members is loaded into a mapping,
and neither does a session that serves this schema for the type, if it serves any. -/
theorem same_with_defaults [Text.Repertoire] (hderive : s.registry.derive type = .ok schema)
    (hvalid : schema.validate value = .ok ()) :
    schema.validate (schema.fill value) = .ok () ∧
      (s.registry.Aligned schema type →
        schema.load s.registry (schema.fill value) type = schema.load s.registry value type ∧
          ((∀ served, (s.schemaFor type).1 = .ok served → served = schema) →
            s.load (schema.fill value) type = s.load value type)) := by
  have hschema := (describes_of_derive hderive).wellFormed
  have haccepts := (Schema.validate_eq_ok_iff schema value).mp hvalid
  have hfilled : schema.validate (schema.fill value) = .ok () :=
    (Schema.validate_eq_ok_iff schema _).mpr (haccepts.fill hschema)
  refine ⟨hfilled, fun haligned => ?_⟩
  have hload : schema.load s.registry (schema.fill value) type =
      schema.load s.registry value type :=
    Schema.load_revise Schema.withDefaults_keepsValues hschema.distinctNames haligned value
  exact ⟨hload, fun hserved => load_congr hserved (hfilled.trans hvalid.symm) hload⟩

theorem same_with_defaults_limits :
    ∃ schema, limits.derive (.record limitRef) = .ok schema ∧
      schema.validate (schema.fill (.dict [])) = .ok () ∧
      limitSession.load (schema.fill (.dict [])) (.record limitRef) =
        limitSession.load (.dict []) (.record limitRef) := by
  have hrun : (limits.derive (.record limitRef)).map (fun schema => schema.validate (.dict [])) =
      .ok (.ok ()) := by
    decide +kernel
  obtain ⟨schema, hderive, hvalid⟩ := Outcome.map_eq_ok hrun
  have haligned := (describes_of_derive hderive).aligned distinctMembers_limits
  obtain ⟨hfilled, hload⟩ := same_with_defaults (s := limitSession) hderive hvalid
  refine ⟨schema, hderive, hfilled, (hload haligned).2 fun served hserved => ?_⟩
  exact Except.ok.inj (hserved.symm.trans hderive)

def accountRef : RecordRef := ⟨3, .data, recordModule, "Account", false⟩

def accountDecl : RecordDecl :=
  ⟨"Account", .data, [⟨"UserID", .mapping .dict [], none, "", true, false⟩,
    ⟨"user_id", .record limitRef, none, "", true, false⟩], [], false⟩

def accountClass : RecordClass :=
  ⟨accountRef, [accountRef, .root], accountDecl.fields, some accountDecl.fields, []⟩

def accounts : Registry := ⟨limits.classes ++ [accountClass]⟩

def accountSession : Session :=
  ⟨accounts, .empty SchemaCache.defaultCapacity⟩

def accountWith (entries : List (Value × Value)) : Value :=
  .record accountRef [("UserID", some (.dict entries)),
    ("user_id", some (.record limitRef [("Count", some (.int 5))]))]

theorem reachable_accountSession : accountSession.Reachable := by
  have hlimit : initial.define limitDecl = .ok limits :=
    define_data rfl rfl (by decide +kernel)
  have haccount : limits.define accountDecl = .ok accounts :=
    define_data rfl rfl (by decide +kernel)
  have hlimits : limitSession.Reachable :=
    reachable_start.define (define_of_registry (defineAll_single hlimit rfl))
  exact hlimits.define (define_of_registry (defineAll_single haccount rfl))

/-- The two fields of an account have one member between them, and it is declared by the record that
is the second of them.  The mapping that is the first gets the default of that record too, once it
is written in. -/
theorem default_copied_by_mapping :
    accountSession.Reachable ∧ ∃ schema, accounts.derive (.record accountRef) = .ok schema ∧
      schema.validate (.dict [(.str "user_id", .dict [])]) = .ok () ∧
      ∃ x y, (accountSession.load (.dict [(.str "user_id", .dict [])]) (.record accountRef)).1 =
          .ok (.ok x) ∧
        (accountSession.load (schema.fill (.dict [(.str "user_id", .dict [])]))
          (.record accountRef)).1 = .ok (.ok y) ∧
        x.same (accountWith []) = true ∧ y.same (accountWith [(.str "count", .int 5)]) = true ∧
        y.same (accountWith []) = false := by
  have hvalidates : (accounts.derive (.record accountRef)).map (fun schema =>
      schema.validate (.dict [(.str "user_id", .dict [])])) = .ok (.ok ()) := by
    decide +kernel
  have hloads : (accounts.derive (.record accountRef)).map (fun schema =>
      ((accountSession.load (.dict [(.str "user_id", .dict [])]) (.record accountRef)).1.map
          fun outcome => outcome.map fun x => x.same (accountWith []),
        (accountSession.load (schema.fill (.dict [(.str "user_id", .dict [])]))
          (.record accountRef)).1.map fun outcome => outcome.map fun y =>
            (y.same (accountWith [(.str "count", .int 5)]), y.same (accountWith [])))) =
        .ok (.ok (.ok true), .ok (.ok (true, false))) := by
    decide +kernel
  obtain ⟨schema, hderive, hvalid⟩ := Outcome.map_eq_ok hvalidates
  rw [hderive] at hloads
  obtain ⟨hbefore, hafter⟩ := Prod.mk.inj (Except.ok.inj hloads)
  obtain ⟨x, hx, hempty⟩ := loaded_of_map hbefore
  obtain ⟨y, hy, hcopied⟩ := loaded_of_map hafter
  obtain ⟨hcount, hother⟩ := Prod.mk.inj hcopied
  exact ⟨reachable_accountSession, schema, hderive, hvalid, x, y, hx, hy, hempty, hcount, hother⟩

end Session
end Schematic
