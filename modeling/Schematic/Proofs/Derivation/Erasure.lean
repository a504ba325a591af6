import Schematic.Proofs.Derivation.Stability
import Schematic.Proofs.Record.Erasure

/-!
Derivation sees types in outline.  The fields of a record have the same names and tags, and types of one
outline, on both sides of definitions that differ in what is not seen (`Registry.Alike.fields`); since
derivation asks for nothing else, the two sides have the same schemas.

Only records whose references all denote something are compared.  Where one does not, a model keeps it in
the type of its field, and a data record has no fields.  Of the records of earlier batches something is
asked only if the types that are compared reach them (`Registry.Reaches`).
-/

namespace Schematic

/-- Fields of records that look the same to derivation. -/
structure RecordField.Resembles (field field' : RecordField) : Prop where
  name : field.name = field'.name
  hint : field.hint.outline = field'.hint.outline
  tag : field.tag = field'.tag

namespace Registry

variable {registry registry' : Registry} {c c' : RecordClass} {reached reached' : RecordRef → Prop}

/-! ## Fields -/

namespace Alike

variable {r : RecordClass → RecordClass → Prop}

theorem ownHints (h : registry.Alike r registry') (hc : c.Alike r c')
    {hints hints' : List (String × TypeExpr)} (hhints : registry.ownHints c = .ok hints)
    (hhints' : registry'.ownHints c' = .ok hints') :
    Value.MembersRelated TypeExpr.Resembles hints hints' := by
  unfold Registry.ownHints at hhints hhints'
  rw [← h.scopeOf hc.ref hc.own] at hhints'
  refine Outcome.forall₂_of_mapM hc.own hhints hhints' fun field field' p p' hfield hp hp' => ?_
  obtain ⟨hint, hhint, hp⟩ := Outcome.bind_eq_ok hp
  obtain ⟨hint', hhint', hp'⟩ := Outcome.bind_eq_ok hp'
  obtain rfl := Except.ok.inj hp
  obtain rfl := Except.ok.inj hp'
  exact ⟨hfield.name, hfield.type.resembles hhint hhint'⟩

theorem dataHints (h : registry.Alike r registry') (hc : c.Alike r c')
    {hints hints' : List (String × TypeExpr)} (hhints : registry.dataHints c = .ok hints)
    (hhints' : registry'.dataHints c' = .ok hints') :
    Value.MembersRelated TypeExpr.Resembles hints hints' := by
  obtain ⟨groups, hgroups, hmerged⟩ := Outcome.bind_eq_ok hhints
  obtain ⟨groups', hgroups', hmerged'⟩ := Outcome.bind_eq_ok hhints'
  rw [← hc.ancestry] at hgroups'
  have hall : List.Forall₂ (Value.MembersRelated TypeExpr.Resembles) groups groups' :=
    Outcome.forall₂_of_mapM (h.findAll _) hgroups hgroups' fun _ _ _ _ hc hown hown' =>
      h.ownHints hc hown hown'
  have hmembers : Value.MembersRelated TypeExpr.Resembles groups.flatten groups'.flatten :=
    List.rel_flatten hall
  rw [← Except.ok.inj hmerged, ← Except.ok.inj hmerged']
  exact hmembers.putMembers .nil

theorem resembles_of_members {hints hints' : List (String × TypeExpr)}
    (h : Value.MembersRelated TypeExpr.Resembles hints hints') (name : String) :
    (((hints.find? (·.1 == name)).map Prod.snd).getD (.named .any)).Resembles
      (((hints'.find? (·.1 == name)).map Prod.snd).getD (.named .any)) := by
  have hname : ∀ p p' : String × TypeExpr, p.1 = p'.1 ∧ p.2.Resembles p'.2 →
      (p.1 == name) = (p'.1 == name) := fun _ _ hp => by rw [hp.1]
  rcases Outcome.find?_related hname h with ⟨hnone, hnone'⟩ | ⟨p, p', hp, hp', -, hresembles⟩
  · rw [hnone, hnone']
    exact ⟨rfl, rfl⟩
  · rw [hp, hp']
    exact hresembles

theorem fields (h : registry.Alike r registry') (hc : c.Alike r c')
    (hsettled : c.Settled c') {fields fields' : List RecordField}
    (hfields : registry.fields c = .ok fields) (hfields' : registry'.fields c' = .ok fields')
    (hcomplete : c.dataFields = none → c.IsComplete)
    (hcomplete' : c'.dataFields = none → c'.IsComplete) :
    List.Forall₂ RecordField.Resembles fields fields' := by
  have hdata := hc.dataFields
  unfold Registry.fields at hfields hfields'
  generalize c.dataFields = data at hdata hfields hcomplete
  generalize c'.dataFields = data' at hdata hfields' hcomplete'
  cases hdata with
  | none =>
    obtain rfl := Except.ok.inj hfields
    obtain rfl := Except.ok.inj hfields'
    rw [List.forall₂_map_left_iff, List.forall₂_map_right_iff]
    refine (hsettled (hcomplete rfl) (hcomplete' rfl)).imp fun field field' hfield => ?_
    refine ⟨hfield.name, ?_, hfield.type.tagText⟩
    show field.type.base.outline = field'.type.base.outline
    rw [TypeExpr.outline_base, TypeExpr.outline_base, hfield.type.outline]
  | some hdecls =>
    obtain ⟨hints, hhints, hfields⟩ := Outcome.bind_eq_ok hfields
    obtain ⟨hints', hhints', hfields'⟩ := Outcome.bind_eq_ok hfields'
    rw [← Except.ok.inj hfields, ← Except.ok.inj hfields', List.forall₂_map_left_iff,
      List.forall₂_map_right_iff]
    have hloaded : ∀ field field' : FieldDecl, field.Recast field' →
        (field.loaded = true ↔ field'.loaded = true) := fun _ _ hfield => by rw [hfield.loaded]
    refine (List.rel_filter (fun _ _ hfield => hloaded _ _ hfield) hdecls).imp
      fun field field' hfield => ?_
    have hhint := resembles_of_members (h.dataHints hc hhints hhints') field.name
    rw [hfield.name] at hhint
    refine ⟨hfield.name, ?_, ?_⟩
    · show TypeExpr.outline (((hints.find? (·.1 == field.name)).map Prod.snd).getD _) = _
      rw [hfield.name]
      exact hhint.outline
    · show joinTags [field.tag, _] = joinTags [field'.tag, _]
      rw [hfield.tag, hfield.name, hhint.tagText]

end Alike

/-! ## Schemas -/

/-- Every record inside a type has fields, and none of their types has a reference that denotes
nothing. -/
def Resolves (registry : Registry) (type : TypeExpr) : Prop :=
  ∀ ref c, registry.Within (.record ref) type → registry.find? ref = some c →
    (∃ fields, registry.fields c = .ok fields) ∧ (c.dataFields = none → c.IsComplete)

theorem Resolves.of_inner {type inner : TypeExpr} (h : registry.Resolves type)
    (hinner : registry.Inner inner type) : registry.Resolves inner :=
  fun ref c hwithin => h ref c (hwithin.tail hinner)

theorem within_outline : ∀ {type : TypeExpr} {ref : RecordRef},
    registry.Within (.record ref) type.outline → registry.Within (.record ref) type
  | .annotated base extras, ref, h =>
    have hbase : registry.Within (.record ref) base := within_outline h
    hbase.tail (.base base extras)
  | .array form element, _, h => by
    rcases Relation.ReflTransGen.cases_tail h with heq | ⟨_, hwithin, hinner⟩
    · cases heq
    · cases hinner with
      | element => exact (within_outline hwithin).tail (.element form element)
  | .record _, _, h => h
  | .scalar _, _, h | .openArray _, _, h | .mapping _ _, _, h | .named _, _, h | .generic _ _, _, h
  | .union _ _, _, h | .literal _, _, h | .value _, _, h | .reference _, _, h | .ellipsis, _, h => by
    rcases Relation.ReflTransGen.cases_tail h with heq | ⟨_, _, hinner⟩
    · cases heq
    · cases hinner

theorem Resolves.outline {type : TypeExpr} (h : registry.Resolves type) :
    registry.Resolves type.outline :=
  fun ref c hwithin => h ref c (within_outline hwithin)

theorem Describes.of_outline [Text.Repertoire] {schema : Schema} :
    ∀ {type : TypeExpr}, registry.Describes type.outline schema → registry.Describes type schema
  | .scalar _, h | .record _, h => h
  | .openArray form, h => by cases h; exact .openArray form
  | .mapping form arguments, h => by cases h; exact .mapping form arguments
  | .array form element, h => by
    cases h with
    | array helement => exact .array (Describes.of_outline helement)
  | .annotated _ extras, h => .annotated extras (Describes.of_outline h)
  | .named _, h | .generic _ _, h | .union _ _, h | .literal _, h | .value _, h | .reference _, h
  | .ellipsis, h => nomatch h

/-- The records that are read for a type: those inside it and those that they inherit from. -/
inductive Reaches (registry : Registry) (type : TypeExpr) : RecordRef → Prop
  | inside {ref : RecordRef} (h : registry.Within (.record ref) type) : Reaches registry type ref
  | above {c : RecordClass} {ref : RecordRef} (hc : c ∈ registry.classes)
      (h : Reaches registry type c.ref) (hmem : ref ∈ c.ancestry) : Reaches registry type ref

theorem reachesAbove (registry : Registry) (type : TypeExpr) :
    registry.ReachesAbove (registry.Reaches type) :=
  fun _ hc h _ hmem => .above hc h hmem

/-- A record has the schema of another one whose fields look the same, one by one. -/
theorem describes_of_resembles [Text.Repertoire] {ref : RecordRef} {c' : RecordClass}
    {fields fields' : List RecordField}
    {schemaOf : RecordField → Schema} {memberOf : RecordField → Field}
    (hfind' : registry'.find? ref = some c') (hfields' : registry'.fields c' = .ok fields')
    (hseen : List.Forall₂ RecordField.Resembles fields fields')
    (htags : ∀ f ∈ fields, Tag.parse (schemaOf f).toField f.tag = .ok (memberOf f))
    (hinner : ∀ f f', f ∈ fields → f' ∈ fields' → f.Resembles f' →
      registry'.Describes f'.hint (schemaOf f)) :
    registry'.Describes (.record ref)
      (.objectOf (Derivation.collect (fields.map fun f => (memberName f.name, memberOf f)))) := by
  -- Each field on the other side takes the schema and the member of one that it looks like.
  have hpartner : ∀ f', ∃ f, f' ∈ fields' → f ∈ fields ∧ f.Resembles f' := by
    intro f'
    by_cases hf' : f' ∈ fields'
    · obtain ⟨f, hf, hresembles⟩ := Outcome.exists_of_mem_right hseen hf'
      exact ⟨f, fun _ => ⟨hf, hresembles⟩⟩
    · exact ⟨f', fun hmem => absurd hmem hf'⟩
  choose partner hpartner using hpartner
  have hmembers : (fields.map fun f => (memberName f.name, memberOf f)) =
      fields'.map fun f' => (memberName f'.name, memberOf (partner f')) := by
    have hall := Outcome.forall₂_and (fun f hf => hf) (fun f' hf' => hf') hseen
    refine Outcome.map_eq_of_forall₂ (fun f f' ⟨hf, hf', hresembles⟩ => ?_) hall
    obtain ⟨hmem, hlike⟩ := hpartner f' hf'
    have hschema := (hinner f f' hf hf' hresembles).unique (hinner _ f' hmem hf' hlike)
    have hmember := htags f hf
    rw [hschema, hresembles.tag, ← hlike.tag, htags _ hmem] at hmember
    rw [hresembles.name, Except.ok.inj hmember]
  have hhints' : ∀ f' ∈ fields', registry'.Describes f'.hint (schemaOf (partner f')) := by
    intro f' hf'
    obtain ⟨hmem, hlike⟩ := hpartner f' hf'
    exact hinner _ f' hmem hf' hlike
  have htags' : ∀ f' ∈ fields',
      Tag.parse (schemaOf (partner f')).toField f'.tag = .ok (memberOf (partner f')) := by
    intro f' hf'
    obtain ⟨hmem, hlike⟩ := hpartner f' hf'
    rw [← hlike.tag]
    exact htags _ hmem
  rw [hmembers]
  exact .record hfind' hfields' hhints' htags'

/-- The outline of a type has the schema of the type, also over records that look the same. -/
theorem Describes.outline_of_alike [Text.Repertoire]
    (halike : registry.Alike (RecordClass.WhereReached reached reached' RecordClass.Settled) registry')
    {type : TypeExpr} {schema : Schema} (h : registry.Describes type schema)
    (hresolves : registry.Resolves type) (hresolves' : registry'.Resolves type.outline)
    (hreached : ∀ ref, registry.Within (.record ref) type → reached ref)
    (hreached' : ∀ ref, registry'.Within (.record ref) type.outline → reached' ref) :
    registry'.Describes type.outline schema := by
  induction h with
  | scalar s => exact .scalar s
  | openArray form => exact .openArray .list
  | mapping form arguments => exact .mapping .dict []
  | array _ ih =>
    exact .array (ih (hresolves.of_inner (.element _ _)) (hresolves'.of_inner (.element _ _))
      (fun ref h => hreached ref (h.tail (.element _ _)))
      fun ref h => hreached' ref (h.tail (.element _ _)))
  | annotated extras _ ih =>
    exact ih (hresolves.of_inner (.base _ extras)) hresolves'
      (fun ref h => hreached ref (h.tail (.base _ extras))) hreached'
  | @record ref c fields schemaOf memberOf hfind hfields hhints htags ih =>
    obtain ⟨c', hfind', hc⟩ : ∃ c', registry'.find? ref = some c' ∧ c.Alike _ c' := by
      rcases halike.find? ref with ⟨hnone, -⟩ | ⟨found, c', hfound, hfind', hc⟩
      · cases hnone.symm.trans hfind
      · obtain rfl := Option.some.inj (hfound.symm.trans hfind)
        exact ⟨c', hfind', hc⟩
    obtain ⟨-, hcomplete⟩ := hresolves ref c .refl hfind
    obtain ⟨⟨fields', hfields'⟩, hcomplete'⟩ := hresolves' ref c' .refl hfind'
    have hsettled : c.Settled c' :=
      hc.models (ref_of_find? hfind ▸ hreached ref .refl) (ref_of_find? hfind' ▸ hreached' ref .refl)
    have hseen := halike.fields hc hsettled hfields hfields' hcomplete hcomplete'
    refine describes_of_resembles hfind' hfields' hseen htags fun f f' hf hf' hresembles => ?_
    have hinner : registry.Inner f.hint (.record ref) := .hint hfind hfields hf
    have hinner' : registry'.Inner f'.hint (.record ref) := .hint hfind' hfields' hf'
    have hhint' : registry'.Resolves f.hint.outline :=
      hresembles.hint ▸ (hresolves'.of_inner hinner').outline
    have hdescribes := ih f hf (hresolves.of_inner hinner) hhint'
      (fun ref h => hreached ref (h.tail hinner))
      fun ref h => hreached' ref ((within_outline (hresembles.hint ▸ h)).tail hinner')
    rw [hresembles.hint] at hdescribes
    exact hdescribes.of_outline

/-- Types of one outline have the same schemas, over records whose definitions differ at most in what
derivation does not see. -/
theorem derive_recast [Text.Repertoire] {type type' : TypeExpr}
    (h : Recast (registry.Reaches type) (registry'.Reaches type') registry registry')
    (houtline : type.outline = type'.outline) (hshown : type.unset? = none)
    (hshown' : type'.unset? = none) (hresolves : registry.Resolves type)
    (hresolves' : registry'.Resolves type') (schema : Schema) :
    registry.derive type = .ok schema ↔ registry'.derive type' = .ok schema := by
  rw [derive_eq_ok_iff_describes, derive_eq_ok_iff_describes, and_iff_left hshown,
    and_iff_left hshown']
  constructor
  · intro hdescribes
    have halike := h.alike (reachesAbove registry type) (reachesAbove registry' type')
    have hsame := hdescribes.outline_of_alike halike hresolves (houtline ▸ hresolves'.outline)
      (fun _ hwithin => .inside hwithin)
      fun _ hwithin => .inside (within_outline (houtline ▸ hwithin))
    rw [houtline] at hsame
    exact hsame.of_outline
  · intro hdescribes
    have halike := h.symm.alike (reachesAbove registry' type') (reachesAbove registry type)
    have hsame := hdescribes.outline_of_alike halike hresolves' (houtline ▸ hresolves.outline)
      (fun _ hwithin => .inside hwithin)
      fun _ hwithin => .inside (within_outline (houtline ▸ hwithin))
    rw [← houtline] at hsame
    exact hsame.of_outline

def routeRef : RecordRef := ⟨2, .model, recordModule, "Route", false⟩

/-- Routes over stops, which are defined after them. -/
def routeDecl (stops fares title : TypeExpr) : RecordDecl :=
  ⟨"Route", .model,
    [⟨"Stops", stops, none, "", true, false⟩, ⟨"Fares", fares, none, "", true, false⟩,
      ⟨"Title", title, none, "", true, false⟩], [], false⟩

def routeDecls : List RecordDecl :=
  [routeDecl (.array .list (.value (.str "Stop"))) (.mapping .dict [])
    (.annotated (.scalar .str) [.tag "required:\"true\""]), stopDecl]

def respelledRouteDecls : List RecordDecl :=
  [routeDecl (.array .sequence (.annotated (.reference "Stop") [.value (.int 1)]))
    (.mapping .mapping [.scalar .str, .value (.str "Stop")])
    (.annotated (.scalar .str) [.value (.int 1), .tag "required:\"true\""]), stopDecl]

theorem routeDecls_recast : List.Forall₂ RecordDecl.Recast routeDecls respelledRouteDecls := by
  have hstops : (TypeExpr.array .list (.value (.str "Stop"))).Recast
      (.array .sequence (.annotated (.reference "Stop") [.value (.int 1)])) :=
    ⟨⟨_, .array _ (.text "Stop"), .array _ (.annotated _ (.reference "Stop"))⟩, rfl⟩
  have hfares : (TypeExpr.mapping .dict []).Recast
      (.mapping .mapping [.scalar .str, .value (.str "Stop")]) :=
    ⟨⟨_, .mapping _ _, .mapping _ _⟩, rfl⟩
  have htitle : (TypeExpr.annotated (.scalar .str) [.tag "required:\"true\""]).Recast
      (.annotated (.scalar .str) [.value (.int 1), .tag "required:\"true\""]) :=
    ⟨⟨_, .annotated _ (.scalar .str), .annotated _ (.scalar .str)⟩, rfl⟩
  refine .cons ⟨rfl, rfl, ?_, rfl, rfl⟩ (.cons ⟨rfl, rfl, ?_, rfl, rfl⟩ .nil)
  · exact .cons ⟨rfl, hstops, rfl, rfl, rfl, rfl⟩ (.cons ⟨rfl, hfares, rfl, rfl, rfl, rfl⟩
      (.cons ⟨rfl, htitle, rfl, rfl, rfl, rfl⟩ .nil))
  · exact .cons ⟨rfl, .rfl, rfl, rfl, rfl, rfl⟩ .nil

/-- Every record has fields, and none of their types has a reference that denotes nothing. -/
def resolvesAll (registry : Registry) : Bool :=
  registry.classes.all fun c =>
    (registry.fields c).isOk && (c.dataFields.isSome || c.modelFields.all (·.isComplete))

theorem resolves_of_all (h : registry.resolvesAll = true) (type : TypeExpr) :
    registry.Resolves type := by
  intro ref c _ hfind
  have hc := List.all_eq_true.mp h c (List.mem_of_find?_eq_some hfind)
  obtain ⟨hfields, hcomplete⟩ := Bool.and_eq_true_iff.mp hc
  refine ⟨Outcome.exists_of_isOk hfields, fun hnone => ?_⟩
  rw [hnone] at hcomplete
  exact List.all_eq_true.mp hcomplete

/-- Routes have one schema in both spellings. -/
theorem derive_recast_routes :
    ∃ registry registry' schema, initial.defineAll routeDecls = .ok registry ∧
      initial.defineAll respelledRouteDecls = .ok registry' ∧
      registry.derive (.array .listAlias (.record routeRef)) = .ok schema ∧
      registry'.derive (.annotated (.array .sequence (.record routeRef)) [.tag "route"]) =
        .ok schema := by
  have hrun : (initial.defineAll routeDecls).toOption.map (fun registry => registry.resolvesAll &&
      (registry.derive (.array .listAlias (.record routeRef))).isOk) = some true := by
    decide +kernel
  have hrun' : (initial.defineAll respelledRouteDecls).toOption.map resolvesAll = some true := by
    decide +kernel
  cases hdefine : initial.defineAll routeDecls with
  | error fault =>
    rw [hdefine] at hrun
    cases hrun
  | ok registry =>
    cases hdefine' : initial.defineAll respelledRouteDecls with
    | error fault =>
      rw [hdefine'] at hrun'
      cases hrun'
    | ok registry' =>
      rw [hdefine] at hrun
      rw [hdefine'] at hrun'
      obtain ⟨hresolves, hsome⟩ := Bool.and_eq_true_iff.mp (Option.some.inj hrun)
      obtain ⟨schema, hschema⟩ := Outcome.exists_of_isOk hsome
      have hcomplete : ∀ c : RecordClass, c.CompleteAbove initial := fun _ base hbase _ =>
        RecordClass.forall_library.mpr ⟨List.all_eq_true.mp rfl, List.all_eq_true.mp rfl⟩ base hbase
      have hrecast (reached reached' : RecordRef → Prop) : Recast reached reached' registry registry' :=
        .define .initial routeDecls_recast hdefine hdefine' (fun c _ _ => hcomplete c)
          (fun c _ _ => hcomplete c)
      refine ⟨registry, registry', schema, rfl, rfl, hschema, ?_⟩
      exact (derive_recast (hrecast _ _) rfl rfl rfl (resolves_of_all hresolves _)
        (resolves_of_all (Option.some.inj hrun') _) schema).mp hschema

/-! ## What is seen -/

def portDecls (fares : TypeExpr) : List RecordDecl :=
  [⟨"Port", .model, [⟨"Calls", .value (.str "Stop"), none, "", true, false⟩,
    ⟨"Fares", fares, none, "", true, false⟩], [], false⟩, stopDecl]

/-- Ferries, which inherit from ports, are defined later, with fares and other stops. -/
def ferries (fares : TypeExpr) : Except DefinitionFault Registry := do
  let ports ← initial.defineAll (portDecls fares)
  ports.defineAll [⟨"Fare", .data, [], [], false⟩,
    ⟨"Stop", .data, [⟨"Name", .scalar .int, none, "", true, false⟩], [], false⟩,
    ⟨"Ferry", .model, [], ["Port"], false⟩]

def ferryRef : RecordRef := ⟨6, .model, recordModule, "Ferry", false⟩

/-- Nothing is left to look up in ferries; their stops have names of a kind. -/
def stopsNamed [Text.Repertoire] (kind : Kind) (registry : Registry) : Bool :=
  (registry.find? ferryRef).any (fun c => c.modelFields.all (·.isComplete)) &&
    (registry.derive (.record ferryRef)).toOption.any fun schema =>
      (schema.fields.flatMap fun p => p.2.schema.fields.map fun q => q.2.schema.kind) = [kind]

theorem exists_ferries [Text.Repertoire] {fares : TypeExpr} {kind : Kind}
    (h : (ferries fares).toOption.any (stopsNamed kind) = true) :
    ∃ registry c schema, ferries fares = .ok registry ∧ registry.find? ferryRef = some c ∧
      c.IsComplete ∧ registry.derive (.record ferryRef) = .ok schema ∧
      (schema.fields.flatMap fun p => p.2.schema.fields.map fun q => q.2.schema.kind) = [kind] := by
  cases hferries : ferries fares with
  | error fault => rw [hferries] at h; cases h
  | ok registry =>
    rw [hferries] at h
    obtain ⟨hcomplete, hkinds⟩ := Bool.and_eq_true_iff.mp h
    cases hfind : registry.find? ferryRef with
    | none => rw [hfind] at hcomplete; cases hcomplete
    | some c =>
      cases hschema : registry.derive (.record ferryRef) with
      | error fault => rw [hschema] at hkinds; cases hkinds
      | ok schema =>
        rw [hfind] at hcomplete
        rw [hschema] at hkinds
        exact ⟨registry, c, schema, rfl, hfind, List.all_eq_true.mp hcomplete, hschema,
          of_decide_eq_true hkinds⟩

/-- Changes that derivation sees.  An annotation keeps a member of a union apart from its equal, and
without it the two are one.  A type cannot be shown with an extra that has a field which is not set.  A
port is complete before ferries are defined or not, as the arguments of a mapping can be looked up, and
ferries inherit the stop of before or take the one that is defined with them. -/
theorem changes_seen :
    (TypeExpr.unionOf [.scalar .int, .annotated (.scalar .int) [.value (.str "x")]] =
        .ok (.union .applied [.scalar .int, .annotated (.scalar .int) [.value (.str "x")]]) ∧
      TypeExpr.unionOf [.scalar .int, .scalar .int] = .ok (.scalar .int) ∧
      (∀ schema, initial.derive
        (.union .applied [.scalar .int, .annotated (.scalar .int) [.value (.str "x")]]) ≠ .ok schema) ∧
      initial.derive (.scalar .int) = .ok (.ofKind .integer)) ∧
    (marks.instantiate markClass [] = .ok (.record markRef [("Note", none)]) ∧
      (∀ schema, marks.derive
        (.annotated (.scalar .int) [.value (.record markRef [("Note", none)])]) ≠ .ok schema) ∧
      marks.derive (.scalar .int) = .ok (.ofKind .integer)) ∧
    ∃ registry registry' c c' schema,
      ferries (.mapping .dict [.scalar .str, .value (.str "Fare")]) = .ok registry ∧
      ferries (.mapping .dict []) = .ok registry' ∧ registry.find? ferryRef = some c ∧
      registry'.find? ferryRef = some c' ∧ c.IsComplete ∧ c'.IsComplete ∧
      registry.derive (.record ferryRef) = .ok schema ∧
      registry'.derive (.record ferryRef) ≠ .ok schema := by
  have hferries : (ferries (.mapping .dict [.scalar .str, .value (.str "Fare")])).toOption.any
      (stopsNamed .integer) = true := by decide +kernel
  have hferries' : (ferries (.mapping .dict [])).toOption.any (stopsNamed .string) = true := by
    decide +kernel
  obtain ⟨registry, c, schema, hregistry, hc, hcomplete, hschema, hkind⟩ := exists_ferries hferries
  obtain ⟨registry', c', schema', hregistry', hc', hcomplete', hschema', hkind'⟩ :=
    exists_ferries hferries'
  refine ⟨⟨rfl, rfl, fun schema hschema => ?_, rfl⟩, ⟨rfl, nofun, rfl⟩, registry, registry', c, c',
    schema, hregistry, hregistry', hc, hc', hcomplete, hcomplete', hschema, fun hsame => ?_⟩
  · cases describes_of_derive hschema
  · obtain rfl := Except.ok.inj (hschema'.symm.trans hsame)
    cases hkind.symm.trans hkind'

end Registry
end Schematic
