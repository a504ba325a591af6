import Schematic.Proofs.Derivation.Stability
import Schematic.Proofs.SchemaCache.Transparency
import Schematic.Proofs.Session.Reachable

/-!
When the cache is stale.  A session defines records and asks for schemas in any order, and what a
type gave when it was first asked for is kept, also if it had no schema then.  But the references
of a data record are looked up anew by every derivation, and a later definition may give a name a
meaning that it had not, or another one.

Every entry comes from a moment of the session: what was defined then was defined before what is
defined now, and the records of the type were among it.  Conversely a type can be asked for at
every such moment.  So the cache gives what derivation gives now if and only if derivation gave it
at all of them.
-/

namespace Schematic

/-! ## The records of a type -/

/-- The values that a value is made of. -/
def Value.parts : Value → List Value
  | .list items => items
  | .tuple items => items
  | .dict entries => entries.flatMap fun (key, value) => [key, value]
  | .view entries => entries.flatMap fun (key, value) => [key, value]
  | .record _ fields => fields.filterMap Prod.snd
  | _ => []

inductive Value.Mentions (ref : RecordRef) : Value → Prop
  | instance (fields : List (String × Option Value)) : Mentions ref (.record ref fields)
  | part {v part : Value} (hmem : part ∈ v.parts) (h : Mentions ref part) : Mentions ref v

namespace TypeExpr

/-- The types that a type is written with. -/
def parts : TypeExpr → List TypeExpr
  | .array _ element => [element]
  | .mapping _ arguments => arguments
  | .generic _ arguments => arguments
  | .union _ members => members
  | .annotated base _ => [base]
  | _ => []

/-- The values that a type is written with. -/
def values : TypeExpr → List Value
  | .literal values => values
  | .annotated _ extras => extras.filterMap fun
    | .tag _ => none
    | .value v => some v
  | .value v => [v]
  | _ => []

/-- A type cannot be written without a record. -/
inductive Mentions (ref : RecordRef) : TypeExpr → Prop
  | record : Mentions ref (.record ref)
  | part {type part : TypeExpr} (hmem : part ∈ type.parts) (h : Mentions ref part) :
      Mentions ref type
  | value {type : TypeExpr} {v : Value} (hmem : v ∈ type.values) (h : v.Mentions ref) :
      Mentions ref type

theorem eq_record_of_same {key : TypeExpr} {ref : RecordRef} (h : key.same (.record ref) = true) :
    key = .record ref := by
  cases key with
  | record other => rw [show other = ref from eq_of_beq h]
  | _ => cases h

end TypeExpr

/-- A type can be written: the records that it mentions are defined. -/
def Registry.Knows (registry : Registry) (type : TypeExpr) : Prop :=
  ∀ ref, type.Mentions ref → ∃ c, registry.find? ref = some c

/-- A moment before now at which a type could be asked for. -/
structure Registry.Moment (now : Registry) (type : TypeExpr) (earlier : Registry) : Prop where
  defined : Registry.initial.Before earlier
  before : earlier.Before now
  knows : earlier.Knows type

theorem Registry.Moment.trans {now next earlier : Registry} {type : TypeExpr}
    (h : now.Moment type earlier) (hnext : now.Before next) : next.Moment type earlier :=
  ⟨h.defined, h.before.trans hnext, h.knows⟩

namespace Session

/-! ## Runs -/

/-- Records are defined, or a schema is asked for; loading asks for it in the same way. -/
inductive Step [Text.Repertoire] : Session → Session → Prop
  | define {s s' : Session} {decls : List RecordDecl} (h : s.define decls = .ok s') : Step s s'
  | ask {s : Session} {type : TypeExpr} (hknown : s.registry.Knows type) :
      Step s (s.schemaFor type).2.2

/-- A session comes about from the one without records of its own and with an empty cache. -/
def Run [Text.Repertoire] (capacity : Nat) : Session → Prop :=
  Relation.ReflTransGen Step ⟨.initial, .empty capacity⟩

variable {capacity : Nat} {s s' : Session}

theorem define_registry {decls : List RecordDecl} (h : s.define decls = .ok s') :
    s.registry.defineAll decls = .ok s'.registry := by
  obtain ⟨registry, hregistry, rfl⟩ := Outcome.map_eq_ok h
  exact hregistry

theorem define_of_registry {decls : List RecordDecl} {registry : Registry}
    (h : s.registry.defineAll decls = .ok registry) :
    s.define decls = .ok { s with registry } := by
  rw [define, h]
  rfl

/-- What is kept was derived at a moment at which the type could be asked for. -/
structure Kept [Text.Repertoire] (capacity : Nat) (registry : Registry) (key : TypeExpr)
    (kept : Except Failure Schema) : Prop where
  room : 0 < capacity
  isKey : key.isKey = true
  derived : ∃ earlier, registry.Moment key earlier ∧ earlier.derive key = kept.mapError .failure

structure Traced [Text.Repertoire] (capacity : Nat) (s : Session) : Prop where
  defined : Registry.initial.Before s.registry
  room : s.cache.capacity = capacity
  entries : s.cache.Holds (Kept capacity s.registry)

theorem traced_start [Text.Repertoire] (capacity : Nat) :
    Traced capacity ⟨.initial, .empty capacity⟩ :=
  ⟨.refl, rfl, SchemaCache.holds_empty capacity⟩

theorem Traced.define [Text.Repertoire] {decls : List RecordDecl} (hs : s.Traced capacity)
    (h : s.define decls = .ok s') : s'.Traced capacity := by
  have hstep : s.registry.Before s'.registry := .single ⟨decls, define_registry h⟩
  have hcache : s'.cache = s.cache := define_cache h
  refine ⟨hs.defined.trans hstep, hcache ▸ hs.room, ?_⟩
  rw [hcache]
  refine hs.entries.imp fun key kept hkept => ?_
  obtain ⟨earlier, hmoment, hderive⟩ := hkept.derived
  exact ⟨hkept.room, hkept.isKey, earlier, hmoment.trans hstep, hderive⟩

theorem Traced.schemaFor [Text.Repertoire] {type : TypeExpr} (hs : s.Traced capacity)
    (hknown : s.registry.Knows type) : (s.schemaFor type).2.2.Traced capacity := by
  have hcapacity : (s.schemaFor type).2.2.cache.capacity = s.cache.capacity :=
    SchemaCache.capacity_get s.registry.derive type
  refine ⟨hs.defined, hcapacity.trans hs.room, hs.entries.get fun kept hkey hroom hderive => ?_⟩
  rw [hs.room] at hroom
  exact ⟨hroom, hkey, s.registry, ⟨hs.defined, .refl, hknown⟩, hderive⟩

theorem Run.traced [Text.Repertoire] (h : Run capacity s) : s.Traced capacity := by
  induction h with
  | refl => exact traced_start capacity
  | tail _ hstep ih =>
    cases hstep with
    | define hdefine => exact ih.define hdefine
    | ask hknown => exact ih.schemaFor hknown

theorem Run.before [Text.Repertoire] {registry : Registry} (h : Run capacity s)
    (hbefore : s.registry.Before registry) : Run capacity { s with registry } := by
  induction hbefore with
  | refl => exact h
  | tail _ hstep ih =>
    obtain ⟨decls, hdefine⟩ := hstep
    exact ih.tail (.define (define_of_registry hdefine))

/-- A session gives what derivation gives now, or what it gave for an equal key when that could be
asked for. -/
theorem Run.schemaFor_cases [Text.Repertoire] (h : Run capacity s) (type : TypeExpr) :
    (s.schemaFor type).1 = s.registry.derive type ∨
      ∃ key kept, Kept capacity s.registry key kept ∧ type.isKey = true ∧
        key.same type = true ∧ (s.schemaFor type).1 = kept.mapError .failure :=
  h.traced.entries.answer s.registry.derive type

/-- Whatever a key gave when it could be asked for can be given for every type that equals it. -/
theorem exists_run_of_kept [Text.Repertoire] {registry : Registry} {key type : TypeExpr}
    {kept : Except Failure Schema} (h : Kept capacity registry key kept) (hkey : type.isKey = true)
    (hsame : key.same type = true) :
    ∃ s, Run capacity s ∧ s.registry = registry ∧
      (s.schemaFor type).1 = kept.mapError .failure := by
  obtain ⟨earlier, hmoment, hderive⟩ := h.derived
  -- The key is asked for at the earlier moment, and the type once all is defined.
  have hstart : Run capacity ⟨earlier, .empty capacity⟩ :=
    Run.before (s := ⟨.initial, .empty capacity⟩) .refl hmoment.defined
  have hasked : Run capacity ((⟨earlier, .empty capacity⟩ : Session).schemaFor key).2.2 :=
    hstart.tail (.ask hmoment.knows)
  obtain ⟨rest, hfirst⟩ := SchemaCache.entries_keep (.empty capacity) h.room hderive
  rw [← SchemaCache.get_empty capacity h.isKey] at hfirst
  refine ⟨_, hasked.before hmoment.before, rfl, ?_⟩
  exact SchemaCache.get_of_first hfirst hkey hsame

/-- A type is given its schema if nothing else can be kept for it. -/
theorem Run.fresh [Text.Repertoire] {type : TypeExpr} {schema : Schema} (h : Run capacity s)
    (hderive : s.registry.derive type = .ok schema)
    (hkept : type.isKey = true → ∀ key kept, key.same type = true →
      Kept capacity s.registry key kept → kept = .ok schema) :
    (s.schemaFor type).1 = .ok schema := by
  rcases h.schemaFor_cases type with hanswer | ⟨key, kept, hentry, hkey, hsame, hanswer⟩
  · rw [hanswer]
    exact hderive
  · rw [hanswer, hkept hkey key kept hsame hentry]
    rfl

/-- A type is given its schema if the records inside it have been the same, with the same fields,
ever since it could be asked for. -/
theorem Run.fresh_of_shares [Text.Repertoire] {type : TypeExpr} {schema : Schema}
    (h : Run capacity s) (hderive : s.registry.derive type = .ok schema)
    (hshares : ∀ key earlier, key.same type = true → s.registry.Moment key earlier →
      ∀ ref, s.registry.Within (.record ref) key → s.registry.Shares earlier ref) :
    (s.schemaFor type).1 = .ok schema := by
  refine h.fresh hderive fun hkey key kept hsame hkept => ?_
  obtain ⟨earlier, hmoment, houtcome⟩ := hkept.derived
  have hnow : s.registry.derive key = .ok schema := by
    have hagree := s.registry.derive_agree hsame hkept.isKey hkey
    rw [hderive] at hagree
    exact hagree.eq_ok
  have hthen : earlier.derive key = .ok schema :=
    Registry.derive_of_shares hnow (hshares key earlier hsame hmoment)
  rw [houtcome] at hthen
  exact Outcome.mapError_eq_ok hthen

/-- A type with a schema is given it, whatever was asked before, if and only if no key that equals
the type had another outcome to keep at a moment when it could be asked for. -/
theorem fresh_iff [Text.Repertoire] (capacity : Nat) {registry : Registry} {type : TypeExpr}
    {schema : Schema} (hderive : registry.derive type = .ok schema) :
    (∀ s, Run capacity s → s.registry = registry → (s.schemaFor type).1 = .ok schema) ↔
      (type.isKey = true → ∀ key kept, key.same type = true → Kept capacity registry key kept →
        kept = .ok schema) := by
  constructor
  · intro hfresh hkey key kept hsame hkept
    obtain ⟨s, hrun, hregistry, hanswer⟩ := exists_run_of_kept hkept hkey hsame
    rw [hfresh s hrun hregistry] at hanswer
    exact Outcome.mapError_eq_ok hanswer.symm
  · intro hkept s hrun hregistry
    subst hregistry
    exact hrun.fresh hderive hkept

open Registry

-- Legs are defined last, so that nothing is missing at a moment when one can be asked for.
theorem moment_legs {earlier : Registry} (h : legs.Moment (.record legRef) earlier) :
    earlier = legs := by
  have hprefix := h.before.grows
  have hshort : earlier.classes.length ≤ 4 := hprefix.length_le
  have hcut : earlier.classes = legs.classes.take earlier.classes.length :=
    List.prefix_iff_eq_take.mp hprefix
  have hfull : earlier.classes.length = 4 := by
    by_contra hless
    obtain ⟨c, hfind⟩ := h.knows legRef .record
    have hnone : ∀ n < 4, (legs.classes.take n).find? (fun c => c.ref = legRef) = none := by
      decide +kernel
    rw [Registry.find?, hcut, hnone _ (by omega)] at hfind
    cases hfind
  rw [hfull] at hcut
  exact congrArg Registry.mk hcut

theorem fresh_iff_legs :
    initial.Before legs ∧ ∃ schema, legs.derive (.record legRef) = .ok schema ∧
      ∀ s, Run SchemaCache.defaultCapacity s → s.registry = legs →
        (s.schemaFor (.record legRef)).1 = .ok schema := by
  have hsome : (legs.derive (.record legRef)).isOk = true := by decide +kernel
  obtain ⟨schema, hderive⟩ := Outcome.exists_of_isOk hsome
  refine ⟨.single ⟨_, defineAll_legs⟩, schema, hderive, ?_⟩
  refine (fresh_iff SchemaCache.defaultCapacity hderive).mpr fun _ key kept hsame hkept => ?_
  obtain rfl := TypeExpr.eq_record_of_same hsame
  obtain ⟨earlier, hmoment, houtcome⟩ := hkept.derived
  rw [moment_legs hmoment, hderive] at houtcome
  exact Outcome.mapError_eq_ok houtcome.symm

def linkRef : RecordRef := ⟨2, .data, recordModule, "Link", false⟩

def linkDecl : RecordDecl :=
  ⟨"Link", .data, [⟨"Target", .reference "Page", none, "", true, false⟩], [], false⟩

def pageDecl : RecordDecl :=
  ⟨"Page", .data, [⟨"Title", .scalar .str, none, "", true, false⟩], [], false⟩

def linkClass : RecordClass :=
  ⟨linkRef, [linkRef, .root], linkDecl.fields, some linkDecl.fields, []⟩

def pageClass : RecordClass :=
  ⟨⟨3, .data, recordModule, "Page", false⟩, [⟨3, .data, recordModule, "Page", false⟩, .root],
    pageDecl.fields, some pageDecl.fields, []⟩

def links : Registry := ⟨initial.classes ++ [linkClass]⟩

def pages : Registry := ⟨initial.classes ++ [linkClass, pageClass]⟩

/-- A link is asked for before pages are defined.  Once they are, it has a schema, and the failure
is given all the same. -/
theorem link_stale :
    Session.start.define [linkDecl] = .ok ⟨links, .empty SchemaCache.defaultCapacity⟩ ∧
      ∃ cache, ((⟨links, .empty SchemaCache.defaultCapacity⟩ : Session).schemaFor
          (.record linkRef)).2.2 = ⟨links, cache⟩ ∧
        (⟨links, cache⟩ : Session).define [pageDecl] = .ok ⟨pages, cache⟩ ∧
        (pages.derive (.record linkRef)).isOk = true ∧
        ((⟨pages, cache⟩ : Session).schemaFor (.record linkRef)).1 =
          .error (.failure (.here (.unsupportedType "Link" (some .unknownName)))) := by
  have hlink : initial.define linkDecl = .ok links :=
    define_data rfl rfl (by decide +kernel)
  have hpage : links.define pageDecl = .ok pages :=
    define_data rfl rfl (by decide +kernel)
  have hlinks : initial.defineAll [linkDecl] = .ok links := defineAll_single hlink rfl
  have hpages : links.defineAll [pageDecl] = .ok pages := defineAll_single hpage rfl
  let kept : Except Failure Schema := .error (.here (.unsupportedType "Link" (some .unknownName)))
  have hfails : (links.derive (.record linkRef)).map (fun _ => ()) =
      .error (.failure (.here (.unsupportedType "Link" (some .unknownName)))) := by
    decide +kernel
  have hkept : links.derive (.record linkRef) = kept.mapError .failure :=
    Outcome.map_eq_error hfails
  obtain ⟨rest, hfirst⟩ :=
    SchemaCache.entries_keep (.empty SchemaCache.defaultCapacity) (by decide) hkept
  rw [← SchemaCache.get_empty SchemaCache.defaultCapacity rfl] at hfirst
  refine ⟨define_of_registry hlinks, _, rfl, define_of_registry hpages, by decide +kernel, ?_⟩
  exact SchemaCache.get_of_first hfirst rfl (by decide +kernel)

end Session
end Schematic
