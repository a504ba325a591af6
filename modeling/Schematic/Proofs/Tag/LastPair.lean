import Schematic.Proofs.Tag.Acceptance
import Schematic.Proofs.Tag.Grammar

/-!
Which pairs of a tag count.  A pair is accepted or refused by the kind of the field alone, and no
pair changes the kind, so that acceptance does not depend on the order (`exists_applies_iff`).  A
pair sets one part of the field and leaves the others, so that each part is in the end what the last
pair under its key means (`lastWins_of_applies`).  Both look only at the pairs under each key by
themselves; pairs under different keys may be exchanged.
-/

namespace Schematic
namespace Tag

variable {s : List Char} {pair : Pair} {pairs other : List Pair} {field updated result : Field}
  {key value : String}

/-! ## The pairs of a text -/

theorem pairs_of_run {rest : List Char} (h : Run s pairs rest) :
    Tag.pairs s = (pairs ++ (Tag.pairs rest).1, (Tag.pairs rest).2) := by
  induction h with
  | none s => rfl
  | next h _ ih =>
    rw [pairs_of_leads h, ih]
    rfl

/-- A text is a sequence of the pairs that are read from it, and of no others. -/
theorem isTag_iff : IsTag s pairs ↔ Tag.pairs s = (pairs, true) := by
  constructor
  · rintro ⟨blanks, hblanks, hrun⟩
    rw [pairs_of_run hrun, pairs_of_blanks hblanks, List.append_nil]
  · intro h
    fun_induction Tag.pairs s generalizing pairs with
    | case1 s hnone =>
      obtain ⟨rfl, hempty⟩ := Prod.mk.inj h
      exact ⟨s, isEmpty_stripStart_iff.mp hempty, .none s⟩
    | case2 s first rest hsome found complete hpairs ih =>
      obtain ⟨rfl, rfl⟩ := Prod.mk.inj h
      obtain ⟨blanks, hblanks, hrun⟩ := ih hpairs
      exact ⟨blanks, hblanks, .next (leads_iff.mp hsome) hrun⟩

/-! ## One pair -/

/-- A field and what it becomes when a value is set under a key. -/
inductive Sets (field : Field) (value : String) : String → Field → Prop
  | description : Sets field value "description"
      { field with schema := { field.schema with description := value } }
  | required {required : Bool} (h : Coercion.parseBool value = .ok required) :
      Sets field value "required" { field with required }
  | tags : Sets field value "tags"
      { field with tags := (splitCommas value.toList).map String.ofList }
  | default {default : Value} (h : defaultOf field.schema.kind (.str value) = .ok default) :
      Sets field value "default" { field with default }

theorem sets_of_apply (h : apply field key value = .ok updated) : Sets field value key updated := by
  unfold apply at h
  by_cases hdescription : key = "description"
  · rw [if_pos hdescription] at h
    subst hdescription
    exact Except.ok.inj h ▸ .description
  rw [if_neg hdescription] at h
  by_cases hrequired : key = "required"
  · rw [if_pos hrequired] at h
    subst hrequired
    cases hbool : Coercion.parseBool value with
    | error e => rw [hbool] at h; cases h
    | ok required =>
      rw [hbool] at h
      exact Except.ok.inj h ▸ .required hbool
  rw [if_neg hrequired] at h
  by_cases htags : key = "tags"
  · rw [if_pos htags] at h
    subst htags
    exact Except.ok.inj h ▸ .tags
  rw [if_neg htags] at h
  by_cases hdefault : key = "default"
  · rw [if_pos hdefault] at h
    subst hdefault
    obtain ⟨default, hliteral, rfl⟩ := Outcome.map_eq_ok h
    exact .default hliteral
  · rw [if_neg hdefault] at h
    cases h

theorem Sets.shape (h : Sets field value key updated) :
    updated.schema = { field.schema with description := updated.schema.description } := by
  obtain ⟨⟨kind, description, fields, elements⟩, required, default, tags⟩ := field
  cases h <;> rfl

theorem Sets.sameKind (h : Sets field value key updated) : SameKind updated field := by
  show updated.schema.kind = field.schema.kind
  rw [h.shape]

/-! ## Acceptance -/

/-- A field takes a pair, for what it makes of it. -/
def Takes [Text.Repertoire] (field : Field) (pair : Pair) : Prop :=
  ∃ updated, applyPair field pair = .ok updated

theorem takes_congr [Text.Repertoire] {f g : Field} (h : SameKind f g) :
    Takes f pair ↔ Takes g pair := by
  constructor
  · rintro ⟨updated, hupdated⟩
    obtain ⟨found, hfound, -⟩ := (applyPair_alike h pair).eq_ok hupdated
    exact ⟨found, hfound⟩
  · rintro ⟨updated, hupdated⟩
    obtain ⟨found, hfound, -⟩ := (applyPair_alike h.symm pair).eq_ok hupdated
    exact ⟨found, hfound⟩

theorem applyPair_eq_ok [Text.Repertoire] (h : applyPair field pair = .ok updated) :
    ∃ value, Text.Literal.read pair.body = .ok value ∧
      apply field (String.ofList pair.key) (String.ofList value) = .ok updated := by
  unfold applyPair at h
  cases hvalue : Text.Literal.read pair.body with
  | error fault => rw [hvalue] at h; cases h
  | ok value =>
    rw [hvalue] at h
    exact ⟨value, rfl, h⟩

/-- Pairs can be applied one after the other if and only if the field takes each of them. -/
theorem exists_applies_iff [Text.Repertoire] :
    (∃ result, Applies field pairs result) ↔ ∀ pair ∈ pairs, Takes field pair := by
  induction pairs generalizing field with
  | nil => exact ⟨fun _ => List.forall_mem_nil _, fun _ => ⟨field, .none field⟩⟩
  | cons pair rest ih =>
    rw [List.forall_mem_cons]
    constructor
    · rintro ⟨result, happlies⟩
      cases happlies with
      | next hvalue happly hrest =>
        refine ⟨⟨_, (applyPair_of_value hvalue).trans happly⟩, fun other hother => ?_⟩
        exact (takes_congr (sets_of_apply happly).sameKind).mp (ih.mp ⟨result, hrest⟩ other hother)
    · rintro ⟨⟨updated, hpair⟩, hrest⟩
      obtain ⟨value, hvalue, happly⟩ := applyPair_eq_ok hpair
      have hsame := (sets_of_apply happly).sameKind
      obtain ⟨result, hresult⟩ :=
        ih.mpr fun other hother => (takes_congr hsame).mpr (hrest other hother)
      exact ⟨result, .next hvalue happly hresult⟩

/-! ## The last pair under a key -/

/-- The pairs under a key, in their order. -/
def under (key : String) (pairs : List Pair) : List Pair :=
  pairs.filter fun pair => String.ofList pair.key = key

theorem under_cons_self (pair : Pair) (pairs : List Pair) :
    under (String.ofList pair.key) (pair :: pairs) = pair :: under (String.ofList pair.key) pairs :=
  List.filter_cons_of_pos (by simp)

theorem under_cons_of_ne (h : String.ofList pair.key ≠ key) (pairs : List Pair) :
    under key (pair :: pairs) = under key pairs :=
  List.filter_cons_of_neg (by simpa using h)

/-- A part of a field after pairs: what the last pair under the key of the part means, or what it
was before if no pair has the key. -/
inductive Last [Text.Repertoire] {α : Type} (key : String) (means : String → α → Prop)
    (pairs : List Pair) (before : α) : α → Prop
  | kept (hnone : under key pairs = []) : Last key means pairs before before
  | written {pair : Pair} {value : List Char} {after : α}
      (hlast : (under key pairs).getLast? = some pair)
      (hvalue : Text.Literal.read pair.body = .ok value)
      (hmeans : means (String.ofList value) after) :
      Last key means pairs before after

namespace Last

variable {α : Type} {means : String → α → Prop} {before between after : α}

theorem skip [Text.Repertoire] (h : Last key means pairs before after)
    (hne : String.ofList pair.key ≠ key) :
    Last key means (pair :: pairs) before after := by
  cases h with
  | kept hnone => exact .kept ((under_cons_of_ne hne _).trans hnone)
  | written hlast hvalue hmeans =>
    exact .written ((congrArg List.getLast? (under_cons_of_ne hne _)).trans hlast) hvalue hmeans

theorem next [Text.Repertoire] {value : List Char}
    (h : Last (String.ofList pair.key) means pairs between after)
    (hvalue : Text.Literal.read pair.body = .ok value) (hmeans : means (String.ofList value) between) :
    Last (String.ofList pair.key) means (pair :: pairs) before after := by
  cases h with
  | kept hnone =>
    refine .written ?_ hvalue hmeans
    rw [under_cons_self, hnone]
    rfl
  | written hlast hvalue' hmeans' =>
    refine .written ?_ hvalue' hmeans'
    rw [under_cons_self, List.getLast?_cons, hlast]
    rfl

theorem unique [Text.Repertoire] (h : Last key means pairs before after) {after' : α}
    (h' : Last key means pairs before after')
    (hmeans : ∀ value a b, means value a → means value b → a = b) : after = after' := by
  cases h with
  | kept hnone =>
    cases h' with
    | kept => rfl
    | written hlast => rw [hnone] at hlast; cases hlast
  | written hlast hvalue hafter =>
    cases h' with
    | kept hnone => rw [hnone] at hlast; cases hlast
    | written hlast' hvalue' hafter' =>
      obtain rfl := Option.some.inj (hlast.symm.trans hlast')
      obtain rfl := Except.ok.inj (hvalue.symm.trans hvalue')
      exact hmeans _ _ _ hafter hafter'

theorem of_under [Text.Repertoire] (h : Last key means pairs before after)
    (hunder : under key other = under key pairs) :
    Last key means other before after := by
  cases h with
  | kept hnone => exact .kept (hunder.trans hnone)
  | written hlast hvalue hmeans =>
    exact .written ((congrArg List.getLast? hunder).trans hlast) hvalue hmeans

end Last

/-- A field after pairs: of each part that has a key the last pair counts, and all else stays. -/
structure LastWins [Text.Repertoire] (field : Field) (pairs : List Pair) (result : Field) :
    Prop where
  kind : result.schema.kind = field.schema.kind
  fields : result.schema.fields = field.schema.fields
  elements : result.schema.elements = field.schema.elements
  description : Last "description" (fun value description => description = value) pairs
    field.schema.description result.schema.description
  required : Last "required" (fun value required => Coercion.parseBool value = .ok required) pairs
    field.required result.required
  tags : Last "tags" (fun value tags => tags = (splitCommas value.toList).map String.ofList) pairs
    field.tags result.tags
  default : Last "default"
    (fun value default => defaultOf field.schema.kind (.str value) = .ok default)
    pairs field.default result.default

/-- A part that a value under its own key sets, and that no other key touches, is what the last pair
under its key means. -/
theorem last_of_applies [Text.Repertoire] {α : Type} (part : Field → α) {own : String}
    {means : String → α → Prop} {kind : Kind}
    (hsets : ∀ {field : Field} {value key : String} {updated : Field}, field.schema.kind = kind →
      Sets field value key updated →
        (key = own ∧ means value (part updated)) ∨ (key ≠ own ∧ part updated = part field))
    (hkind : field.schema.kind = kind) (h : Applies field pairs result) :
    Last own means pairs (part field) (part result) := by
  induction h with
  | none field => exact .kept rfl
  | next hvalue happly _ ih =>
    have hset := sets_of_apply happly
    have hrest := ih (hset.sameKind.trans hkind)
    rcases hsets hkind hset with ⟨hown, hmeans⟩ | ⟨hother, hsame⟩
    · rw [← hown] at hrest ⊢
      exact hrest.next hvalue hmeans
    · rw [hsame] at hrest
      exact hrest.skip hother

theorem shape_of_applies [Text.Repertoire] (h : Applies field pairs result) :
    result.schema = { field.schema with description := result.schema.description } := by
  induction h with
  | none field =>
    obtain ⟨⟨kind, description, fields, elements⟩, required, default, tags⟩ := field
    rfl
  | next _ happly _ ih =>
    rw [ih, (sets_of_apply happly).shape]

theorem lastWins_of_applies [Text.Repertoire] (h : Applies field pairs result) :
    LastWins field pairs result where
  kind := by rw [shape_of_applies h]
  fields := by rw [shape_of_applies h]
  elements := by rw [shape_of_applies h]
  description := by
    refine last_of_applies (fun field => field.schema.description) (fun _ hset => ?_) rfl h
    cases hset with
    | description => exact .inl ⟨rfl, rfl⟩
    | _ => exact .inr ⟨by decide, rfl⟩
  required := by
    refine last_of_applies (fun field => field.required) (fun _ hset => ?_) rfl h
    cases hset with
    | required hbool => exact .inl ⟨rfl, hbool⟩
    | _ => exact .inr ⟨by decide, rfl⟩
  tags := by
    refine last_of_applies (fun field => field.tags) (fun _ hset => ?_) rfl h
    cases hset with
    | tags => exact .inl ⟨rfl, rfl⟩
    | _ => exact .inr ⟨by decide, rfl⟩
  default := by
    refine last_of_applies (fun field => field.default) (fun hkind hset => ?_) rfl h
    cases hset with
    | default hliteral => exact .inl ⟨rfl, hkind ▸ hliteral⟩
    | _ => exact .inr ⟨by decide, rfl⟩

namespace LastWins

theorem unique [Text.Repertoire] (h : LastWins field pairs result)
    (h' : LastWins field pairs updated) :
    result = updated := by
  obtain ⟨⟨kind, description, fields, elements⟩, required, default, tags⟩ := result
  obtain ⟨⟨kind', description', fields', elements'⟩, required', default', tags'⟩ := updated
  obtain rfl : kind = kind' := h.kind.trans h'.kind.symm
  obtain rfl : fields = fields' := h.fields.trans h'.fields.symm
  obtain rfl : elements = elements' := h.elements.trans h'.elements.symm
  obtain rfl : description = description' :=
    h.description.unique h'.description fun _ _ _ ha hb => ha.trans hb.symm
  obtain rfl : required = required' :=
    h.required.unique h'.required fun _ _ _ ha hb => Except.ok.inj (ha.symm.trans hb)
  obtain rfl : tags = tags' := h.tags.unique h'.tags fun _ _ _ ha hb => ha.trans hb.symm
  obtain rfl : default = default' :=
    h.default.unique h'.default fun _ _ _ ha hb => Except.ok.inj (ha.symm.trans hb)
  rfl

theorem of_under [Text.Repertoire] (h : LastWins field pairs result)
    (hunder : ∀ key, under key other = under key pairs) :
    LastWins field other result :=
  ⟨h.kind, h.fields, h.elements, h.description.of_under (hunder _), h.required.of_under (hunder _),
    h.tags.of_under (hunder _), h.default.of_under (hunder _)⟩

end LastWins

/-! ## Other orders -/

/-- The same pairs, in an order in which those with one key follow each other as before. -/
def Reordered (pairs other : List Pair) : Prop :=
  other.Perm pairs ∧ ∀ key, under key other = under key pairs

theorem under_exchange {a b : Pair} (h : String.ofList a.key ≠ String.ofList b.key) (key : String)
    (rest : List Pair) : under key (b :: a :: rest) = under key (a :: b :: rest) := by
  by_cases ha : String.ofList a.key = key
  · subst ha
    rw [under_cons_of_ne h.symm, under_cons_self, under_cons_self, under_cons_of_ne h.symm]
  · rw [under_cons_of_ne ha]
    by_cases hb : String.ofList b.key = key
    · subst hb
      rw [under_cons_self, under_cons_self, under_cons_of_ne h]
    · rw [under_cons_of_ne hb, under_cons_of_ne hb, under_cons_of_ne ha]

theorem Applies.reordered [Text.Repertoire] (h : Applies field pairs result)
    (horder : Reordered pairs other) :
    Applies field other result := by
  have htakes : ∀ pair ∈ other, Takes field pair := by
    intro pair hpair
    exact exists_applies_iff.mp ⟨result, h⟩ pair (horder.1.mem_iff.mp hpair)
  obtain ⟨found, hfound⟩ := exists_applies_iff.mpr htakes
  have hlast := (lastWins_of_applies h).of_under horder.2
  exact hlast.unique (lastWins_of_applies hfound) ▸ hfound

/-- Of the pairs of a tag that is accepted the last under each key counts, whatever stands between,
and the tag may be written with its pairs in any order that keeps those under one key in theirs. -/
theorem last_pair_counts [Text.Repertoire] {text : String} (h : parse field text = .ok result) :
    ∃ pairs, IsTag text.toList pairs ∧ (∀ found, IsTag text.toList found → found = pairs) ∧
      LastWins field pairs result ∧
      ∀ (other : String) (reordered : List Pair), IsTag other.toList reordered →
        Reordered pairs reordered → parse field other = .ok result := by
  obtain ⟨pairs, htag, happlies⟩ := parse_eq_ok_iff.mp h
  refine ⟨pairs, htag, ?_, lastWins_of_applies happlies, ?_⟩
  · intro found hfound
    exact (Prod.mk.inj ((isTag_iff.mp hfound).symm.trans (isTag_iff.mp htag))).1
  · intro other reordered hother horder
    exact parse_eq_ok_iff.mpr ⟨reordered, hother, happlies.reordered horder⟩

/-- A limit that is required and whose default is set twice. -/
def limitPairs : List Pair :=
  [⟨"default".toList, ['5']⟩, ⟨"required".toList, "true".toList⟩, ⟨"default".toList, ['7']⟩]

def limitPairsReordered : List Pair :=
  [⟨"required".toList, "true".toList⟩, ⟨"default".toList, ['5']⟩, ⟨"default".toList, ['7']⟩]

def limitField : Field :=
  { (Schema.ofKind .integer).toField with required := true, default := .int 7 }

theorem limitPairs_reordered : Reordered limitPairs limitPairsReordered :=
  ⟨.swap _ _ _, fun key => under_exchange (by decide) key _⟩

theorem last_pair_counts_limit :
    parse (Schema.ofKind .integer).toField "default:\"5\" required:\"true\" default:\"7\"" =
        .ok limitField ∧
      parse (Schema.ofKind .integer).toField "required:\"true\"\n default:\"5\" default:\"7\"" =
        .ok limitField := by
  have hpairs : Tag.pairs "default:\"5\" required:\"true\" default:\"7\"".toList =
      (limitPairs, true) := by
    decide +kernel
  have hother : Tag.pairs "required:\"true\"\n default:\"5\" default:\"7\"".toList =
      (limitPairsReordered, true) := by
    decide +kernel
  have hparse : parse (Schema.ofKind .integer).toField
      "default:\"5\" required:\"true\" default:\"7\"" = .ok limitField := by
    rw [parse, hpairs]
    rfl
  obtain ⟨pairs, -, hunique, -, hreorder⟩ := last_pair_counts hparse
  refine ⟨hparse, hreorder _ _ (isTag_iff.mpr hother) ?_⟩
  rw [← hunique _ (isTag_iff.mpr hpairs)]
  exact limitPairs_reordered

end Tag
end Schematic
