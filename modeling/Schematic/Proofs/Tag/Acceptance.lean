import Schematic.Proofs.Outcome
import Schematic.Tag

/-!
Which tags a field takes.  Of the field only the kind of its schema counts: two fields of one kind
take the same tags and refuse the others for the same causes.  A cause that lies in a tag is
reported under a code of its own category, so that it is never taken for one that lies in a type.
-/

namespace Schematic
namespace Tag

variable {f g : Field}

def SameKind (f g : Field) : Prop :=
  f.schema.kind = g.schema.kind

theorem apply_alike (h : SameKind f g) (key value : String) :
    Outcome.Alike SameKind (apply f key value) (apply g key value) := by
  unfold apply
  by_cases hdescription : key = "description"
  · rw [if_pos hdescription, if_pos hdescription]
    exact .ok h
  rw [if_neg hdescription, if_neg hdescription]
  by_cases hrequired : key = "required"
  · rw [if_pos hrequired, if_pos hrequired]
    cases Coercion.parseBool value with
    | ok required => exact .ok h
    | error e => exact .error _
  rw [if_neg hrequired, if_neg hrequired]
  by_cases htags : key = "tags"
  · rw [if_pos htags, if_pos htags]
    exact .ok h
  rw [if_neg htags, if_neg htags]
  by_cases hdefault : key = "default"
  · have hkind : f.schema.kind = g.schema.kind := h
    rw [if_pos hdefault, if_pos hdefault, hkind]
    cases defaultOf g.schema.kind (.str value) with
    | ok default => exact .ok h
    | error cause => exact .error _
  · rw [if_neg hdefault, if_neg hdefault]
    exact .error _

theorem applyPair_alike [Text.Repertoire] (h : SameKind f g) (pair : Pair) :
    Outcome.Alike SameKind (applyPair f pair) (applyPair g pair) := by
  unfold applyPair
  cases Text.Literal.read pair.body with
  | error fault => exact .error _
  | ok value => exact apply_alike h _ _

/-- A tag makes of two fields of one kind what it makes of either. -/
theorem parse_alike [Text.Repertoire] (h : SameKind f g) (text : String) :
    Outcome.Alike SameKind (parse f text) (parse g text) := by
  unfold parse
  rcases pairs text.toList with ⟨pairs, complete⟩
  refine (Outcome.Alike.foldlM (fun f g pair h => applyPair_alike h pair) h pairs).bind ?_
  intro f' g' h'
  cases complete with
  | true => exact .ok h'
  | false => exact .error _

/-! ## Causes -/

/-- Why a value cannot be set under a key. -/
inductive Refusal (key value : String) : Cause → Prop
  | notBoolean : Refusal key value (.notBoolean value)
  | literal (kind : Kind) : Refusal key value (.invalidLiteral kind value true)
  | noLiterals (kind : Kind) : Refusal key value (.defaultNotSupported kind)
  | unknownKey : Refusal key value (.unknownTagKey key)

theorem refusal_of_defaultOf {kind : Kind} {key text : String} {cause : Cause}
    (h : defaultOf kind (.str text) = .error cause) : Refusal key text cause := by
  unfold defaultOf at h
  by_cases hstring : kind = .string
  · rw [if_pos hstring] at h
    cases h
  rw [if_neg hstring] at h
  cases hrule : Coercion.ofKind? kind with
  | none =>
    rw [hrule] at h
    obtain rfl := Except.error.inj h
    exact .noLiterals kind
  | some rule =>
    rw [hrule] at h
    obtain ⟨e, -, rfl⟩ := Outcome.mapError_eq_error h
    exact .literal rule.kind

theorem refusal_of_apply {key value : String} {cause : Cause} (h : apply f key value = .error cause) :
    Refusal key value cause := by
  unfold apply at h
  by_cases hdescription : key = "description"
  · rw [if_pos hdescription] at h
    cases h
  rw [if_neg hdescription] at h
  by_cases hrequired : key = "required"
  · rw [if_pos hrequired] at h
    cases hbool : Coercion.parseBool value with
    | ok required => rw [hbool] at h; cases h
    | error e =>
      rw [hbool] at h
      obtain rfl := Except.error.inj h
      exact .notBoolean
  rw [if_neg hrequired] at h
  by_cases htags : key = "tags"
  · rw [if_pos htags] at h
    cases h
  rw [if_neg htags] at h
  by_cases hdefault : key = "default"
  · rw [if_pos hdefault] at h
    cases hliteral : defaultOf f.schema.kind (.str value) with
    | ok default => rw [hliteral] at h; cases h
    | error cause' =>
      rw [hliteral] at h
      obtain rfl := Except.error.inj h
      exact refusal_of_defaultOf hliteral
  · rw [if_neg hdefault] at h
    obtain rfl := Except.error.inj h
    exact .unknownKey

theorem Refusal.category {key value : String} {cause : Cause} (h : Refusal key value cause) :
    cause.report.code.category = "tag" := by
  cases h with
  | notBoolean => exact (rfl : ErrorCode.category .invalidBoolean = "tag")
  | literal kind => exact (rfl : ErrorCode.category .invalidDefault = "tag")
  | noLiterals kind => exact (rfl : ErrorCode.category .defaultNotSupported = "tag")
  | unknownKey => exact (rfl : ErrorCode.category .unknownTagKey = "tag")

theorem applyPair_category [Text.Repertoire] {pair : Pair} {cause : Cause}
    (h : applyPair f pair = .error cause) :
    cause.report.code.category = "tag" := by
  unfold applyPair at h
  cases hliteral : Text.Literal.read pair.body with
  | error fault =>
    rw [hliteral] at h
    obtain rfl := Except.error.inj h
    exact (rfl : ErrorCode.category .invalidTagValue = "tag")
  | ok value =>
    rw [hliteral] at h
    exact (refusal_of_apply h).category

/-- What keeps a field from taking a tag is reported as a failure of the tag. -/
theorem parse_category [Text.Repertoire] {text : String} {cause : Cause}
    (h : parse f text = .error cause) :
    cause.report.code.category = "tag" := by
  unfold parse at h
  rcases hpairs : pairs text.toList with ⟨pairs, complete⟩
  rw [hpairs] at h
  rcases Outcome.bind_eq_error h with hfold | ⟨field, -, hend⟩
  · obtain ⟨pair, -, field, hpair⟩ := Outcome.foldlM_eq_error hfold
    exact applyPair_category hpair
  · cases complete with
    | true => cases hend
    | false =>
      obtain rfl := Except.error.inj hend
      exact (rfl : ErrorCode.category .invalidTag = "tag")

end Tag
end Schematic
