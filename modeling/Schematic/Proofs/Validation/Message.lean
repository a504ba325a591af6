import Schematic.Proofs.Validation.FirstFault

/-!
What validation says of a value.  The message of a report and its path grow side by side, one label
with each step, so that the message can be read off the path: every segment has one label
(`segmentLabel`), and only the name of a missing member, which ends the path, stands in the last
part of the message instead.
-/

namespace Schematic
namespace Schema

/-- The label of a segment of a path. -/
def segmentLabel : Value → String
  | .str name => name
  | .int index => "element " ++ toString index
  | _ => ""

variable {schema node : Schema} {value reached : Value} {steps : List Step} {failure : Failure}

theorem Leads.labels (h : Leads schema value steps node reached) :
    (steps.map Step.toValue).map segmentLabel = steps.map Step.label := by
  induction h with
  | here => rfl
  | member _ _ _ _ _ _ ih => exact congrArg (_ :: ·) ih
  | element _ _ _ _ _ ih => exact congrArg (_ :: ·) ih

/-- The report of a value of the wrong kind. -/
structure SaysMismatch (report : Report) (kind : Kind) (way : List Value) : Prop where
  code : report.code = if kind = .datetime then .invalidDate else .invalidType
  path : report.path = way
  message : report.message =
    .str (": ".intercalate (way.map segmentLabel ++ [kind.expectation]))
  details : report.details = []

/-- The report of a missing member. -/
structure SaysMissing (report : Report) (name : String) (way : List Value) : Prop where
  code : report.code = .requiredFieldMissing
  path : report.path = way ++ [.str name]
  message : report.message =
    .str (": ".intercalate (way.map segmentLabel ++ [name ++ " is required"]))
  details : report.details = [("field", .str name)]

theorem saysMismatch (kind : Kind)
    (hlabels : (steps.map Step.toValue).map segmentLabel = steps.map Step.label) :
    SaysMismatch (Failure.mk (.mismatch kind) steps).report kind (steps.map Step.toValue) := by
  obtain ⟨hcode, hpath⟩ := report_mismatch kind steps
  have htext : (Cause.mismatch kind).report.text = kind.expectation := by cases kind <;> rfl
  refine ⟨hcode, hpath, ?_, ?_⟩
  · rw [Failure.report_message, htext, hlabels]
  · rw [(Failure.report_keeps _).details]
    cases kind <;> rfl

theorem saysMissing (name : String)
    (hlabels : (steps.map Step.toValue).map segmentLabel = steps.map Step.label) :
    SaysMissing (Failure.mk (.missing name) steps).report name (steps.map Step.toValue) := by
  obtain ⟨hcode, hpath⟩ := report_missing name steps
  refine ⟨hcode, hpath, ?_, ?_⟩
  · rw [Failure.report_message, hlabels]
    rfl
  · rw [(Failure.report_keeps _).details]
    rfl

/-- A value that is refused is reported by the validator, without a cause.  The path leads to the
first fault, and the message is made of the labels of the path and of what is said of the fault, at
any depth. -/
theorem message_of_path (h : schema.validate value = .error failure) :
    failure.report.origin = .str "validator" ∧ failure.report.cause = none ∧
      ∃ node reached steps, Leads schema value steps node reached ∧
        ((¬ node.kind.Holds reached ∧
            SaysMismatch failure.report node.kind (steps.map Step.toValue)) ∨
          ∃ name, node.Lacks reached name ∧
            SaysMissing failure.report name (steps.map Step.toValue)) := by
  have hkeeps := failure.report_keeps
  rw [hkeeps.origin, hkeeps.cause]
  cases (validate_eq_error_iff schema value failure).mp h with
  | @mismatch node reached steps hleads hkind =>
    refine ⟨?_, ?_, node, reached, steps, hleads, .inl ⟨hkind, saysMismatch _ hleads.labels⟩⟩
    · show (Cause.mismatch node.kind).report.origin = _
      cases node.kind <;> rfl
    · show (Cause.mismatch node.kind).report.cause = _
      cases node.kind <;> rfl
  | @missing node reached steps name hleads hlacks =>
    exact ⟨rfl, rfl, node, reached, steps, hleads, .inr ⟨name, hlacks, saysMissing _ hleads.labels⟩⟩

def orderSchema : Schema :=
  .objectOf [("items", (arrayOf (.objectOf [("due", (ofKind .datetime).toField)])).toField)]

def orderValue : Value :=
  .object [("items", .list [.object [], .object [("due", .str "2024-02-30T10:00:00Z")]])]

def orderFailure : Failure :=
  ⟨.mismatch .datetime, [.member "items", .element 1, .member "due"]⟩

/-- The second of two items is due on a day that does not exist. -/
theorem message_of_path_order :
    orderSchema.validate orderValue = .error orderFailure ∧
      orderFailure.report.message =
        .str "items: element 1: due: expected a datetime in RFC3339 format" ∧
      orderFailure.report.origin = .str "validator" ∧ orderFailure.report.cause = none ∧
      ∃ node reached steps, Leads orderSchema orderValue steps node reached ∧
        ((¬ node.kind.Holds reached ∧
            SaysMismatch orderFailure.report node.kind (steps.map Step.toValue)) ∨
          ∃ name, node.Lacks reached name ∧
            SaysMissing orderFailure.report name (steps.map Step.toValue)) := by
  have hrefused : orderSchema.validate orderValue = .error orderFailure := by rfl
  exact ⟨hrefused, by rfl, message_of_path hrefused⟩

end Schema
end Schematic
