import Schematic.Failure
import Schematic.Proofs.Value.Members

/-!
The report of a failure, read off its cause and its steps.  Seen from further out, a report gains
the step in front of its path and the label of the step in front of its message, and keeps all else
(`Report.Keeps`).  So the report of a failure is that of its cause, but for a path that is the steps
and then that of the cause, and for a message that is the labels of the steps and then that of the
cause.
-/

namespace Schematic
namespace Report

theorem code_within (r : Report) (step : Value) (label : String) :
    (r.within step label).code = r.code := rfl

theorem path_within (r : Report) (step : Value) (label : String) :
    (r.within step label).path = step :: r.path := by
  have hfind := Value.find?_putMember "path" (.list (step :: r.path)) r.metadata
  have hany : (Value.putMember "path" (.list (step :: r.path)) r.metadata).any
      (fun p => p.1 == "path") = true :=
    List.any_eq_true.mpr ⟨_, List.mem_of_find?_eq_some hfind, by simp⟩
  show ((r.within step label).pathValue).elements?.getD [] = step :: r.path
  rw [pathValue, within, if_pos hany, member, hfind]
  rfl

/-- The members of a report but its path. -/
def details (r : Report) : List (String × Value) :=
  r.metadata.filter fun (name, _) => name ≠ "path"

/-- A report is another one told from somewhere else: only the message and the path may differ. -/
structure Keeps (r base : Report) : Prop where
  code : r.code = base.code
  origin : r.origin = base.origin
  cause : r.cause = base.cause
  details : r.details = base.details

theorem Keeps.trans {r between base : Report} (h : r.Keeps between) (h' : between.Keeps base) :
    r.Keeps base :=
  ⟨h.code.trans h'.code, h.origin.trans h'.origin, h.cause.trans h'.cause, h.details.trans h'.details⟩

theorem keeps_within (r : Report) (step : Value) (label : String) : (r.within step label).Keeps r :=
  ⟨rfl, rfl, rfl, Value.filter_putMember _ _ _⟩

end Report

theorem Cause.message_report (cause : Cause) : cause.report.message = .str cause.report.text := by
  cases cause with
  | mismatch kind => cases kind <;> rfl
  | _ => rfl

/-- Only a missing member is told with a path of its own. -/
theorem Cause.report_path {cause : Cause} (h : ∀ name, cause ≠ .missing name) :
    cause.report.path = [] := by
  cases cause with
  | missing name => exact absurd rfl (h name)
  | mismatch kind => cases kind <;> rfl
  | _ => rfl

namespace Failure

theorem report_code (f : Failure) : f.report.code = f.cause.report.code := by
  obtain ⟨cause, steps⟩ := f
  induction steps with
  | nil => rfl
  | cons step steps ih =>
    show ((Failure.mk cause steps).report.within step.toValue step.label).code = _
    rw [Report.code_within, ih]

theorem report_path (f : Failure) :
    f.report.path = f.steps.map Step.toValue ++ f.cause.report.path := by
  obtain ⟨cause, steps⟩ := f
  induction steps with
  | nil => rfl
  | cons step steps ih =>
    show ((Failure.mk cause steps).report.within step.toValue step.label).path = _
    rw [Report.path_within, ih]
    rfl

theorem report_keeps (f : Failure) : f.report.Keeps f.cause.report := by
  obtain ⟨cause, steps⟩ := f
  induction steps with
  | nil => exact ⟨rfl, rfl, rfl, rfl⟩
  | cons step steps ih => exact (Report.keeps_within _ _ _).trans ih

/-- The message of a failure is the labels of its steps and what is said of its cause, joined by
colons. -/
theorem report_message (f : Failure) :
    f.report.message = .str (": ".intercalate (f.steps.map Step.label ++ [f.cause.report.text])) := by
  obtain ⟨cause, steps⟩ := f
  induction steps with
  | nil => exact cause.message_report.trans (congrArg Value.str String.intercalate_singleton.symm)
  | cons step steps ih =>
    have hinner : (Failure.mk cause steps).report.text = _ := congrArg Value.inlineText ih
    show Value.str (step.label ++ ": " ++ (Failure.mk cause steps).report.text) = _
    rw [hinner, List.map_cons, List.cons_append, String.intercalate_cons_of_ne_nil (by simp)]
    rfl

end Failure
end Schematic
