import Cinematics.Document.Scene
import Cinematics.Inspection
import Cinematics.Interpretation

/-!
# Results in JSON

Interpretations and reports, written to be kept and read back.
-/

namespace Cinematics

open Json (scalar? ofScalar)

/-- Reads a remark about a step. -/
def Diagnostic.ofJson? (j : Json) : Option Diagnostic := do
  let f ← j.fields? ["step_index", "primitive", "kind", "message"]
  let step ← f.need "step_index" Json.index?
  let move ← f.need "primitive" Json.named?
  let kind ← f.need "kind" Json.named?
  let message ← f.need "message" Json.text?
  some ⟨step, move, kind, message⟩

/-- Writes a remark about a step. -/
def Diagnostic.toJson (d : Diagnostic) : Json :=
  .ofMembers [("step_index", .ofNat d.step), ("primitive", .ofNamed d.move),
    ("kind", .ofNamed d.kind), ("message", .text d.message)]

/-- Reads a report. -/
def Report.ofJson? (j : Json) : Option Report := do
  let f ← j.fields? ["is_valid", "errors", "warnings"]
  let isValid ← f.need "is_valid" Json.bool?
  let errors ← f.need "errors" (Json.list? Json.text?)
  let warnings ← f.need "warnings" (Json.list? Json.text?)
  some ⟨isValid, errors, warnings⟩

/-- Writes a report. -/
def Report.toJson (r : Report) : Json :=
  .ofMembers [("is_valid", .bool r.isValid), ("errors", .array (r.errors.map .text)),
    ("warnings", .array (r.warnings.map .text))]

variable {α : Type} [Scalar α] [Numeric α]

/-- Reads an interpretation. -/
def Interpretation.ofJson? (j : Json) : Option (Interpretation α) := do
  let f ← j.fields? ["commands", "final_state", "step_durations", "diagnostics"]
  let keyframes ← f.need "commands" (Json.list? Keyframe.ofJson?)
  let finalPose ← f.need "final_state" Pose.ofJson?
  let stepDurations ← f.need "step_durations" (Json.list? scalar?)
  let diagnostics ← f.need "diagnostics" (Json.list? Diagnostic.ofJson?)
  some ⟨keyframes, finalPose, stepDurations, diagnostics⟩

/-- Writes an interpretation. -/
def Interpretation.toJson (i : Interpretation α) : Json :=
  .ofMembers [("commands", .array (i.keyframes.map Keyframe.toJson)),
    ("final_state", i.finalPose.toJson), ("step_durations", .array (i.stepDurations.map ofScalar)),
    ("diagnostics", .array (i.diagnostics.map Diagnostic.toJson))]

end Cinematics
