import Cinematics.Document.Move
import Cinematics.Json.Reader

/-!
# Plans in JSON

The type, the parameters and the ratio of a step are members of one object, so nothing in it can be
understood before all of it has been kept: every number has to fit, every string has to spell a
text, and the nesting is limited.  Elsewhere in a plan an unknown member may hold anything.
-/

namespace Cinematics

open Json (scalar? ofScalar)

variable {α : Type} [Scalar α] [Numeric α]

/-- Reads a step inside which `enclosing` arrays and objects are open, its own object included. -/
def Step.ofJson? (enclosing : Nat) : Json → Option (Step α)
  | .object members => do
    let f ← (Json.object members).fields? ["type", "parameters", "duration_ratio"]
    if members.all fun m => Move.isKeepable α enclosing m.2 then
      let kind ← f.need "type" Json.keptNamed?
      let move ← f.need "parameters" (Move.ofParameters? kind)
      let ratio ← f.need "duration_ratio" scalar?
      some ⟨move, ratio⟩
    else none
  | _ => none

/-- Writes a step. -/
def Step.toJson (s : Step α) : Json :=
  .ofMembers (s.move.members ++ [("duration_ratio", ofScalar s.ratio)])

namespace Plan

/-- Reads the data of a plan as a whole: its duration. -/
def metadata? (j : Json) : Option α := do
  let f ← j.fields? ["requested_duration"]
  f.need "requested_duration" scalar?

/-- Writes the data of a plan as a whole. -/
def metadata (duration : α) : Json :=
  .ofMembers [("requested_duration", ofScalar duration)]

/-- Reads a plan.  Each of its steps stands within the plan and the list of steps. -/
def ofJson? (j : Json) : Option (Plan α) := do
  let f ← j.fields? ["steps", "metadata"]
  let steps ← f.need "steps" (Json.list? (Step.ofJson? 3))
  let duration ← f.need "metadata" metadata?
  some ⟨steps, duration⟩

/-- Writes a plan. -/
def toJson (p : Plan α) : Json :=
  .ofMembers [("steps", .array (p.steps.map Step.toJson)), ("metadata", metadata p.duration)]

/-- Reads a plan from a text. -/
def ofText? (text : String) : Option (Plan α) :=
  (Json.parse? text.toList).bind ofJson?

end Plan

end Cinematics
