import Cinematics.Fault
import Cinematics.Move

/-!
# Sharing out time

`Schedule.allocate` shares the requested duration among steps in proportion to their ratios.  Ratios
that are no shares count as zero; when nothing is left, the shares are equal.  The sum is formed
from weights relative to the largest ratio, so that it stays finite however large the ratios are.
-/

namespace Cinematics

variable {α : Type} [Scalar α]

namespace Schedule

/-- The share that a ratio asks for. -/
def share (ratio : α) : α :=
  if Scalar.isFinite ratio ∧ 0 ≤ ratio then ratio else 0

/-- The largest of some shares, at least zero. -/
def largest (shares : List α) : α :=
  shares.foldl Scalar.max 0

/-- The shares relative to the largest. -/
def weights (shares : List α) : List α :=
  let largest := largest shares
  shares.map fun r => if 0 < largest then r / largest else 0

/-- The seconds of each step. -/
def allocate (tolerance requested : α) (ratios : List α) : List α :=
  let shares := ratios.map share
  let weights := weights shares
  let total := Scalar.sum weights
  let sum := requested * largest shares * total
  if sum ≤ tolerance then shares.map fun _ => requested / Scalar.ofNat shares.length
  else if tolerance < Scalar.abs (sum - requested) then
    weights.map fun w => requested * (w / total)
  else shares.map fun r => requested * r

end Schedule

namespace Plan

/-- Refuses a plan without steps, and one without a positive finite duration. -/
def check (plan : Plan α) : Outcome α Unit :=
  if plan.steps.isEmpty then .error .emptyPlan
  else if Scalar.isFinite plan.duration ∧ 0 < plan.duration then .ok ()
  else .error (.badDuration plan.duration)

/-- The seconds of each step of a plan. -/
def schedule (plan : Plan α) (settings : Settings α) : Outcome α (List α) := do
  settings.check
  plan.check
  .ok (Schedule.allocate settings.durationTolerance plan.duration (plan.steps.map (·.ratio)))

end Plan

end Cinematics
