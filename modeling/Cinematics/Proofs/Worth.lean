import Mathlib.Order.Lattice
import Mathlib.Tactic.Linarith
import Mathlib.Tactic.NormNum
import Cinematics.Proofs.Standoff

/-!
# What amounts are worth

Amounts are ordered, from hardly any to very much, and over the reals what an amount is worth goes
with this order whatever the scene is: a larger one is never a shorter way, always a longer distance
to end at, never a larger factor inward and never a smaller one outward (`Amount.worth`).  Ways and
distances are positive even where the subject is flat, a point, or a box with its corners out of
order, since a size that is not positive gives way to one that is.  The envelope may cut factors
off, but then between limits that are in order.

All tables of amounts are handled alike: a table is in order if each entry is in the right relation
to the next (`Amount.rel_of_isChain`), and what is computed from a table, by a multiplication with
something positive, a cap or a clamp, keeps the order.
-/

namespace Cinematics

namespace Amount

/-! ### The order of amounts -/

/-- The number of amounts that are smaller. -/
def rank : Amount → ℕ
  | .tiny => 0
  | .small => 1
  | .medium => 2
  | .large => 3
  | .huge => 4

/-- An amount stands in the list of all amounts where its rank says. -/
lemma getElem?_all_rank (a : Amount) : (Named.all : List Amount)[a.rank]? = some a := by
  cases a
  all_goals rfl

/-- Amounts are told apart by how many are smaller. -/
lemma rank_injective : Function.Injective rank := by
  intro a b h
  refine Option.some.inj ?_
  rw [← getElem?_all_rank a, ← getElem?_all_rank b, h]

/-- Amounts are ordered by how much they mean. -/
instance : LinearOrder Amount := LinearOrder.lift' rank rank_injective

/-- A table whose entries are each in a transitive relation to the next has them in this relation to
all that come later. -/
lemma rel_of_isChain {β : Type} {R : β → β → Prop} [IsTrans β R] {f : Amount → β}
    (h : ((Named.all : List Amount).map f).IsChain R) {a b : Amount} (hab : a < b) :
    R (f a) (f b) := by
  have hget : ∀ c : Amount, ((Named.all : List Amount).map f)[c.rank]? = some (f c) := by
    intro c
    rw [List.getElem?_map, getElem?_all_rank, Option.map_some]
  obtain ⟨ha, hfa⟩ := List.getElem?_eq_some_iff.mp (hget a)
  obtain ⟨hb, hfb⟩ := List.getElem?_eq_some_iff.mp (hget b)
  rw [← hfa, ← hfb]
  exact List.pairwise_iff_getElem.mp (List.isChain_iff_pairwise.mp h) _ _ ha hb hab

/-- The part of a base distance to travel grows with the amount. -/
lemma strictMono_travelScale : StrictMono (travelScale : Amount → ℝ) := by
  refine fun _ _ => rel_of_isChain ?_
  norm_num [Named.all, travelScale]

/-- The multiple of the size to end at grows with the amount. -/
lemma strictMono_framingScale : StrictMono (framingScale : Amount → ℝ) := by
  refine fun _ _ => rel_of_isChain ?_
  norm_num [Named.all, framingScale]

/-- The factor outward grows with the amount. -/
lemma strictMono_outwardFactor : StrictMono (outwardFactor : Amount → ℝ) := by
  refine fun _ _ => rel_of_isChain ?_
  norm_num [Named.all, outwardFactor]

/-- The factor inward shrinks as the amount grows. -/
lemma strictAnti_inwardFactor : StrictAnti (inwardFactor : Amount → ℝ) := by
  refine fun _ _ => rel_of_isChain (R := (· > ·)) ?_
  norm_num [Named.all, inwardFactor]

/-- Hardly any is the least amount. -/
lemma tiny_le (a : Amount) : tiny ≤ a := Nat.zero_le a.rank

/-- Some of the base distance is travelled. -/
lemma travelScale_pos (a : Amount) : (0 : ℝ) < a.travelScale := by
  have htiny : (0 : ℝ) < tiny.travelScale := by norm_num [travelScale]
  exact htiny.trans_le (strictMono_travelScale.monotone a.tiny_le)

/-- The distance to end at is some part of the size. -/
lemma framingScale_pos (a : Amount) : (0 : ℝ) < a.framingScale := by
  have htiny : (0 : ℝ) < tiny.framingScale := by norm_num [framingScale]
  exact htiny.trans_le (strictMono_framingScale.monotone a.tiny_le)

end Amount

/-! ### Ways and distances -/

/-- The size of a subject is positive, whatever its box. -/
lemma Scene.size_pos (scene : Scene ℝ) : 0 < scene.size := by
  unfold size
  split
  · split
    · assumption
    · exact one_pos
  · exact one_pos

namespace Amount

variable (kind : MoveKind) (scene : Scene ℝ) (distance : ℝ)

/-- What ways are multiples of: the base distance, or the size of the subject where that is
nothing. -/
noncomputable def travelUnit : ℝ :=
  if 0 < travelBase kind scene distance then travelBase kind scene distance else scene.size

/-- Ways are multiples of something positive. -/
lemma travelUnit_pos : 0 < travelUnit kind scene distance := by
  unfold travelUnit
  split
  · assumption
  · exact scene.size_pos

/-- A way is a part of the unit, up to the cap. -/
lemma travel_eq (amount : Amount) :
    amount.travel kind scene distance =
      min (travelUnit kind scene distance * amount.travelScale) (max (5.0 * scene.size) 20.0) := by
  simp only [travel, Scalar.min_real, Scalar.max_real]
  rfl

/-- A way is positive, and no longer than the cap. -/
lemma travel_mem (amount : Amount) :
    0 < amount.travel kind scene distance ∧
      amount.travel kind scene distance ≤ max (5.0 * scene.size) 20.0 := by
  have hcap : (0 : ℝ) < max (5.0 * scene.size) 20.0 := lt_max_of_lt_right (by norm_num)
  rw [travel_eq]
  exact ⟨lt_min (mul_pos (travelUnit_pos _ _ _) amount.travelScale_pos) hcap, min_le_right _ _⟩

/-- A larger amount is no shorter a way. -/
lemma monotone_travel : Monotone fun amount : Amount => amount.travel kind scene distance := by
  intro a b hab
  simp only [travel_eq]
  exact min_le_min_right _ (mul_le_mul_of_nonneg_left (strictMono_travelScale.monotone hab)
    (travelUnit_pos _ _ _).le)

/-- A distance to end at is positive. -/
lemma framing_pos (amount : Amount) : 0 < amount.framing scene :=
  mul_pos amount.framingScale_pos scene.size_pos

/-- A larger amount is a longer distance to end at. -/
lemma strictMono_framing : StrictMono fun amount : Amount => amount.framing scene :=
  fun _ _ hab => mul_lt_mul_of_pos_right (strictMono_framingScale hab) scene.size_pos

end Amount

/-! ### Factors -/

/-- Clamping keeps the order, if the limits are in order. -/
lemma Scalar.monotone_clamp {lo hi : ℝ} (h : lo ≤ hi) : Monotone fun x => clamp x lo hi := by
  intro x y hxy
  simp only [clamp_real h]
  exact max_le_max_left _ (min_le_min_left _ hxy)

namespace Amount

/-- The factor of an amount before the envelope is looked at. -/
noncomputable def tableFactor (amount : Amount) (direction : Option Direction) : ℝ :=
  if direction = some .outward then amount.outwardFactor else amount.inwardFactor

variable {distance : ℝ} {around : Surroundings ℝ} {e : Envelope ℝ}

/-- Whether factors are clamped, at a distance, to the limits of an envelope. -/
def IsClampedBy (around : Surroundings ℝ) (distance : ℝ) (e : Envelope ℝ) : Prop :=
  around.envelope = some e ∧ 0 < distance ∧ e.minDistance / distance ≤ e.maxDistance / distance

/-- A factor is clamped between limits that are in order. -/
lemma clampFactor_of_isClampedBy (h : IsClampedBy around distance e) (factor : ℝ) :
    clampFactor factor distance around =
      Scalar.clamp factor (e.minDistance / distance) (e.maxDistance / distance) := by
  obtain ⟨henvelope, hlimits⟩ := h
  simp only [clampFactor, henvelope]
  exact if_pos hlimits

/-- A factor that is not clamped stays. -/
lemma clampFactor_of_not_isClampedBy (h : ∀ e, ¬ IsClampedBy around distance e) (factor : ℝ) :
    clampFactor factor distance around = factor := by
  unfold clampFactor
  split
  · rename_i e henvelope
    exact if_neg fun hlimits => h e ⟨henvelope, hlimits⟩
  · rfl

/-- Bringing factors to where the envelope is kept to does not change their order. -/
lemma monotone_clampFactor (distance : ℝ) (around : Surroundings ℝ) :
    Monotone fun factor => clampFactor factor distance around := by
  by_cases h : ∃ e, IsClampedBy around distance e
  · obtain ⟨e, he⟩ := h
    simp only [clampFactor_of_isClampedBy he]
    exact Scalar.monotone_clamp he.2.2
  · simp only [clampFactor_of_not_isClampedBy (not_exists.mp h)]
    exact monotone_id

/-- A clamped factor leads to a distance within the limits. -/
lemma mul_clampFactor_mem (h : IsClampedBy around distance e) (factor : ℝ) :
    e.minDistance ≤ clampFactor factor distance around * distance ∧
      clampFactor factor distance around * distance ≤ e.maxDistance := by
  obtain ⟨-, hdistance, hlimits⟩ := id h
  rw [clampFactor_of_isClampedBy h, ← div_le_iff₀ hdistance, ← le_div_iff₀ hdistance]
  exact ⟨Scalar.le_clamp hlimits, Scalar.clamp_le hlimits⟩

/-- A factor outward grows with the amount. -/
lemma monotone_factor_outward (distance : ℝ) (around : Surroundings ℝ) :
    Monotone fun amount : Amount => amount.factor (some .outward) distance around :=
  (monotone_clampFactor distance around).comp strictMono_outwardFactor.monotone

/-- A factor in another direction, or in none, shrinks as the amount grows. -/
lemma antitone_factor {direction : Option Direction} (h : direction ≠ some .outward)
    (distance : ℝ) (around : Surroundings ℝ) :
    Antitone fun amount : Amount => amount.factor direction distance around := by
  simp only [factor, if_neg h]
  exact (monotone_clampFactor distance around).comp_antitone strictAnti_inwardFactor.antitone

/-- **What an amount is worth is sound and goes with the amount.**

Over the reals, in every scene and surroundings, for every kind of move and every direction, and
from every pose: a way is positive, at most five sizes of the subject or twenty, and no shorter for
a larger amount; a distance to end at is positive, and longer for a larger amount.  A factor is no
smaller for a larger amount if it is outward, and no larger if it is not.

Either no factor is clamped, or all are clamped between limits that are in order, those of the
envelope as multiples of the distance.  The latter is the case if the distances of the envelope are
in order and the camera is not on its target, and then every factor leads to a distance within
them. -/
theorem worth (scene : Scene ℝ) (around : Surroundings ℝ) (kind : MoveKind)
    (direction : Option Direction) (pose : Pose ℝ) :
    (∀ amount : Amount, 0 < amount.travel kind scene pose.distance ∧
      amount.travel kind scene pose.distance ≤ max (5.0 * scene.size) 20.0) ∧
    (Monotone fun amount : Amount => amount.travel kind scene pose.distance) ∧
    (∀ amount : Amount, 0 < amount.framing scene) ∧
    (StrictMono fun amount : Amount => amount.framing scene) ∧
    (direction = some .outward →
      Monotone fun amount : Amount => amount.factor direction pose.distance around) ∧
    (direction ≠ some .outward →
      Antitone fun amount : Amount => amount.factor direction pose.distance around) ∧
    ((∀ amount : Amount,
        amount.factor direction pose.distance around = amount.tableFactor direction) ∨
      ∃ e, IsClampedBy around pose.distance e ∧ ∀ amount : Amount,
        amount.factor direction pose.distance around =
          Scalar.clamp (amount.tableFactor direction) (e.minDistance / pose.distance)
            (e.maxDistance / pose.distance)) ∧
    ∀ e, around.envelope = some e → e.minDistance ≤ e.maxDistance → 0 < pose.distance →
      IsClampedBy around pose.distance e ∧ ∀ amount : Amount,
        e.minDistance ≤ amount.factor direction pose.distance around * pose.distance ∧
          amount.factor direction pose.distance around * pose.distance ≤ e.maxDistance := by
  refine ⟨travel_mem kind scene _, monotone_travel kind scene _, framing_pos scene,
    strictMono_framing scene, ?_, fun hinward => antitone_factor hinward _ _, ?_, ?_⟩
  · rintro rfl
    exact monotone_factor_outward _ _
  · by_cases h : ∃ e, IsClampedBy around pose.distance e
    · obtain ⟨e, he⟩ := h
      exact .inr ⟨e, he, fun amount => clampFactor_of_isClampedBy he _⟩
    · exact .inl fun amount => clampFactor_of_not_isClampedBy (not_exists.mp h) _
  · intro e henvelope horder hdistance
    have hclamped : IsClampedBy around pose.distance e :=
      ⟨henvelope, hdistance, div_le_div_of_nonneg_right horder hdistance.le⟩
    exact ⟨hclamped, fun amount => mul_clampFactor_mem hclamped _⟩

/-- Surroundings that keep the camera between two units and ten from its target. -/
noncomputable def middling : Surroundings ℝ := ⟨some ⟨2.0, 10.0, 0, 10.0⟩, 0⟩

/-- From five units away the largest amount inward is cut off by the envelope, and ends at its least
distance; the one before it is not. -/
theorem worth_middling :
    (Antitone fun amount : Amount => amount.factor (some .inward) Pose.ahead.distance middling) ∧
    (∀ amount : Amount,
      2.0 ≤ amount.factor (some .inward) Pose.ahead.distance middling * Pose.ahead.distance ∧
        amount.factor (some .inward) Pose.ahead.distance middling * Pose.ahead.distance ≤ 10.0) ∧
    huge.factor (some .inward) Pose.ahead.distance middling * Pose.ahead.distance = 2.0 ∧
    large.factor (some .inward) Pose.ahead.distance middling = large.inwardFactor := by
  have hpositive : 0 < Pose.ahead.distance := by
    rw [Pose.distance_ahead]
    norm_num
  have horder : (2.0 : ℝ) ≤ 10.0 := by norm_num
  obtain ⟨-, -, -, -, -, hinward, -, hwithin⟩ :=
    worth .empty middling .zoom (some .inward) Pose.ahead
  obtain ⟨hclamped, hwithin⟩ := hwithin _ rfl horder hpositive
  have hfactor : ∀ amount : Amount, amount.factor (some .inward) Pose.ahead.distance middling =
      Scalar.clamp amount.inwardFactor (2.0 / Pose.ahead.distance)
        (10.0 / Pose.ahead.distance) := by
    intro amount
    rw [factor, if_neg (by decide), clampFactor_of_isClampedBy hclamped]
  refine ⟨hinward (by decide), hwithin, ?_, ?_⟩
  · rw [hfactor, Pose.distance_ahead]
    norm_num [Scalar.clamp, inwardFactor]
  · rw [hfactor, Pose.distance_ahead]
    norm_num [Scalar.clamp, inwardFactor]

end Amount

end Cinematics
