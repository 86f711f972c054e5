import Cinematics.Proofs.Documents
import Cinematics.Proofs.NonPenetration
import Cinematics.Proofs.Slab
import Cinematics.Proofs.Translation

/-!
# Boxes made of two corners

What is said about boxes, their slabs and faces elsewhere assumes that the corners of a box are in
order.  This file follows the ways in which a box is made: of two corners, out of a document, and by
lifting another one.  `Box.IsHull` is what they have in common, that the faces of the box are at the
smaller and at the larger coordinates of the corners.  The order of the corners does not matter to
it, and a point is inside such a box where it is between the corners along every axis
(`Box.IsHull.containsStrictly_iff`).

A box in a document is taken as it is given there, so it is a hull only if the document gives the
corners in order.  Otherwise it has no inside (`Box.containsStrictly_of_not_inOrder`).
-/

namespace Cinematics

namespace Vec

/-- Whether a point is strictly between two others along every axis, in whatever order. -/
def IsBetween (a b p : Vec ℝ) : Prop :=
  ∀ axis, (a.coord axis < p.coord axis ∧ p.coord axis < b.coord axis) ∨
    (b.coord axis < p.coord axis ∧ p.coord axis < a.coord axis)

variable {a b p : Vec ℝ}

/-- A coordinate of the smaller coordinates. -/
lemma coord_inf (a b : Vec ℝ) (axis : Axis) :
    (a.inf b).coord axis = min (a.coord axis) (b.coord axis) := by
  cases axis <;> exact (min_def _ _).symm

/-- A coordinate of the larger coordinates. -/
lemma coord_sup (a b : Vec ℝ) (axis : Axis) :
    (a.sup b).coord axis = max (a.coord axis) (b.coord axis) := by
  cases axis <;> exact (max_comm _ _).trans (max_def _ _) |>.symm

/-- A point is between two others if it is between their smaller and their larger coordinates. -/
lemma isBetween_iff :
    a.IsBetween b p ↔ ∀ axis, min (a.coord axis) (b.coord axis) < p.coord axis ∧
      p.coord axis < max (a.coord axis) (b.coord axis) := by
  refine forall_congr' fun axis => ?_
  rw [min_lt_iff, lt_max_iff]
  constructor
  · rintro (⟨hlow, hhigh⟩ | ⟨hlow, hhigh⟩)
    · exact ⟨.inl hlow, .inr hhigh⟩
    · exact ⟨.inr hlow, .inl hhigh⟩
  · -- a point cannot be above and below the same corner, so one corner is below it and one above
    rintro ⟨hlow | hlow, hhigh | hhigh⟩
    · exact absurd hlow hhigh.not_gt
    · exact .inl ⟨hlow, hhigh⟩
    · exact .inr ⟨hlow, hhigh⟩
    · exact absurd hlow hhigh.not_gt

end Vec

/-! ### Hulls -/

namespace Box

variable {box : Box ℝ} {a b p : Vec ℝ}

/-- Whether the faces of a box are at the smaller and at the larger coordinates of two points. -/
def IsHull (box : Box ℝ) (a b : Vec ℝ) : Prop :=
  ∀ axis, box.low.coord axis = min (a.coord axis) (b.coord axis) ∧
    box.high.coord axis = max (a.coord axis) (b.coord axis)

/-- A box that is made of two corners is their hull. -/
lemma isHull_ofCorners (a b : Vec ℝ) : (ofCorners a b).IsHull a b :=
  fun axis => ⟨Vec.coord_inf a b axis, Vec.coord_sup a b axis⟩

/-- A box with its corners in order is the hull of its corners. -/
lemma InOrder.isHull (h : box.InOrder) : box.IsHull box.low box.high :=
  fun axis => ⟨(min_eq_left (h axis)).symm, (max_eq_right (h axis)).symm⟩

namespace IsHull

/-- A hull that is lifted is the hull of the lifted corners. -/
lemma lift (h : box.IsHull a b) (amount : ℝ) :
    (box.lift amount).IsHull (a + Vec.height amount) (b + Vec.height amount) := by
  intro axis
  obtain ⟨hlow, hhigh⟩ := h axis
  simp only [Box.lift, translate, Vec.coord_add, hlow, hhigh, min_add_add_right,
    max_add_add_right, and_self]

/-- A hull has its corners in order. -/
lemma inOrder (h : box.IsHull a b) : box.InOrder := by
  intro axis
  obtain ⟨hlow, hhigh⟩ := h axis
  rw [hlow, hhigh]
  exact min_le_max

/-- A point is strictly inside a hull where it is between the corners. -/
lemma containsStrictly_iff (h : box.IsHull a b) :
    box.containsStrictly p = true ↔ a.IsBetween b p := by
  rw [Box.containsStrictly_iff, Vec.isBetween_iff]
  refine forall_congr' fun axis => ?_
  obtain ⟨hlow, hhigh⟩ := h axis
  rw [hlow, hhigh]

end IsHull

/-- A box with its corners out of order has no inside. -/
lemma containsStrictly_of_not_inOrder (h : ¬ box.InOrder) (p : Vec ℝ) :
    box.containsStrictly p = false :=
  Bool.eq_false_iff.mpr (mt inOrder_of_containsStrictly h)

end Box

/-! ### Corners in a document -/

namespace Json

/-- Whether a document of a scene gives two corners of a box. -/
def GivesCorners (v : Json) (a b : Vec ℝ) : Prop :=
  ∃ fields box corners, v.fields? ["bounds", "features"] = some fields ∧
    fields.get? "bounds" = some box ∧ box.fields? ["min", "max", "center"] = some corners ∧
    corners.need "min" Vec.ofJson? = some a ∧ corners.need "max" Vec.ofJson? = some b

variable {v : Json} {scene : Scene ℝ} {box : Box ℝ} {a b : Vec ℝ}

/-- A field that is read as something is present. -/
lemma exists_get?_of_optional {β : Type} {f : Fields} {name : String} {read? : Json → Option β}
    {x : β} (h : f.optional name read? = some (some x)) :
    ∃ v, f.get? name = some v ∧ read? v = some x := by
  unfold Fields.optional at h
  split at h
  · cases h
  · cases h
  · rename_i v _ hget
    obtain ⟨y, hread, hy⟩ := Option.map_eq_some_iff.mp h
    obtain rfl := Option.some.inj hy
    exact ⟨v, hget, hread⟩

/-- The box of a scene that is read has the corners that the document gives, in the order in which
it gives them. -/
lemma givesCorners_iff (hread : Scene.ofJson? v = some scene) (hbox : scene.bounds = some box) :
    v.GivesCorners a b ↔ box.low = a ∧ box.high = b := by
  simp only [Scene.ofJson?, Option.bind_eq_bind, Option.bind_eq_some_iff] at hread
  obtain ⟨fields, hfields, bounds, hbounds, features, -, hscene⟩ := hread
  obtain rfl := Option.some.inj hscene
  obtain rfl : bounds = some box := hbox
  obtain ⟨w, hget, hw⟩ := exists_get?_of_optional hbounds
  simp only [Box.ofJson?, Option.bind_eq_bind, Option.bind_eq_some_iff] at hw
  obtain ⟨corners, hcorners, low, hlow, high, hhigh, center, -, hbox⟩ := hw
  obtain rfl := Option.some.inj hbox
  constructor
  · rintro ⟨fields', w', corners', hfields', hget', hcorners', ha, hb⟩
    obtain rfl := Option.some.inj (hfields.symm.trans hfields')
    obtain rfl := Option.some.inj (hget.symm.trans hget')
    obtain rfl := Option.some.inj (hcorners.symm.trans hcorners')
    exact ⟨Option.some.inj (hlow.symm.trans ha), Option.some.inj (hhigh.symm.trans hb)⟩
  · rintro ⟨rfl, rfl⟩
    exact ⟨fields, w, corners, hfields, hget, hcorners, hlow, hhigh⟩

end Json

/-! ### Ways to make a box -/

namespace Box

/-- How a box is made of two corners. -/
inductive IsMadeOf : Box ℝ → Vec ℝ → Vec ℝ → Prop
  /-- Of any two corners. -/
  | corners (a b : Vec ℝ) : IsMadeOf (.ofCorners a b) a b
  /-- Out of a document of a scene that gives the corners in order. -/
  | document {v : Json} {scene : Scene ℝ} {box : Box ℝ} {a b : Vec ℝ}
      (hread : Scene.ofJson? v = some scene) (hbox : scene.bounds = some box)
      (hcorners : v.GivesCorners a b) (horder : ∀ axis, a.coord axis ≤ b.coord axis) :
      IsMadeOf box a b
  /-- By lifting a box with its corners in order. -/
  | lift {box : Box ℝ} (h : box.InOrder) (amount : ℝ) :
      IsMadeOf (box.lift amount) (box.low + Vec.height amount) (box.high + Vec.height amount)
  /-- By lifting a box that is made of two corners. -/
  | liftMade {box : Box ℝ} {a b : Vec ℝ} (h : IsMadeOf box a b) (amount : ℝ) :
      IsMadeOf (box.lift amount) (a + Vec.height amount) (b + Vec.height amount)

variable {box : Box ℝ} {a b : Vec ℝ}

/-- A box that is made of two corners is their hull.  The induction is on the ways to make it. -/
lemma IsMadeOf.isHull (h : box.IsMadeOf a b) : box.IsHull a b := by
  induction h with
  | corners a b => exact isHull_ofCorners a b
  | document hread hbox hcorners horder =>
    obtain ⟨rfl, rfl⟩ := (Json.givesCorners_iff hread hbox).mp hcorners
    exact InOrder.isHull horder
  | lift h amount => exact h.isHull.lift amount
  | liftMade _ amount ih => exact ih.lift amount

/-- **Corners are sorted.**  A box that is made of two corners has its corners in order.  The points
strictly inside it are those between the two, in whatever order these were given, and an inspection
finds fault exactly if a keyframe is at such a point. -/
theorem inOrder_of_isMadeOf (h : box.IsMadeOf a b) :
    box.InOrder ∧ (∀ p, box.containsStrictly p = true ↔ a.IsBetween b p) ∧
      ∀ keyframes : List (Keyframe ℝ), (inspect (some box) keyframes).isValid = false ↔
        ∃ k ∈ keyframes, a.IsBetween b k.pose.position := by
  have hhull := h.isHull
  refine ⟨hhull.inOrder, fun p => hhull.containsStrictly_iff, fun keyframes => ?_⟩
  rw [isValid_inspect_eq_false_iff]
  simp only [hhull.containsStrictly_iff]

/-- One, zero and minus one are written so that they read back. -/
lemma writable_units : Numeric.Writable [(-1 : ℝ), 0, 1] := by
  refine ⟨fun _ _ => rfl, ?_⟩
  simp only [List.forall_mem_cons]
  refine ⟨?_, ?_, ?_, List.forall_mem_nil _⟩
  · exact Numeric.faithful_of_mul_eq (z := -100000000000000000) (by norm_num)
  · exact Numeric.faithful_of_mul_eq (z := 0) (by norm_num)
  · exact Numeric.faithful_of_mul_eq (z := 100000000000000000) (by norm_num)

/-- A camera in the middle, or as far above it as it was lifted. -/
def raised {α : Type} [Scalar α] (amount : α) : Keyframe α :=
  ⟨⟨⟨0, amount, 0⟩, ⟨0, 0, 0⟩⟩, 1, .linear⟩

/-- A cube in a document has its corners in order, and a cube that is made of its corners in the
other order and lifted is found around its center. -/
theorem inOrder_of_isMadeOf_cube :
    (Scene.ofJson? (Scene.cube : Scene ℝ).toJson = some (Scene.cube : Scene ℝ) ∧
      (Scene.cube : Scene ℝ).toJson.GivesCorners ⟨-1, -1, -1⟩ ⟨1, 1, 1⟩) ∧
    (⟨⟨-1, -1, -1⟩, ⟨1, 1, 1⟩, ⟨0, 0, 0⟩⟩ : Box ℝ).InOrder ∧
    ((ofCorners ⟨1, 1, 1⟩ ⟨-1, -1, -1⟩ : Box ℝ).lift 1).containsStrictly ⟨0, 1, 0⟩ = true ∧
    (inspect (some ((ofCorners ⟨1, 1, 1⟩ ⟨-1, -1, -1⟩ : Box ℝ).lift 1)) [raised 1]).isValid =
      false := by
  have hread : Scene.ofJson? (Scene.cube : Scene ℝ).toJson = some (Scene.cube : Scene ℝ) :=
    Scene.ofJson?_toJson (writable_units.mono (by
      simp [Scene.scalars, Scene.cube, Box.scalars, Vec.scalars]))
  have hcorners : (Scene.cube : Scene ℝ).toJson.GivesCorners ⟨-1, -1, -1⟩ ⟨1, 1, 1⟩ :=
    (Json.givesCorners_iff hread rfl).mpr ⟨rfl, rfl⟩
  have horder : ∀ axis,
      (⟨-1, -1, -1⟩ : Vec ℝ).coord axis ≤ (⟨1, 1, 1⟩ : Vec ℝ).coord axis := by
    intro axis
    cases axis <;> norm_num [Vec.coord]
  have hmade : ((ofCorners ⟨1, 1, 1⟩ ⟨-1, -1, -1⟩ : Box ℝ).lift 1).IsMadeOf
      (⟨1, 1, 1⟩ + Vec.height 1) (⟨-1, -1, -1⟩ + Vec.height 1) :=
    .liftMade (.corners _ _) 1
  have hbetween : (⟨1, 1, 1⟩ + Vec.height 1 : Vec ℝ).IsBetween (⟨-1, -1, -1⟩ + Vec.height 1)
      ⟨0, 1, 0⟩ := by
    intro axis
    cases axis <;> norm_num [Vec.coord, Vec.height]
  obtain ⟨hinOrder, -, -⟩ := inOrder_of_isMadeOf (.document hread rfl hcorners horder)
  obtain ⟨-, hinside, hfault⟩ := inOrder_of_isMadeOf hmade
  exact ⟨⟨hread, hcorners⟩, hinOrder, (hinside _).mpr hbetween,
    (hfault _).mpr ⟨_, List.mem_cons_self, hbetween⟩⟩

/-- A box with its corners out of order. -/
def inverted {α : Type} [Scalar α] : Box α := ⟨⟨1, 1, 1⟩, ⟨-1, -1, -1⟩, ⟨0, 0, 0⟩⟩

/-- A document of a scene may give the corners of its box out of order.  The point in the middle
between these is not inside the box, and an inspection finds no fault with a camera there. -/
theorem not_inOrder_inverted :
    Scene.ofJson? (⟨some inverted, []⟩ : Scene ℝ).toJson = some (⟨some inverted, []⟩ : Scene ℝ) ∧
      (⟨some inverted, []⟩ : Scene ℝ).toJson.GivesCorners ⟨1, 1, 1⟩ ⟨-1, -1, -1⟩ ∧
      ¬ (inverted : Box ℝ).InOrder ∧
      (⟨1, 1, 1⟩ : Vec ℝ).IsBetween ⟨-1, -1, -1⟩ (raised 0).pose.position ∧
      (inverted : Box ℝ).containsStrictly (raised 0).pose.position = false ∧
      (inspect (some (inverted : Box ℝ)) [raised 0]).isValid = true := by
  have hread : Scene.ofJson? (⟨some inverted, []⟩ : Scene ℝ).toJson =
      some (⟨some inverted, []⟩ : Scene ℝ) :=
    Scene.ofJson?_toJson (writable_units.mono (by
      simp [Scene.scalars, inverted, Box.scalars, Vec.scalars]))
  have hdisorder : ¬ (inverted : Box ℝ).InOrder := by
    intro h
    have hx : (1 : ℝ) ≤ -1 := h .x
    norm_num at hx
  have hvalid : ¬ (inspect (some (inverted : Box ℝ)) [raised 0]).isValid = false := by
    rw [isValid_inspect_eq_false_iff]
    rintro ⟨k, -, hinside⟩
    rw [containsStrictly_of_not_inOrder hdisorder] at hinside
    cases hinside
  refine ⟨hread, (Json.givesCorners_iff hread rfl).mpr ⟨rfl, rfl⟩, hdisorder, ?_,
    containsStrictly_of_not_inOrder hdisorder _, Bool.eq_true_of_not_eq_false hvalid⟩
  intro axis
  cases axis <;> norm_num [Vec.coord, raised]

end Box

end Cinematics
