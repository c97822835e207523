import Mathlib

/-!
# Motion along a curve

A point moves along a curve that is parametrised by its arc length. The arc length travelled is a
trajectory on the line with a speed, an acceleration and a jerk of its own, and the point has a
velocity, an acceleration and a jerk in space. On a curve of constant curvature the latter are the
former along the tangent, plus the terms of the curvature along the tangent and the normal.

## Key results

- `Frame.along`: the trajectory of the point, with its three derivatives
- `Frame.norm_acceleration_le`, `Frame.norm_jerk_le`: bounds from the scalar motion
- `lineFrame`, `circleFrame`: the frames of a line and of a circle
-/

variable {E : Type*} [NormedAddCommGroup E] [NormedSpace ℝ E]

/-! ## Trajectories -/

/-- A function of time on a set of instants, with its first three derivatives there. -/
structure Trajectory (instants : Set ℝ) (E : Type*) [NormedAddCommGroup E] [NormedSpace ℝ E] where
  position : ℝ → E
  velocity : ℝ → E
  acceleration : ℝ → E
  jerk : ℝ → E
  hasVelocity : ∀ t ∈ instants, HasDerivWithinAt position (velocity t) instants t
  hasAcceleration : ∀ t ∈ instants, HasDerivWithinAt velocity (acceleration t) instants t
  hasJerk : ∀ t ∈ instants, HasDerivWithinAt acceleration (jerk t) instants t

namespace Trajectory

variable {instants : Set ℝ} {first second : Trajectory instants E} {t : ℝ}

/-- A derivative is determined by the values of the function. -/
private theorem deriv_unique (hinstants : UniqueDiffOn ℝ instants) {f g f' g' : ℝ → E}
    (hf : ∀ t ∈ instants, HasDerivWithinAt f (f' t) instants t)
    (hg : ∀ t ∈ instants, HasDerivWithinAt g (g' t) instants t)
    (h : Set.EqOn f g instants) : Set.EqOn f' g' instants := by
  intro t ht
  have hfg : HasDerivWithinAt f (g' t) instants t := (hg t ht).congr h (h ht)
  exact (hinstants t ht).eq_deriv _ (hf t ht) hfg

/-- Two trajectories through the same positions have the same derivatives. -/
theorem congr (hinstants : UniqueDiffOn ℝ instants)
    (h : Set.EqOn first.position second.position instants) :
    Set.EqOn first.velocity second.velocity instants ∧
      Set.EqOn first.acceleration second.acceleration instants ∧
      Set.EqOn first.jerk second.jerk instants := by
  have hvelocity := deriv_unique hinstants first.hasVelocity second.hasVelocity h
  have hacceleration :=
    deriv_unique hinstants first.hasAcceleration second.hasAcceleration hvelocity
  exact ⟨hvelocity, hacceleration, deriv_unique hinstants first.hasJerk second.hasJerk hacceleration⟩

end Trajectory

/-! ## Frames -/

/-- The tangent and the normal of a curve of constant curvature, parametrised by arc length. -/
structure Frame (curvature : ℝ) (curve : ℝ → E) where
  tangent : ℝ → E
  normal : ℝ → E
  hasTangent : ∀ s, HasDerivAt curve (tangent s) s
  turns : ∀ s, HasDerivAt tangent (curvature • normal s) s
  normal_turns : ∀ s, HasDerivAt normal (-(curvature • tangent s)) s
  norm_tangent_le : ∀ s, ‖tangent s‖ ≤ 1
  norm_normal_le : ∀ s, ‖normal s‖ ≤ 1

namespace Frame

variable {curvature : ℝ} {curve : ℝ → E} {instants : Set ℝ}

/-- The motion of a point whose arc length follows a trajectory. -/
def along (frame : Frame curvature curve) (progress : Trajectory instants ℝ) :
    Trajectory instants E where
  position t := curve (progress.position t)
  velocity t := progress.velocity t • frame.tangent (progress.position t)
  acceleration t := progress.acceleration t • frame.tangent (progress.position t) +
    (curvature * progress.velocity t ^ 2) • frame.normal (progress.position t)
  jerk t := (progress.jerk t - curvature ^ 2 * progress.velocity t ^ 3) •
      frame.tangent (progress.position t) +
    (3 * curvature * progress.velocity t * progress.acceleration t) •
      frame.normal (progress.position t)
  hasVelocity t ht := by
    exact (frame.hasTangent _).scomp_hasDerivWithinAt t (progress.hasVelocity t ht)
  hasAcceleration t ht := by
    have htangent := (frame.turns (progress.position t)).scomp_hasDerivWithinAt t
      (progress.hasVelocity t ht)
    have hproduct := (progress.hasAcceleration t ht).smul htangent
    refine hproduct.congr_deriv ?_
    simp only [Function.comp_apply]
    module
  hasJerk t ht := by
    have hvelocity := progress.hasVelocity t ht
    have htangent := (frame.turns (progress.position t)).scomp_hasDerivWithinAt t hvelocity
    have hnormal := (frame.normal_turns (progress.position t)).scomp_hasDerivWithinAt t hvelocity
    have halong := (progress.hasJerk t ht).smul htangent
    have hacross := (((progress.hasAcceleration t ht).pow 2).const_mul curvature).smul hnormal
    refine (halong.add hacross).congr_deriv ?_
    simp only [Function.comp_apply, Pi.pow_apply, Nat.cast_ofNat, Nat.reduceSub, pow_one]
    module

/-- A motion through the same points as a motion along the frame is that motion. -/
theorem along_unique (frame : Frame curvature curve) (progress : Trajectory instants ℝ)
    (hinstants : UniqueDiffOn ℝ instants) {motion : Trajectory instants E}
    (h : ∀ t ∈ instants, motion.position t = curve (progress.position t)) {t : ℝ}
    (ht : t ∈ instants) :
    motion.velocity t = (frame.along progress).velocity t ∧
      motion.acceleration t = (frame.along progress).acceleration t ∧
      motion.jerk t = (frame.along progress).jerk t := by
  have hposition : Set.EqOn motion.position (frame.along progress).position instants := h
  obtain ⟨hvelocity, hacceleration, hjerk⟩ := Trajectory.congr hinstants hposition
  exact ⟨hvelocity ht, hacceleration ht, hjerk ht⟩

variable (frame : Frame curvature curve) (progress : Trajectory instants ℝ) (t : ℝ)

theorem norm_velocity_le : ‖(frame.along progress).velocity t‖ ≤ |progress.velocity t| := by
  show ‖progress.velocity t • frame.tangent _‖ ≤ _
  rw [norm_smul, Real.norm_eq_abs]
  exact mul_le_of_le_one_right (abs_nonneg _) (frame.norm_tangent_le _)

/-- A vector with given components along the frame. -/
private theorem norm_components_le (a b s : ℝ) :
    ‖a • frame.tangent s + b • frame.normal s‖ ≤ |a| + |b| := by
  have htangent : ‖a • frame.tangent s‖ ≤ |a| := by
    rw [norm_smul, Real.norm_eq_abs]
    exact mul_le_of_le_one_right (abs_nonneg _) (frame.norm_tangent_le s)
  have hnormal : ‖b • frame.normal s‖ ≤ |b| := by
    rw [norm_smul, Real.norm_eq_abs]
    exact mul_le_of_le_one_right (abs_nonneg _) (frame.norm_normal_le s)
  exact (norm_add_le _ _).trans (add_le_add htangent hnormal)

/-- The acceleration is at most the tangential and the centripetal one. -/
theorem norm_acceleration_le : ‖(frame.along progress).acceleration t‖ ≤
    |progress.acceleration t| + |curvature| * |progress.velocity t| ^ 2 := by
  have h := frame.norm_components_le (progress.acceleration t)
    (curvature * progress.velocity t ^ 2) (progress.position t)
  rwa [abs_mul, abs_pow] at h

/-- The jerk is at most the tangential one and the two terms of the curvature. -/
theorem norm_jerk_le : ‖(frame.along progress).jerk t‖ ≤
    |progress.jerk t| + |curvature| ^ 2 * |progress.velocity t| ^ 3 +
      3 * |curvature| * |progress.velocity t| * |progress.acceleration t| := by
  have h := frame.norm_components_le (progress.jerk t - curvature ^ 2 * progress.velocity t ^ 3)
    (3 * curvature * progress.velocity t * progress.acceleration t) (progress.position t)
  have hdifference := abs_sub (progress.jerk t) (curvature ^ 2 * progress.velocity t ^ 3)
  simp only [abs_mul, abs_pow, abs_of_pos (zero_lt_three (α := ℝ))] at h hdifference
  exact h.trans (add_le_add_left hdifference _)

end Frame

/-! ## Lines and circles -/

/-- A line in a direction of at most unit length. -/
def lineFrame (origin direction : E) (h : ‖direction‖ ≤ 1) :
    Frame 0 fun s => origin + s • direction where
  tangent _ := direction
  normal _ := 0
  hasTangent s := by
    have h := ((hasDerivAt_id s).smul_const direction).const_add origin
    simpa using h
  turns s := by
    simpa using hasDerivAt_const s direction
  normal_turns s := by
    simpa using hasDerivAt_const s (0 : E)
  norm_tangent_le _ := h
  norm_normal_le _ := by simp

/-- The angle of a point on a circle, from its arc length. -/
noncomputable def circleAngle (radius phase orientation s : ℝ) : ℝ :=
  phase + orientation * (s / radius)

/-- A circle about a centre in the plane of two orthonormal vectors, run through one way
(`orientation` 1) or the other (`orientation` -1). -/
noncomputable def circle (centre first second : E) (radius phase orientation : ℝ) (s : ℝ) : E :=
  centre + radius • (Real.cos (circleAngle radius phase orientation s) • first +
    Real.sin (circleAngle radius phase orientation s) • second)

theorem hasDerivAt_circleAngle (radius phase orientation s : ℝ) :
    HasDerivAt (circleAngle radius phase orientation) (orientation * (1 / radius)) s :=
  (((hasDerivAt_id s).div_const radius).const_mul orientation).const_add phase

/-- A curve given by two coordinates. -/
private theorem hasDerivAt_coordinates (first second : E) {a b : ℝ → ℝ} {a' b' s : ℝ}
    (ha : HasDerivAt a a' s) (hb : HasDerivAt b b' s) :
    HasDerivAt (fun s => a s • first + b s • second) (a' • first + b' • second) s :=
  (ha.smul_const first).add (hb.smul_const second)

section Circle

variable {F : Type*} [NormedAddCommGroup F] [InnerProductSpace ℝ F] {first second : F}

/-- A vector with given coordinates on two orthonormal vectors. -/
theorem norm_sq_coordinates (hfirst : ‖first‖ = 1) (hsecond : ‖second‖ = 1)
    (horthogonal : inner ℝ first second = 0) (a b : ℝ) :
    ‖a • first + b • second‖ ^ 2 = a ^ 2 + b ^ 2 := by
  rw [norm_add_sq_real, norm_smul, norm_smul, inner_smul_left, inner_smul_right, horthogonal,
    hfirst, hsecond]
  simp

/-- Two coordinates on the unit circle give a vector of at most unit length. -/
private theorem norm_coordinates_le (hfirst : ‖first‖ = 1) (hsecond : ‖second‖ = 1)
    (horthogonal : inner ℝ first second = 0) {a b : ℝ} (h : a ^ 2 + b ^ 2 = 1) :
    ‖a • first + b • second‖ ≤ 1 := by
  have hsq := norm_sq_coordinates hfirst hsecond horthogonal a b
  rw [h] at hsq
  exact (sq_le_one_iff₀ (norm_nonneg _)).mp hsq.le

/-- The frame of a circle: the curvature is the inverse of the radius. -/
noncomputable def circleFrame (centre : F) (hfirst : ‖first‖ = 1) (hsecond : ‖second‖ = 1)
    (horthogonal : inner ℝ first second = 0) {radius orientation : ℝ} (hradius : 0 < radius)
    (horientation : orientation ^ 2 = 1) (phase : ℝ) :
    Frame radius⁻¹ (circle centre first second radius phase orientation) where
  tangent s := (-(orientation * Real.sin (circleAngle radius phase orientation s))) • first +
    (orientation * Real.cos (circleAngle radius phase orientation s)) • second
  normal s := (-Real.cos (circleAngle radius phase orientation s)) • first +
    (-Real.sin (circleAngle radius phase orientation s)) • second
  hasTangent s := by
    have hangle := hasDerivAt_circleAngle radius phase orientation s
    have hpoint := hasDerivAt_coordinates first second hangle.cos hangle.sin
    refine ((hpoint.const_smul radius).const_add centre).congr_deriv ?_
    rw [smul_add, smul_smul, smul_smul]
    congr 2 <;> field_simp
  turns s := by
    have hangle := hasDerivAt_circleAngle radius phase orientation s
    refine (hasDerivAt_coordinates first second (hangle.sin.const_mul orientation).neg
      (hangle.cos.const_mul orientation)).congr_deriv ?_
    rw [smul_add, smul_smul, smul_smul]
    congr 2
    · linear_combination
        (-(Real.cos (circleAngle radius phase orientation s) * radius⁻¹)) * horientation
    · linear_combination
        (-(Real.sin (circleAngle radius phase orientation s) * radius⁻¹)) * horientation
  normal_turns s := by
    have hangle := hasDerivAt_circleAngle radius phase orientation s
    refine (hasDerivAt_coordinates first second hangle.cos.neg hangle.sin.neg).congr_deriv ?_
    rw [smul_add, smul_smul, smul_smul, neg_add, ← neg_smul, ← neg_smul]
    congr 2 <;> ring
  norm_tangent_le s := by
    apply norm_coordinates_le hfirst hsecond horthogonal
    have h := Real.sin_sq_add_cos_sq (circleAngle radius phase orientation s)
    linear_combination orientation ^ 2 * h + horientation
  norm_normal_le s := by
    apply norm_coordinates_le hfirst hsecond horthogonal
    rw [neg_sq, neg_sq]
    exact Real.cos_sq_add_sin_sq _

end Circle
