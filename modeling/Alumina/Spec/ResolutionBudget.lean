import Alumina.Machine.Library

/-!
# Resolution budgets are sound

The parameters of a machine are only known to lie in intervals. Whatever they are, the command
density lies in the derived interval, a speed within the effective limit asks for a step rate that
the outputs can deliver, and a position of the usable travel is missed by no more than the
calibration bound. The total of a budget bounds every sum of errors that keep their own bounds.

## Key results

- `Derived`: what the derivation of an axis guarantees
- `density_inside`, `stepRate_le`, `calibration_le`: one axis, for every choice of its parameters
- `budget_sound`: the whole machine
-/

namespace Alumina.Machine

open Alumina.Motion (Axes ExactReal RealFunctions RealMeaning Plane value norm_plane_le)

/-! ## True parameters -/

/-- A real number of an exact interval. -/
def ExactInterval.Contains (interval : ExactInterval) (x : ℝ) : Prop :=
  (interval.lower : ℝ) ≤ x ∧ x ≤ interval.upper

/-- The physical parameters of one axis. -/
structure Transmission where
  fullStepsPerTurn : ℝ
  microsteps : ℝ
  motorTurnsPerOutputTurn : ℝ
  travelMetresPerOutputTurn : ℝ
  calibrationScale : ℝ

namespace Transmission

/-- The steps that the axis takes for one metre. -/
noncomputable def density (physical : Transmission) : ℝ :=
  physical.fullStepsPerTurn * physical.microsteps * physical.motorTurnsPerOutputTurn *
    physical.calibrationScale / physical.travelMetresPerOutputTurn

/-- Parameters that the configured intervals admit. -/
structure Admitted (physical : Transmission) (axis : StepperAxisMachineProfile) : Prop where
  fullStepsPerTurn : axis.fullStepsPerTurn.Contains physical.fullStepsPerTurn
  microsteps : axis.microsteps.Contains physical.microsteps
  motorTurnsPerOutputTurn : axis.motorTurnsPerOutputTurn.Contains physical.motorTurnsPerOutputTurn
  travelMetresPerOutputTurn :
    axis.travelMetresPerOutputTurn.Contains physical.travelMetresPerOutputTurn
  calibrationScale : axis.calibrationScale.Contains physical.calibrationScale

/-- Where the axis arrives when it is sent to a position in steps of the nominal density. -/
noncomputable def reached (physical : Transmission) (nominal : ℚ) (commanded : ℝ) : ℝ :=
  commanded * nominal / physical.density

end Transmission

/-! ## Positive intervals -/

/-- A positive interval about its nominal value. -/
structure ExactInterval.Positive (interval : ExactInterval) : Prop where
  lower_pos : 0 < interval.lower
  centred : interval.lower + interval.upper = 2 * interval.nominal

namespace ExactInterval.Positive

variable {interval : ExactInterval} {x : ℝ}

theorem pos (h : interval.Positive) (hx : interval.Contains x) : 0 < x :=
  (Rat.cast_pos.mpr h.lower_pos).trans_le hx.1

theorem lower_le_nominal (h : interval.Positive) (hx : interval.Contains x) :
    interval.lower ≤ interval.nominal := by
  have hle : interval.lower ≤ interval.upper := by exact_mod_cast hx.1.trans hx.2
  have := h.centred
  linarith

theorem nominal_pos (h : interval.Positive) (hx : interval.Contains x) : 0 < interval.nominal :=
  h.lower_pos.trans_le (h.lower_le_nominal hx)

end ExactInterval.Positive

/-! ## Derivations -/

section Derivation

variable [ExactReal] [RealFunctions] [ConfigurationDocuments]

omit [RealFunctions] in
theorem quotient_eq_ok {dividend divisor result : ℚ} :
    quotient dividend divisor = .ok result ↔ divisor ≠ 0 ∧ result = dividend / divisor := by
  simp only [quotient, Except.bind_eq_ok, Except.exists_unit, Except.failIf_eq_ok,
    Except.pure_eq_ok]
  exact and_congr_right fun _ => eq_comm

theorem positiveScalarInterval_eq_ok {view : ConfigurationDocuments.View} {instance' : UInt16}
    {fact : ScalarFact} {interval : ExactInterval}
    (h : positiveScalarInterval view instance' fact = .ok interval) : interval.Positive := by
  simp only [positiveScalarInterval, scalarInterval, ExactInterval.fromScalar,
    ExactInterval.requirePositiveLower, Except.bind_eq_ok, Except.exists_unit,
    Except.failIf_eq_ok, Except.pure_eq_ok, not_le] at h
  obtain ⟨_, ⟨_, _, nominal, _, uncertainty, _, rfl⟩, hlower, rfl⟩ := h
  exact ⟨hlower, by ring⟩

/-- What the derivation of an axis guarantees. -/
structure Derived (axis : StepperAxisMachineProfile) (timerTicksPerSecond : UInt64) : Prop where
  fullStepsPerTurn : axis.fullStepsPerTurn.Positive
  microsteps : axis.microsteps.Positive
  motorTurnsPerOutputTurn : axis.motorTurnsPerOutputTurn.Positive
  travelMetresPerOutputTurn : axis.travelMetresPerOutputTurn.Positive
  calibrationScale : axis.calibrationScale.Positive
  density : commandDensity axis.fullStepsPerTurn axis.microsteps axis.motorTurnsPerOutputTurn
    axis.travelMetresPerOutputTurn axis.calibrationScale = .ok axis.commandDensityStepsPerMetre
  frequency : effectiveStepFrequency axis.step axis.instance' timerTicksPerSecond =
    .ok axis.effectiveStepFrequencyHz
  rateLimit : quotient axis.effectiveStepFrequencyHz axis.commandDensityStepsPerMetre.upper =
    .ok axis.stepRateVelocityLimitMetresPerSecond
  velocity : axis.effectiveVelocityLimitMetresPerSecond =
    minimumRational axis.configuredVelocityLimitMetresPerSecond.lower
      axis.stepRateVelocityLimitMetresPerSecond

theorem derive_eq_ok {view : ConfigurationDocuments.View} {instance' : UInt16}
    {timerTicksPerSecond : UInt64} {axis : StepperAxisMachineProfile}
    (h : StepperAxisMachineProfile.derive view instance' timerTicksPerSecond = .ok axis) :
    Derived axis timerTicksPerSecond := by
  simp only [StepperAxisMachineProfile.derive, Except.bind_eq_ok, Except.exists_unit,
    Except.failIf_eq_ok, Except.pure_eq_ok] at h
  obtain ⟨step, _, direction, _, control, _, fullSteps, hfull, microsteps, hmicro, motorTurns,
    hmotor, travel, htravel, scale, hscale, density, hdensity, perMillimetre, _, minimum, _,
    maximum, _, _, velocity, _, frequency, hfrequency, rate, hrate, acceleration, _, jerk, _,
    following, _, rfl⟩ := h
  exact
    { fullStepsPerTurn := positiveScalarInterval_eq_ok hfull
      microsteps := positiveScalarInterval_eq_ok hmicro
      motorTurnsPerOutputTurn := positiveScalarInterval_eq_ok hmotor
      travelMetresPerOutputTurn := positiveScalarInterval_eq_ok htravel
      calibrationScale := positiveScalarInterval_eq_ok hscale
      density := hdensity
      frequency := hfrequency
      rateLimit := hrate
      velocity := rfl }

theorem fromConfiguration_eq_ok {view : ConfigurationDocuments.View}
    {profile : MachineDynamicsProfile2}
    (h : MachineDynamicsProfile2.fromConfiguration view = .ok profile) (axis : Fin 2) :
    Derived (profile.axes.get axis) profile.timerTicksPerSecond := by
  simp only [MachineDynamicsProfile2.fromConfiguration, Except.bind_eq_ok, Except.exists_unit,
    Except.failIf_eq_ok, Except.pure_eq_ok] at h
  obtain ⟨-, timer, -, -, quantum, -, -, x, hx, y, hy, rfl⟩ := h
  fin_cases axis
  · exact derive_eq_ok hx
  · exact derive_eq_ok hy

/-! ## One axis -/

variable {axis : StepperAxisMachineProfile} {timerTicksPerSecond : UInt64}
  {physical : Transmission}

omit [RealFunctions] in
/-- The ends of the derived interval. -/
theorem Derived.density_eq (h : Derived axis timerTicksPerSecond) :
    let density := axis.commandDensityStepsPerMetre
    density.nominal = axis.fullStepsPerTurn.nominal * axis.microsteps.nominal *
        axis.motorTurnsPerOutputTurn.nominal * axis.calibrationScale.nominal /
        axis.travelMetresPerOutputTurn.nominal ∧
      density.lower = axis.fullStepsPerTurn.lower * axis.microsteps.lower *
        axis.motorTurnsPerOutputTurn.lower * axis.calibrationScale.lower /
        axis.travelMetresPerOutputTurn.upper ∧
      density.upper = axis.fullStepsPerTurn.upper * axis.microsteps.upper *
        axis.motorTurnsPerOutputTurn.upper * axis.calibrationScale.upper /
        axis.travelMetresPerOutputTurn.lower := by
  have hdensity := h.density
  simp only [commandDensity, Except.bind_eq_ok, quotient_eq_ok, Except.pure_eq_ok] at hdensity
  obtain ⟨nominal, ⟨-, rfl⟩, lower, ⟨-, rfl⟩, upper, ⟨-, rfl⟩, hresult⟩ := hdensity
  rw [← hresult]
  exact ⟨rfl, rfl, rfl⟩

omit [RealFunctions] in
theorem density_pos (h : Derived axis timerTicksPerSecond) (hphysical : physical.Admitted axis) :
    0 < physical.density :=
  div_pos (mul_pos (mul_pos (mul_pos (h.fullStepsPerTurn.pos hphysical.fullStepsPerTurn)
    (h.microsteps.pos hphysical.microsteps))
    (h.motorTurnsPerOutputTurn.pos hphysical.motorTurnsPerOutputTurn))
    (h.calibrationScale.pos hphysical.calibrationScale))
    (h.travelMetresPerOutputTurn.pos hphysical.travelMetresPerOutputTurn)

omit [RealFunctions] in
/-- The true density lies in the derived interval. -/
theorem density_inside (h : Derived axis timerTicksPerSecond)
    (hphysical : physical.Admitted axis) :
    axis.commandDensityStepsPerMetre.Contains physical.density := by
  obtain ⟨-, hlower, hupper⟩ := h.density_eq
  have hfull := h.fullStepsPerTurn.pos hphysical.fullStepsPerTurn
  have hmicro := h.microsteps.pos hphysical.microsteps
  have hmotor := h.motorTurnsPerOutputTurn.pos hphysical.motorTurnsPerOutputTurn
  have hscale := h.calibrationScale.pos hphysical.calibrationScale
  have htravel := h.travelMetresPerOutputTurn.pos hphysical.travelMetresPerOutputTurn
  have hfullLower : (0 : ℝ) ≤ axis.fullStepsPerTurn.lower := by
    exact_mod_cast h.fullStepsPerTurn.lower_pos.le
  have hmicroLower : (0 : ℝ) ≤ axis.microsteps.lower := by
    exact_mod_cast h.microsteps.lower_pos.le
  have hmotorLower : (0 : ℝ) ≤ axis.motorTurnsPerOutputTurn.lower := by
    exact_mod_cast h.motorTurnsPerOutputTurn.lower_pos.le
  have hscaleLower : (0 : ℝ) ≤ axis.calibrationScale.lower := by
    exact_mod_cast h.calibrationScale.lower_pos.le
  have htravelLower : (0 : ℝ) < axis.travelMetresPerOutputTurn.lower := by
    exact_mod_cast h.travelMetresPerOutputTurn.lower_pos
  constructor
  · rw [hlower]
    push_cast
    exact div_le_div₀ (by positivity)
      (mul_le_mul (mul_le_mul (mul_le_mul hphysical.fullStepsPerTurn.1 hphysical.microsteps.1
        hmicroLower hfull.le) hphysical.motorTurnsPerOutputTurn.1 hmotorLower (by positivity))
        hphysical.calibrationScale.1 hscaleLower (by positivity))
      htravel hphysical.travelMetresPerOutputTurn.2
  · rw [hupper]
    push_cast
    have hfullUpper := hfull.trans_le hphysical.fullStepsPerTurn.2
    have hmicroUpper := hmicro.trans_le hphysical.microsteps.2
    have hmotorUpper := hmotor.trans_le hphysical.motorTurnsPerOutputTurn.2
    have hscaleUpper := hscale.trans_le hphysical.calibrationScale.2
    exact div_le_div₀ (by positivity)
      (mul_le_mul (mul_le_mul (mul_le_mul hphysical.fullStepsPerTurn.2 hphysical.microsteps.2
        hmicro.le hfullUpper.le) hphysical.motorTurnsPerOutputTurn.2 hmotor.le (by positivity))
        hphysical.calibrationScale.2 hscale.le (by positivity))
      htravelLower hphysical.travelMetresPerOutputTurn.1

omit [ExactReal] [RealFunctions] [ConfigurationDocuments] in
theorem minimumRational_le (left right : ℚ) :
    minimumRational left right ≤ left ∧ minimumRational left right ≤ right := by
  unfold minimumRational
  split
  · exact ⟨le_refl _, ‹_›⟩
  · exact ⟨by linarith, le_refl _⟩

omit [RealFunctions] in
/-- The effective frequency is one that the binding and the pulses allow. -/
theorem Derived.frequency_le (h : Derived axis timerTicksPerSecond) :
    0 < axis.step.minimumActiveCycles.toNat + axis.step.minimumInactiveCycles.toNat ∧
      axis.effectiveStepFrequencyHz ≤ axis.step.maximumFrequencyHz.toNat ∧
      axis.effectiveStepFrequencyHz ≤ (timerTicksPerSecond.toNat : ℚ) /
        (axis.step.minimumActiveCycles.toNat + axis.step.minimumInactiveCycles.toNat : Nat) := by
  have hfrequency := h.frequency
  simp only [effectiveStepFrequency, Except.bind_eq_ok, Except.exists_unit, Except.failIf_eq_ok,
    quotient_eq_ok, Except.pure_eq_ok] at hfrequency
  obtain ⟨-, limited, ⟨hne, rfl⟩, hresult⟩ := hfrequency
  rw [← hresult]
  have hpos : axis.step.minimumActiveCycles.toNat + axis.step.minimumInactiveCycles.toNat ≠ 0 := by
    exact_mod_cast hne
  exact ⟨Nat.pos_of_ne_zero hpos, minimumRational_le _ _⟩

omit [RealFunctions] in
/-- A speed within the effective limit asks for a step rate within the effective frequency. -/
theorem stepRate_le (h : Derived axis timerTicksPerSecond) (hphysical : physical.Admitted axis)
    {speed : ℝ} (hspeed : |speed| ≤ axis.effectiveVelocityLimitMetresPerSecond) :
    |speed| * physical.density ≤ axis.effectiveStepFrequencyHz := by
  have hinside := density_inside h hphysical
  have hpos := density_pos h hphysical
  have hupper : (0 : ℝ) < axis.commandDensityStepsPerMetre.upper := hpos.trans_le hinside.2
  obtain ⟨-, hrate⟩ := quotient_eq_ok.mp h.rateLimit
  have hlimit : (axis.effectiveVelocityLimitMetresPerSecond : ℝ) ≤
      axis.effectiveStepFrequencyHz / axis.commandDensityStepsPerMetre.upper := by
    rw [h.velocity, hrate]
    exact_mod_cast (minimumRational_le _ _).2
  calc |speed| * physical.density
      ≤ |speed| * axis.commandDensityStepsPerMetre.upper := by
        gcongr
        exact hinside.2
    _ ≤ axis.effectiveStepFrequencyHz / axis.commandDensityStepsPerMetre.upper *
        axis.commandDensityStepsPerMetre.upper := by
        gcongr
        exact hspeed.trans hlimit
    _ = axis.effectiveStepFrequencyHz := div_mul_cancel₀ _ hupper.ne'

omit [RealFunctions] in
/-- The pulses of the step rate are as long as the outputs need. -/
theorem pulsePeriod_le (h : Derived axis timerTicksPerSecond) (hphysical : physical.Admitted axis)
    {speed : ℝ} (hspeed : |speed| ≤ axis.effectiveVelocityLimitMetresPerSecond) (hne : speed ≠ 0) :
    ((axis.step.minimumActiveCycles.toNat + axis.step.minimumInactiveCycles.toNat : Nat) : ℝ) /
      timerTicksPerSecond.toNat ≤ 1 / (|speed| * physical.density) := by
  have hrate : 0 < |speed| * physical.density :=
    mul_pos (abs_pos.mpr hne) (density_pos h hphysical)
  obtain ⟨hcycles, -, hlimited⟩ := h.frequency_le
  have hcast : (axis.effectiveStepFrequencyHz : ℝ) ≤ (timerTicksPerSecond.toNat : ℝ) /
      (axis.step.minimumActiveCycles.toNat + axis.step.minimumInactiveCycles.toNat : Nat) := by
    have h := (Rat.cast_le (K := ℝ)).mpr hlimited
    rwa [Rat.cast_div, Rat.cast_natCast, Rat.cast_natCast] at h
  have hle := (stepRate_le h hphysical hspeed).trans hcast
  have hcyclesReal : (0 : ℝ) <
      (axis.step.minimumActiveCycles.toNat + axis.step.minimumInactiveCycles.toNat : Nat) := by
    exact_mod_cast hcycles
  rw [le_div_iff₀ hcyclesReal] at hle
  have htimer : (0 : ℝ) < timerTicksPerSecond.toNat :=
    (mul_pos hrate hcyclesReal).trans_le hle
  rw [div_le_div_iff₀ htimer hrate]
  linarith

/-! ## Calibration -/

omit [ExactReal] [RealFunctions] [ConfigurationDocuments] in
theorem le_maximumRational (left right : ℚ) :
    left ≤ maximumRational left right ∧ right ≤ maximumRational left right := by
  unfold maximumRational
  split
  · exact ⟨le_refl _, ‹_›⟩
  · exact ⟨by linarith, le_refl _⟩

omit [ExactReal] [RealFunctions] [ConfigurationDocuments] in
theorem absoluteRational_eq (x : ℚ) : absoluteRational x = |x| := by
  unfold absoluteRational
  split
  · next hneg => rw [abs_of_neg hneg]
  · next hneg => rw [abs_of_nonneg (not_lt.mp hneg)]

omit [ExactReal] [RealFunctions] [ConfigurationDocuments] in
/-- A position between two ends is no farther from zero than one of them. -/
theorem abs_le_extent {low high : ℚ} {x : ℝ} (hlow : (low : ℝ) ≤ x) (hhigh : x ≤ high) :
    |x| ≤ (maximumRational (absoluteRational low) (absoluteRational high) : ℚ) := by
  obtain ⟨hleft, hright⟩ := le_maximumRational (absoluteRational low) (absoluteRational high)
  have hleftReal := (Rat.cast_le (K := ℝ)).mpr hleft
  have hrightReal := (Rat.cast_le (K := ℝ)).mpr hright
  have habs : ∀ end' : ℚ, ((absoluteRational end' : ℚ) : ℝ) = |(end' : ℝ)| := fun end' => by
    rw [absoluteRational_eq, Rat.cast_abs]
  rw [habs] at hleftReal hrightReal
  exact (abs_le_max_abs_abs hlow hhigh).trans (max_le hleftReal hrightReal)

omit [RealFunctions] in
/-- What the pass of a budget over one axis computes. -/
theorem axisErrors_eq_ok {errors : AxisErrors} (h : axisErrors axis = .ok errors) :
    errors.calibration = maximumRational (absoluteRational axis.usablePositionMinimumMetres)
        (absoluteRational axis.usablePositionMaximumMetres) * 1000 *
      maximumRational (axis.commandDensityStepsPerMetre.nominal /
        axis.commandDensityStepsPerMetre.lower - 1)
        (1 - axis.commandDensityStepsPerMetre.nominal /
          axis.commandDensityStepsPerMetre.upper) := by
  simp only [axisErrors, Except.bind_eq_ok, quotient_eq_ok, Except.pure_eq_ok] at h
  obtain ⟨_, -, _, -, overLower, ⟨-, rfl⟩, overUpper, ⟨-, rfl⟩, rfl⟩ := h
  rfl

omit [ExactReal] [RealFunctions] [ConfigurationDocuments] in
/-- The ratio of the nominal density to a true one is within the scale error of one. -/
private theorem scale_le {interval : ExactInterval} {density : ℝ} (hnominal : 0 ≤ interval.nominal)
    (hlower : 0 < interval.lower) (hinside : interval.Contains density) :
    |1 - interval.nominal / density| ≤ (maximumRational (interval.nominal / interval.lower - 1)
      (1 - interval.nominal / interval.upper) : ℚ) := by
  obtain ⟨hleft, hright⟩ := le_maximumRational (interval.nominal / interval.lower - 1)
    (1 - interval.nominal / interval.upper)
  have hleftReal := (Rat.cast_le (K := ℝ)).mpr hleft
  have hrightReal := (Rat.cast_le (K := ℝ)).mpr hright
  push_cast at hleftReal hrightReal
  have hnominalReal : (0 : ℝ) ≤ interval.nominal := by exact_mod_cast hnominal
  have hlowerReal : (0 : ℝ) < interval.lower := by exact_mod_cast hlower
  have hdensity : 0 < density := hlowerReal.trans_le hinside.1
  have habove : interval.nominal / density ≤ (interval.nominal : ℝ) / interval.lower :=
    div_le_div_of_nonneg_left hnominalReal hlowerReal hinside.1
  have hbelow : (interval.nominal : ℝ) / interval.upper ≤ interval.nominal / density :=
    div_le_div_of_nonneg_left hnominalReal hdensity hinside.2
  rw [abs_le]
  constructor <;> linarith

omit [RealFunctions] in
/-- The miss of a commanded position of the usable travel, in millimetres. -/
theorem calibration_le (h : Derived axis timerTicksPerSecond) (hphysical : physical.Admitted axis)
    {errors : AxisErrors} (herrors : axisErrors axis = .ok errors) {commanded : ℝ}
    (hlow : (axis.usablePositionMinimumMetres : ℝ) ≤ commanded)
    (hhigh : commanded ≤ axis.usablePositionMaximumMetres) :
    |(commanded - physical.reached axis.commandDensityStepsPerMetre.nominal commanded) * 1000| ≤
      errors.calibration := by
  have hinside := density_inside h hphysical
  obtain ⟨hnominal, hlower, -⟩ := h.density_eq
  have hnominalPos : 0 < axis.commandDensityStepsPerMetre.nominal := by
    rw [hnominal]
    have hfull := h.fullStepsPerTurn.nominal_pos hphysical.fullStepsPerTurn
    have hmicro := h.microsteps.nominal_pos hphysical.microsteps
    have hmotor := h.motorTurnsPerOutputTurn.nominal_pos hphysical.motorTurnsPerOutputTurn
    have hscale := h.calibrationScale.nominal_pos hphysical.calibrationScale
    have htravel := h.travelMetresPerOutputTurn.nominal_pos hphysical.travelMetresPerOutputTurn
    positivity
  have hlowerPos : 0 < axis.commandDensityStepsPerMetre.lower := by
    rw [hlower]
    have hfull := h.fullStepsPerTurn.lower_pos
    have hmicro := h.microsteps.lower_pos
    have hmotor := h.motorTurnsPerOutputTurn.lower_pos
    have hscale := h.calibrationScale.lower_pos
    have htravel : 0 < axis.travelMetresPerOutputTurn.upper := by
      have hpos := (h.travelMetresPerOutputTurn.pos
        hphysical.travelMetresPerOutputTurn).trans_le hphysical.travelMetresPerOutputTurn.2
      exact_mod_cast hpos
    positivity
  have hscale := scale_le hnominalPos.le hlowerPos hinside
  have hextent := abs_le_extent hlow hhigh
  have hmiss : (commanded - physical.reached axis.commandDensityStepsPerMetre.nominal commanded) *
      1000 = commanded * 1000 *
        (1 - axis.commandDensityStepsPerMetre.nominal / physical.density) := by
    rw [Transmission.reached]
    ring
  rw [hmiss, abs_mul, abs_mul, axisErrors_eq_ok herrors, abs_of_pos (by norm_num : (0 : ℝ) < 1000)]
  push_cast
  exact mul_le_mul (mul_le_mul_of_nonneg_right hextent (by norm_num)) hscale (abs_nonneg _)
    (mul_nonneg ((abs_nonneg _).trans hextent) (by norm_num))

end Derivation

/-! ## Budgets -/

section Budget

variable [ExactReal] [RealFunctions] [RealMeaning] [ConfigurationDocuments]

theorem vectorNorm2_eq_ok {x y : ℚ} {norm : ExactReal.Real} (h : vectorNorm2 x y = .ok norm) :
    value norm = √((x : ℝ) ^ 2 + (y : ℝ) ^ 2) := by
  have hroot := (RealMeaning.sqrt_ok (Except.mapError_eq_ok.mp h)).2
  simp only [RealMeaning.value_add, RealMeaning.value_mul, RealMeaning.value_zero,
    RealMeaning.value_ofRational, zero_add] at hroot
  rw [hroot, sq, sq]

/-- A point whose coordinates are within rational bounds is within their norm. -/
theorem norm_le_vectorNorm2 {x y : ℚ} {norm : ExactReal.Real} (h : vectorNorm2 x y = .ok norm)
    {point : Plane} (hx : |point 0| ≤ x) (hy : |point 1| ≤ y) : ‖point‖ ≤ value norm := by
  rw [vectorNorm2_eq_ok h]
  exact norm_plane_le hx hy

variable {profile : MachineDynamicsProfile2} {requested source controller : ℚ}
  {budget : MachineResolutionBudget2}

/-- What a certified budget is made of. -/
theorem certify_eq_ok
    (h : MachineResolutionBudget2.certify profile requested source controller = .ok budget) :
    ∃ x y velocity quantum, axisErrors profile.axes.x = .ok x ∧ axisErrors profile.axes.y = .ok y ∧
      vectorNorm2 x.endpointLattice y.endpointLattice = .ok budget.endpointQuantizationErrorMm ∧
      vectorNorm2 x.stepEvent y.stepEvent = .ok budget.stepEventTrackingErrorMm ∧
      vectorNorm2 x.calibration y.calibration = .ok budget.calibrationErrorMm ∧
      vectorNorm2 x.following y.following = .ok budget.followingErrorMm ∧
      vectorNorm2 x.velocity y.velocity = .ok velocity ∧
      value quantum = profile.outputQuantumCycles.toNat / profile.timerTicksPerSecond.toNat ∧
      value budget.requiredTotalErrorMm = source + controller +
        (value budget.endpointQuantizationErrorMm + value budget.stepEventTrackingErrorMm) +
        value budget.calibrationErrorMm + value budget.followingErrorMm +
        value velocity * value quantum ∧
      value budget.requiredTotalErrorMm ≤ requested := by
  simp only [MachineResolutionBudget2.certify, Except.bind_eq_ok, Except.exists_unit,
    Except.failIf_eq_ok, Except.mapError_eq_ok] at h
  obtain ⟨-, x, hx, y, hy, endpoint, hendpoint, step, hstep, calibration, hcalibration, following,
    hfollowing, velocity, hvelocity, quantum, hquantum, h⟩ := h
  have hquantumValue := (RealMeaning.div_ok hquantum).2
  rw [RealMeaning.value_ofU64, RealMeaning.value_ofU64] at hquantumValue
  split at h
  · next hless =>
    cases h
    exact ⟨x, y, velocity, quantum, hx, hy, hendpoint, hstep, hcalibration, hfollowing, hvelocity,
      by simpa using hquantumValue, by simp, by simpa using (RealMeaning.compare_some hless).le⟩
  · next hequal =>
    cases h
    exact ⟨x, y, velocity, quantum, hx, hy, hendpoint, hstep, hcalibration, hfollowing, hvelocity,
      by simpa using hquantumValue, by simp, by simpa using (RealMeaning.compare_some hequal).le⟩
  · cases h
  · cases h

/-- One error vector for each component of a budget. -/
structure ErrorVectors where
  source : Plane
  controller : Plane
  endpointLattice : Plane
  stepEvent : Plane
  calibration : Plane
  following : Plane
  outputGrid : Plane

def ErrorVectors.total (errors : ErrorVectors) : Plane :=
  errors.source + errors.controller + (errors.endpointLattice + errors.stepEvent) +
    errors.calibration + errors.following + errors.outputGrid

/-- Every component of every axis is within its bound. -/
structure ErrorVectors.Within (errors : ErrorVectors) (profile : MachineDynamicsProfile2)
    (source controller : ℚ) : Prop where
  source_le : ‖errors.source‖ ≤ source
  controller_le : ‖errors.controller‖ ≤ controller
  axes (axis : Fin 2) (bounds : AxisErrors) :
    axisErrors (profile.axes.get axis) = .ok bounds →
      |errors.endpointLattice axis| ≤ bounds.endpointLattice ∧
      |errors.stepEvent axis| ≤ bounds.stepEvent ∧
      |errors.calibration axis| ≤ bounds.calibration ∧
      |errors.following axis| ≤ bounds.following ∧
      |errors.outputGrid axis| ≤ bounds.velocity *
        (profile.outputQuantumCycles.toNat / profile.timerTicksPerSecond.toNat : ℝ)

/-- The total of a budget bounds every sum of errors that keep their bounds. -/
theorem total_le
    (h : MachineResolutionBudget2.certify profile requested source controller = .ok budget)
    {errors : ErrorVectors} (hwithin : errors.Within profile source controller) :
    ‖errors.total‖ ≤ value budget.requiredTotalErrorMm := by
  obtain ⟨x, y, velocity, quantum, hx, hy, hendpoint, hstep, hcalibration, hfollowing, hvelocity,
    hquantum, htotal, -⟩ := certify_eq_ok h
  obtain ⟨hx1, hx2, hx3, hx4, hx5⟩ := hwithin.axes 0 x hx
  obtain ⟨hy1, hy2, hy3, hy4, hy5⟩ := hwithin.axes 1 y hy
  have hquantumNonneg : 0 ≤ value quantum := by
    rw [hquantum]
    positivity
  rw [← hquantum] at hx5 hy5
  have hgrid : ‖errors.outputGrid‖ ≤ value velocity * value quantum := by
    calc ‖errors.outputGrid‖
        ≤ √((x.velocity * value quantum) ^ 2 + (y.velocity * value quantum) ^ 2) :=
          norm_plane_le hx5 hy5
      _ = √(((x.velocity : ℝ) ^ 2 + (y.velocity : ℝ) ^ 2) * value quantum ^ 2) := by
          congr 1
          ring
      _ = value velocity * value quantum := by
          rw [Real.sqrt_mul (by positivity), Real.sqrt_sq hquantumNonneg,
            vectorNorm2_eq_ok hvelocity]
  have hendpointLe := norm_le_vectorNorm2 hendpoint hx1 hy1
  have hstepLe := norm_le_vectorNorm2 hstep hx2 hy2
  have hcalibrationLe := norm_le_vectorNorm2 hcalibration hx3 hy3
  have hfollowingLe := norm_le_vectorNorm2 hfollowing hx4 hy4
  rw [htotal]
  exact norm_add_le_of_le (norm_add_le_of_le (norm_add_le_of_le (norm_add_le_of_le
    (norm_add_le_of_le hwithin.source_le hwithin.controller_le)
    (norm_add_le_of_le hendpointLe hstepLe)) hcalibrationLe) hfollowingLe) hgrid

/-- The miss of two commanded coordinates, in millimetres. -/
noncomputable def calibrationMiss (axes : Axes StepperAxisMachineProfile)
    (physical : Fin 2 → Transmission) (commanded : Fin 2 → ℝ) : Plane :=
  Plane.of fun axis => (commanded axis - (physical axis).reached
    (axes.get axis).commandDensityStepsPerMetre.nominal (commanded axis)) * (1000 : Nat)

/-- The bounds of a machine profile hold for every choice of its physical parameters. -/
theorem budget_sound {view : ConfigurationDocuments.View}
    (hprofile : MachineDynamicsProfile2.fromConfiguration view = .ok profile)
    (physical : Fin 2 → Transmission)
    (hphysical : ∀ axis, (physical axis).Admitted (profile.axes.get axis)) :
    (∀ axis, (profile.axes.get axis).commandDensityStepsPerMetre.Contains
      (physical axis).density) ∧
    (∀ axis (speed : ℝ),
      |speed| ≤ (profile.axes.get axis).effectiveVelocityLimitMetresPerSecond →
        |speed| * (physical axis).density ≤
            (profile.axes.get axis).step.maximumFrequencyHz.toNat ∧
          (speed ≠ 0 →
            (((profile.axes.get axis).step.minimumActiveCycles.toNat +
              (profile.axes.get axis).step.minimumInactiveCycles.toNat : Nat) : ℝ) /
              profile.timerTicksPerSecond.toNat ≤ 1 / (|speed| * (physical axis).density))) ∧
    ∀ {requested source controller : ℚ} {budget : MachineResolutionBudget2},
      MachineResolutionBudget2.certify profile requested source controller = .ok budget →
      (∀ commanded : Fin 2 → ℝ,
        (∀ axis, (profile.axes.get axis).usablePositionMinimumMetres ≤ commanded axis ∧
          commanded axis ≤ (profile.axes.get axis).usablePositionMaximumMetres) →
        ‖calibrationMiss profile.axes physical commanded‖ ≤ value budget.calibrationErrorMm) ∧
      (∀ errors : ErrorVectors, errors.Within profile source controller →
        ‖errors.total‖ ≤ value budget.requiredTotalErrorMm) ∧
      value budget.requiredTotalErrorMm ≤ requested := by
  have hderived := fromConfiguration_eq_ok hprofile
  refine ⟨fun axis => density_inside (hderived axis) (hphysical axis), ?_, ?_⟩
  · intro axis speed hspeed
    constructor
    · have hfrequency := (Rat.cast_le (K := ℝ)).mpr (hderived axis).frequency_le.2.1
      rw [Rat.cast_natCast] at hfrequency
      exact (stepRate_le (hderived axis) (hphysical axis) hspeed).trans hfrequency
    · exact pulsePeriod_le (hderived axis) (hphysical axis) hspeed
  · intro requested source controller budget hbudget
    refine ⟨?_, fun errors hwithin => total_le hbudget hwithin, ?_⟩
    · intro commanded husable
      obtain ⟨x, y, _, _, hx, hy, -, -, hcalibration, -⟩ := certify_eq_ok hbudget
      exact norm_le_vectorNorm2 hcalibration
        (calibration_le (hderived 0) (hphysical 0) hx (husable 0).1 (husable 0).2)
        (calibration_le (hderived 1) (hphysical 1) hy (husable 1).1 (husable 1).2)
    · obtain ⟨_, _, _, _, -, -, -, -, -, -, -, -, -, hrequested⟩ := certify_eq_ok hbudget
      exact hrequested

end Budget

/-! ## A machine with one uncertain axis -/

open Alumina.Motion.HostLibrary HostLibrary

/-- 303 steps a turn over one metre to within a centimetre, and 400 steps over exactly one. -/
def uncertainDocument : Document where
  timer := 1000000
  quantum := 1
  axes instance' := if instance' = 0 then ⟨303, ⟨1, 100⟩, 3⟩ else ⟨400, ⟨0, 1⟩, 4⟩

noncomputable def exactTransmission (axis : Fin 2) : Transmission :=
  ⟨![303, 400] axis, 1, 1, 1, 1⟩

def isUncertainAxis (axis : StepperAxisMachineProfile) (steps uncertainty : ℚ) : Bool :=
  axis.fullStepsPerTurn = ⟨steps, steps, steps⟩ ∧ axis.microsteps = ⟨1, 1, 1⟩ ∧
    axis.motorTurnsPerOutputTurn = ⟨1, 1, 1⟩ ∧
    axis.travelMetresPerOutputTurn = ⟨1, 1 - uncertainty, 1 + uncertainty⟩ ∧
    axis.calibrationScale = ⟨1, 1, 1⟩ ∧ axis.usablePositionMinimumMetres = 0 ∧
    axis.usablePositionMaximumMetres = 1

/-- The profile of the document, with a budget of 100 millimetres. -/
def isUncertainProfile (profile : MachineDynamicsProfile2) : Bool :=
  isUncertainAxis profile.axes.x 303 (1 / 100) && isUncertainAxis profile.axes.y 400 0 &&
    (MachineResolutionBudget2.certify profile 100 0 0).isOk

theorem admitted_of_isUncertainAxis {axis : StepperAxisMachineProfile} {steps uncertainty : ℚ}
    (h : isUncertainAxis axis steps uncertainty = true) (hnonneg : 0 ≤ uncertainty) :
    Transmission.Admitted ⟨steps, 1, 1, 1, 1⟩ axis := by
  obtain ⟨hsteps, hmicro, hmotor, htravel, hscale, -⟩ := of_decide_eq_true h
  have hreal : (0 : ℝ) ≤ uncertainty := by exact_mod_cast hnonneg
  constructor <;> simp [ExactInterval.Contains, hsteps, hmicro, hmotor, htravel, hscale, hreal]

theorem budget_sound_uncertain : ∃ profile budget,
    MachineDynamicsProfile2.fromConfiguration uncertainDocument = .ok profile ∧
      MachineResolutionBudget2.certify profile 100 0 0 = .ok budget ∧
      (∀ axis, (profile.axes.get axis).commandDensityStepsPerMetre.Contains
        (exactTransmission axis).density) ∧
      ‖calibrationMiss profile.axes exactTransmission fun _ => 1‖ ≤
        value budget.calibrationErrorMm := by
  have hrun : (MachineDynamicsProfile2.fromConfiguration uncertainDocument).toOption.any
      isUncertainProfile = true := by
    decide +kernel
  obtain ⟨profile, hprofile, hchecked⟩ := (Option.any_eq_true _ _).mp hrun
  rw [Except.toOption_eq_some] at hprofile
  simp only [isUncertainProfile, Bool.and_eq_true, Except.isOk_iff_exists] at hchecked
  obtain ⟨⟨hx, hy⟩, budget, hbudget⟩ := hchecked
  have hphysical : ∀ axis, (exactTransmission axis).Admitted (profile.axes.get axis) := by
    intro axis
    fin_cases axis
    · exact admitted_of_isUncertainAxis hx (by norm_num)
    · exact admitted_of_isUncertainAxis hy (le_refl 0)
  obtain ⟨hdensity, -, hbudgets⟩ := budget_sound hprofile exactTransmission hphysical
  obtain ⟨-, -, -, -, -, hxlow, hxhigh⟩ := of_decide_eq_true hx
  obtain ⟨-, -, -, -, -, hylow, hyhigh⟩ := of_decide_eq_true hy
  refine ⟨profile, budget, hprofile, hbudget, hdensity, (hbudgets hbudget).1 _ fun axis => ?_⟩
  fin_cases axis
  · simp [Motion.Axes.get, hxlow, hxhigh]
  · simp [Motion.Axes.get, hylow, hyhigh]

end Alumina.Machine
