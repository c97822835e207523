import Alumina.Motion.ExactArithmetic

/-!
# Machine profiles and resolution budgets

A machine profile is derived from a validated configuration document: two dense stepper axes with
the exact intervals of their transmission, travel and dynamics, and the conservative bounds that
scheduling uses. A resolution budget adds up the errors that no schedule can avoid and compares the
sum with the request.

The configuration document belongs to the firmware crates and is the parameter
`ConfigurationDocumentView`.
-/

namespace Alumina.Machine

open Except (failIf)
open Alumina.Graph (Digest)
open Alumina.Motion (Axes ExactReal RealFunctions)

/-! ## Configuration documents -/

/-- The facts of a configuration that a profile reads. -/
inductive ScalarFact where
  | timerTickHertz
  | stepperOutputQuantumCycles
  | axisFullStepsPerTurn
  | axisMicrosteps
  | axisMotorTurnsPerOutputTurn
  | axisTravelMetresPerOutputTurn
  | axisCalibrationScale
  | axisPositionMinimumMetres
  | axisPositionMaximumMetres
  | axisVelocityLimitMetresPerSecond
  | axisAccelerationLimitMetresPerSecondSquared
  | axisJerkLimitMetresPerSecondCubed
  | axisFollowingErrorMetres
  deriving DecidableEq, Repr

inductive BindingRole where
  | axisStep | axisDirection | axisEnable | axisDisable
  deriving DecidableEq, Repr

inductive AxisDriverControl where
  | enable | disable
  deriving DecidableEq, Repr

/-- A rational number of the wire. -/
structure WireRational where
  numerator : Int64
  denominator : UInt64
  deriving DecidableEq

/-- A nominal value and its uncertainty to either side. -/
structure ExactScalar where
  value : WireRational
  uncertainty : WireRational
  deriving DecidableEq

/-- The timing of one bound resource. -/
structure ResourceBinding where
  minimumActiveCycles : UInt32
  minimumInactiveCycles : UInt32
  maximumFrequencyHz : UInt32
  deriving DecidableEq

/-- A configuration document that passed the validation of the firmware. -/
class ConfigurationDocuments where
  ConfigurationError : Type
  View : Type
  stepperAxes : View → UInt8
  focAxes : View → UInt8
  digest : View → Digest
  capabilityDigest : View → Digest
  scalar : View → UInt16 → ScalarFact → Except ConfigurationError (Option ExactScalar)
  binding : View → UInt16 → BindingRole → Except ConfigurationError (Option ResourceBinding)

variable [ExactReal] [RealFunctions] [ConfigurationDocuments]

inductive MachineProfileError where
  | configuration (error : ConfigurationDocuments.ConfigurationError)
  | arithmetic (problem : ExactReal.Problem)
  | unsupportedAxisLayout (steppers foc : UInt8)
  | missingScalar (instance' : UInt16) (fact : ScalarFact)
  | missingBinding (instance' : UInt16) (role : BindingRole)
  | invalidDriverControl (instance' : UInt16)
  | nonPositiveLowerBound (instance' : UInt16) (fact : ScalarFact)
  | emptyUsableTravel (instance' : UInt16)
  | pulseTimingOverflow (instance' : UInt16)
  | invalidTimerTick (numerator : Int64) (denominator : UInt64)
  | invalidOutputQuantum (numerator : Int64) (denominator : UInt64)
  | invalidErrorBudget
  | errorBudgetExceeded
  | errorBudgetPredicateUnresolved
  /-- The panic of a `Rational` division by zero. -/
  | divisionByZero

abbrev MachineProfileResult := Except MachineProfileError

/-! ## Exact intervals -/

/-- A nominal value and a closed interval. -/
structure ExactInterval where
  nominal : ℚ
  lower : ℚ
  upper : ℚ
  deriving DecidableEq

def convertRational (value : WireRational) : MachineProfileResult ℚ :=
  (RealFunctions.rationalFraction value.numerator value.denominator).mapError .arithmetic

/-- `Rational` division. -/
def quotient (dividend divisor : ℚ) : MachineProfileResult ℚ := do
  failIf (divisor = 0) .divisionByZero
  pure (dividend / divisor)

namespace ExactInterval

def fromScalar (scalar : ExactScalar) : MachineProfileResult ExactInterval := do
  let nominal ← convertRational scalar.value
  let uncertainty ← convertRational scalar.uncertainty
  pure { lower := nominal - uncertainty, upper := nominal + uncertainty, nominal }

def requirePositiveLower (interval : ExactInterval) (instance' : UInt16) (fact : ScalarFact) :
    MachineProfileResult ExactInterval := do
  failIf (interval.lower ≤ 0) (.nonPositiveLowerBound instance' fact)
  pure interval

def dividedByPositiveInteger (interval : ExactInterval) (divisor : UInt64) :
    MachineProfileResult ExactInterval := do
  let nominal ← quotient interval.nominal divisor.toNat
  let lower ← quotient interval.lower divisor.toNat
  let upper ← quotient interval.upper divisor.toNat
  pure { nominal, lower, upper }

end ExactInterval

def requiredBinding (view : ConfigurationDocuments.View) (instance' : UInt16)
    (role : BindingRole) : MachineProfileResult ResourceBinding := do
  let binding ← (ConfigurationDocuments.binding view instance' role).mapError .configuration
  binding.okOr (.missingBinding instance' role)

def requiredScalar (view : ConfigurationDocuments.View) (instance' : UInt16)
    (fact : ScalarFact) : MachineProfileResult ExactScalar := do
  let scalar ← (ConfigurationDocuments.scalar view instance' fact).mapError .configuration
  scalar.okOr (.missingScalar instance' fact)

def scalarInterval (view : ConfigurationDocuments.View) (instance' : UInt16)
    (fact : ScalarFact) : MachineProfileResult ExactInterval := do
  let scalar ← requiredScalar view instance' fact
  ExactInterval.fromScalar scalar

def positiveScalarInterval (view : ConfigurationDocuments.View) (instance' : UInt16)
    (fact : ScalarFact) : MachineProfileResult ExactInterval := do
  let interval ← scalarInterval view instance' fact
  interval.requirePositiveLower instance' fact

def minimumRational (left right : ℚ) : ℚ := if left ≤ right then left else right

def maximumRational (left right : ℚ) : ℚ := if left ≥ right then left else right

def absoluteRational (value : ℚ) : ℚ := if value < 0 then -value else value

/-! ## Axes -/

/-- The facts of one stepper axis and the bounds derived from them. -/
structure StepperAxisMachineProfile where
  instance' : UInt16
  step : ResourceBinding
  direction : ResourceBinding
  driverControl : ResourceBinding
  driverControlAction : AxisDriverControl
  fullStepsPerTurn : ExactInterval
  microsteps : ExactInterval
  motorTurnsPerOutputTurn : ExactInterval
  travelMetresPerOutputTurn : ExactInterval
  calibrationScale : ExactInterval
  commandDensityStepsPerMetre : ExactInterval
  commandDensityStepsPerMillimetre : ExactInterval
  positionMinimumMetres : ExactInterval
  positionMaximumMetres : ExactInterval
  usablePositionMinimumMetres : ℚ
  usablePositionMaximumMetres : ℚ
  configuredVelocityLimitMetresPerSecond : ExactInterval
  effectiveStepFrequencyHz : ℚ
  stepRateVelocityLimitMetresPerSecond : ℚ
  effectiveVelocityLimitMetresPerSecond : ℚ
  accelerationLimitMetresPerSecondSquared : ExactInterval
  effectiveAccelerationLimitMetresPerSecondSquared : ℚ
  jerkLimitMetresPerSecondCubed : ExactInterval
  effectiveJerkLimitMetresPerSecondCubed : ℚ
  followingErrorMetres : ExactInterval
  maximumFollowingErrorMetres : ℚ

/-- Exactly one of the enable and the disable binding. -/
def driverControlOf (view : ConfigurationDocuments.View) (instance' : UInt16) :
    MachineProfileResult (ResourceBinding × AxisDriverControl) := do
  let enable ← (ConfigurationDocuments.binding view instance' .axisEnable).mapError .configuration
  let disable ← (ConfigurationDocuments.binding view instance' .axisDisable).mapError .configuration
  match enable, disable with
  | some binding, none => pure (binding, .enable)
  | none, some binding => pure (binding, .disable)
  | _, _ => .error (.invalidDriverControl instance')

/-- The steps for one metre of travel. -/
def commandDensity (fullStepsPerTurn microsteps motorTurnsPerOutputTurn travelMetresPerOutputTurn
    calibrationScale : ExactInterval) : MachineProfileResult ExactInterval := do
  let numeratorNominal := fullStepsPerTurn.nominal * microsteps.nominal *
    motorTurnsPerOutputTurn.nominal * calibrationScale.nominal
  let numeratorLower := fullStepsPerTurn.lower * microsteps.lower *
    motorTurnsPerOutputTurn.lower * calibrationScale.lower
  let numeratorUpper := fullStepsPerTurn.upper * microsteps.upper *
    motorTurnsPerOutputTurn.upper * calibrationScale.upper
  let nominal ← quotient numeratorNominal travelMetresPerOutputTurn.nominal
  let lower ← quotient numeratorLower travelMetresPerOutputTurn.upper
  let upper ← quotient numeratorUpper travelMetresPerOutputTurn.lower
  pure { nominal, lower, upper }

/-- The step rate that the binding and the pulse timing allow. -/
def effectiveStepFrequency (step : ResourceBinding) (instance' : UInt16)
    (timerTicksPerSecond : UInt64) : MachineProfileResult ℚ := do
  let pulsePeriodCycles := step.minimumActiveCycles.toNat + step.minimumInactiveCycles.toNat
  failIf (2 ^ 32 ≤ pulsePeriodCycles) (.pulseTimingOverflow instance')
  let cycleLimitedFrequencyHz ← quotient timerTicksPerSecond.toNat pulsePeriodCycles
  pure (minimumRational step.maximumFrequencyHz.toNat cycleLimitedFrequencyHz)

def StepperAxisMachineProfile.derive (view : ConfigurationDocuments.View) (instance' : UInt16)
    (timerTicksPerSecond : UInt64) : MachineProfileResult StepperAxisMachineProfile := do
  let step ← requiredBinding view instance' .axisStep
  let direction ← requiredBinding view instance' .axisDirection
  let control ← driverControlOf view instance'
  let fullStepsPerTurn ← positiveScalarInterval view instance' .axisFullStepsPerTurn
  let microsteps ← positiveScalarInterval view instance' .axisMicrosteps
  let motorTurnsPerOutputTurn ← positiveScalarInterval view instance' .axisMotorTurnsPerOutputTurn
  let travelMetresPerOutputTurn ←
    positiveScalarInterval view instance' .axisTravelMetresPerOutputTurn
  let calibrationScale ← positiveScalarInterval view instance' .axisCalibrationScale
  let commandDensityStepsPerMetre ← commandDensity fullStepsPerTurn microsteps
    motorTurnsPerOutputTurn travelMetresPerOutputTurn calibrationScale
  let commandDensityStepsPerMillimetre ←
    commandDensityStepsPerMetre.dividedByPositiveInteger 1000
  let positionMinimumMetres ← scalarInterval view instance' .axisPositionMinimumMetres
  let positionMaximumMetres ← scalarInterval view instance' .axisPositionMaximumMetres
  failIf (positionMinimumMetres.upper ≥ positionMaximumMetres.lower) (.emptyUsableTravel instance')
  let configuredVelocityLimitMetresPerSecond ←
    positiveScalarInterval view instance' .axisVelocityLimitMetresPerSecond
  let effectiveStepFrequencyHz ← effectiveStepFrequency step instance' timerTicksPerSecond
  let stepRateVelocityLimitMetresPerSecond ←
    quotient effectiveStepFrequencyHz commandDensityStepsPerMetre.upper
  let accelerationLimitMetresPerSecondSquared ←
    positiveScalarInterval view instance' .axisAccelerationLimitMetresPerSecondSquared
  let jerkLimitMetresPerSecondCubed ←
    positiveScalarInterval view instance' .axisJerkLimitMetresPerSecondCubed
  let followingErrorMetres ← scalarInterval view instance' .axisFollowingErrorMetres
  pure
    { instance', step, direction
      driverControl := control.1
      driverControlAction := control.2
      fullStepsPerTurn, microsteps, motorTurnsPerOutputTurn, travelMetresPerOutputTurn
      calibrationScale, commandDensityStepsPerMetre, commandDensityStepsPerMillimetre
      positionMinimumMetres, positionMaximumMetres
      usablePositionMinimumMetres := positionMinimumMetres.upper
      usablePositionMaximumMetres := positionMaximumMetres.lower
      configuredVelocityLimitMetresPerSecond
      effectiveStepFrequencyHz
      stepRateVelocityLimitMetresPerSecond
      effectiveVelocityLimitMetresPerSecond :=
        minimumRational configuredVelocityLimitMetresPerSecond.lower
          stepRateVelocityLimitMetresPerSecond
      accelerationLimitMetresPerSecondSquared
      effectiveAccelerationLimitMetresPerSecondSquared :=
        accelerationLimitMetresPerSecondSquared.lower
      jerkLimitMetresPerSecondCubed
      effectiveJerkLimitMetresPerSecondCubed := jerkLimitMetresPerSecondCubed.lower
      followingErrorMetres
      maximumFollowingErrorMetres := followingErrorMetres.upper }

/-! ## Profiles -/

structure MachineDynamicsProfile2 where
  configurationDigest : Digest
  capabilityDigest : Digest
  timerTicksPerSecond : UInt64
  outputQuantumCycles : UInt32
  axes : Axes StepperAxisMachineProfile

/-- A derived profile of a document with two stepper axes and nothing else. -/
def MachineDynamicsProfile2.fromConfiguration (view : ConfigurationDocuments.View) :
    MachineProfileResult MachineDynamicsProfile2 := do
  let steppers := ConfigurationDocuments.stepperAxes view
  let foc := ConfigurationDocuments.focAxes view
  failIf (steppers ≠ 2 ∨ foc ≠ 0) (.unsupportedAxisLayout steppers foc)
  let timer ← requiredScalar view 0 .timerTickHertz
  let ticks := timer.value.numerator.toInt
  failIf (ticks < 0 ∨ ticks = 0 ∨ timer.value.denominator ≠ 1 ∨ timer.uncertainty.numerator ≠ 0)
    (.invalidTimerTick timer.value.numerator timer.value.denominator)
  let outputQuantum ← requiredScalar view 0 .stepperOutputQuantumCycles
  let cycles := outputQuantum.value.numerator.toInt
  failIf (cycles < 0 ∨ 2 ^ 32 ≤ cycles ∨ cycles = 0 ∨ outputQuantum.value.denominator ≠ 1 ∨
    outputQuantum.uncertainty.numerator ≠ 0)
    (.invalidOutputQuantum outputQuantum.value.numerator outputQuantum.value.denominator)
  let timerTicksPerSecond := UInt64.ofNat ticks.toNat
  let x ← StepperAxisMachineProfile.derive view 0 timerTicksPerSecond
  let y ← StepperAxisMachineProfile.derive view 1 timerTicksPerSecond
  pure
    { configurationDigest := ConfigurationDocuments.digest view
      capabilityDigest := ConfigurationDocuments.capabilityDigest view
      timerTicksPerSecond
      outputQuantumCycles := .ofNat cycles.toNat
      axes := ⟨x, y⟩ }

/-! ## Resolution budgets -/

/-- The error floor of a two-axis machine, by component. -/
structure MachineResolutionBudget2 where
  configurationDigest : Digest
  capabilityDigest : Digest
  requestedTotalErrorMmExact : ℚ
  sourceCurveAllocationMmExact : ℚ
  controllerInterpolationAllocationMmExact : ℚ
  requestedTotalErrorMm : ExactReal.Real
  sourceCurveAllocationMm : ExactReal.Real
  controllerInterpolationAllocationMm : ExactReal.Real
  endpointQuantizationErrorMm : ExactReal.Real
  stepEventTrackingErrorMm : ExactReal.Real
  commandLatticeErrorMm : ExactReal.Real
  calibrationErrorMm : ExactReal.Real
  followingErrorMm : ExactReal.Real
  outputGridPositionErrorMm : ExactReal.Real
  requiredTotalErrorMm : ExactReal.Real

/-- The bounds of one axis that a budget combines. -/
structure AxisErrors where
  endpointLattice : ℚ
  stepEvent : ℚ
  calibration : ℚ
  following : ℚ
  velocity : ℚ

/-- The pass of `certify` over one axis. -/
def axisErrors (axis : StepperAxisMachineProfile) : MachineProfileResult AxisErrors := do
  let halfStep ← quotient 1 (2 * axis.commandDensityStepsPerMillimetre.lower)
  let step ← quotient 1 axis.commandDensityStepsPerMillimetre.lower
  let density := axis.commandDensityStepsPerMetre
  let overLower ← quotient density.nominal density.lower
  let overUpper ← quotient density.nominal density.upper
  let maximumScaleError := maximumRational (overLower - 1) (1 - overUpper)
  let maximumExtentMetres := maximumRational (absoluteRational axis.usablePositionMinimumMetres)
    (absoluteRational axis.usablePositionMaximumMetres)
  pure
    { endpointLattice := halfStep
      stepEvent := step
      calibration := maximumExtentMetres * 1000 * maximumScaleError
      following := axis.maximumFollowingErrorMetres * 1000
      velocity := axis.effectiveVelocityLimitMetresPerSecond * 1000 }

/-- `vector_norm2` of two rational components. -/
def vectorNorm2 (x y : ℚ) : MachineProfileResult ExactReal.Real :=
  let add (squared component : ExactReal.Real) : ExactReal.Real :=
    ExactReal.add squared (ExactReal.mul component component)
  (RealFunctions.sqrt (add (add ExactReal.zero (RealFunctions.ofRational x))
    (RealFunctions.ofRational y))).mapError .arithmetic

def MachineResolutionBudget2.certify (profile : MachineDynamicsProfile2)
    (requestedTotalErrorMm sourceCurveAllocationMm controllerInterpolationAllocationMm : ℚ) :
    MachineProfileResult MachineResolutionBudget2 := do
  failIf (requestedTotalErrorMm ≤ 0 ∨ sourceCurveAllocationMm < 0 ∨
    controllerInterpolationAllocationMm < 0) .invalidErrorBudget
  let x ← axisErrors profile.axes.x
  let y ← axisErrors profile.axes.y
  let endpointQuantization ← vectorNorm2 x.endpointLattice y.endpointLattice
  let stepEventTracking ← vectorNorm2 x.stepEvent y.stepEvent
  let commandLattice := ExactReal.add endpointQuantization stepEventTracking
  let calibration ← vectorNorm2 x.calibration y.calibration
  let following ← vectorNorm2 x.following y.following
  let maximumVectorVelocity ← vectorNorm2 x.velocity y.velocity
  let outputQuantumSeconds ←
    (ExactReal.div (ExactReal.ofU64 profile.outputQuantumCycles.toUInt64)
      (ExactReal.ofU64 profile.timerTicksPerSecond)).mapError .arithmetic
  let outputGridPosition := ExactReal.mul maximumVectorVelocity outputQuantumSeconds
  let requested := RealFunctions.ofRational requestedTotalErrorMm
  let source := RealFunctions.ofRational sourceCurveAllocationMm
  let controller := RealFunctions.ofRational controllerInterpolationAllocationMm
  let required := ExactReal.add (ExactReal.add (ExactReal.add (ExactReal.add
    (ExactReal.add source controller) commandLattice) calibration) following) outputGridPosition
  match ExactReal.compareReals required requested with
  | some .lt | some .eq =>
    pure
      { configurationDigest := profile.configurationDigest
        capabilityDigest := profile.capabilityDigest
        requestedTotalErrorMmExact := requestedTotalErrorMm
        sourceCurveAllocationMmExact := sourceCurveAllocationMm
        controllerInterpolationAllocationMmExact := controllerInterpolationAllocationMm
        requestedTotalErrorMm := requested
        sourceCurveAllocationMm := source
        controllerInterpolationAllocationMm := controller
        endpointQuantizationErrorMm := endpointQuantization
        stepEventTrackingErrorMm := stepEventTracking
        commandLatticeErrorMm := commandLattice
        calibrationErrorMm := calibration
        followingErrorMm := following
        outputGridPositionErrorMm := outputGridPosition
        requiredTotalErrorMm := required }
  | some .gt => .error .errorBudgetExceeded
  | none => .error .errorBudgetPredicateUnresolved

end Alumina.Machine
