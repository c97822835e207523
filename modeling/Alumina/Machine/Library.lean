import Alumina.Motion.RealLibrary

/-!
# A concrete configuration document

A document names the time base and, for each axis, the steps of one turn, the uncertainty of its
travel and its speed. Every other fact is fixed.
-/

namespace Alumina.Machine.HostLibrary

open Alumina.Motion.HostLibrary

structure AxisDocument where
  steps : Int64
  travelUncertainty : WireRational
  /-- Millimetres per second. -/
  speed : Int64

structure Document where
  timer : Int64
  quantum : Int64
  axes : UInt16 → AxisDocument

def exact (numerator : Int64) (denominator : UInt64) : ExactScalar :=
  ⟨⟨numerator, denominator⟩, ⟨0, 1⟩⟩

/-- One turn is one metre, and the travel goes from zero to one metre. -/
def Document.scalar (document : Document) (axis : AxisDocument) : ScalarFact → ExactScalar
  | .timerTickHertz => exact document.timer 1
  | .stepperOutputQuantumCycles => exact document.quantum 1
  | .axisFullStepsPerTurn => exact axis.steps 1
  | .axisTravelMetresPerOutputTurn => ⟨⟨1, 1⟩, axis.travelUncertainty⟩
  | .axisPositionMinimumMetres | .axisFollowingErrorMetres => exact 0 1
  | .axisVelocityLimitMetresPerSecond => exact axis.speed 1000
  | .axisMicrosteps | .axisMotorTurnsPerOutputTurn | .axisCalibrationScale
  | .axisPositionMaximumMetres | .axisAccelerationLimitMetresPerSecondSquared
  | .axisJerkLimitMetresPerSecondCubed => exact 1 1

scoped instance configurationDocuments : ConfigurationDocuments where
  ConfigurationError := Empty
  View := Document
  stepperAxes _ := 2
  focAxes _ := 0
  digest _ := .replicate 32 1
  capabilityDigest _ := .replicate 32 2
  scalar document instance' fact := .ok (some (document.scalar (document.axes instance') fact))
  binding _ _ role := .ok (if role = .axisDisable then none else some ⟨1, 1, 100000⟩)

end Alumina.Machine.HostLibrary
