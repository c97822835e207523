import Alumina.Motion.SharedTimingEvidence

/-!
# A concrete motion library

The model takes the exact reals, the stepper executor and the derivation digests as parameters. This
file supplies executable ones: the rationals, a preflight that bounds the ticks between two steps,
and digests that name the schedule. Concrete runs use them.
-/

namespace Alumina.Motion.HostLibrary

open Except (failIf)
open Alumina.Graph (Digest rationalText)

inductive RationalProblem where
  | divisionByZero
  | irrationalRoot
  deriving DecidableEq, Repr

def divide (dividend divisor : ℚ) : Except RationalProblem ℚ := do
  failIf (divisor = 0) .divisionByZero
  pure (dividend / divisor)

scoped instance exactReal : ExactReal where
  Real := ℚ
  Problem := RationalProblem
  zero := 0
  ofU64 value := value.toNat
  fraction numerator denominator := divide numerator.toInt denominator.toNat
  add := (· + ·)
  sub := (· - ·)
  mul := (· * ·)
  div := divide
  ceilCertified value := .ok ⌈value⌉
  compareReals left right := some (if left < right then .lt else if left = right then .eq else .gt)
  classifyRealSign value := some (if value < 0 then .neg else if value = 0 then .zero else .pos)
  serialize value := some ((rationalText value).toList.map fun c => .ofNat c.toNat)

/-- The fewest ticks between two steps of one axis. -/
structure StepInterval where
  minimumTicks : Nat

/-- Failures that a slower stream repairs. -/
def dilatable : MotionError → Bool
  | .rate _ | .pulseLow _ | .directionSetup _ | .directionHold _ | .enableSetup _
  | .enableHold _ => true
  | _ => false

/-- A segment leaves every step its ticks. -/
def checkSegment (timing : StepInterval) (segment : ExecutionSegment) : Except MotionError Unit := do
  let ticks := segment.endTick.toNat - segment.startTick.toNat
  failIf (ticks < segment.deltaSteps.x.toInt.natAbs * timing.minimumTicks) (.rate 0)
  failIf (ticks < segment.deltaSteps.y.toInt.natAbs * timing.minimumTicks) (.rate 1)

def preflight (timing : StepInterval) (initial : Axes Int64) (segments : List ExecutionSegment) :
    Except MotionError StepperPreflightSummary := do
  Except.forEach (checkSegment timing) segments
  let stop := (segments.getLast?.map (·.endTick)).getD 0
  let travel (coordinate : ExecutionSegment → Int64) :=
    (segments.map fun segment => (coordinate segment).toInt.natAbs).sum
  pure
    { endTick := stop
      position :=
        { x := segments.foldl (fun position segment => position + segment.deltaSteps.x) initial.x
          y := segments.foldl (fun position segment => position + segment.deltaSteps.y) initial.y }
      emittedSteps := ⟨.ofNat (travel (·.deltaSteps.x)), .ofNat (travel (·.deltaSteps.y))⟩
      segmentCount := .ofNat segments.length
      earliestFinishCycle := stop }

scoped instance stepperExecutor : StepperExecutor where
  Timing := StepInterval
  isTimeDilationCandidate := dilatable
  preflightStepperSegments := preflight

/-- The digest of the plan a program was lowered from. -/
scoped instance loweringProvenance : LoweringProvenance := ⟨Digest⟩

/-- A schedule is known by its digest, and only its own program derives from it. -/
scoped instance derivationDigests : DerivationDigests where
  Schedule := Digest
  buildCanonicalDerivationDigests schedule program := do
    failIf (schedule ≠ program.provenance) .plannerMismatch
    pure ⟨schedule, schedule, schedule, schedule, 32, schedule, 32⟩

end Alumina.Motion.HostLibrary
