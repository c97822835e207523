import Alumina.ForStd.Loop
import Alumina.Motion.CoefficientProjection
import Alumina.Motion.Partition
import Alumina.Motion.RestToRest

/-!
# Direct finite-difference records

`buildRecords` lowers the phases of a schedule to recurrence records. A record takes as many updates
of its phase as the policy allows, or fewer when the validation of the machine IR finds that it
turns back or steps too far: `selectStructurallyValidRecord` then bisects for the longest record
that is accepted.

Records are validated and evaluated by the machine IR, a library outside this code, which is the
parameter `FiniteDifferenceMachine`. The start of a line and the certified floor of an exact real
are the parameter `RecordSources`. Errors of vector allocation are left out.
-/

namespace Alumina.Motion.Direct

open Except (failIf)
open Alumina.Machine (maximumRational)
open Alumina.Partition (FiniteDifferenceSegment FiniteDifferenceValidationLimits)

/-! ## Libraries -/

/-- Validation and evaluation of direct records in the machine IR. -/
class FiniteDifferenceMachine where
  FiniteDifferenceError : Type
  /-- `FiniteDifferenceError::Arithmetic` -/
  arithmetic : FiniteDifferenceError
  /-- `FiniteDifferenceError::DirectionReversal` -/
  isDirectionReversal : FiniteDifferenceError → Bool
  /-- `FiniteDifferenceError::TooManySteps` -/
  isTooManySteps : FiniteDifferenceError → Bool
  validate : FiniteDifferenceSegment → UInt64 → Axes Int64 → FiniteDifferenceValidationLimits →
    Except FiniteDifferenceError Unit
  positionAt : FiniteDifferenceSegment → Fin 2 → UInt32 → Except FiniteDifferenceError Int64

/-- What building records reads of the exact reals and of lines. -/
class RecordSources [ExactReal] [FeedPaths] where
  floorCertified : ExactReal.Real → Except ExactReal.Problem Int
  start : FeedPaths.Line → Axes ExactReal.Real

export FiniteDifferenceMachine (FiniteDifferenceError)

/-! ## Policy -/

/-- Caller-owned allocation and approximation policy, with the checks of its constructor. -/
structure DirectFiniteDifferencePolicy2 where
  maximumRecords : Nat
  maximumUpdatesPerRecord : UInt32
  maximumStepsPerRecord : UInt64
  coefficientPrecisionBits : UInt16
  maximumPositionErrorMm : ℚ
  positiveRecords : maximumRecords ≠ 0
  updates : 2 ≤ maximumUpdatesPerRecord ∧ maximumUpdatesPerRecord ≤ 1000000
  positiveSteps : maximumStepsPerRecord ≠ 0
  precision : 40 ≤ coefficientPrecisionBits ∧ coefficientPrecisionBits ≤ 512
  positiveError : 0 < maximumPositionErrorMm

/-! ## The length of one record -/

section Selection

variable [FiniteDifferenceMachine]

/-- What the candidates for one record share. -/
structure RecordTemplate where
  startTick : UInt64
  updatePeriod : UInt32
  axes : Axes FiniteDifferenceAxis
  expectedPosition : Axes Int64
  limits : FiniteDifferenceValidationLimits

def finiteDifferenceRecord (startTick : UInt64) (updatePeriod updateCount : UInt32)
    (axes : Axes FiniteDifferenceAxis) : Except FiniteDifferenceError FiniteDifferenceSegment := do
  let duration ← (updatePeriod.toUInt64.checkedMul updateCount.toUInt64).okOr
    FiniteDifferenceMachine.arithmetic
  let endTick ← (startTick.checkedAdd duration).okOr FiniteDifferenceMachine.arithmetic
  pure
    { startTick
      endTick
      updatePeriodTicks := updatePeriod
      updateCount
      axes
      flags := 0 }

def recordLengthRefinementCandidate (error : FiniteDifferenceError) : Bool :=
  FiniteDifferenceMachine.isDirectionReversal error || FiniteDifferenceMachine.isTooManySteps error

namespace RecordTemplate

/-- The record of a given length. -/
def record (template : RecordTemplate) (count : Nat) :
    Except FiniteDifferenceError FiniteDifferenceSegment :=
  finiteDifferenceRecord template.startTick template.updatePeriod (.ofNat count) template.axes

def validate (template : RecordTemplate) (segment : FiniteDifferenceSegment) :
    Except FiniteDifferenceError Unit :=
  FiniteDifferenceMachine.validate segment template.startTick template.expectedPosition
    template.limits

/-- Whether the record of a given length is accepted, or its length must be refined. -/
def accepts (template : RecordTemplate) (count : Nat) : Except FiniteDifferenceError Bool := do
  let candidate ← template.record count
  match template.validate candidate with
  | .ok _ => pure true
  | .error error => if recordLengthRefinementCandidate error then pure false else .error error

end RecordTemplate

def selectStructurallyValidRecord (template : RecordTemplate) (tentativeCount : UInt32) :
    Except FiniteDifferenceError FiniteDifferenceSegment := do
  if ← template.accepts tentativeCount.toNat then template.record tentativeCount.toNat
  else
    let first ← template.record 1
    template.validate first
    let valid ← Bisection.bisect template.accepts 1 tentativeCount.toNat
    template.record valid

section Lengths

variable {template : RecordTemplate} {count : Nat} {segment : FiniteDifferenceSegment}

theorem RecordTemplate.record_eq_ok (h : template.record count = .ok segment) :
    segment.updateCount = .ofNat count := by
  simp only [record, finiteDifferenceRecord, Except.bind_eq_ok, Except.pure_eq_ok] at h
  obtain ⟨_, -, _, -, rfl⟩ := h
  rfl

theorem RecordTemplate.accepts_eq_true :
    template.accepts count = .ok true ↔ ∃ candidate,
      template.record count = .ok candidate ∧ template.validate candidate = .ok () := by
  simp only [accepts, Except.bind_eq_ok]
  constructor
  · intro h
    obtain ⟨candidate, hrecord, h⟩ := h
    refine ⟨candidate, hrecord, ?_⟩
    split at h
    · assumption
    · split at h <;> cases h
  · intro h
    obtain ⟨candidate, hrecord, hvalid⟩ := h
    exact ⟨candidate, hrecord, by rw [hvalid]; rfl⟩

/-- A selected record is accepted. It is the tentative one, or the tentative length and the length
after the selected one are refused. -/
theorem selectStructurallyValidRecord_eq_ok {tentativeCount : UInt32}
    (hpos : 0 < tentativeCount.toNat)
    (h : selectStructurallyValidRecord template tentativeCount = .ok segment) :
    ∃ count, 1 ≤ count ∧ count ≤ tentativeCount.toNat ∧ template.accepts count = .ok true ∧
      template.record count = .ok segment ∧
      (count = tentativeCount.toNat ∨
        template.accepts tentativeCount.toNat = .ok false ∧
          template.accepts (count + 1) = .ok false) := by
  rw [selectStructurallyValidRecord, Except.bind_eq_ok] at h
  obtain ⟨accepted, haccepts, h⟩ := h
  cases accepted with
  | true => exact ⟨_, hpos, le_rfl, haccepts, h, .inl rfl⟩
  | false =>
    simp only [Bool.false_eq_true, if_false, Except.bind_eq_ok, Except.exists_unit] at h
    obtain ⟨first, hfirst, hvalid, valid, hbisect, hrecord⟩ := h
    have hone : template.accepts 1 = .ok true :=
      RecordTemplate.accepts_eq_true.2 ⟨first, hfirst, hvalid⟩
    have hlt : 1 < tentativeCount.toNat := by
      rcases Nat.lt_or_eq_of_le (Nat.succ_le_of_lt hpos) with hlt | heq
      · exact hlt
      · rw [← heq, hone] at haccepts
        cases haccepts
    obtain ⟨hlow, hhigh, htrue, hfalse⟩ := Bisection.bisect_eq_ok hbisect hlt hone haccepts
    exact ⟨valid, hlow, Nat.le_of_lt hhigh, htrue, hrecord, .inr ⟨haccepts, hfalse⟩⟩

end Lengths

end Selection

/-! ## Building records -/

section Build

variable [ExactReal] [RealFunctions] [RationalEnclosures] [FeedPaths] [FiniteDifferenceMachine]

/-- The variants of `DirectMotionError` that building records can end in. -/
inductive RecordBuildError where
  | invalidPolicy
  | unsupportedRouteElement (elementIndex : Nat)
  | gridTimeUncertified
  | arithmetic (problem : ExactReal.Problem)
  | route (error : FeedPaths.RouteCertificationError)
  | projection (error : ProjectionError)
  | integerOverflow (domain : String)
  | recordBudgetExceeded (maximum : Nat)
  | finiteDifference (error : FiniteDifferenceError)
  | recordValidation (elementIndex phaseIndex : Nat) (firstPhaseUpdate : UInt64)
      (source : FiniteDifferenceError)
  | emptyProgram
  /-- The panic of a `Rational` division by zero. -/
  | divisionByZero

/-- The three forward differences of one axis. -/
structure Differences (α : Type) where
  first : α
  second : α
  third : α

structure DirectAxisRecordEvidence2 where
  differences : Differences DirectCoefficientProjection2
  incomingPositionErrorSteps : ℚ
  terminalPositionErrorSteps : ℚ

structure DirectRecordEvidence2 where
  elementIndex : Nat
  phaseIndex : Nat
  firstPhaseUpdate : UInt64
  segment : FiniteDifferenceSegment
  axes : Axes DirectAxisRecordEvidence2

/-! ### Ideal differences -/

/-- `Real` division. -/
def dividedBy (dividend divisor : ExactReal.Real) : Except RecordBuildError ExactReal.Real :=
  (ExactReal.div dividend divisor).mapError .arithmetic

/-- The distance travelled within a phase after some time. -/
def phaseDistance (phase : JerkRampSpanProposal ExactReal.Real) (time : ExactReal.Real) :
    Except RecordBuildError ExactReal.Real := do
  let jerk ← dividedBy (ExactReal.sub phase.endAcceleration phase.startAcceleration)
    phase.traversalTime
  let timeSquared := ExactReal.mul time time
  let timeCubed := ExactReal.mul timeSquared time
  let accelerated ← dividedBy (ExactReal.mul phase.startAcceleration timeSquared)
    (ExactReal.ofU64 2)
  let jerked ← dividedBy (ExactReal.mul jerk timeCubed) (ExactReal.ofU64 6)
  pure (ExactReal.add (ExactReal.add (ExactReal.mul phase.startFeed time) accelerated) jerked)

/-- What the updates of one phase share. -/
structure PhaseSite where
  elementIndex : Nat
  phaseIndex : Nat
  lineBase : Axes ExactReal.Real
  axisScale : Axes ExactReal.Real
  elementDistance : ExactReal.Real
  ramp : JerkRampSpanProposal ExactReal.Real
  updateSeconds : ExactReal.Real
  phaseUpdates : UInt64

def idealAxisPosition (site : PhaseSite) (phaseOffset delta : UInt64) :
    Except RecordBuildError (Axes ExactReal.Real) := do
  let update ← (phaseOffset.checkedAdd delta).okOr (.integerOverflow "coefficient sample update")
  let localTime := ExactReal.mul site.updateSeconds (ExactReal.ofU64 update)
  let travelled ← phaseDistance site.ramp localTime
  let distance := ExactReal.add site.elementDistance travelled
  pure
    ⟨ExactReal.add site.lineBase.x (ExactReal.mul site.axisScale.x distance),
      ExactReal.add site.lineBase.y (ExactReal.mul site.axisScale.y distance)⟩

/-- The forward differences of four samples. -/
def differencesOf (p0 p1 p2 p3 : ExactReal.Real) : Differences ExactReal.Real where
  first := ExactReal.sub p1 p0
  second := ExactReal.add (ExactReal.sub p2 (ExactReal.mul (ExactReal.ofU64 2) p1)) p0
  third := ExactReal.sub (ExactReal.add (ExactReal.sub p3 (ExactReal.mul (ExactReal.ofU64 3) p2))
    (ExactReal.mul (ExactReal.ofU64 3) p1)) p0

def idealAxisDifferences (site : PhaseSite) (phaseOffset : UInt64) :
    Except RecordBuildError (Axes (Differences ExactReal.Real)) := do
  let p0 ← idealAxisPosition site phaseOffset 0
  let p1 ← idealAxisPosition site phaseOffset 1
  let p2 ← idealAxisPosition site phaseOffset 2
  let p3 ← idealAxisPosition site phaseOffset 3
  pure ⟨differencesOf p0.x p1.x p2.x p3.x, differencesOf p0.y p1.y p2.y p3.y⟩

def projectAxisDifferences (ideal : Differences ExactReal.Real) (precisionBits : UInt16) :
    Except RecordBuildError (Differences DirectCoefficientProjection2) := do
  let first ← (projectCoefficient ideal.first precisionBits).mapError .projection
  let second ← (projectCoefficient ideal.second precisionBits).mapError .projection
  let third ← (projectCoefficient ideal.third precisionBits).mapError .projection
  pure ⟨first, second, third⟩

def recurrenceAxis (initialPosition : Int64)
    (projections : Differences DirectCoefficientProjection2) : FiniteDifferenceAxis where
  initialPosition
  firstDifference := projections.first.encodedQ31_32
  secondDifference := projections.second.encodedQ31_32
  thirdDifference := projections.third.encodedQ31_32

/-- The error bound after some updates of a record, by the Newton-forward binomials. -/
def propagateError (incoming : ℚ) (projections : Differences DirectCoefficientProjection2)
    (updates : UInt32) : ℚ :=
  let n : ℚ := updates.toNat
  let chooseTwo := n * (updates.toNat - 1 : Nat) / 2
  let chooseThree := chooseTwo * (updates.toNat - 2 : Nat) / 3
  incoming + n * projections.first.maximumErrorSteps +
    chooseTwo * projections.second.maximumErrorSteps +
    chooseThree * projections.third.maximumErrorSteps

/-! ### The record loop -/

/-- What the build carries from record to record. -/
structure RecordBuildState where
  records : List FiniteDifferenceSegment
  recordEvidence : List DirectRecordEvidence2
  nextTick : UInt64
  finitePosition : Axes Int64
  propagatedError : Axes ℚ
  maximumAxisError : Axes ℚ
  totalUpdateCount : UInt64

/-- A state of the record loop of one phase. -/
structure PhaseCursor where
  build : RecordBuildState
  phaseOffset : UInt64

/-- The updates that a record tries to take: at most the `u32` of the policy, so that the
conversion does not fail. -/
def tentativeUpdates (remaining : UInt64) (maximumUpdatesPerRecord : UInt32) : UInt32 :=
  (min remaining maximumUpdatesPerRecord.toUInt64).toUInt32

variable (updatePeriod : UInt32) (policy : DirectFiniteDifferencePolicy2)
  (limits : FiniteDifferenceValidationLimits) (site : PhaseSite)

/-- One pass of the record loop, at an offset before the end of the phase. -/
def recordPass (cursor : PhaseCursor) : Except RecordBuildError PhaseCursor := do
  let build := cursor.build
  failIf (build.records.length ≥ policy.maximumRecords)
    (.recordBudgetExceeded policy.maximumRecords)
  let remaining := site.phaseUpdates - cursor.phaseOffset
  let tentativeCount := tentativeUpdates remaining policy.maximumUpdatesPerRecord
  failIf (tentativeCount = 0) .invalidPolicy
  let ideal ← idealAxisDifferences site cursor.phaseOffset
  let projectionsX ← projectAxisDifferences ideal.x policy.coefficientPrecisionBits
  let projectionsY ← projectAxisDifferences ideal.y policy.coefficientPrecisionBits
  let selected ← (selectStructurallyValidRecord
    { startTick := build.nextTick
      updatePeriod
      axes := ⟨recurrenceAxis build.finitePosition.x projectionsX,
        recurrenceAxis build.finitePosition.y projectionsY⟩
      expectedPosition := build.finitePosition
      limits } tentativeCount).mapError
        (.recordValidation site.elementIndex site.phaseIndex cursor.phaseOffset)
  let count := selected.updateCount
  let terminalError : Axes ℚ :=
    ⟨propagateError build.propagatedError.x projectionsX count,
      propagateError build.propagatedError.y projectionsY count⟩
  let positionX ← (FiniteDifferenceMachine.positionAt selected 0 count).mapError .finiteDifference
  let positionY ← (FiniteDifferenceMachine.positionAt selected 1 count).mapError .finiteDifference
  let phaseOffset ← (cursor.phaseOffset.checkedAdd count.toUInt64).okOr
    (.integerOverflow "phase update cursor")
  let totalUpdateCount ← (build.totalUpdateCount.checkedAdd count.toUInt64).okOr
    (.integerOverflow "total direct updates")
  pure
    { phaseOffset
      build :=
        { records := build.records ++ [selected]
          recordEvidence := build.recordEvidence ++
            [{ elementIndex := site.elementIndex
               phaseIndex := site.phaseIndex
               firstPhaseUpdate := cursor.phaseOffset
               segment := selected
               axes :=
                ⟨⟨projectionsX, build.propagatedError.x, terminalError.x⟩,
                  ⟨projectionsY, build.propagatedError.y, terminalError.y⟩⟩ }]
          nextTick := selected.endTick
          finitePosition := ⟨positionX, positionY⟩
          propagatedError := terminalError
          maximumAxisError :=
            ⟨maximumRational build.maximumAxisError.x terminalError.x,
              maximumRational build.maximumAxisError.y terminalError.y⟩
          totalUpdateCount } }

omit [ExactReal] [RealFunctions] [RationalEnclosures] [FeedPaths] [FiniteDifferenceMachine] in
theorem tentativeUpdates_le (remaining : UInt64) (maximumUpdatesPerRecord : UInt32) :
    (tentativeUpdates remaining maximumUpdatesPerRecord).toNat ≤ remaining.toNat := by
  have hmin : (min remaining maximumUpdatesPerRecord.toUInt64).toNat ≤ remaining.toNat := by
    show (if remaining ≤ maximumUpdatesPerRecord.toUInt64 then remaining
      else maximumUpdatesPerRecord.toUInt64).toNat ≤ _
    split
    · exact le_rfl
    · next hlt => exact (UInt64.lt_iff_toNat_lt.1 (UInt64.not_le.1 hlt)).le
  rw [tentativeUpdates, UInt64.toNat_toUInt32]
  exact (Nat.mod_le _ _).trans hmin

variable {updatePeriod policy limits site} {cursor cursor' : PhaseCursor}

/-- A pass selects one record of positive length and moves past it, within the phase. -/
theorem recordPass_eq_ok (hlt : cursor.phaseOffset < site.phaseUpdates)
    (h : recordPass updatePeriod policy limits site cursor = .ok cursor') :
    ∃ selected : FiniteDifferenceSegment, 0 < selected.updateCount.toNat ∧
      cursor'.build.records = cursor.build.records ++ [selected] ∧
      cursor'.phaseOffset.toNat = cursor.phaseOffset.toNat + selected.updateCount.toNat ∧
      cursor'.build.totalUpdateCount.toNat =
        cursor.build.totalUpdateCount.toNat + selected.updateCount.toNat ∧
      cursor'.phaseOffset.toNat ≤ site.phaseUpdates.toNat := by
  simp only [recordPass, Except.bind_eq_ok, Except.exists_unit, Except.failIf_eq_ok,
    Except.mapError_eq_ok, Option.okOr_eq_ok, Except.pure_eq_ok,
    UInt64.checkedAdd_eq_some] at h
  obtain ⟨-, htentative, _, -, _, -, _, -, selected, hselected, _, -, _, -, offset, hoffset, total,
    htotal, rfl⟩ := h
  rw [UInt64.lt_iff_toNat_lt] at hlt
  have hle := tentativeUpdates_le (site.phaseUpdates - cursor.phaseOffset)
    policy.maximumUpdatesPerRecord
  rw [UInt64.toNat_sub_of_le _ _ (UInt64.le_iff_toNat_le.2 hlt.le)] at hle
  have hpos := Nat.pos_of_ne_zero fun hzero => htentative (UInt32.toNat_inj.1 hzero)
  obtain ⟨count, hone, hcount, -, hrecord, -⟩ := selectStructurallyValidRecord_eq_ok hpos hselected
  have hupdates : selected.updateCount.toNat = count := by
    rw [RecordTemplate.record_eq_ok hrecord]
    exact UInt32.toNat_ofNat_of_lt' (hcount.trans_lt (UInt32.toNat_lt _))
  rw [UInt32.toNat_toUInt64] at hoffset htotal
  exact ⟨selected, by omega, rfl, hoffset, htotal, by show offset.toNat ≤ _; omega⟩

/-- Every pass advances, so the record loop ends. -/
theorem recordPass_advances (hlt : cursor.phaseOffset < site.phaseUpdates)
    (h : recordPass updatePeriod policy limits site cursor = .ok cursor') :
    site.phaseUpdates.toNat - cursor'.phaseOffset.toNat <
      site.phaseUpdates.toNat - cursor.phaseOffset.toNat := by
  obtain ⟨selected, hpos, -, hoffset, -, -⟩ := recordPass_eq_ok hlt h
  rw [UInt64.lt_iff_toNat_lt] at hlt
  omega

variable (updatePeriod policy limits site)

/-- `while phase_offset < phase_updates` -/
def recordLoop (cursor : PhaseCursor) : Except RecordBuildError PhaseCursor :=
  Except.loop (fun cursor => site.phaseUpdates.toNat - cursor.phaseOffset.toNat)
    (fun cursor => cursor.phaseOffset < site.phaseUpdates)
    (recordPass updatePeriod policy limits site) (fun _ _ => recordPass_advances) cursor

/-! ### Phases, elements and the whole build -/

/-- What the build carries from phase to phase of one element. -/
structure ElementCursor where
  build : RecordBuildState
  elementDistance : ExactReal.Real

variable [RecordSources]

/-- The whole number of updates in a phase. -/
def phaseUpdateCount (traversalTime updateSeconds : ExactReal.Real) :
    Except RecordBuildError UInt64 := do
  let phaseUpdatesReal ← dividedBy traversalTime updateSeconds
  let floor ← (RecordSources.floorCertified phaseUpdatesReal).mapError .arithmetic
  failIf (floor < 0 ∨ 2 ^ 64 ≤ floor) (.integerOverflow "phase update count")
  let phaseUpdates := UInt64.ofNat floor.toNat
  failIf (phaseUpdates = 0 ∨
    ExactReal.compareReals phaseUpdatesReal (ExactReal.ofU64 phaseUpdates) ≠ some .eq)
    .gridTimeUncertified
  pure phaseUpdates

/-- The line that an element runs along, in steps from the start of the path. -/
structure ElementLine where
  elementIndex : Nat
  lineBase : Axes ExactReal.Real
  axisScale : Axes ExactReal.Real

/-- The records of one phase. -/
def buildPhase (updateSeconds : ExactReal.Real) (line : ElementLine) (cursor : ElementCursor)
    (phase : JerkRampPhaseProposal ExactReal.Real × Nat) :
    Except RecordBuildError ElementCursor := do
  let phaseUpdates ← phaseUpdateCount phase.1.ramp.traversalTime updateSeconds
  let site : PhaseSite :=
    { elementIndex := line.elementIndex
      phaseIndex := phase.2
      lineBase := line.lineBase
      axisScale := line.axisScale
      elementDistance := cursor.elementDistance
      ramp := phase.1.ramp
      updateSeconds
      phaseUpdates }
  let finished ← recordLoop updatePeriod policy limits site ⟨cursor.build, 0⟩
  pure ⟨finished.build, ExactReal.add cursor.elementDistance phase.1.pathLength⟩

/-- The records of one element, which must be a line. -/
def buildElement (profile : Machine.MachineDynamicsProfile2) (metricStart : Axes ExactReal.Real)
    (updateSeconds : ExactReal.Real) (build : RecordBuildState)
    (element : (FeedPathElement × List (JerkRampPhaseProposal ExactReal.Real)) × Nat) :
    Except RecordBuildError RecordBuildState :=
  match element.1.1 with
  | .line line => do
    let length ← (FeedPaths.euclideanLength line).mapError .route
    let direction := FeedPaths.directionVector line
    let densityX := RealFunctions.ofRational
      profile.axes.x.commandDensityStepsPerMillimetre.nominal
    let densityY := RealFunctions.ofRational
      profile.axes.y.commandDensityStepsPerMillimetre.nominal
    let unitX ← dividedBy direction.x length
    let unitY ← dividedBy direction.y length
    let start := RecordSources.start line
    let finished ← element.1.2.zipIdx.foldlM (buildPhase updatePeriod policy limits updateSeconds
      { elementIndex := element.2
        lineBase :=
          ⟨ExactReal.mul (ExactReal.sub start.x metricStart.x) densityX,
            ExactReal.mul (ExactReal.sub start.y metricStart.y) densityY⟩
        axisScale := ⟨ExactReal.mul unitX densityX, ExactReal.mul unitY densityY⟩ })
      ⟨build, ExactReal.zero⟩
    pure finished.build
  | _ => .error (.unsupportedRouteElement element.2)

def directValidationLimits (profile : Machine.MachineDynamicsProfile2) :
    Except RecordBuildError FiniteDifferenceValidationLimits := do
  let maximumSegmentTicks ← (profile.outputQuantumCycles.toUInt64.checkedMul
    policy.maximumUpdatesPerRecord.toUInt64).okOr (.integerOverflow "maximum direct record ticks")
  let maximumDifference : UInt64 := .ofNat (finiteDifferenceOneStep.toInt.natAbs - 1)
  pure
    { maximumSegmentTicks
      maximumUpdateCount := policy.maximumUpdatesPerRecord
      requiredUpdatePeriodTicks := profile.outputQuantumCycles
      maximumStepsPerSegment := policy.maximumStepsPerRecord
      maximumAbsoluteFirstDifference := ⟨maximumDifference, maximumDifference⟩ }

structure RecordBuild where
  records : List FiniteDifferenceSegment
  recordEvidence : List DirectRecordEvidence2
  terminalFinitePosition : Axes Int64
  maximumAxisPositionErrorSteps : Axes ℚ
  maximumPositionErrorMm : ℚ
  totalUpdateCount : UInt64

/-- The panicking division of two rational numbers. -/
def rationalQuotient (dividend divisor : ℚ) : Except RecordBuildError ℚ := do
  failIf (divisor = 0) .divisionByZero
  pure (dividend / divisor)

/-- The records of a schedule, from the coordinates of its start and the elements of its route. -/
def buildRecords (metricStart : Option (Axes ExactReal.Real))
    (elements : List (FeedPathElement × List (JerkRampPhaseProposal ExactReal.Real)))
    (profile : Machine.MachineDynamicsProfile2) : Except RecordBuildError RecordBuild := do
  let metricStart ← metricStart.okOr (.unsupportedRouteElement 0)
  let updatePeriod := profile.outputQuantumCycles
  let updateSeconds ← dividedBy (ExactReal.ofU64 updatePeriod.toUInt64)
    (ExactReal.ofU64 profile.timerTicksPerSecond)
  let limits ← directValidationLimits policy profile
  let build ← elements.zipIdx.foldlM
    (buildElement updatePeriod policy limits profile metricStart updateSeconds)
    { records := []
      recordEvidence := []
      nextTick := 0
      finitePosition := ⟨0, 0⟩
      propagatedError := ⟨0, 0⟩
      maximumAxisError := ⟨0, 0⟩
      totalUpdateCount := 0 }
  let errorX ← rationalQuotient build.maximumAxisError.x
    profile.axes.x.commandDensityStepsPerMillimetre.lower
  let errorY ← rationalQuotient build.maximumAxisError.y
    profile.axes.y.commandDensityStepsPerMillimetre.lower
  failIf build.records.isEmpty .emptyProgram
  pure
    { records := build.records
      recordEvidence := build.recordEvidence
      terminalFinitePosition := build.finitePosition
      maximumAxisPositionErrorSteps := build.maximumAxisError
      maximumPositionErrorMm := errorX + errorY
      totalUpdateCount := build.totalUpdateCount }

end Build

end Alumina.Motion.Direct
