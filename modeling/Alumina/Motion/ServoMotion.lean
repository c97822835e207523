import Alumina.ForStd.Except

/-!
# Splitting encoded servo recurrences

An encoded source span is one record of cubic recurrences for position, velocity feed-forward and
current feed-forward on every axis. The lowering cuts it into records on which every signal is
monotone and every step is within the hardware limits. `findRecordEnd` scans for the end of one
record, and `splitSpan` is the loop that emits them.

The record type belongs to the machine IR, a library outside this code. So do the evaluation of a
record at an update and the validation of one record, which are the parameter `ServoMachine`. Counts
and ticks are naturals, with the bounds of the source where it checks them.
-/

namespace Alumina.Motion

open Except (failIf)

/-! ## Records of the machine IR -/

structure FiniteDifferenceAxis where
  initialPosition : Int64
  firstDifference : Int64
  secondDifference : Int64
  thirdDifference : Int64
  deriving DecidableEq

structure ServoQ30FiniteDifferenceAxis where
  initialValue : Int32
  firstDifference : Int32
  secondDifference : Int32
  thirdDifference : Int32
  deriving DecidableEq

structure ServoFiniteDifferenceAxis where
  position : FiniteDifferenceAxis
  velocityFeedForward : ServoQ30FiniteDifferenceAxis
  quadratureCurrentFeedForward : ServoQ30FiniteDifferenceAxis
  deriving DecidableEq

structure ServoFiniteDifferenceSegment (axes : Nat) where
  startTick : Nat
  endTick : Nat
  updatePeriodTicks : UInt32
  updateCount : UInt32
  axes : Vector ServoFiniteDifferenceAxis axes
  flags : UInt32
  deriving DecidableEq

structure ServoFiniteDifferenceState (axes : Nat) where
  position : Vector Int64 axes
  velocityFeedForward : Vector Int32 axes
  quadratureCurrentFeedForward : Vector Int32 axes
  deriving DecidableEq

/-- Configuration-derived bounds of one record (`limits.segment`). -/
structure ServoSegmentLimits (axes : Nat) where
  maximumPositionDeltaBits : Vector UInt64 axes
  maximumAbsolutePositionFirstDifferenceBits : Vector UInt64 axes
  maximumAbsoluteVelocityFeedForwardBits : Vector UInt32 axes
  maximumAbsoluteQuadratureCurrentFeedForwardBits : Vector UInt32 axes

/-- What validating one record reports. -/
structure ServoSegmentSummary (axes : Nat) where
  terminalState : ServoFiniteDifferenceState axes
  endTick : Nat

/-- Evaluation and validation of records in the machine IR. -/
class ServoMachine (axes : Nat) (ε : outParam Type) where
  stateAt : ServoFiniteDifferenceSegment axes → Nat → Except ε (ServoFiniteDifferenceState axes)
  validate : ServoFiniteDifferenceSegment axes → Nat → ServoFiniteDifferenceState axes →
    ServoSegmentLimits axes → Except ε (ServoSegmentSummary axes)

/-- Rejection of the splitting stage. -/
inductive ServoMotionError (ε : Type) where
  | outputRecordLimit
  | hardwareLimit (span axis : Nat)
  | coefficientShift (span axis : Nat)
  | machine (span : Nat) (error : ε)
  | arithmetic (domain : String)
  | continuity (span : Nat)
  deriving DecidableEq

/-! ## One step of the scan -/

def signOf (value : Int) : Int :=
  if value < 0 then -1 else if value > 0 then 1 else 0

def signConflicts (retained candidate : Int) : Bool :=
  retained ≠ 0 && candidate ≠ 0 && retained ≠ candidate

/-- The signals of an axis, in the order in which their signs are retained. -/
inductive ServoSignal where
  | position | velocityFeedForward | quadratureCurrentFeedForward
  deriving DecidableEq, Repr

section Scan

variable {axes : Nat}

/-- Change of one signal on one axis over a step. -/
def signalDelta (current next : ServoFiniteDifferenceState axes) (axis : Fin axes) :
    ServoSignal → Int
  | .position => (next.position.get axis).toInt - (current.position.get axis).toInt
  | .velocityFeedForward =>
    (next.velocityFeedForward.get axis).toInt - (current.velocityFeedForward.get axis).toInt
  | .quadratureCurrentFeedForward =>
    (next.quadratureCurrentFeedForward.get axis).toInt -
      (current.quadratureCurrentFeedForward.get axis).toInt

/-- A step is outside the rate, displacement or amplitude limits of an axis. -/
def exceedsLimits (limits : ServoSegmentLimits axes)
    (base current next : ServoFiniteDifferenceState axes) (axis : Fin axes) : Bool :=
  (signalDelta current next axis .position).natAbs >
      (limits.maximumAbsolutePositionFirstDifferenceBits.get axis).toNat ||
    ((next.position.get axis).toInt - (base.position.get axis).toInt).natAbs >
      (limits.maximumPositionDeltaBits.get axis).toNat ||
    (next.velocityFeedForward.get axis).toInt.natAbs >
      (limits.maximumAbsoluteVelocityFeedForwardBits.get axis).toNat ||
    (current.velocityFeedForward.get axis).toInt.natAbs >
      (limits.maximumAbsoluteVelocityFeedForwardBits.get axis).toNat ||
    (next.quadratureCurrentFeedForward.get axis).toInt.natAbs >
      (limits.maximumAbsoluteQuadratureCurrentFeedForwardBits.get axis).toNat ||
    (current.quadratureCurrentFeedForward.get axis).toInt.natAbs >
      (limits.maximumAbsoluteQuadratureCurrentFeedForwardBits.get axis).toNat

/-- The signs that a record has shown so far. -/
abbrev RetainedSigns (axes : Nat) := Fin axes → ServoSignal → Int

/-- A step turns some signal of an axis against a retained sign. -/
def conflictsOn (signs : RetainedSigns axes) (current next : ServoFiniteDifferenceState axes)
    (axis : Fin axes) : Bool :=
  signConflicts (signs axis .position) (signOf (signalDelta current next axis .position)) ||
    signConflicts (signs axis .velocityFeedForward)
      (signOf (signalDelta current next axis .velocityFeedForward)) ||
    signConflicts (signs axis .quadratureCurrentFeedForward)
      (signOf (signalDelta current next axis .quadratureCurrentFeedForward))

/-- The axis loop of one step: whether the step conflicts with the record so far, or the first axis
that a first step violates. -/
def scanAxes (limits : ServoSegmentLimits axes) (signs : RetainedSigns axes)
    (base current next : ServoFiniteDifferenceState axes) (first : Bool) (conflict : Bool) :
    List (Fin axes) → Except (Fin axes) Bool
  | [] => .ok conflict
  | axis :: remaining =>
    let conflict := conflict || conflictsOn signs current next axis
    if conflict && !first then .ok conflict
    else if exceedsLimits limits base current next axis then
      if first then .error axis else .ok true
    else scanAxes limits signs base current next first conflict remaining

/-- Nonzero signs of a step replace the retained ones. -/
def retainSigns (signs : RetainedSigns axes) (current next : ServoFiniteDifferenceState axes) :
    RetainedSigns axes := fun axis signal =>
  let sign := signOf (signalDelta current next axis signal)
  if sign ≠ 0 then sign else signs axis signal

end Scan

/-! ## The end of one record -/

section Records

variable {axes : Nat} {ε : Type} [ServoMachine axes ε]

def stateAt (source : ServoFiniteDifferenceSegment axes) (update span : Nat) :
    Except (ServoMotionError ε) (ServoFiniteDifferenceState axes) :=
  (ServoMachine.stateAt source update).mapError (.machine span)

/-- The update loop, for the given number of updates before the cap. -/
def scanUpdates (source : ServoFiniteDifferenceSegment axes) (limits : ServoSegmentLimits axes)
    (base : ServoFiniteDifferenceState axes) (start span : Nat) :
    Nat → Nat → RetainedSigns axes → Except (ServoMotionError ε) Nat
  | 0, update, _ => .ok update
  | updates + 1, update, signs => do
    let current ← stateAt source update span
    let next ← stateAt source (update + 1) span
    let conflict ← (scanAxes limits signs base current next (update = start) false
      (List.finRange axes)).mapError fun (axis : Fin axes) => .hardwareLimit span axis.val
    if conflict && update > start then return update
    scanUpdates source limits base start span updates (update + 1)
      (retainSigns signs current next)

/-- The end of the record that begins at an update (`find_record_end`). -/
def findRecordEnd (source : ServoFiniteDifferenceSegment axes) (start : Nat)
    (maximumUpdates : UInt32) (limits : ServoSegmentLimits axes) (span : Nat) :
    Except (ServoMotionError ε) Nat := do
  let cap := min (min (start + maximumUpdates.toNat) (2 ^ 32 - 1)) source.updateCount.toNat
  let base ← stateAt source start span
  let update ← scanUpdates source limits base start span (cap - start) start fun _ _ => 0
  failIf (update = start) (.hardwareLimit span 0)
  return update

/-! ## Shifted coefficients -/

def checkedI128 (value : Int) : Option Int :=
  if -2 ^ 127 ≤ value ∧ value < 2 ^ 127 then some value else none

/-- Newton-forward coefficients seen from a later update. -/
def shift (initial first second third : Int) (update : Nat) : Option (Int × Int × Int × Int) := do
  let k : Int := update
  let chooseTwo := (← checkedI128 (k * (k - 1))).tdiv 2
  let chooseThree := (← checkedI128 (chooseTwo * (k - 2))).tdiv 3
  let shifted ← checkedI128 (initial + (← checkedI128 (k * first)))
  let shifted ← checkedI128 (shifted + (← checkedI128 (chooseTwo * second)))
  let shifted ← checkedI128 (shifted + (← checkedI128 (chooseThree * third)))
  let shiftedFirst ← checkedI128 (first + (← checkedI128 (k * second)))
  let shiftedFirst ← checkedI128 (shiftedFirst + (← checkedI128 (chooseTwo * third)))
  let shiftedSecond ← checkedI128 (second + (← checkedI128 (k * third)))
  return (shifted, shiftedFirst, shiftedSecond, third)

/-- `i64::try_from` -/
def toI64 (value : Int) : Option Int64 :=
  if -2 ^ 63 ≤ value ∧ value < 2 ^ 63 then some (.ofInt value) else none

/-- `i32::try_from` -/
def toI32 (value : Int) : Option Int32 :=
  if -2 ^ 31 ≤ value ∧ value < 2 ^ 31 then some (.ofInt value) else none

def shiftI64 (coefficients : FiniteDifferenceAxis) (update : Nat) :
    Option FiniteDifferenceAxis := do
  let (initial, first, second, third) ← shift coefficients.initialPosition.toInt
    coefficients.firstDifference.toInt coefficients.secondDifference.toInt
    coefficients.thirdDifference.toInt update
  return ⟨← toI64 initial, ← toI64 first, ← toI64 second, ← toI64 third⟩

def shiftI32 (coefficients : ServoQ30FiniteDifferenceAxis) (update : Nat) :
    Option ServoQ30FiniteDifferenceAxis := do
  let (initial, first, second, third) ← shift coefficients.initialValue.toInt
    coefficients.firstDifference.toInt coefficients.secondDifference.toInt
    coefficients.thirdDifference.toInt update
  return ⟨← toI32 initial, ← toI32 first, ← toI32 second, ← toI32 third⟩

def shiftAxes (coefficients : Vector ServoFiniteDifferenceAxis axes) (update span : Nat) :
    Except (ServoMotionError ε) (Vector ServoFiniteDifferenceAxis axes) :=
  coefficients.mapFinIdxM fun axis coefficient _ => do
    let position ← (shiftI64 coefficient.position update).okOr (.coefficientShift span axis)
    let velocity ← (shiftI32 coefficient.velocityFeedForward update).okOr
      (.coefficientShift span axis)
    let current ← (shiftI32 coefficient.quadratureCurrentFeedForward update).okOr
      (.coefficientShift span axis)
    return ⟨position, velocity, current⟩

/-! ## The splitting loop -/

/-- What the loop carries from record to record. -/
structure SplitState (axes : Nat) where
  sourceCursor : Nat
  nextTick : Nat
  expectedState : ServoFiniteDifferenceState axes
  records : List (ServoFiniteDifferenceSegment axes)

/-- The policy of a compilation that the loop reads. A profile that allows no update in a record is
rejected before the loop. -/
structure SplitPolicy (axes : Nat) where
  maximumOutputRecords : Nat
  maximumRecordUpdates : UInt32
  limits : ServoSegmentLimits axes
  positive : 0 < maximumRecordUpdates.toNat

/-- One pass of the loop: the record from the cursor on, validated against the state before it. -/
def splitRecord (source : ServoFiniteDifferenceSegment axes) (policy : SplitPolicy axes)
    (span : Nat) (state : SplitState axes) : Except (ServoMotionError ε) (SplitState axes) := do
  failIf (state.records.length ≥ policy.maximumOutputRecords) .outputRecordLimit
  let sourceEnd ← findRecordEnd source state.sourceCursor policy.maximumRecordUpdates
    policy.limits span
  let recordUpdates := sourceEnd - state.sourceCursor
  let duration := source.updatePeriodTicks.toNat * recordUpdates
  failIf (duration ≥ 2 ^ 64) (.arithmetic "servo record duration")
  failIf (state.nextTick + duration ≥ 2 ^ 64) (.arithmetic "servo record end tick")
  let shifted ← shiftAxes source.axes state.sourceCursor span
  let segment : ServoFiniteDifferenceSegment axes :=
    ⟨state.nextTick, state.nextTick + duration, source.updatePeriodTicks,
      .ofNat recordUpdates, shifted, 0⟩
  let summary ← (ServoMachine.validate segment state.nextTick state.expectedState
    policy.limits).mapError (.machine span)
  return ⟨sourceEnd, summary.endTick, summary.terminalState, state.records ++ [segment]⟩

/-- `while source_cursor < span.update_count`, for at most the given number of records. -/
def splitLoop (source : ServoFiniteDifferenceSegment axes) (policy : SplitPolicy axes)
    (span : Nat) : Nat → SplitState axes → Except (ServoMotionError ε) (SplitState axes)
  | 0, state => .ok state
  | passes + 1, state =>
    if state.sourceCursor < source.updateCount.toNat then do
      let state ← splitRecord source policy span state
      splitLoop source policy span passes state
    else .ok state

/-- The records of one span, from its first update on. Every record takes an update, so the loop
makes at most `updateCount` passes. -/
def splitSpan (source : ServoFiniteDifferenceSegment axes) (policy : SplitPolicy axes)
    (span nextTick : Nat) (expectedState : ServoFiniteDifferenceState axes)
    (records : List (ServoFiniteDifferenceSegment axes)) :
    Except (ServoMotionError ε) (SplitState axes) := do
  let state ← splitLoop source policy span source.updateCount.toNat
    ⟨0, nextTick, expectedState, records⟩
  let sourceTerminal ← stateAt source source.updateCount.toNat span
  failIf (state.expectedState ≠ sourceTerminal) (.continuity span)
  return state

end Records

end Alumina.Motion
