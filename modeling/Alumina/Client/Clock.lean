import Mathlib
import Alumina.ForStd.CheckedArith
import Alumina.ForStd.Except
import Alumina.ForStd.Run
import Alumina.Client.Schedule

/-!
# The clock model of one device

A boot-scoped estimator that maps browser time to device cycles, and the heartbeats that feed
it. The causal estimator and the heartbeat codec are not part of this code and are the parameter
`ClockEstimation`. An estimator changes its state also when it refuses an observation: it counts
the refusals.
-/

namespace Alumina.Client

open Except (failIf)

/-- Where a future browser time falls in the device's cycles. -/
structure ClockPrediction where
  bootId : BootId
  nowUiNs : UInt64
  targetUiNs : UInt64
  /-- The latest cycle the device can be at now. -/
  nowLatestCycle : DeviceCycle
  scheduledCycle : DeviceCycle
  uncertaintyCycles : UInt64
  latestProbeId : UInt64
  deriving DecidableEq, Repr

/-- The cycle interval of a current browser instant. -/
structure ClockInstantEstimate where
  bootId : BootId
  uiNs : UInt64
  latestCycle : DeviceCycle
  uncertaintyCycles : UInt64
  deriving DecidableEq, Repr

/-- A decoded heartbeat; `flags`, `counterBits` and `source` as their wire numbers. -/
structure ClockHeartbeatResponse where
  flags : UInt32
  counterBits : UInt8
  source : UInt8
  probeId : UInt64
  uiSendNs : UInt64
  bootId : BootId
  receiveCycle : DeviceCycle
  transmitCycle : DeviceCycle
  frequencyHz : UInt64
  minimumLeadCycles : UInt64
  maximumScheduleHorizonCycles : UInt64
  queueHorizonCycles : UInt64
  maximumLatenessCycles : UInt64
  missedDeadlines : UInt64
  commandQueueFree : UInt32
  workQueueDepth : UInt32
  deriving DecidableEq, Repr

/-- A heartbeat with an upper bound of when it was received. -/
structure ClockObservation where
  response : ClockHeartbeatResponse
  uiReceiveNs : UInt64
  deriving DecidableEq, Repr

structure ClockHeartbeatRequest where
  probeId : UInt64
  uiSendNs : UInt64
  deriving DecidableEq, Repr

/-- The exact causal clock estimator and the heartbeat codec. -/
class ClockEstimation where
  ClockEstimator : Type
  ClockEstimationPolicy : Type
  ClockEstimateError : Type
  ClockWireError : Type
  new : ClockEstimationPolicy → Except ClockEstimateError ClockEstimator
  reset : ClockEstimator → ClockEstimator
  observe : ClockEstimator → ClockObservation → ClockEstimator × Except ClockEstimateError Unit
  acceptedSamples : ClockEstimator → UInt32
  predict : ClockEstimator → UInt64 → UInt64 → UInt64 → Except ClockEstimateError ClockPrediction
  estimateAt : ClockEstimator → UInt64 → UInt64 → Except ClockEstimateError ClockInstantEstimate
  encodeRequest : ClockHeartbeatRequest → Except ClockWireError (List UInt8)
  decodeResponse : List UInt8 → Except ClockWireError ClockHeartbeatResponse

structure PendingProbe where
  probeId : UInt64
  uiSendNs : UInt64
  deriving DecidableEq, Repr

/-- One heartbeat operation whose identity was spent before I/O. -/
structure ClockProbeRequest where
  probeId : UInt64
  uiSendNs : UInt64
  body : List UInt8
  deriving DecidableEq, Repr

variable [ClockEstimation]

/-- Heartbeat request, response, boot, or exact-estimation failure. -/
inductive ClockProbeError where
  | requestPending | noPendingRequest | probeExhausted
  | wire (error : ClockEstimation.ClockWireError)
  | deviceStatus (status : StatusCode)
  | responseBody | correlation
  | bootChanged (expected received : BootId)
  | estimate (error : ClockEstimation.ClockEstimateError)

/-- One boot-scoped device clock model. -/
structure DeviceClockModel where
  estimator : ClockEstimation.ClockEstimator
  bootId : Option BootId
  latestResponse : Option ClockHeartbeatResponse
  nextProbeId : UInt64
  pending : Option PendingProbe

namespace DeviceClockModel

/-- Create an empty model with an explicit causal-estimation policy. -/
def new (policy : ClockEstimation.ClockEstimationPolicy) :
    Except ClockProbeError DeviceClockModel := do
  let estimator ← (ClockEstimation.new policy).mapError .estimate
  pure ⟨estimator, none, none, 1, none⟩

/-- Number of observations the interval intersection retains. -/
def acceptedSamples (clock : DeviceClockModel) : UInt32 :=
  ClockEstimation.acceptedSamples clock.estimator

/-! ## Probes -/

/-- Spend the next probe identity and build its canonical request before I/O. -/
def beginProbe (clock : DeviceClockModel) (uiSendNs : UInt64) :
    DeviceClockModel × Except ClockProbeError ClockProbeRequest :=
  let checked : Except ClockProbeError (UInt64 × List UInt8) := do
    failIf clock.pending.isSome .requestPending
    let nextProbeId ← (clock.nextProbeId.checkedAdd 1).okOr .probeExhausted
    let body ← (ClockEstimation.encodeRequest ⟨clock.nextProbeId, uiSendNs⟩).mapError .wire
    pure (nextProbeId, body)
  match checked with
  | .error error => (clock, .error error)
  | .ok (nextProbeId, body) =>
    ({ clock with pending := some ⟨clock.nextProbeId, uiSendNs⟩, nextProbeId },
      .ok ⟨clock.nextProbeId, uiSendNs, body⟩)

/-- The heartbeat of a response, if it answers the probe and belongs to the boot. -/
def checkedHeartbeat (clock : DeviceClockModel) (pending : PendingProbe) (response : Response) :
    Except ClockProbeError ClockHeartbeatResponse := do
  failIf (response.status ≠ .ok ∧ response.body ≠ []) .responseBody
  failIf (response.status ≠ .ok) (.deviceStatus response.status)
  let heartbeat ← (ClockEstimation.decodeResponse response.body).mapError .wire
  failIf (heartbeat.probeId ≠ pending.probeId ∨ heartbeat.uiSendNs ≠ pending.uiSendNs)
    .correlation
  match clock.bootId with
  | none => pure heartbeat
  | some expected => do
    failIf (expected ≠ heartbeat.bootId) (.bootChanged expected heartbeat.bootId)
    pure heartbeat

/-- Accept one authenticated response. The pending probe is consumed in any case. -/
def acceptResponse (clock : DeviceClockModel) (response : Response) (uiReceiveNs : UInt64) :
    DeviceClockModel × Except ClockProbeError ClockObservation :=
  match clock.pending with
  | none => (clock, .error .noPendingRequest)
  | some pending =>
    let clock := { clock with pending := none }
    match clock.checkedHeartbeat pending response with
    | .error error => (clock, .error error)
    | .ok heartbeat =>
      let observation := ⟨heartbeat, uiReceiveNs⟩
      match ClockEstimation.observe clock.estimator observation with
      | (estimator, .error error) => ({ clock with estimator }, .error (.estimate error))
      | (estimator, .ok ()) =>
        ({ clock with
            estimator
            bootId := some heartbeat.bootId
            latestResponse := some heartbeat },
          .ok observation)

/-- Abandon an ambiguous transport result without reusing its probe identity. -/
def abandonPending (clock : DeviceClockModel) : DeviceClockModel × Bool :=
  ({ clock with pending := none }, clock.pending.isSome)

/-- Discard every boot-scoped fact before observing another boot. -/
def reset (clock : DeviceClockModel) : DeviceClockModel × Except ClockProbeError Unit :=
  if clock.pending.isSome then (clock, .error .requestPending)
  else (⟨ClockEstimation.reset clock.estimator, none, none, 1, none⟩, .ok ())

/-! ## Queries -/

/-- Map a future browser-worker time to a conservative local cycle interval. -/
def predict (clock : DeviceClockModel) (nowUiNs targetUiNs maximumUncertaintyCycles : UInt64) :
    Except ClockProbeError ClockPrediction :=
  (ClockEstimation.predict clock.estimator nowUiNs targetUiNs maximumUncertaintyCycles).mapError
    .estimate

/-- Map a current browser monotonic instant for deadline reconciliation. -/
def estimateAt (clock : DeviceClockModel) (uiNs maximumUncertaintyCycles : UInt64) :
    Except ClockProbeError ClockInstantEstimate :=
  (ClockEstimation.estimateAt clock.estimator uiNs maximumUncertaintyCycles).mapError .estimate

/-! ## Steps -/

/-- One call on the model, with what it returned. -/
inductive Event where
  | beginProbe (uiSendNs : UInt64) (result : Except ClockProbeError ClockProbeRequest)
  | acceptResponse (response : Response) (uiReceiveNs : UInt64)
      (result : Except ClockProbeError ClockObservation)
  | abandonPending (abandoned : Bool)
  | reset (result : Except ClockProbeError Unit)

/-- The model after a call. -/
inductive Step : DeviceClockModel → Event → DeviceClockModel → Prop
  | beginProbe (clock : DeviceClockModel) (uiSendNs : UInt64) :
      Step clock (.beginProbe uiSendNs (clock.beginProbe uiSendNs).2) (clock.beginProbe uiSendNs).1
  | acceptResponse (clock : DeviceClockModel) (response : Response) (uiReceiveNs : UInt64) :
      Step clock (.acceptResponse response uiReceiveNs (clock.acceptResponse response uiReceiveNs).2)
        (clock.acceptResponse response uiReceiveNs).1
  | abandonPending (clock : DeviceClockModel) :
      Step clock (.abandonPending clock.abandonPending.2) clock.abandonPending.1
  | reset (clock : DeviceClockModel) : Step clock (.reset clock.reset.2) clock.reset.1

end DeviceClockModel

end Alumina.Client
