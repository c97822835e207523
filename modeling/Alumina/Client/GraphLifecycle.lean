import Alumina.Client.Schedule

/-!
# Installing and running a graph

`GraphInstallMachine` installs a published package, waits for its candidate and activates it;
`GraphRunMachine` starts the active package, waits for both actors and stops them. Both keep at
most one request pending, repeat it after a loss, and advance on reports of the device.

The request bodies and the combined report are defined by crates that are not part of this
code and are the parameter `GraphWire`. Of the report the fields this code reads are kept;
`details` stands for the others.
-/

namespace Alumina.Client

open Except (failIf)
open Alumina.Graph (Digest)

/-! ## Reports

In the enumerations `other` stands for the variants nothing here names. -/

inductive GraphCoordinatorPhase where
  | recovering | validating | candidateValid | rejected | preparing | activating | committing
  | authorizing | active | starting | running | stopping | executionFaulted
  | other (code : UInt8)
  deriving DecidableEq, Repr

inductive GraphCoordinatorFault where
  | none
  | other (code : UInt8)
  deriving DecidableEq, Repr

inductive RealtimeGraphState where
  | active | rejected
  | other (code : UInt8)
  deriving DecidableEq, Repr

inductive GraphActorPhase where
  | installed | running
  | other (code : UInt8)
  deriving DecidableEq, Repr

inductive GraphBridgePhase where
  | empty | running
  | other (code : UInt8)
  deriving DecidableEq, Repr

structure GraphFaultObservation where
  details : List UInt8
  deriving DecidableEq, Repr

/-- What the real-time core reports of a package. -/
structure RealtimeGraphReport where
  state : RealtimeGraphState
  transactionId : UInt64
  contentDigest : Digest
  packageDigest : Digest
  activeContentDigest : Digest
  activeAuthorized : Bool
  details : List UInt8
  deriving DecidableEq, Repr

/-- What both actors and the bridge report of a run. -/
structure GraphExecutionReport where
  runId : UInt64
  startCycle : DeviceCycle
  servicePhase : GraphActorPhase
  realtimePhase : GraphActorPhase
  bridgePhase : GraphBridgePhase
  serviceNextCycle : Option DeviceCycle
  realtimeNextCycle : Option DeviceCycle
  fault : Option GraphFaultObservation
  details : List UInt8
  deriving DecidableEq, Repr

structure GraphCoordinatorReport where
  phase : GraphCoordinatorPhase
  fault : GraphCoordinatorFault
  transactionId : UInt64
  contentDigest : Digest
  packageDigest : Digest
  activeContentDigest : Digest
  realtime : RealtimeGraphReport
  execution : GraphExecutionReport
  details : List UInt8
  deriving DecidableEq, Repr

/-! ## Requests -/

structure GraphPublication where
  transactionId : UInt64
  publication : PublishedObject
  packageDigest : Digest
  implementationDigest : Digest
  deriving DecidableEq, Repr

structure GraphSelection where
  transactionId : UInt64
  contentDigest : Digest
  packageDigest : Digest
  deriving DecidableEq, Repr

structure GraphRunRequest where
  transactionId : UInt64
  runId : UInt64
  startCycle : DeviceCycle
  contentDigest : Digest
  packageDigest : Digest
  implementationDigest : Digest
  deriving DecidableEq, Repr

/-- The graph crates: request bodies and the combined report. -/
class GraphWire where
  WireError : Type
  ReportError : Type
  /-- `GraphPublication::validate` -/
  validatePublication : GraphPublication → Except WireError Unit
  /-- `GraphPublication::content_digest` -/
  contentDigest : GraphPublication → Digest
  encodePublication : GraphPublication → Except WireError (List UInt8)
  encodeSelection : GraphSelection → Except WireError (List UInt8)
  /-- `GraphRunRequest::validate` -/
  validateRun : GraphRunRequest → Except WireError Unit
  /-- `GraphRunRequest::selection` -/
  runSelection : GraphRunRequest → GraphSelection
  encodeRun : GraphRunRequest → Except WireError (List UInt8)
  /-- `GraphCoordinatorReport::decode` -/
  decodeReport : List UInt8 → Except ReportError GraphCoordinatorReport

/-- One graph-family operation body ready for authenticated framing. -/
structure GraphOperation where
  operation : Operation
  body : List UInt8
  deriving DecidableEq, Repr

/-! ## What a report shows -/

/-- `validate_report_identity` -/
def reportIdentity (report : GraphCoordinatorReport) (expected : GraphSelection) : Bool :=
  report.transactionId = expected.transactionId &&
    report.contentDigest = expected.contentDigest &&
    report.packageDigest = expected.packageDigest

def activeMatches (report : GraphCoordinatorReport) (expected : GraphSelection) : Bool :=
  report.activeContentDigest = expected.contentDigest &&
    report.realtime.state = .active &&
    report.realtime.contentDigest = expected.contentDigest &&
    report.realtime.packageDigest = expected.packageDigest &&
    report.realtime.activeContentDigest = expected.contentDigest &&
    report.realtime.activeAuthorized

def realtimeMatches (report : GraphCoordinatorReport) (expected : GraphSelection) : Bool :=
  report.realtime.transactionId = expected.transactionId &&
    report.realtime.contentDigest = expected.contentDigest &&
    report.realtime.packageDigest = expected.packageDigest

variable [GraphWire]

def selection (publication : GraphPublication) : GraphSelection :=
  ⟨publication.transactionId, GraphWire.contentDigest publication, publication.packageDigest⟩

/-- `validate_run_report` -/
def runIdentity (report : GraphCoordinatorReport) (expected : GraphRunRequest) : Bool :=
  reportIdentity report (GraphWire.runSelection expected) &&
    report.execution.runId = expected.runId && report.execution.startCycle = expected.startCycle

def runningMatches (report : GraphCoordinatorReport) (expected : GraphRunRequest) : Bool :=
  runIdentity report expected && report.execution.servicePhase = .running &&
    report.execution.realtimePhase = .running && report.execution.bridgePhase = .running &&
    report.execution.fault.isNone

def stoppedMatches (report : GraphCoordinatorReport) (expected : GraphRunRequest) : Bool :=
  runIdentity report expected && report.execution.servicePhase = .installed &&
    report.execution.realtimePhase = .installed && report.execution.bridgePhase = .empty &&
    report.execution.serviceNextCycle.isNone && report.execution.realtimeNextCycle.isNone &&
    report.execution.fault.isNone

/-! ## Installation -/

inductive GraphInstallPhase where
  | installing | awaitingCandidate | activating | awaitingActive | complete
  deriving DecidableEq, Repr

inductive GraphInstallAction where
  | install | pollCandidate | activate | pollActive
  deriving DecidableEq, Repr

/-- Transport-independent install, poll and activate coordinator. -/
structure GraphInstallMachine where
  publication : GraphPublication
  selection : GraphSelection
  phase : GraphInstallPhase
  pending : Option GraphInstallAction
  latest : Option GraphCoordinatorReport
  deriving DecidableEq, Repr

inductive GraphInstallError where
  | requestPending | noPendingRequest
  | wire (error : GraphWire.WireError)
  | deviceStatus (status : StatusCode)
  | report (error : GraphWire.ReportError)
  | identity | rejected | unexpectedPhase

abbrev GraphInstallResult := Except GraphInstallError

namespace GraphInstallMachine

/-- Bind one exact already published package. -/
def new (publication : GraphPublication) : Except GraphWire.WireError GraphInstallMachine := do
  GraphWire.validatePublication publication
  pure ⟨publication, Client.selection publication, .installing, none, none⟩

/-- The action of a phase, with its operation. -/
def nextAction (machine : GraphInstallMachine) :
    GraphInstallResult (Option (GraphInstallAction × GraphOperation)) :=
  match machine.phase with
  | .installing => do
    let body ← (GraphWire.encodePublication machine.publication).mapError .wire
    pure (some (.install, ⟨.graphInstall, body⟩))
  | .awaitingCandidate => pure (some (.pollCandidate, ⟨.graphGet, []⟩))
  | .activating => do
    let body ← (GraphWire.encodeSelection machine.selection).mapError .wire
    pure (some (.activate, ⟨.graphActivate, body⟩))
  | .awaitingActive => pure (some (.pollActive, ⟨.graphGet, []⟩))
  | .complete => pure none

/-- Emit the unique next install, poll or activation operation. -/
def nextRequest (machine : GraphInstallMachine) :
    GraphInstallMachine × GraphInstallResult (Option GraphOperation) :=
  if machine.pending.isSome then (machine, .error .requestPending)
  else
    match machine.nextAction with
    | .error error => (machine, .error error)
    | .ok none => (machine, .ok none)
    | .ok (some (action, operation)) =>
      ({ machine with pending := some action }, .ok (some operation))

/-- The phase after a report answers an action. -/
def advance (machine : GraphInstallMachine) (action : GraphInstallAction)
    (report : GraphCoordinatorReport) : GraphInstallResult GraphInstallPhase :=
  match action with
  | .install | .pollCandidate =>
    match report.phase with
    | .candidateValid => pure .activating
    | .active =>
      if activeMatches report machine.selection then pure .complete else throw .unexpectedPhase
    | .validating => pure .awaitingCandidate
    | .recovering | .preparing | .activating | .committing | .authorizing => pure .awaitingActive
    | _ => throw .unexpectedPhase
  | .activate | .pollActive =>
    match report.phase with
    | .active =>
      if activeMatches report machine.selection then pure .complete else throw .unexpectedPhase
    | .preparing | .activating | .committing | .authorizing => pure .awaitingActive
    | _ => throw .unexpectedPhase

/-- Accept a report that answers an action. -/
def acceptReport (machine : GraphInstallMachine) (action : GraphInstallAction)
    (report : GraphCoordinatorReport) : GraphInstallMachine × GraphInstallResult Unit :=
  if ¬ reportIdentity report machine.selection then (machine, .error .identity)
  else if report.phase = .rejected ∨ report.fault ≠ .none ∨
      (report.realtime.state = .rejected ∧ realtimeMatches report machine.selection) then
    (machine, .error .rejected)
  else
    let machine := { machine with latest := some report }
    match machine.advance action report with
    | .error error => (machine, .error error)
    | .ok phase => ({ machine with phase }, .ok ())

/-- Accept one already authenticated and correlated native response. -/
def acceptResponse (machine : GraphInstallMachine) (response : Response) :
    GraphInstallMachine × GraphInstallResult Unit :=
  match machine.pending with
  | none => (machine, .error .noPendingRequest)
  | some action =>
    let machine := { machine with pending := none }
    if response.status ≠ .ok then (machine, .error (.deviceStatus response.status))
    else
      match GraphWire.decodeReport response.body with
      | .error error => (machine, .error (.report error))
      | .ok report => machine.acceptReport action report

/-- Abandon an ambiguous result without advancing the lifecycle. -/
def abandonPending (machine : GraphInstallMachine) : GraphInstallMachine × Bool :=
  ({ machine with pending := none }, machine.pending.isSome)

/-- A call on the machine. -/
inductive Call where
  | nextRequest
  | acceptResponse (response : Response)
  | abandonPending

/-- What a call returned. -/
inductive Outcome where
  | next (result : GraphInstallResult (Option GraphOperation))
  | accepted (result : GraphInstallResult Unit)
  | abandoned (had : Bool)

def perform (machine : GraphInstallMachine) : Call → GraphInstallMachine × Outcome
  | .nextRequest =>
    let (machine, result) := machine.nextRequest
    (machine, .next result)
  | .acceptResponse response =>
    let (machine, result) := machine.acceptResponse response
    (machine, .accepted result)
  | .abandonPending =>
    let (machine, had) := machine.abandonPending
    (machine, .abandoned had)

/-- One call on the machine. -/
abbrev Step : GraphInstallMachine → Call × Outcome → GraphInstallMachine → Prop :=
  Run.Calls perform

end GraphInstallMachine

/-! ## Execution -/

inductive GraphRunPhase where
  | starting | awaitingRunning | running | stopping | awaitingStopped | complete
  deriving DecidableEq, Repr

inductive GraphRunAction where
  | start | pollRunning | stop | pollStopped
  deriving DecidableEq, Repr

/-- Transport-independent exact start, poll and stop coordinator. -/
structure GraphRunMachine where
  request : GraphRunRequest
  phase : GraphRunPhase
  pending : Option GraphRunAction
  latest : Option GraphCoordinatorReport
  fault : Option GraphCoordinatorReport
  deriving DecidableEq, Repr

inductive GraphRunError where
  | requestPending | noPendingRequest | startNotAcknowledged
  | wire (error : GraphWire.WireError)
  | deviceStatus (status : StatusCode)
  | report (error : GraphWire.ReportError)
  | identity | rejected | unexpectedPhase

abbrev GraphRunResult := Except GraphRunError

namespace GraphRunMachine

/-- Bind one exact active package, run and future device epoch. -/
def new (request : GraphRunRequest) : Except GraphWire.WireError GraphRunMachine := do
  GraphWire.validateRun request
  pure ⟨request, .starting, none, none, none⟩

/-- Build an exact run request from the package authority used for installation. -/
def fromPublication (publication : GraphPublication) (runId : UInt64) (startCycle : DeviceCycle) :
    Except GraphWire.WireError GraphRunMachine := do
  GraphWire.validatePublication publication
  new ⟨publication.transactionId, runId, startCycle, GraphWire.contentDigest publication,
    publication.packageDigest, publication.implementationDigest⟩

/-- Request an exact stop after the start has been acknowledged. -/
def requestStop (machine : GraphRunMachine) : GraphRunMachine × GraphRunResult Unit :=
  if machine.pending.isSome then (machine, .error .requestPending)
  else
    match machine.phase with
    | .starting => (machine, .error .startNotAcknowledged)
    | .awaitingRunning | .running => ({ machine with phase := .stopping }, .ok ())
    | .stopping | .awaitingStopped | .complete => (machine, .ok ())

/-- The action of a phase, with its operation. -/
def nextAction (machine : GraphRunMachine) :
    GraphRunResult (Option (GraphRunAction × GraphOperation)) :=
  match machine.phase with
  | .starting => do
    let body ← (GraphWire.encodeRun machine.request).mapError .wire
    pure (some (.start, ⟨.graphStart, body⟩))
  | .awaitingRunning => pure (some (.pollRunning, ⟨.graphGet, []⟩))
  | .running | .complete => pure none
  | .stopping => do
    let body ← (GraphWire.encodeRun machine.request).mapError .wire
    pure (some (.stop, ⟨.graphStop, body⟩))
  | .awaitingStopped => pure (some (.pollStopped, ⟨.graphGet, []⟩))

/-- Emit the unique next start, status poll or stop operation. -/
def nextRequest (machine : GraphRunMachine) :
    GraphRunMachine × GraphRunResult (Option GraphOperation) :=
  if machine.pending.isSome then (machine, .error .requestPending)
  else
    match machine.nextAction with
    | .error error => (machine, .error error)
    | .ok none => (machine, .ok none)
    | .ok (some (action, operation)) =>
      ({ machine with pending := some action }, .ok (some operation))

/-- The phase after a report answers an action. -/
def advance (machine : GraphRunMachine) (action : GraphRunAction)
    (report : GraphCoordinatorReport) : GraphRunResult GraphRunPhase :=
  match action with
  | .start | .pollRunning =>
    match report.phase with
    | .starting => pure .awaitingRunning
    | .running =>
      if runningMatches report machine.request then pure .running else throw .unexpectedPhase
    | .stopping => pure .awaitingStopped
    | .active =>
      if stoppedMatches report machine.request then pure .complete else throw .unexpectedPhase
    | _ => throw .unexpectedPhase
  | .stop | .pollStopped =>
    match report.phase with
    | .stopping => pure .awaitingStopped
    | .active =>
      if stoppedMatches report machine.request then pure .complete else throw .unexpectedPhase
    | _ => throw .unexpectedPhase

/-- Accept a report that answers an action. -/
def acceptReport (machine : GraphRunMachine) (action : GraphRunAction)
    (report : GraphCoordinatorReport) : GraphRunMachine × GraphRunResult Unit :=
  if ¬ runIdentity report machine.request then (machine, .error .identity)
  else if report.phase = .rejected ∨ (report.realtime.state = .rejected ∧
      realtimeMatches report (GraphWire.runSelection machine.request)) then
    (machine, .error .rejected)
  else
    let machine := { machine with latest := some report }
    if report.phase = .executionFaulted then
      ({ machine with fault := machine.fault.or (some report), phase := .stopping }, .ok ())
    else if report.fault ≠ .none ∨ report.execution.fault.isSome then (machine, .error .rejected)
    else
      match machine.advance action report with
      | .error error => (machine, .error error)
      | .ok phase => ({ machine with phase }, .ok ())

/-- Accept one already authenticated and correlated native response. -/
def acceptResponse (machine : GraphRunMachine) (response : Response) :
    GraphRunMachine × GraphRunResult Unit :=
  match machine.pending with
  | none => (machine, .error .noPendingRequest)
  | some action =>
    let machine := { machine with pending := none }
    if response.status ≠ .ok then (machine, .error (.deviceStatus response.status))
    else
      match GraphWire.decodeReport response.body with
      | .error error => (machine, .error (.report error))
      | .ok report => machine.acceptReport action report

/-- Abandon an ambiguous result without changing the retry phase. -/
def abandonPending (machine : GraphRunMachine) : GraphRunMachine × Bool :=
  ({ machine with pending := none }, machine.pending.isSome)

/-- A call on the machine. -/
inductive Call where
  | nextRequest
  | acceptResponse (response : Response)
  | abandonPending
  | requestStop

/-- What a call returned. -/
inductive Outcome where
  | next (result : GraphRunResult (Option GraphOperation))
  | accepted (result : GraphRunResult Unit)
  | abandoned (had : Bool)
  | stopped (result : GraphRunResult Unit)

def perform (machine : GraphRunMachine) : Call → GraphRunMachine × Outcome
  | .nextRequest =>
    let (machine, result) := machine.nextRequest
    (machine, .next result)
  | .acceptResponse response =>
    let (machine, result) := machine.acceptResponse response
    (machine, .accepted result)
  | .abandonPending =>
    let (machine, had) := machine.abandonPending
    (machine, .abandoned had)
  | .requestStop =>
    let (machine, result) := machine.requestStop
    (machine, .stopped result)

/-- One call on the machine. -/
abbrev Step : GraphRunMachine → Call × Outcome → GraphRunMachine → Prop := Run.Calls perform

end GraphRunMachine

end Alumina.Client
