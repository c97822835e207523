import Alumina.ForStd.CheckedArith
import Alumina.ForStd.Run
import Alumina.Client.Protocol

/-!
# Network provisioning

`NetworkProvisioningMachine` selects one network operation at a time, sends it and waits for the
response. A mutation whose outcome is ambiguous is kept and looked up in the device's status
before anything else is sent.

The request bodies, the status and the scan result are defined by a crate that is not part of
this code and are the parameter `NetworkWire`. Of them the fields this code reads are kept;
`details` stands for the others.
-/

namespace Alumina.Client

/-! ## Requests and observations -/

inductive NetworkFailure where
  | none | association | timeout | dhcp | interrupted | scan | driver | storage
  deriving DecidableEq, Repr

/-- `other` stands for the link states nothing here names. -/
inductive StationLinkState where
  | addressed | disconnected
  | other (code : UInt8)
  deriving DecidableEq, Repr

structure NetworkStatusFlags where
  lastOperationFailed : Bool
  apExpected : Bool
  stationConfigured : Bool
  deriving DecidableEq, Repr

/-- Credential-free state of the device's network. -/
structure NetworkStatus where
  generation : UInt32
  lastTransactionId : UInt64
  lastFailure : NetworkFailure
  stationLink : StationLinkState
  flags : NetworkStatusFlags
  details : List UInt8
  deriving DecidableEq, Repr

structure NetworkScanResult where
  transactionId : UInt64
  details : List UInt8
  deriving DecidableEq, Repr

structure NetworkAuthentication where
  code : UInt8
  deriving DecidableEq, Repr

/-- The address of an access point, six bytes. -/
abbrev Bssid := Graph.FixedArray UInt8 6

/-- One access point of a scan. -/
structure NetworkScanEntry where
  ssid : String
  authentication : NetworkAuthentication
  bssid : Bssid
  channel : UInt8

structure NetworkScanRequest where
  transactionId : UInt64
  deriving DecidableEq, Repr

/-- A request to join a network; `credentials` stands for its name, address and passphrase. -/
structure NetworkJoinRequest where
  transactionId : UInt64
  expectedGeneration : UInt32
  credentials : List UInt8
  deriving DecidableEq, Repr

structure NetworkMutationRequest where
  transactionId : UInt64
  expectedGeneration : UInt32
  deriving DecidableEq, Repr

/-- The provisioning crate: request bodies, the status and the scan result. -/
class NetworkWire where
  WireError : Type
  /-- `NetworkJoinRequest::try_new` -/
  joinRequest : UInt64 → UInt32 → String → NetworkAuthentication → String → Option Bssid →
    Option UInt8 → Except WireError NetworkJoinRequest
  encodeScan : NetworkScanRequest → Except WireError (List UInt8)
  encodeJoin : NetworkJoinRequest → List UInt8
  encodeMutation : NetworkMutationRequest → Except WireError (List UInt8)
  /-- `NetworkStatus::decode` -/
  decodeStatus : List UInt8 → Except WireError NetworkStatus
  /-- `NetworkScanResult::decode` -/
  decodeScan : List UInt8 → Except WireError NetworkScanResult

/-- A join request carries the transaction it was built for. -/
class LawfulNetworkWire [NetworkWire] : Prop where
  joinRequest_transactionId {transactionId : UInt64} {generation : UInt32} {ssid : String}
      {authentication : NetworkAuthentication} {passphrase : String} {bssid : Option Bssid}
      {channel : Option UInt8} {request : NetworkJoinRequest} :
    NetworkWire.joinRequest transactionId generation ssid authentication passphrase bssid channel =
        .ok request →
      request.transactionId = transactionId

/-- One canonical network request ready for authenticated transport. -/
structure NetworkOperation where
  operation : Operation
  body : List UInt8
  deriving DecidableEq, Repr

inductive NetworkClientPhase where
  | idle | ready | awaitingResponse | reconciling
  deriving DecidableEq, Repr

/-- Accepted state transition from one authenticated response. -/
inductive NetworkUpdate where
  | status (status : NetworkStatus)
  | scan (result : NetworkScanResult)
  | mutation (operation : Operation) (result : StatusCode) (status : NetworkStatus)
      (reconciled : Bool)
  | retryRequired
  deriving DecidableEq, Repr

variable [NetworkWire]

/-- Rejection that cannot advance retained network authority. -/
inductive NetworkClientError where
  | transactionSeed | transactionExhausted | requestPending | noPendingRequest | statusRequired
  | deviceStatus (status : StatusCode)
  | responseBody
  | wire (error : NetworkWire.WireError)
  | transactionMismatch | outcome | superseded

abbrev NetworkResult := Except NetworkClientError

/-! ## Intents -/

/-- What was selected. A join intent is the only one with a passphrase. -/
inductive Intent where
  | status
  | scan (request : NetworkScanRequest)
  | join (request : NetworkJoinRequest)
  | leave (request : NetworkMutationRequest)
  | recover (request : NetworkMutationRequest)
  deriving DecidableEq, Repr

namespace Intent

omit [NetworkWire] in
def operation : Intent → Operation
  | .status => .networkStatus
  | .scan _ => .networkScan
  | .join _ => .networkJoin
  | .leave _ => .networkLeave
  | .recover _ => .networkRecoverAp

def transactionId : Intent → Option UInt64
  | .status => none
  | .scan request => some request.transactionId
  | .join request => some request.transactionId
  | .leave request | .recover request => some request.transactionId

def expectedGeneration : Intent → Option UInt32
  | .join request => some request.expectedGeneration
  | .leave request | .recover request => some request.expectedGeneration
  | .status | .scan _ => none

def mutation : Intent → Bool
  | .join _ | .leave _ | .recover _ => true
  | .status | .scan _ => false

def operationBody (intent : Intent) : NetworkResult NetworkOperation := do
  let body ←
    match intent with
    | .status => pure []
    | .scan request => (NetworkWire.encodeScan request).mapError .wire
    | .join request => pure (NetworkWire.encodeJoin request)
    | .leave request | .recover request => (NetworkWire.encodeMutation request).mapError .wire
  pure ⟨intent.operation, body⟩

end Intent

def networkFailureStatus : NetworkFailure → StatusCode
  | .none => .ok
  | .association => .unauthorized
  | .timeout | .dhcp => .deadline
  | .interrupted => .conflict
  | .scan | .driver | .storage => .internal

/-- Whether a status shows the result of an intent (`validate_terminal_outcome`). -/
def terminalOutcome (intent : Intent) (status : NetworkStatus) (result : StatusCode) : Bool :=
  if result ≠ .ok then status.flags.lastOperationFailed
  else if status.flags.lastOperationFailed || !status.flags.apExpected then false
  else
    match intent with
    | .join _ => status.stationLink = .addressed && status.flags.stationConfigured
    | .leave _ | .recover _ => status.stationLink = .disconnected && !status.flags.stationConfigured
    | .status | .scan _ => false

/-! ## The machine -/

inductive ProvisioningState where
  | ready (intent : Intent)
  | awaiting (intent : Intent) (reconciliation : Bool)
  | reconciling (intent : Intent)
  deriving DecidableEq, Repr

/-- Boot-scoped retry-safe network provisioning owner. -/
structure NetworkProvisioningMachine where
  nextTransactionId : UInt64
  state : Option ProvisioningState
  latestStatus : Option NetworkStatus
  latestScan : Option NetworkScanResult
  deriving DecidableEq, Repr

namespace NetworkProvisioningMachine

/-- Start with a caller-selected nonzero transaction namespace. -/
def startingAt (transactionSeed : UInt64) : NetworkResult NetworkProvisioningMachine :=
  if transactionSeed = 0 ∨ transactionSeed.toNat = 2 ^ 64 - 1 then .error .transactionSeed
  else .ok ⟨transactionSeed, none, none, none⟩

def phase (machine : NetworkProvisioningMachine) : NetworkClientPhase :=
  match machine.state with
  | none => .idle
  | some (.ready _) => .ready
  | some (.awaiting _ _) => .awaitingResponse
  | some (.reconciling _) => .reconciling

/-! ### Selecting an operation -/

def requireIdle (machine : NetworkProvisioningMachine) : NetworkResult Unit :=
  if machine.state.isNone then .ok () else .error .requestPending

/-- Take the next transaction id. -/
def allocateTransaction (machine : NetworkProvisioningMachine) :
    NetworkResult (UInt64 × NetworkProvisioningMachine) := do
  let next ← ((machine.nextTransactionId.checkedAdd 1).filter (· ≠ 0)).okOr .transactionExhausted
  pure (machine.nextTransactionId, { machine with nextTransactionId := next })

def requestStatus (machine : NetworkProvisioningMachine) :
    NetworkProvisioningMachine × NetworkResult Unit :=
  match machine.requireIdle with
  | .error error => (machine, .error error)
  | .ok () => ({ machine with state := some (.ready .status) }, .ok ())

/-- Select a fresh bounded scan. -/
def requestScan (machine : NetworkProvisioningMachine) :
    NetworkProvisioningMachine × NetworkResult UInt64 :=
  match (do machine.requireIdle; machine.allocateTransaction) with
  | .error error => (machine, .error error)
  | .ok (transactionId, machine) =>
    ({ machine with state := some (.ready (.scan ⟨transactionId⟩)) }, .ok transactionId)

/-- The transaction and the generation a mutation is bound to. -/
def bindMutation (machine : NetworkProvisioningMachine) :
    NetworkResult (UInt64 × UInt32 × NetworkProvisioningMachine) := do
  machine.requireIdle
  let status ← machine.latestStatus.okOr .statusRequired
  let (transactionId, machine) ← machine.allocateTransaction
  pure (transactionId, status.generation, machine)

/-- Select an explicit infrastructure WLAN without a preceding scan. A rejected name or
passphrase has used up its transaction. -/
def requestJoinExplicit (machine : NetworkProvisioningMachine) (ssid : String)
    (authentication : NetworkAuthentication) (passphrase : String) (bssid : Option Bssid)
    (channel : Option UInt8) : NetworkProvisioningMachine × NetworkResult UInt64 :=
  match machine.bindMutation with
  | .error error => (machine, .error error)
  | .ok (transactionId, generation, machine) =>
    match NetworkWire.joinRequest transactionId generation ssid authentication passphrase bssid
        channel with
    | .error error => (machine, .error (.wire error))
    | .ok request => ({ machine with state := some (.ready (.join request)) }, .ok transactionId)

/-- Select an exact scanned BSSID for association. -/
def requestJoin (machine : NetworkProvisioningMachine) (entry : NetworkScanEntry)
    (passphrase : String) : NetworkProvisioningMachine × NetworkResult UInt64 :=
  machine.requestJoinExplicit entry.ssid entry.authentication passphrase (some entry.bssid)
    (some entry.channel)

def selectMutation (machine : NetworkProvisioningMachine) (recover : Bool) :
    NetworkProvisioningMachine × NetworkResult UInt64 :=
  match machine.bindMutation with
  | .error error => (machine, .error error)
  | .ok (transactionId, generation, machine) =>
    let intent : Intent :=
      if recover then .recover ⟨transactionId, generation⟩ else .leave ⟨transactionId, generation⟩
    ({ machine with state := some (.ready intent) }, .ok transactionId)

def requestLeave (machine : NetworkProvisioningMachine) :
    NetworkProvisioningMachine × NetworkResult UInt64 :=
  machine.selectMutation false

def requestRecoverAp (machine : NetworkProvisioningMachine) :
    NetworkProvisioningMachine × NetworkResult UInt64 :=
  machine.selectMutation true

/-! ### Sending and accepting -/

/-- Produce the next canonical request and mark it in flight. -/
def nextRequest (machine : NetworkProvisioningMachine) :
    NetworkProvisioningMachine × NetworkResult (Option NetworkOperation) :=
  match machine.state with
  | none => (machine, .ok none)
  | some (.ready intent) =>
    match intent.operationBody with
    -- The state was taken before the body was encoded.
    | .error error => ({ machine with state := none }, .error error)
    | .ok request => ({ machine with state := some (.awaiting intent false) }, .ok (some request))
  | some (.reconciling intent) =>
    ({ machine with state := some (.awaiting intent true) }, .ok (some ⟨.networkStatus, []⟩))
  | some (.awaiting _ _) => (machine, .error .requestPending)

def acceptStatusResponse (machine : NetworkProvisioningMachine) (response : Response) :
    NetworkProvisioningMachine × NetworkResult NetworkUpdate :=
  if response.status ≠ .ok then
    if response.body ≠ [] then
      ({ machine with state := some (.ready .status) }, .error .responseBody)
    else (machine, .error (.deviceStatus response.status))
  else
    match NetworkWire.decodeStatus response.body with
    | .error error => (machine, .error (.wire error))
    | .ok status => ({ machine with latestStatus := some status }, .ok (.status status))

def acceptScanResponse (machine : NetworkProvisioningMachine) (request : NetworkScanRequest)
    (response : Response) : NetworkProvisioningMachine × NetworkResult NetworkUpdate :=
  if response.status ≠ .ok then
    if response.body ≠ [] then
      ({ machine with state := some (.ready (.scan request)) }, .error .responseBody)
    else (machine, .error (.deviceStatus response.status))
  else
    match NetworkWire.decodeScan response.body with
    | .error error => ({ machine with state := some (.ready (.scan request)) }, .error (.wire error))
    | .ok result =>
      if result.transactionId = request.transactionId then
        ({ machine with latestScan := some result }, .ok (.scan result))
      else
        ({ machine with state := some (.ready (.scan request)) }, .error .transactionMismatch)

/-- The direct answer to a mutation; anything inconclusive is reconciled. -/
def acceptMutationResponse (machine : NetworkProvisioningMachine) (intent : Intent)
    (response : Response) (reconciled : Bool) :
    NetworkProvisioningMachine × NetworkResult NetworkUpdate :=
  let reconciling := { machine with state := some (.reconciling intent) }
  match NetworkWire.decodeStatus response.body with
  | .error error => (reconciling, .error (.wire error))
  | .ok status =>
    if intent.transactionId ≠ some status.lastTransactionId then
      (reconciling, .error .transactionMismatch)
    else
      let inferred := networkFailureStatus status.lastFailure
      if response.status ≠ inferred ∨ ¬ terminalOutcome intent status inferred then
        (reconciling, .error .outcome)
      else
        ({ machine with latestStatus := some status },
          .ok (.mutation intent.operation inferred status reconciled))

/-- The status that is to explain an ambiguous mutation. -/
def acceptReconciliation (machine : NetworkProvisioningMachine) (intent : Intent)
    (response : Response) : NetworkProvisioningMachine × NetworkResult NetworkUpdate :=
  let reconciling := { machine with state := some (.reconciling intent) }
  if response.status ≠ .ok then (reconciling, .error (.deviceStatus response.status))
  else
    match NetworkWire.decodeStatus response.body with
    | .error error => (reconciling, .error (.wire error))
    | .ok status =>
      let machine := { machine with latestStatus := some status }
      if intent.transactionId = some status.lastTransactionId then
        let result := networkFailureStatus status.lastFailure
        if terminalOutcome intent status result then
          (machine, .ok (.mutation intent.operation result status true))
        else ({ machine with state := some (.reconciling intent) }, .error .outcome)
      else if intent.transactionId.any (status.lastTransactionId < ·) ∧
          intent.expectedGeneration = some status.generation then
        ({ machine with state := some (.ready intent) }, .ok .retryRequired)
      else (machine, .error .superseded)

def acceptDirect (machine : NetworkProvisioningMachine) (intent : Intent) (response : Response) :
    NetworkProvisioningMachine × NetworkResult NetworkUpdate :=
  match intent with
  | .status => machine.acceptStatusResponse response
  | .scan request => machine.acceptScanResponse request response
  | intent => machine.acceptMutationResponse intent response false

/-- Accept one already authenticated and natively correlated response. The state is taken first,
so a response nobody awaits drops what was selected. -/
def acceptResponse (machine : NetworkProvisioningMachine) (response : Response) :
    NetworkProvisioningMachine × NetworkResult NetworkUpdate :=
  let taken := { machine with state := none }
  match machine.state with
  | some (.awaiting intent reconciliation) =>
    if reconciliation then taken.acceptReconciliation intent response
    else taken.acceptDirect intent response
  | _ => (taken, .error .noPendingRequest)

/-- Resolve an ambiguous transport result without blindly repeating a mutation. As in
`acceptResponse` the state is taken first. -/
def abandonPending (machine : NetworkProvisioningMachine) : NetworkProvisioningMachine × Bool :=
  match machine.state with
  | some (.awaiting intent _) =>
    let state := if intent.mutation then .reconciling intent else .ready intent
    ({ machine with state := some state }, true)
  | _ => ({ machine with state := none }, false)

/-- Erase boot-scoped observations and credential-bearing pending state. -/
def reset (machine : NetworkProvisioningMachine) (transactionSeed : UInt64) :
    NetworkProvisioningMachine × NetworkResult Unit :=
  match startingAt transactionSeed with
  | .error error => (machine, .error error)
  | .ok machine => (machine, .ok ())

/-- A call on the machine. -/
inductive Call where
  | requestStatus
  | requestScan
  | requestJoin (entry : NetworkScanEntry) (passphrase : String)
  | requestJoinExplicit (ssid : String) (authentication : NetworkAuthentication)
      (passphrase : String) (bssid : Option Bssid) (channel : Option UInt8)
  | requestLeave
  | requestRecoverAp
  | nextRequest
  | acceptResponse (response : Response)
  | abandonPending
  | reset (transactionSeed : UInt64)

/-- What a call returned. -/
inductive Outcome where
  | done (result : NetworkResult Unit)
  | handed (result : NetworkResult UInt64)
  | next (result : NetworkResult (Option NetworkOperation))
  | accepted (result : NetworkResult NetworkUpdate)
  | abandoned (had : Bool)

def perform (machine : NetworkProvisioningMachine) :
    Call → NetworkProvisioningMachine × Outcome
  | .requestStatus => machine.requestStatus.map id .done
  | .requestScan => machine.requestScan.map id .handed
  | .requestJoin entry passphrase => (machine.requestJoin entry passphrase).map id .handed
  | .requestJoinExplicit ssid authentication passphrase bssid channel =>
    (machine.requestJoinExplicit ssid authentication passphrase bssid channel).map id .handed
  | .requestLeave => machine.requestLeave.map id .handed
  | .requestRecoverAp => machine.requestRecoverAp.map id .handed
  | .nextRequest => machine.nextRequest.map id .next
  | .acceptResponse response => (machine.acceptResponse response).map id .accepted
  | .abandonPending => machine.abandonPending.map id .abandoned
  | .reset transactionSeed => (machine.reset transactionSeed).map id .done

/-- One call on the machine. -/
abbrev Step : NetworkProvisioningMachine → Call × Outcome → NetworkProvisioningMachine → Prop :=
  Run.Calls perform

end NetworkProvisioningMachine

end Alumina.Client
