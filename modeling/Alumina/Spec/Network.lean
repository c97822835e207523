import Alumina.Client.NetworkLibrary

/-!
# Network mutations are not repeated blindly

A history lists the calls on the provisioning machine with what they returned. The mutation a
request carries is the one selected last, which is known by its transaction id.

## Key results

- `perform_cases`: everything a call can do
- `tracked_step`: what a call preserves
- `refuted_step`: a mutation that was sent is not ready again before the device denied it
- `networkMutation`: over every run no mutation is repeated without such a denial
-/

namespace Alumina.Client

namespace NetworkProvisioningMachine

section Runs

variable [NetworkWire] {machine next start : NetworkProvisioningMachine} {call : Call}
  {outcome : Outcome} {event : Call × Outcome} {history : List (Call × Outcome)}
  {intent : Intent} {transaction : UInt64}

/-! ## What a history shows -/

/-- The request a call emitted. -/
def Outcome.emitted : Outcome → Option NetworkOperation
  | .next (.ok operation) => operation
  | _ => none

/-- The transaction id a call handed out. -/
def Outcome.handedOut : Outcome → Option UInt64
  | .handed (.ok transactionId) => some transactionId
  | _ => none

/-- The outcome of a mutation is known. -/
def Outcome.Proves : Outcome → Prop
  | .accepted (.ok (.mutation _ _ _ _)) => True
  | _ => False

/-- The outcome of a mutation is known, or another one replaced it. -/
def Outcome.Concludes (outcome : Outcome) : Prop :=
  outcome.Proves ∨ outcome = .accepted (.error .superseded)

/-- The transaction ids handed out, in order. -/
def handedOut (history : List (Call × Outcome)) : List UInt64 :=
  history.filterMap (·.2.handedOut)

/-- The transaction selected last. -/
def selected (history : List (Call × Outcome)) : Option UInt64 := (handedOut history).getLast?

/-- A call after which no request is awaited. -/
def Settles : Call × Outcome → Prop
  | (.acceptResponse _, _) => True
  | (_, .abandoned true) => True
  | (.reset _, .done (.ok ())) => True
  | _ => False

/-- The seed a reset took. -/
def resetSeed : Call × Outcome → Option UInt64
  | (.reset transactionSeed, .done (.ok ())) => some transactionSeed
  | _ => none

/-- Every seed a reset took is larger than the ids handed out before it. -/
def SeedsIncrease (history : List (Call × Outcome)) : Prop :=
  history.Pairwise fun earlier event =>
    ∀ seed ∈ resetSeed event, ∀ id ∈ earlier.2.handedOut, id < seed

/-- The status accepted in a history denies that the device saw a mutation. -/
def Refuted (intent : Intent) (history : List (Call × Outcome)) : Prop :=
  ∃ response status, (.acceptResponse response, .accepted (.ok .retryRequired)) ∈ history ∧
    response.status = .ok ∧ NetworkWire.decodeStatus response.body = .ok status ∧
    (∃ id, intent.transactionId = some id ∧ status.lastTransactionId < id) ∧
    intent.expectedGeneration = some status.generation

/-- Operations that change the device's network. -/
def Mutates (operation : Operation) : Prop :=
  operation ∈ [.networkJoin, .networkLeave, .networkRecoverAp]

/-- The result of an operation that a status shows. -/
structure Terminal (operation : Operation) (status : NetworkStatus) (result : StatusCode) :
    Prop where
  inferred : result = networkFailureStatus status.lastFailure
  failed : result ≠ .ok → status.flags.lastOperationFailed
  succeeded : result = .ok → ¬ status.flags.lastOperationFailed ∧ status.flags.apExpected
  joined : result = .ok → operation = .networkJoin →
    status.stationLink = .addressed ∧ status.flags.stationConfigured
  left : result = .ok → operation ∈ [.networkLeave, .networkRecoverAp] →
    status.stationLink = .disconnected ∧ ¬ status.flags.stationConfigured

omit [NetworkWire] in
/-- What the code checks of a status shows the result of a mutation. -/
theorem terminal_of_outcome {status : NetworkStatus}
    (h : terminalOutcome intent status (networkFailureStatus status.lastFailure)) :
    Terminal intent.operation status (networkFailureStatus status.lastFailure) := by
  unfold terminalOutcome at h
  by_cases hok : networkFailureStatus status.lastFailure = .ok
  · rw [hok] at h ⊢
    simp only [ne_eq, not_true_eq_false, if_false] at h
    split at h
    · cases h
    next hflags =>
    rw [Bool.or_eq_true, Bool.not_eq_true', not_or, Bool.not_eq_false] at hflags
    refine ⟨hok.symm, nofun, fun _ => hflags, ?_, ?_⟩
    · rintro - hjoin
      cases intent <;> simp_all [Intent.operation]
    · rintro - hleave
      cases intent <;> simp_all [Intent.operation]
  · rw [if_pos hok] at h
    exact ⟨rfl, fun _ => h, fun hresult => absurd hresult hok, fun hresult => absurd hresult hok,
      fun hresult => absurd hresult hok⟩

omit [NetworkWire] in
theorem exists_transactionId (h : intent.mutation) : ∃ id, intent.transactionId = some id := by
  cases intent <;> simp_all [Intent.transactionId, Intent.mutation]

omit [NetworkWire] in
theorem mutates_operation (h : intent.mutation) : Mutates intent.operation := by
  cases intent <;> simp_all [Mutates, Intent.operation, Intent.mutation]

/-! ## Everything a call can do -/

/-- The outcome neither sends nor selects nor concludes anything. -/
structure Outcome.Silent (outcome : Outcome) : Prop where
  emitted : outcome.emitted = none
  handedOut : outcome.handedOut = none
  unconcluded : ¬ outcome.Concludes

/-- Everything a call can do. -/
inductive Transition (machine : NetworkProvisioningMachine) :
    Call × Outcome → NetworkProvisioningMachine → Prop
  | kept (call : Call) (outcome : Outcome) (nextTransactionId : UInt64)
      (grows : machine.nextTransactionId ≤ nextTransactionId) (silent : outcome.Silent) :
      Transition machine (call, outcome) { machine with nextTransactionId }
  | dropped (call : Call) (outcome : Outcome) (latestStatus : Option NetworkStatus)
      (latestScan : Option NetworkScanResult) (emitted : outcome.emitted = none)
      (handedOut : outcome.handedOut = none)
      (unproven : ¬ outcome.Proves)
      (settles : machine.phase = .awaitingResponse → Settles (call, outcome)) :
      Transition machine (call, outcome) { machine with state := none, latestStatus, latestScan }
  | polled (idle : machine.state = none) :
      Transition machine (.requestStatus, .done (.ok ()))
        { machine with state := some (.ready .status) }
  | selected (call : Call) (intent : Intent) (nextTransactionId : UInt64)
      (idle : machine.state = none)
      (bound : intent.transactionId = some machine.nextTransactionId)
      (advances : nextTransactionId.toNat = machine.nextTransactionId.toNat + 1) :
      Transition machine (call, .handed (.ok machine.nextTransactionId))
        { machine with nextTransactionId, state := some (.ready intent) }
  | sent (intent : Intent) (operation : NetworkOperation)
      (ready : machine.state = some (.ready intent))
      (encoded : intent.operationBody = .ok operation) :
      Transition machine (.nextRequest, .next (.ok (some operation)))
        { machine with state := some (.awaiting intent false) }
  | inspected (intent : Intent) (ambiguous : machine.state = some (.reconciling intent)) :
      Transition machine (.nextRequest, .next (.ok (some ⟨.networkStatus, []⟩)))
        { machine with state := some (.awaiting intent true) }
  | returned (call : Call) (outcome : Outcome) (intent : Intent) (reconciliation : Bool)
      (state : ProvisioningState) (latestStatus : Option NetworkStatus)
      (awaited : machine.state = some (.awaiting intent reconciliation)) (silent : outcome.Silent)
      (settles : Settles (call, outcome))
      (kept : state = .reconciling intent ∧ (reconciliation = false → intent.mutation) ∨
        state = .ready intent ∧ intent.mutation = false) :
      Transition machine (call, outcome) { machine with state := some state, latestStatus }
  | denied (response : Response) (intent : Intent) (status : NetworkStatus)
      (awaited : machine.state = some (.awaiting intent true)) (accepted : response.status = .ok)
      (decoded : NetworkWire.decodeStatus response.body = .ok status)
      (unseen : ∃ id, intent.transactionId = some id ∧ status.lastTransactionId < id)
      (unchanged : intent.expectedGeneration = some status.generation) :
      Transition machine (.acceptResponse response, .accepted (.ok .retryRequired))
        { machine with state := some (.ready intent), latestStatus := some status }
  | concluded (response : Response) (intent : Intent) (reconciliation : Bool)
      (status : NetworkStatus) (reconciled : Bool)
      (awaited : machine.state = some (.awaiting intent reconciliation))
      (mutates : reconciliation = false → intent.mutation)
      (decoded : NetworkWire.decodeStatus response.body = .ok status)
      (shown : intent.transactionId = some status.lastTransactionId)
      (terminal : terminalOutcome intent status (networkFailureStatus status.lastFailure)) :
      Transition machine
        (.acceptResponse response, .accepted (.ok (.mutation intent.operation
          (networkFailureStatus status.lastFailure) status reconciled)))
        { machine with state := none, latestStatus := some status }
  | reset (transactionSeed : UInt64) :
      Transition machine (.reset transactionSeed, .done (.ok ()))
        ⟨transactionSeed, none, none, none⟩

omit [NetworkWire] in
theorem phase_eq_awaiting : machine.phase = .awaitingResponse ↔
    ∃ intent reconciliation, machine.state = some (.awaiting intent reconciliation) := by
  unfold phase
  split <;> simp_all

/-- A call that keeps the machine and says nothing. -/
private theorem Transition.same (silent : outcome.Silent) :
    Transition machine (call, outcome) machine :=
  .kept call outcome machine.nextTransactionId (UInt64.le_refl _) silent

theorem silent_accepted_error {error : NetworkClientError} (h : error ≠ .superseded) :
    (Outcome.accepted (.error error)).Silent := by
  refine ⟨rfl, rfl, ?_⟩
  rintro (hproves | hsuperseded)
  · exact hproves
  · cases hsuperseded
    exact h rfl

/-- An outcome of anything but a response concludes nothing. -/
private theorem silent_of_unaccepted (hemitted : outcome.emitted = none)
    (hhanded : outcome.handedOut = none) (h : ∀ result, outcome ≠ .accepted result) :
    outcome.Silent := by
  refine ⟨hemitted, hhanded, ?_⟩
  rintro (hproves | hsuperseded)
  · unfold Outcome.Proves at hproves
    split at hproves
    · exact h _ rfl
    · exact hproves
  · exact h _ hsuperseded

theorem silent_handed_error {error : NetworkClientError} :
    (Outcome.handed (.error error)).Silent :=
  silent_of_unaccepted rfl rfl (by simp)

theorem requireIdle_eq_ok : machine.requireIdle = .ok () ↔ machine.state = none := by
  unfold requireIdle
  split <;> simp_all

theorem allocateTransaction_eq_ok {allocated : UInt64 × NetworkProvisioningMachine}
    (h : machine.allocateTransaction = .ok allocated) :
    allocated.1 = machine.nextTransactionId ∧ ∃ nextTransactionId : UInt64,
      nextTransactionId.toNat = machine.nextTransactionId.toNat + 1 ∧
        allocated.2 = { machine with nextTransactionId } := by
  simp only [allocateTransaction, Except.bind_eq_ok, Option.okOr_eq_ok, Option.filter_eq_some_iff,
    Except.pure_eq_ok] at h
  obtain ⟨nextTransactionId, ⟨hadd, -⟩, rfl⟩ := h
  exact ⟨rfl, nextTransactionId, UInt64.checkedAdd_eq_some.1 hadd, rfl⟩

theorem bindMutation_eq_ok {bound : UInt64 × UInt32 × NetworkProvisioningMachine}
    (h : machine.bindMutation = .ok bound) :
    machine.state = none ∧ bound.1 = machine.nextTransactionId ∧ ∃ nextTransactionId : UInt64,
      nextTransactionId.toNat = machine.nextTransactionId.toNat + 1 ∧
        bound.2.2 = { machine with nextTransactionId } := by
  simp only [bindMutation, Except.bind_eq_ok, Except.exists_unit, requireIdle_eq_ok,
    Except.pure_eq_ok] at h
  obtain ⟨hidle, status, -, allocated, hallocated, rfl⟩ := h
  exact ⟨hidle, allocateTransaction_eq_ok hallocated⟩

private theorem requestScan_transition :
    Transition machine (.requestScan, .handed machine.requestScan.2) machine.requestScan.1 := by
  unfold requestScan
  cases hallocated : (do machine.requireIdle; machine.allocateTransaction) with
  | error error => exact .same silent_handed_error
  | ok allocated =>
    simp only [Except.bind_eq_ok, Except.exists_unit, requireIdle_eq_ok] at hallocated
    obtain ⟨hidle, hallocated⟩ := hallocated
    obtain ⟨transactionId, machine'⟩ := allocated
    obtain ⟨rfl, nextTransactionId, hadvances, rfl⟩ := allocateTransaction_eq_ok hallocated
    exact .selected _ (.scan ⟨_⟩) nextTransactionId hidle rfl hadvances

private theorem selectMutation_transition (call : Call) (recover : Bool) :
    Transition machine (call, .handed (machine.selectMutation recover).2)
      (machine.selectMutation recover).1 := by
  unfold selectMutation
  cases hbound : machine.bindMutation with
  | error error => exact .same silent_handed_error
  | ok bound =>
    obtain ⟨transactionId, generation, machine'⟩ := bound
    obtain ⟨hidle, rfl, nextTransactionId, hadvances, rfl⟩ := bindMutation_eq_ok hbound
    cases recover with
    | false => exact .selected _ (.leave ⟨_, generation⟩) nextTransactionId hidle rfl hadvances
    | true => exact .selected _ (.recover ⟨_, generation⟩) nextTransactionId hidle rfl hadvances

private theorem requestJoinExplicit_transition [LawfulNetworkWire] (call : Call) (ssid : String)
    (authentication : NetworkAuthentication) (passphrase : String) (bssid : Option Bssid)
    (channel : Option UInt8) :
    Transition machine
      (call, .handed
        (machine.requestJoinExplicit ssid authentication passphrase bssid channel).2)
      (machine.requestJoinExplicit ssid authentication passphrase bssid channel).1 := by
  unfold requestJoinExplicit
  cases hbound : machine.bindMutation with
  | error error => exact .same silent_handed_error
  | ok bound =>
    obtain ⟨transactionId, generation, machine'⟩ := bound
    obtain ⟨hidle, rfl, nextTransactionId, hadvances, rfl⟩ := bindMutation_eq_ok hbound
    simp only
    cases hrequest : NetworkWire.joinRequest machine.nextTransactionId generation ssid
        authentication passphrase bssid channel with
    | error error =>
      -- The rejected request has used up its transaction.
      have hgrows : machine.nextTransactionId ≤ nextTransactionId := by
        rw [UInt64.le_iff_toNat_le]
        omega
      exact .kept _ _ nextTransactionId hgrows silent_handed_error
    | ok request =>
      have hbound : (Intent.join request).transactionId = some machine.nextTransactionId :=
        congrArg some (LawfulNetworkWire.joinRequest_transactionId hrequest)
      exact .selected _ (.join request) nextTransactionId hidle hbound hadvances

private theorem nextRequest_transition :
    Transition machine (.nextRequest, .next machine.nextRequest.2) machine.nextRequest.1 := by
  unfold nextRequest
  cases hstate : machine.state with
  | none => exact .same (silent_of_unaccepted rfl rfl (by simp))
  | some state =>
    cases state with
    | ready intent =>
      simp only
      cases hencoded : intent.operationBody with
      | error error =>
        have hready : machine.phase ≠ .awaitingResponse := by simp [phase_eq_awaiting, hstate]
        exact .dropped _ _ _ _ rfl rfl id fun hphase => absurd hphase hready
      | ok operation => exact .sent intent operation hstate hencoded
    | awaiting intent reconciliation => exact .same (silent_of_unaccepted rfl rfl (by simp))
    | reconciling intent => exact .inspected intent hstate

/-- An inconclusive answer to a mutation keeps it for reconciliation. -/
private theorem reconciling_transition {error : NetworkClientError} {response : Response}
    {reconciliation : Bool} (hstate : machine.state = some (.awaiting intent reconciliation))
    (hmutation : reconciliation = false → intent.mutation) (herror : error ≠ .superseded)
    (latestStatus : Option NetworkStatus) :
    Transition machine (.acceptResponse response, .accepted (.error error))
      { machine with state := some (.reconciling intent), latestStatus } :=
  .returned _ _ intent reconciliation _ latestStatus hstate (silent_accepted_error herror) trivial
    (Or.inl ⟨rfl, hmutation⟩)

private theorem acceptMutationResponse_transition (response : Response)
    (hstate : machine.state = some (.awaiting intent false)) (hmutation : intent.mutation) :
    Transition machine
      (.acceptResponse response, .accepted
        (acceptMutationResponse { machine with state := none } intent response false).2)
      (acceptMutationResponse { machine with state := none } intent response false).1 := by
  have hkept {error : NetworkClientError} (herror : error ≠ .superseded) :
      Transition machine (.acceptResponse response, .accepted (.error error))
        { machine with state := some (.reconciling intent) } :=
    reconciling_transition hstate (fun _ => hmutation) herror machine.latestStatus
  unfold acceptMutationResponse
  cases hdecoded : NetworkWire.decodeStatus response.body with
  | error error => exact hkept (by simp)
  | ok status =>
    simp only
    split
    · exact hkept (by simp)
    next hshown =>
    rw [not_not] at hshown
    split
    · exact hkept (by simp)
    next hterminal =>
    rw [not_or, not_not, not_not] at hterminal
    exact .concluded response intent false status false hstate (fun _ => hmutation) hdecoded
      hshown hterminal.2

private theorem acceptReconciliation_transition (response : Response)
    (hstate : machine.state = some (.awaiting intent true)) :
    Transition machine
      (.acceptResponse response, .accepted
        (acceptReconciliation { machine with state := none } intent response).2)
      (acceptReconciliation { machine with state := none } intent response).1 := by
  have hkept {error : NetworkClientError} (herror : error ≠ .superseded)
      (latestStatus : Option NetworkStatus) :
      Transition machine (.acceptResponse response, .accepted (.error error))
        { machine with state := some (.reconciling intent), latestStatus } :=
    reconciling_transition hstate nofun herror latestStatus
  unfold acceptReconciliation
  by_cases haccepted : response.status = .ok
  · rw [if_neg (not_not.2 haccepted)]
    cases hdecoded : NetworkWire.decodeStatus response.body with
    | error error => exact hkept (by simp) machine.latestStatus
    | ok status =>
      simp only
      split
      · next hshown =>
        split
        · next hterminal =>
          exact .concluded response intent true status true hstate nofun hdecoded hshown hterminal
        · exact hkept (by simp) (some status)
      next hother =>
      split
      · next hdenied =>
        obtain ⟨hunseen, hunchanged⟩ := hdenied
        rw [Option.any_eq_true] at hunseen
        obtain ⟨id, hid, hless⟩ := hunseen
        exact .denied response intent status hstate haccepted hdecoded
          ⟨id, hid, of_decide_eq_true hless⟩ hunchanged
      · exact .dropped _ _ _ _ rfl rfl id fun _ => trivial
  · rw [if_pos haccepted]
    exact hkept (by simp) machine.latestStatus

private theorem acceptStatusResponse_transition (response : Response)
    (hstate : machine.state = some (.awaiting .status false)) :
    Transition machine
      (.acceptResponse response, .accepted
        (acceptStatusResponse { machine with state := none } response).2)
      (acceptStatusResponse { machine with state := none } response).1 := by
  unfold acceptStatusResponse
  split
  · split
    · exact .returned _ _ .status false _ machine.latestStatus hstate
        (silent_accepted_error (by simp)) trivial (Or.inr ⟨rfl, rfl⟩)
    · exact .dropped _ _ _ _ rfl rfl id fun _ => trivial
  · cases NetworkWire.decodeStatus response.body with
    | error error => exact .dropped _ _ _ _ rfl rfl id fun _ => trivial
    | ok status => exact .dropped _ _ _ _ rfl rfl id fun _ => trivial

private theorem acceptScanResponse_transition {request : NetworkScanRequest} (response : Response)
    (hstate : machine.state = some (.awaiting (.scan request) false)) :
    Transition machine
      (.acceptResponse response, .accepted
        (acceptScanResponse { machine with state := none } request response).2)
      (acceptScanResponse { machine with state := none } request response).1 := by
  have hrepeated {error : NetworkClientError} (herror : error ≠ .superseded) :
      Transition machine (.acceptResponse response, .accepted (.error error))
        { machine with state := some (.ready (.scan request)) } :=
    .returned _ _ (.scan request) false _ machine.latestStatus hstate
      (silent_accepted_error herror) trivial (Or.inr ⟨rfl, rfl⟩)
  unfold acceptScanResponse
  split
  · split
    · exact hrepeated (by simp)
    · exact .dropped _ _ _ _ rfl rfl id fun _ => trivial
  · cases NetworkWire.decodeScan response.body with
    | error error => exact hrepeated (by simp)
    | ok result =>
      simp only
      split
      · exact .dropped _ _ _ _ rfl rfl id fun _ => trivial
      · exact hrepeated (by simp)

private theorem acceptResponse_transition (response : Response) :
    Transition machine (.acceptResponse response, .accepted (machine.acceptResponse response).2)
      (machine.acceptResponse response).1 := by
  unfold acceptResponse
  split
  · next intent reconciliation hstate =>
    cases reconciliation with
    | true => exact acceptReconciliation_transition response hstate
    | false =>
      simp only [Bool.false_eq_true, if_false]
      cases intent with
      | status => exact acceptStatusResponse_transition response hstate
      | scan request => exact acceptScanResponse_transition response hstate
      | join request => exact acceptMutationResponse_transition response hstate rfl
      | leave request => exact acceptMutationResponse_transition response hstate rfl
      | recover request => exact acceptMutationResponse_transition response hstate rfl
  · exact .dropped _ _ _ _ rfl rfl id fun _ => trivial

private theorem abandonPending_transition :
    Transition machine (.abandonPending, .abandoned machine.abandonPending.2)
      machine.abandonPending.1 := by
  unfold abandonPending
  split
  · next intent reconciliation hstate =>
    apply Transition.returned _ _ intent reconciliation _ machine.latestStatus hstate
    · exact silent_of_unaccepted rfl rfl (by simp)
    · trivial
    · split
      · next hmutation => exact Or.inl ⟨rfl, fun _ => hmutation⟩
      · next hmutation => exact Or.inr ⟨rfl, Bool.eq_false_iff.2 hmutation⟩
  · next hstate =>
    apply Transition.dropped _ _ _ _ rfl rfl id
    intro hphase
    obtain ⟨intent, reconciliation, hawaited⟩ := phase_eq_awaiting.1 hphase
    exact absurd hawaited (hstate intent reconciliation)

theorem perform_cases [LawfulNetworkWire] (h : Step machine (call, outcome) next) :
    Transition machine (call, outcome) next := by
  have hperform : machine.perform call = (next, outcome) := h
  have hgoal : Transition machine (call, (machine.perform call).2) (machine.perform call).1 := by
    cases call with
    | requestStatus =>
      simp only [perform, requestStatus]
      cases hidle : machine.requireIdle with
      | error error => exact .same (silent_of_unaccepted rfl rfl (by simp))
      | ok _ => exact .polled (requireIdle_eq_ok.1 hidle)
    | requestScan => exact requestScan_transition
    | requestJoin entry passphrase =>
      exact requestJoinExplicit_transition _ entry.ssid entry.authentication passphrase
        (some entry.bssid) (some entry.channel)
    | requestJoinExplicit ssid authentication passphrase bssid channel =>
      exact requestJoinExplicit_transition _ ssid authentication passphrase bssid channel
    | requestLeave => exact selectMutation_transition _ false
    | requestRecoverAp => exact selectMutation_transition _ true
    | nextRequest => exact nextRequest_transition
    | acceptResponse response => exact acceptResponse_transition response
    | abandonPending => exact abandonPending_transition
    | reset transactionSeed =>
      simp only [perform, reset]
      cases hstart : startingAt transactionSeed with
      | error error => exact .same (silent_of_unaccepted rfl rfl (by simp))
      | ok machine' =>
        unfold startingAt at hstart
        split at hstart
        · cases hstart
        · cases hstart
          exact .reset transactionSeed
  rw [hperform] at hgoal
  exact hgoal

/-! ## What is known of a machine -/

/-- The intent the machine holds. -/
def retained (machine : NetworkProvisioningMachine) : Option Intent :=
  machine.state.map fun
    | .ready intent | .awaiting intent _ | .reconciling intent => intent

/-- A request of an intent was emitted since it was selected. -/
def Sent (history : List (Call × Outcome)) (intent : Intent) : Prop :=
  ∃ before event after operation, history = before ++ event :: after ∧
    event.2.emitted = some operation ∧ intent.operationBody = .ok operation ∧
    selected before = selected history

/-- What is known of a machine from its history. -/
structure Tracked (history : List (Call × Outcome)) (machine : NetworkProvisioningMachine) :
    Prop where
  below : ∀ id ∈ handedOut history, id < machine.nextTransactionId
  increasing : (handedOut history).Pairwise (· < ·)
  bound : ∀ intent, machine.retained = some intent → ∀ id, intent.transactionId = some id →
    selected history = some id
  mutation : ∀ intent, machine.state = some (.awaiting intent true) ∨
    machine.state = some (.reconciling intent) → intent.mutation
  sent : ∀ intent, (∃ reconciliation, machine.state = some (.awaiting intent reconciliation)) ∨
    machine.state = some (.reconciling intent) → intent.mutation → Sent history intent

theorem SeedsIncrease.of_append {more : List (Call × Outcome)}
    (h : SeedsIncrease (history ++ more)) : SeedsIncrease history :=
  (List.pairwise_append.1 h).1

/-- A seed taken later is larger than what was handed out. -/
theorem SeedsIncrease.larger {more : List (Call × Outcome)} (h : SeedsIncrease (history ++ more))
    {seed id : UInt64} (hevent : event ∈ more) (hseed : resetSeed event = some seed)
    (hid : id ∈ handedOut history) : id < seed := by
  obtain ⟨earlier, hearlier, hhanded⟩ := List.mem_filterMap.1 hid
  exact (List.pairwise_append.1 h).2.2 earlier hearlier event hevent seed hseed id hhanded

theorem handedOut_concat : handedOut (history ++ [event]) =
    handedOut history ++ event.2.handedOut.toList := by
  rw [handedOut, handedOut, List.filterMap_append]
  cases hevent : event.2.handedOut <;> simp [hevent]

theorem selected_concat (h : event.2.handedOut = none) :
    selected (history ++ [event]) = selected history := by
  rw [selected, handedOut_concat, h]
  simp [selected]

/-- What was sent stays sent while nothing else is selected. -/
theorem Sent.concat (h : Sent history intent) (hevent : event.2.handedOut = none) :
    Sent (history ++ [event]) intent := by
  obtain ⟨before, earlier, after, operation, rfl, hemitted, hencoded, hsame⟩ := h
  refine ⟨before, earlier, after ++ [event], operation, by simp, hemitted, hencoded, ?_⟩
  rw [selected_concat hevent, hsame]

/-- A call that selects nothing keeps what is known, if it holds no more than before. -/
theorem Tracked.unselected (hs : Tracked history machine) (hevent : event.2.handedOut = none)
    (hgrows : machine.nextTransactionId ≤ next.nextTransactionId)
    (hretained : ∀ intent, next.retained = some intent → ∀ id, intent.transactionId = some id →
      machine.retained = some intent)
    (hmutation : ∀ intent, next.state = some (.awaiting intent true) ∨
      next.state = some (.reconciling intent) → intent.mutation)
    (hsent : ∀ intent,
      (∃ reconciliation, next.state = some (.awaiting intent reconciliation)) ∨
        next.state = some (.reconciling intent) → intent.mutation →
          Sent (history ++ [event]) intent) :
    Tracked (history ++ [event]) next := by
  have hsame : handedOut (history ++ [event]) = handedOut history := by
    simp [handedOut_concat, hevent]
  refine ⟨?_, ?_, ?_, hmutation, hsent⟩
  · intro id hid
    rw [hsame] at hid
    exact UInt64.lt_of_lt_of_le (hs.below id hid) hgrows
  · rw [hsame]
    exact hs.increasing
  · intro intent hintent id hid
    rw [selected_concat hevent]
    exact hs.bound intent (hretained intent hintent id hid) id hid

/-- What is known of a machine stays known after a call. -/
theorem tracked_step [LawfulNetworkWire] (hseeds : SeedsIncrease (history ++ [event]))
    (h : Step machine event next) (hs : Tracked history machine) :
    Tracked (history ++ [event]) next := by
  obtain ⟨call, outcome⟩ := event
  cases perform_cases h with
  | kept _ _ nextTransactionId grows silent =>
    refine hs.unselected silent.handedOut grows (fun _ hintent _ _ => hintent) hs.mutation ?_
    intro intent hheld hmutation
    exact (hs.sent intent hheld hmutation).concat silent.handedOut
  | dropped _ _ _ _ emitted handedOut unproven settles =>
    exact hs.unselected handedOut (UInt64.le_refl _) nofun (by simp) (by simp)
  | polled idle =>
    refine hs.unselected rfl (UInt64.le_refl _) ?_ ?_ ?_
    · rintro _ ⟨⟩ id ⟨⟩
    · simp
    · simp
  | selected _ intent nextTransactionId idle bound advances =>
    have hless : machine.nextTransactionId < nextTransactionId := by
      rw [UInt64.lt_iff_toNat_lt]
      omega
    have hhanded : handedOut (history ++ [(call, .handed (.ok machine.nextTransactionId))]) =
        handedOut history ++ [machine.nextTransactionId] := handedOut_concat
    refine ⟨?_, ?_, ?_, by simp, by simp⟩
    · intro id hid
      rw [hhanded, List.mem_append, List.mem_singleton] at hid
      rcases hid with hold | rfl
      · exact UInt64.lt_trans (hs.below id hold) hless
      · exact hless
    · rw [hhanded, List.pairwise_append]
      refine ⟨hs.increasing, List.pairwise_singleton _ _, ?_⟩
      intro id hid latest hlatest
      rw [List.mem_singleton.1 hlatest]
      exact hs.below id hid
    · rintro _ ⟨⟩ id hid
      rw [NetworkProvisioningMachine.selected, hhanded, List.getLast?_append, ← hid, bound]
      rfl
  | sent intent operation ready encoded =>
    refine hs.unselected rfl (UInt64.le_refl _) ?_ ?_ ?_
    · rintro _ ⟨⟩ id -
      rw [retained, ready]
      rfl
    · simp
    · simp only [Option.some.injEq, ProvisioningState.awaiting.injEq, exists_and_left, exists_eq',
        and_true, reduceCtorEq, or_false]
      rintro _ rfl -
      exact ⟨history, _, [], operation, rfl, rfl, encoded, (selected_concat rfl).symm⟩
  | inspected intent ambiguous =>
    have hmutation : intent.mutation := hs.mutation intent (Or.inr ambiguous)
    have hsent : Sent (history ++ [(.nextRequest, .next (.ok (some ⟨.networkStatus, []⟩)))])
        intent :=
      (hs.sent intent (Or.inr ambiguous) hmutation).concat rfl
    refine hs.unselected rfl (UInt64.le_refl _) ?_ ?_ ?_
    · rintro _ ⟨⟩ id -
      rw [retained, ambiguous]
      rfl
    · simpa using hmutation
    · simpa using fun _ => hsent
  | returned _ _ intent reconciliation state latestStatus awaited silent settles kept =>
    have hretained : machine.retained = some intent := by
      rw [retained, awaited]
      rfl
    refine hs.unselected silent.handedOut (UInt64.le_refl _) ?_ ?_ ?_
    · rcases kept with ⟨rfl, -⟩ | ⟨rfl, -⟩
      · rintro _ ⟨⟩ id -
        exact hretained
      · rintro _ ⟨⟩ id -
        exact hretained
    · rcases kept with ⟨rfl, hmutation⟩ | ⟨rfl, -⟩
      · rintro _ (⟨⟨⟩⟩ | ⟨⟨⟩⟩)
        cases reconciliation with
        | false => exact hmutation rfl
        | true => exact hs.mutation intent (Or.inl awaited)
      · simp
    · rcases kept with ⟨rfl, -⟩ | ⟨rfl, -⟩
      · rintro _ (⟨_, ⟨⟩⟩ | ⟨⟨⟩⟩) hmutation
        exact (hs.sent intent (Or.inl ⟨_, awaited⟩) hmutation).concat silent.handedOut
      · simp
  | denied response intent status awaited accepted decoded unseen unchanged =>
    refine hs.unselected rfl (UInt64.le_refl _) ?_ ?_ ?_
    · rintro _ ⟨⟩ id -
      rw [retained, awaited]
      rfl
    · simp
    · simp
  | concluded => exact hs.unselected rfl (UInt64.le_refl _) nofun (by simp) (by simp)
  | reset transactionSeed =>
    have hhanded : handedOut (history ++ [(.reset transactionSeed, .done (.ok ()))]) =
        handedOut history := by simp [handedOut_concat, Outcome.handedOut]
    refine ⟨?_, ?_, nofun, by simp, by simp⟩
    · intro id hid
      rw [hhanded] at hid
      exact hseeds.larger (List.mem_singleton_self _) rfl hid
    · rw [hhanded]
      exact hs.increasing

theorem tracked_of_run [LawfulNetworkWire] {transactionSeed : UInt64}
    (hstart : startingAt transactionSeed = .ok start) (hseeds : SeedsIncrease history)
    (h : Run Step start history machine) : Tracked history machine := by
  unfold startingAt at hstart
  split at hstart
  · cases hstart
  cases hstart
  have hinitial : SeedsIncrease [] → Tracked [] ⟨transactionSeed, none, none, none⟩ :=
    fun _ => ⟨by simp [handedOut], .nil, nofun, by simp, by simp⟩
  have hsteps : ∀ past s event t, Step s event t → (SeedsIncrease past → Tracked past s) →
      SeedsIncrease (past ++ [event]) → Tracked (past ++ [event]) t :=
    fun past s event t hstep hs hseeds => tracked_step hseeds hstep (hs hseeds.of_append)
  exact h.along_history hsteps hinitial hseeds

/-! ## No blind repetition -/

/-- A mutation that was sent: while it is held it is ready again only if it was denied. -/
structure Barred (intent : Intent) (transaction : UInt64) (history : List (Call × Outcome))
    (machine : NetworkProvisioningMachine) : Prop where
  below : transaction < machine.nextTransactionId
  same : ∀ held, machine.retained = some held → held.transactionId = some transaction →
    held = intent
  denied : machine.state = some (.ready intent) → Refuted intent history

theorem Refuted.mono {more : List (Call × Outcome)} (h : Refuted intent history) :
    Refuted intent (history ++ more) := by
  obtain ⟨response, status, hmem, hrest⟩ := h
  exact ⟨response, status, List.mem_append_left _ hmem, hrest⟩

/-- A mutation that was sent is not ready again before the device denied it. -/
theorem barred_step [LawfulNetworkWire] (hmutation : intent.mutation)
    (hbound : intent.transactionId = some transaction)
    (hseeds : ∀ seed, resetSeed event = some seed → transaction < seed)
    (h : Step machine event next) (hs : Barred intent transaction history machine) :
    Barred intent transaction (history ++ [event]) next := by
  obtain ⟨call, outcome⟩ := event
  cases perform_cases h with
  | kept _ _ nextTransactionId grows silent =>
    exact ⟨UInt64.lt_of_lt_of_le hs.below grows, hs.same, fun hready => (hs.denied hready).mono⟩
  | dropped => exact ⟨hs.below, nofun, nofun⟩
  | polled idle =>
    refine ⟨hs.below, ?_, ?_⟩
    · rintro _ ⟨⟩ ⟨⟩
    · rintro ⟨⟩
      cases hmutation
  | selected _ other nextTransactionId idle fresh advances =>
    have hless : machine.nextTransactionId < nextTransactionId := by
      rw [UInt64.lt_iff_toNat_lt]
      omega
    -- The transaction selected now is a later one.
    have hother : other.transactionId ≠ some transaction := by
      rw [fresh]
      intro hsame
      cases hsame
      exact UInt64.lt_irrefl _ hs.below
    refine ⟨UInt64.lt_trans hs.below hless, ?_, ?_⟩
    · rintro _ ⟨⟩ hheld
      exact absurd hheld hother
    · rintro ⟨⟩
      exact absurd hbound hother
  | sent held operation ready encoded =>
    refine ⟨hs.below, ?_, nofun⟩
    rintro _ ⟨⟩ hheld
    exact hs.same held (by rw [retained, ready]; rfl) hheld
  | inspected held ambiguous =>
    refine ⟨hs.below, ?_, nofun⟩
    rintro _ ⟨⟩ hheld
    exact hs.same held (by rw [retained, ambiguous]; rfl) hheld
  | returned _ _ held reconciliation state latestStatus awaited silent settles kept =>
    have hretained : machine.retained = some held := by
      rw [retained, awaited]
      rfl
    rcases kept with ⟨rfl, -⟩ | ⟨rfl, hquery⟩
    · refine ⟨hs.below, ?_, nofun⟩
      rintro _ ⟨⟩ hheld
      exact hs.same held hretained hheld
    · refine ⟨hs.below, ?_, ?_⟩
      · rintro _ ⟨⟩ hheld
        exact hs.same held hretained hheld
      · rintro ⟨⟩
        rw [hquery] at hmutation
        cases hmutation
  | denied response held status awaited accepted decoded unseen unchanged =>
    refine ⟨hs.below, ?_, ?_⟩
    · rintro _ ⟨⟩ hheld
      exact hs.same held (by rw [retained, awaited]; rfl) hheld
    · rintro ⟨⟩
      exact ⟨response, status, by simp, accepted, decoded, unseen, unchanged⟩
  | concluded => exact ⟨hs.below, nofun, nofun⟩
  | reset transactionSeed => exact ⟨hseeds transactionSeed rfl, nofun, nofun⟩

theorem operation_of_encoded {operation : NetworkOperation}
    (h : intent.operationBody = .ok operation) : operation.operation = intent.operation := by
  cases intent <;>
    simp only [Intent.operationBody, Except.bind_eq_ok, Except.pure_eq_ok] at h <;>
    obtain ⟨body, -, rfl⟩ := h <;> rfl

theorem Barred.of_run [LawfulNetworkWire] {between : List (Call × Outcome)}
    (hmutation : intent.mutation) (hbound : intent.transactionId = some transaction)
    (h : Run Step machine between next)
    (hlarger : ∀ event ∈ between, ∀ seed, resetSeed event = some seed → transaction < seed)
    (hs : Barred intent transaction history machine) :
    Barred intent transaction (history ++ between) next := by
  induction h generalizing history with
  | nil => simpa using hs
  | @cons _ _ _ event _ head tail ih =>
    have hnext := barred_step hmutation hbound (hlarger event (by simp)) head hs
    have hlater := ih (fun earlier hearlier => hlarger earlier (by simp [hearlier])) hnext
    rwa [List.append_assoc] at hlater

/-- Only an intent that is ready is sent as a mutation. -/
theorem ready_of_emitted [LawfulNetworkWire] {operation : NetworkOperation}
    (h : Step machine event next) (hemitted : event.2.emitted = some operation)
    (hmutates : Mutates operation.operation) :
    ∃ intent, machine.state = some (.ready intent) ∧ intent.operationBody = .ok operation ∧
      intent.mutation ∧ next.state = some (.awaiting intent false) ∧
      next.nextTransactionId = machine.nextTransactionId := by
  obtain ⟨call, outcome⟩ := event
  cases perform_cases h with
  | kept _ _ _ grows silent =>
    rw [silent.emitted] at hemitted
    cases hemitted
  | dropped _ _ _ _ emitted =>
    rw [emitted] at hemitted
    cases hemitted
  | sent intent request ready encoded =>
    cases hemitted
    refine ⟨intent, ready, encoded, ?_, rfl, rfl⟩
    rw [operation_of_encoded encoded] at hmutates
    cases intent <;> simp_all [Mutates, Intent.operation, Intent.mutation]
  | inspected intent ambiguous =>
    cases hemitted
    simp [Mutates] at hmutates
  | returned _ _ _ _ _ _ awaited silent =>
    rw [silent.emitted] at hemitted
    cases hemitted
  | polled => cases hemitted
  | selected => cases hemitted
  | denied => cases hemitted
  | concluded => cases hemitted
  | reset => cases hemitted

/-- A call that emits leaves its request awaited, and none was awaited before. -/
theorem emits_once [LawfulNetworkWire] (h : Step machine event next)
    (hemitted : event.2.emitted.isSome) :
    machine.phase ≠ .awaitingResponse ∧ next.phase = .awaitingResponse := by
  obtain ⟨call, outcome⟩ := event
  cases perform_cases h with
  | kept _ _ _ grows silent => simp [silent.emitted] at hemitted
  | dropped _ _ _ _ emitted => simp [emitted] at hemitted
  | sent intent operation ready encoded => simp [phase, ready]
  | inspected intent ambiguous => simp [phase, ambiguous]
  | returned _ _ _ _ _ _ awaited silent => simp [silent.emitted] at hemitted
  | polled => cases hemitted
  | selected => cases hemitted
  | denied => cases hemitted
  | concluded => cases hemitted
  | reset => cases hemitted

/-- An awaited request stays awaited until a call settles it. -/
theorem awaiting_step [LawfulNetworkWire] (h : Step machine event next)
    (hawaiting : machine.phase = .awaitingResponse) (hsettles : ¬ Settles event) :
    next.phase = .awaitingResponse := by
  obtain ⟨intent, reconciliation, hstate⟩ := phase_eq_awaiting.1 hawaiting
  obtain ⟨call, outcome⟩ := event
  cases perform_cases h with
  | kept => exact hawaiting
  | dropped _ _ _ _ emitted handedOut unproven settles => exact absurd (settles hawaiting) hsettles
  | sent => rfl
  | inspected => rfl
  | returned _ _ _ _ _ _ awaited silent settles => exact absurd settles hsettles
  | polled idle => simp [hstate] at idle
  | selected _ _ _ idle => simp [hstate] at idle
  | denied => exact absurd trivial hsettles
  | concluded => exact absurd trivial hsettles
  | reset => exact absurd trivial hsettles

/-- A call that proves the result of a mutation was answered by its status. -/
theorem concluded_of_proved [LawfulNetworkWire] {operation : Operation} {result : StatusCode}
    {status : NetworkStatus} {reconciled : Bool} (h : Step machine event next)
    (hproved : event.2 = .accepted (.ok (.mutation operation result status reconciled))) :
    ∃ intent response, event.1 = .acceptResponse response ∧ operation = intent.operation ∧
      (∃ reconciliation, machine.state = some (.awaiting intent reconciliation) ∧
        (reconciliation = false → intent.mutation)) ∧
      NetworkWire.decodeStatus response.body = .ok status ∧
      intent.transactionId = some status.lastTransactionId ∧
      Terminal operation status result := by
  obtain ⟨call, outcome⟩ := event
  obtain rfl : outcome = _ := hproved
  generalize hupdate : Outcome.accepted (.ok (.mutation operation result status reconciled)) =
    outcome at h
  have hproves : outcome.Proves := by
    rw [← hupdate]
    trivial
  cases perform_cases h with
  | kept _ _ _ grows silent => exact absurd (Or.inl hproves) silent.unconcluded
  | dropped _ _ _ _ emitted handedOut unproven => exact absurd hproves unproven
  | returned _ _ _ _ _ _ awaited silent => exact absurd (Or.inl hproves) silent.unconcluded
  | concluded response intent reconciliation shownStatus _ awaited mutates decoded shown terminal =>
    cases hupdate
    exact ⟨intent, response, rfl, rfl, ⟨reconciliation, awaited, mutates⟩, decoded, shown,
      terminal_of_outcome terminal⟩
  | sent => cases hproves
  | inspected => cases hproves
  | polled => cases hproves
  | selected => cases hproves
  | denied => cases hproves
  | reset => cases hproves

/-- A call that concludes a mutation leaves nothing held. -/
theorem idle_of_concludes [LawfulNetworkWire] (h : Step machine event next)
    (hconcludes : event.2.Concludes) : next.state = none := by
  obtain ⟨call, outcome⟩ := event
  cases perform_cases h with
  | kept _ _ _ grows silent => exact absurd hconcludes silent.unconcluded
  | dropped => rfl
  | returned _ _ _ _ _ _ awaited silent => exact absurd hconcludes silent.unconcluded
  | concluded => rfl
  | reset => rfl
  | sent => simp [Outcome.Concludes, Outcome.Proves] at hconcludes
  | inspected => simp [Outcome.Concludes, Outcome.Proves] at hconcludes
  | polled => simp [Outcome.Concludes, Outcome.Proves] at hconcludes
  | selected => simp [Outcome.Concludes, Outcome.Proves] at hconcludes
  | denied => simp [Outcome.Concludes, Outcome.Proves] at hconcludes

/-- What a machine that was idle holds was selected since. -/
theorem reselected_step [LawfulNetworkWire] (h : Step machine event next)
    (hs : ∀ intent id, machine.retained = some intent → intent.transactionId = some id →
      id ∈ handedOut history)
    {id : UInt64} (hretained : next.retained = some intent)
    (hbound : intent.transactionId = some id) : id ∈ handedOut (history ++ [event]) := by
  obtain ⟨call, outcome⟩ := event
  rw [handedOut_concat, List.mem_append]
  cases perform_cases h with
  | kept => exact Or.inl (hs intent id hretained hbound)
  | dropped => cases hretained
  | polled idle =>
    cases hretained
    cases hbound
  | selected _ _ _ idle bound =>
    cases hretained
    rw [bound, Option.some.injEq] at hbound
    exact Or.inr (by simp [Outcome.handedOut, hbound])
  | sent held _ ready =>
    cases hretained
    exact Or.inl (hs held id (by rw [retained, ready]; rfl) hbound)
  | inspected held ambiguous =>
    cases hretained
    exact Or.inl (hs held id (by rw [retained, ambiguous]; rfl) hbound)
  | returned _ _ held _ _ _ awaited silent settles kept =>
    have hheld : machine.retained = some held := by
      rw [retained, awaited]
      rfl
    rcases kept with ⟨rfl, -⟩ | ⟨rfl, -⟩ <;> cases hretained <;>
      exact Or.inl (hs held id hheld hbound)
  | denied _ held _ awaited =>
    cases hretained
    exact Or.inl (hs held id (by rw [retained, awaited]; rfl) hbound)
  | concluded => cases hretained
  | reset => cases hretained

/-! ## Every run -/

/-- No mutation is repeated blindly. -/
structure Disciplined (history : List (Call × Outcome)) (machine : NetworkProvisioningMachine) :
    Prop where
  /-- Transaction ids are handed out in increasing order. -/
  increasing : (handedOut history).Pairwise (· < ·)
  /-- Between two requests the first one was answered, abandoned or erased. -/
  single : ∀ before first between second after,
    history = before ++ first :: (between ++ second :: after) →
    first.2.emitted.isSome → second.2.emitted.isSome → ∃ event ∈ between, Settles event
  /-- A mutation that is sent is the one selected last. -/
  bound : ∀ before event after operation, history = before ++ event :: after →
    event.2.emitted = some operation → Mutates operation.operation →
    ∃ intent : Intent, intent.operationBody = .ok operation ∧
      intent.transactionId = selected before ∧ (selected before).isSome
  /-- It is sent again only when a status since denied it, and unchanged. -/
  repeated : ∀ before first between second after operation again,
    history = before ++ first :: (between ++ second :: after) →
    first.2.emitted = some operation → Mutates operation.operation →
    second.2.emitted = some again → Mutates again.operation →
    selected before = selected (before ++ first :: between) →
    again = operation ∧ ∃ intent : Intent, intent.operationBody = .ok operation ∧
      intent.transactionId = selected before ∧ Refuted intent between
  /-- Its result is known only from a status that names it and shows that result. -/
  proved : ∀ before event after operation result status reconciled,
    history = before ++ event :: after →
    event.2 = .accepted (.ok (.mutation operation result status reconciled)) →
    ∃ intent response, Sent before intent ∧ intent.operation = operation ∧ Mutates operation ∧
      event.1 = .acceptResponse response ∧ NetworkWire.decodeStatus response.body = .ok status ∧
      selected before = some status.lastTransactionId ∧
      intent.transactionId = some status.lastTransactionId ∧ Terminal operation status result
  /-- With that, or once another mutation replaced it, nothing is held any more. -/
  gone : ∀ before event, history = before ++ [event] → event.2.Concludes →
    machine.state = none
  /-- What is held later was selected later. -/
  forgotten : ∀ before event after, history = before ++ event :: after → event.2.Concludes →
    ∀ intent id, machine.retained = some intent → intent.transactionId = some id →
      id ∈ handedOut after

variable [LawfulNetworkWire]

/-- A mutation is repeated only after it was denied. -/
theorem repeated_of_run {before between after : List (Call × Outcome)}
    {first second : Call × Outcome} {operation again : NetworkOperation} {transactionSeed : UInt64}
    (hstart : startingAt transactionSeed = .ok start)
    (hseeds : SeedsIncrease (before ++ first :: (between ++ second :: after)))
    (h : Run Step start (before ++ first :: (between ++ second :: after)) machine)
    (hfirst : first.2.emitted = some operation) (hmutates : Mutates operation.operation)
    (hsecond : second.2.emitted = some again) (hmutatesAgain : Mutates again.operation)
    (hsame : selected before = selected (before ++ first :: between)) :
    again = operation ∧ ∃ intent : Intent, intent.operationBody = .ok operation ∧
      intent.transactionId = selected before ∧ Refuted intent between := by
  obtain ⟨source, hbefore, h⟩ := h.of_append
  obtain ⟨awaiting, hemit, h⟩ := Run.cons_iff.1 h
  obtain ⟨later, hbetween, h⟩ := h.of_append
  obtain ⟨last, hemitAgain, -⟩ := Run.cons_iff.1 h
  obtain ⟨intent, hready, hencoded, hmutation, hawaiting, hnext⟩ :=
    ready_of_emitted hemit hfirst hmutates
  obtain ⟨held, hheld, hencodedAgain, hmutationAgain, -, -⟩ :=
    ready_of_emitted hemitAgain hsecond hmutatesAgain
  -- Both intents belong to the transaction selected last.
  have htracked := tracked_of_run hstart hseeds.of_append hbefore
  have hseedsLater : SeedsIncrease (before ++ first :: between) := by
    rw [← List.cons_append, ← List.append_assoc] at hseeds
    exact hseeds.of_append
  have hrunLater : Run Step start (before ++ first :: between) later :=
    hbefore.append (.cons hemit hbetween)
  have htrackedLater := tracked_of_run hstart hseedsLater hrunLater
  obtain ⟨transaction, hbound⟩ : ∃ id, intent.transactionId = some id :=
    exists_transactionId hmutation
  obtain ⟨other, hother⟩ : ∃ id, held.transactionId = some id :=
    exists_transactionId hmutationAgain
  have hselected : selected before = some transaction :=
    htracked.bound intent (by rw [retained, hready]; rfl) transaction hbound
  have hselectedLater : selected (before ++ first :: between) = some other :=
    htrackedLater.bound held (by rw [retained, hheld]; rfl) other hother
  obtain rfl : transaction = other := by
    rw [hselected, hselectedLater, Option.some.injEq] at hsame
    exact hsame
  -- From the first request on, the intent is barred until it was denied.
  have hmem : transaction ∈ handedOut before := List.mem_of_getLast? hselected
  have hinitial : Barred intent transaction [] awaiting := by
    refine ⟨?_, ?_, ?_⟩
    · rw [hnext]
      exact htracked.below transaction hmem
    · rintro other hretained -
      rw [retained, hawaiting] at hretained
      cases hretained
      rfl
    · rw [hawaiting]
      nofun
  have hlarger : ∀ event ∈ between, ∀ seed, resetSeed event = some seed → transaction < seed := by
    intro event hevent seed hseed
    apply hseeds.larger _ hseed hmem
    simp [hevent]
  have hbarred : Barred intent transaction between later :=
    Barred.of_run hmutation hbound hbetween hlarger hinitial
  obtain rfl : held = intent := hbarred.same held (by rw [retained, hheld]; rfl) hother
  rw [hencoded, Except.ok.injEq] at hencodedAgain
  exact ⟨hencodedAgain.symm, held, hencoded, hbound.trans hselected.symm, hbarred.denied hheld⟩

/-- No run of the machine repeats a network mutation blindly. -/
theorem networkMutation {transactionSeed : UInt64} (hstart : startingAt transactionSeed = .ok start)
    (h : Run Step start history machine) (hseeds : SeedsIncrease history) :
    Disciplined history machine := by
  refine
    { increasing := (tracked_of_run hstart hseeds h).increasing
      single := ?_
      bound := ?_
      repeated := ?_
      proved := ?_
      gone := ?_
      forgotten := ?_ }
  · rintro before first between second after rfl hfirst hsecond
    have hemits : ∀ s e t, Step s e t → e.2.emitted.isSome →
        ¬ s.phase = .awaitingResponse ∧ t.phase = .awaitingResponse :=
      fun _ _ _ => emits_once
    have hkeeps : ∀ s e t, Step s e t → s.phase = .awaitingResponse → ¬ Settles e →
        t.phase = .awaitingResponse :=
      fun _ _ _ => awaiting_step
    exact Run.settled_between hemits hkeeps h hfirst hsecond
  · rintro before event after operation rfl hemitted hmutates
    obtain ⟨source, hbefore, h⟩ := h.of_append
    obtain ⟨target, hstep, -⟩ := Run.cons_iff.1 h
    obtain ⟨intent, hready, hencoded, hmutation, -, -⟩ :=
      ready_of_emitted hstep hemitted hmutates
    obtain ⟨id, hid⟩ := exists_transactionId hmutation
    have hselected := (tracked_of_run hstart hseeds.of_append hbefore).bound intent
      (by rw [retained, hready]; rfl) id hid
    exact ⟨intent, hencoded, hid.trans hselected.symm, by simp [hselected]⟩
  · rintro before first between second after operation again rfl hfirst hmutates hsecond hagain
      hsame
    exact repeated_of_run hstart hseeds h hfirst hmutates hsecond hagain hsame
  · rintro before event after operation result status reconciled rfl hproved
    obtain ⟨source, hbefore, h⟩ := h.of_append
    obtain ⟨target, hstep, -⟩ := Run.cons_iff.1 h
    obtain ⟨intent, response, hcall, rfl, ⟨reconciliation, hawaited, hdirect⟩, hdecoded, hshown,
      hterminal⟩ := concluded_of_proved hstep hproved
    have htracked := tracked_of_run hstart hseeds.of_append hbefore
    have hmutation : intent.mutation := by
      cases reconciliation with
      | false => exact hdirect rfl
      | true => exact htracked.mutation intent (Or.inl hawaited)
    have hselected := htracked.bound intent (by rw [retained, hawaited]; rfl) _ hshown
    exact ⟨intent, response, htracked.sent intent (Or.inl ⟨_, hawaited⟩) hmutation, rfl,
      mutates_operation hmutation, hcall, hdecoded, hselected, hshown, hterminal⟩
  · rintro before event rfl hconcludes
    obtain ⟨source, -, hlast⟩ := h.of_snoc
    exact idle_of_concludes hlast hconcludes
  · rintro before event after rfl hconcludes
    obtain ⟨source, -, h⟩ := h.of_append
    obtain ⟨target, hstep, hafter⟩ := Run.cons_iff.1 h
    have hidle : ∀ intent id, target.retained = some intent → intent.transactionId = some id →
        id ∈ handedOut [] := by
      intro intent id hretained
      rw [retained, idle_of_concludes hstep hconcludes] at hretained
      cases hretained
    have hsteps : ∀ past s event t, Step s event t →
        (∀ intent id, s.retained = some intent → intent.transactionId = some id →
          id ∈ handedOut past) →
        ∀ intent id, t.retained = some intent → intent.transactionId = some id →
          id ∈ handedOut (past ++ [event]) :=
      fun _ _ _ _ hstep hs _ _ => reselected_step hstep hs
    exact hafter.along_history hsteps hidle

end Runs

/-! ## One lost request -/

section Sample

open HostLibrary

/-- The device's status before and after it joined a network. -/
def statusAfter (lastTransactionId : UInt64) (stationLink : StationLinkState)
    (stationConfigured : Bool) : Response :=
  ⟨.ok, encodeNetworkStatus
    ⟨3, lastTransactionId, .none, stationLink, ⟨false, true, stationConfigured⟩, []⟩⟩

/-- A join is lost, denied by the status, sent again and answered; then the machine is reset. -/
def lostJoin : List Call := [
    .requestStatus, .nextRequest, .acceptResponse (statusAfter 0 .disconnected false),
    .requestJoinExplicit "Shop" ⟨4⟩ "passphrase" none (some 6), .nextRequest, .abandonPending,
    .nextRequest, .acceptResponse (statusAfter 0 .disconnected false), .nextRequest,
    .acceptResponse (statusAfter 40 .addressed true), .requestLeave, .reset 50, .requestScan]

def provisioning : NetworkProvisioningMachine := ⟨40, none, none, none⟩

theorem provisioning_built : startingAt 40 = .ok provisioning := by
  rfl

/-- The ids that were handed out and the seeds that were taken. -/
theorem lostJoin_ids : (Run.execute perform provisioning lostJoin).2.map
      (fun event => (event.2.handedOut, resetSeed event)) =
    [(none, none), (none, none), (none, none), (some 40, none), (none, none), (none, none),
      (none, none), (none, none), (none, none), (none, none), (some 41, none), (none, some 50),
      (some 50, none)] := by
  decide +kernel

theorem lostJoin_seeds : SeedsIncrease (Run.execute perform provisioning lostJoin).2 := by
  have hids : ((Run.execute perform provisioning lostJoin).2.map
      fun event => (event.2.handedOut, resetSeed event)).Pairwise
        fun earlier event => ∀ seed ∈ event.2, ∀ id ∈ earlier.1, id < seed := by
    rw [lostJoin_ids]
    simp
  exact List.pairwise_map.1 hids

theorem networkMutation_sample :
    handedOut (Run.execute perform provisioning lostJoin).2 = [40, 41, 50] ∧
      Disciplined (Run.execute perform provisioning lostJoin).2
        (Run.execute perform provisioning lostJoin).1 :=
  have := lawfulNetworkWire
  ⟨by decide +kernel, networkMutation provisioning_built (Run.run_execute _ _ _) lostJoin_seeds⟩

end Sample

end NetworkProvisioningMachine

end Alumina.Client
