import Alumina.Spec.Network

/-!
# Ambiguous mutations are kept until they are explained

A mutation that was sent is ambiguous until an accepted status explains it or the machine is reset.
Every call keeps an ambiguous mutation or releases it in one of these ways, except that a response
or an abandonment that nothing awaits drops what the machine holds, and so does a request whose body
cannot be encoded.

## Key results

- `remembers_iff`: the calls that forget nothing are the ones that apply
- `ambiguousMutation_retained`: over a run of calls that apply, an ambiguous mutation is retained
  until something releases it
-/

namespace Alumina.Client

namespace NetworkProvisioningMachine

section Runs

variable [NetworkWire] {machine next start : NetworkProvisioningMachine} {call : Call}
  {outcome : Outcome} {event : Call × Outcome} {history : List (Call × Outcome)} {intent : Intent}

/-! ## What is to be kept -/

/-- A mutation was sent, and its answer or the status that explains it is still to come. -/
def Ambiguous (intent : Intent) (machine : NetworkProvisioningMachine) : Prop :=
  intent.mutation ∧ ((∃ reconciliation,
    machine.state = some (.awaiting intent reconciliation)) ∨
      machine.state = some (.reconciling intent))

/-- What releases an ambiguous mutation: an accepted status that proves its outcome, that shows it
was never observed, or that shows it was superseded, or a reset. -/
inductive Releases (intent : Intent) : Call × Outcome → Prop
  | proved (response : Response) (status : NetworkStatus) (reconciled : Bool)
      (decoded : NetworkWire.decodeStatus response.body = .ok status)
      (shown : intent.transactionId = some status.lastTransactionId)
      (terminal : terminalOutcome intent status (networkFailureStatus status.lastFailure)) :
      Releases intent (.acceptResponse response, .accepted (.ok (.mutation intent.operation
        (networkFailureStatus status.lastFailure) status reconciled)))
  | denied (response : Response) (status : NetworkStatus) (accepted : response.status = .ok)
      (decoded : NetworkWire.decodeStatus response.body = .ok status)
      (unseen : ∃ id, intent.transactionId = some id ∧ status.lastTransactionId < id)
      (unchanged : intent.expectedGeneration = some status.generation) :
      Releases intent (.acceptResponse response, .accepted (.ok .retryRequired))
  | superseded (response : Response) (status : NetworkStatus) (accepted : response.status = .ok)
      (decoded : NetworkWire.decodeStatus response.body = .ok status)
      (other : intent.transactionId ≠ some status.lastTransactionId)
      (moved : (∃ id, intent.transactionId = some id ∧ status.lastTransactionId < id) →
        intent.expectedGeneration ≠ some status.generation) :
      Releases intent (.acceptResponse response, .accepted (.error .superseded))
  | reset (transactionSeed : UInt64) : Releases intent (.reset transactionSeed, .done (.ok ()))

/-- What one call has to keep. -/
structure Remembers (machine : NetworkProvisioningMachine) (event : Call × Outcome)
    (next : NetworkProvisioningMachine) : Prop where
  unawaitedResponse : ∀ response, machine.phase ≠ .awaitingResponse →
    event.1 = .acceptResponse response →
    next = machine ∧ event.2 = .accepted (.error .noPendingRequest)
  unawaitedAbandonment : machine.phase ≠ .awaitingResponse → event.1 = .abandonPending →
    next = machine ∧ event.2 = .abandoned false
  refusedRequest : ∀ error, event.2 = .next (.error error) → next.retained = machine.retained
  ambiguous : ∀ intent, Ambiguous intent machine →
    Ambiguous intent next ∨ Releases intent event

/-- A response and an abandonment apply when a request is awaited or nothing is held, and a request
when the body of what was selected can be encoded. -/
def Applies (machine : NetworkProvisioningMachine) : Call → Prop
  | .acceptResponse _ | .abandonPending =>
    machine.state = none ∨ machine.phase = .awaitingResponse
  | .nextRequest => ∀ intent, machine.state = some (.ready intent) →
    ∃ operation, intent.operationBody = .ok operation
  | _ => True

/-! ## The responses to an ambiguous mutation -/

omit [NetworkWire] in
theorem Ambiguous.state_ne_none (h : Ambiguous intent machine) : machine.state ≠ none := by
  rcases h.2 with ⟨_, h⟩ | h <;> simp [h]

theorem Ambiguous.acceptMutationResponse (hmutation : intent.mutation) (response : Response) :
    Ambiguous intent (machine.acceptMutationResponse intent response false).1 ∨
      Releases intent (.acceptResponse response,
        .accepted (machine.acceptMutationResponse intent response false).2) := by
  unfold NetworkProvisioningMachine.acceptMutationResponse
  cases hdecoded : NetworkWire.decodeStatus response.body with
  | error error => exact .inl ⟨hmutation, .inr rfl⟩
  | ok status =>
    by_cases hshown : intent.transactionId = some status.lastTransactionId
    · simp only [hshown, ne_eq, not_true_eq_false, if_false]
      split
      · exact .inl ⟨hmutation, .inr rfl⟩
      · next houtcome =>
        rw [not_or, not_not, not_not] at houtcome
        exact .inr (.proved response status false hdecoded hshown houtcome.2)
    · simp only [ne_eq, hshown, not_false_eq_true, if_true]
      exact .inl ⟨hmutation, .inr rfl⟩

theorem Ambiguous.acceptReconciliation (hmutation : intent.mutation) (response : Response) :
    Ambiguous intent (machine.acceptReconciliation intent response).1 ∨
      Releases intent (.acceptResponse response,
        .accepted (machine.acceptReconciliation intent response).2) := by
  unfold NetworkProvisioningMachine.acceptReconciliation
  by_cases haccepted : response.status = .ok
  · simp only [haccepted, ne_eq, not_true_eq_false, if_false]
    cases hdecoded : NetworkWire.decodeStatus response.body with
    | error error => exact .inl ⟨hmutation, .inr rfl⟩
    | ok status =>
      simp only
      split
      · next hshown =>
        split
        · next hterminal => exact .inr (.proved response status true hdecoded hshown hterminal)
        · exact .inl ⟨hmutation, .inr rfl⟩
      · next hother =>
        split
        · next hdenied =>
          obtain ⟨id, hid, hunseen⟩ := (Option.any_eq_true _ _).1 hdenied.1
          exact .inr (.denied response status haccepted hdecoded
            ⟨id, hid, of_decide_eq_true hunseen⟩ hdenied.2)
        · next hmoved =>
          refine .inr (.superseded response status haccepted hdecoded hother ?_)
          rintro ⟨id, hid, hunseen⟩ hgeneration
          exact hmoved ⟨by rw [hid]; exact decide_eq_true hunseen, hgeneration⟩
  · simp only [ne_eq, haccepted, not_false_eq_true, if_true]
    exact .inl ⟨hmutation, .inr rfl⟩

/-! ## One call -/

theorem nextRequest_of_awaiting {reconciliation : Bool}
    (h : machine.state = some (.awaiting intent reconciliation)) :
    machine.nextRequest = (machine, .error .requestPending) := by
  simp only [nextRequest, h]

theorem nextRequest_of_reconciling (h : machine.state = some (.reconciling intent)) :
    machine.nextRequest = ({ machine with state := some (.awaiting intent true) },
      .ok (some ⟨.networkStatus, []⟩)) := by
  simp only [nextRequest, h]

theorem acceptResponse_of_awaiting {reconciliation : Bool} (response : Response)
    (h : machine.state = some (.awaiting intent reconciliation)) :
    machine.acceptResponse response =
      if reconciliation then
        ({ machine with state := none } : NetworkProvisioningMachine).acceptReconciliation intent
          response
      else ({ machine with state := none } : NetworkProvisioningMachine).acceptDirect intent
        response := by
  simp only [acceptResponse, h]

omit [NetworkWire] in
theorem abandonPending_of_awaiting {reconciliation : Bool}
    (h : machine.state = some (.awaiting intent reconciliation)) :
    machine.abandonPending = ({ machine with
      state := some (if intent.mutation then .reconciling intent else .ready intent) }, true) := by
  simp only [abandonPending, h]

/-- A response that nothing awaits drops what is held. -/
theorem acceptResponse_of_unawaited (response : Response)
    (h : machine.phase ≠ .awaitingResponse) :
    machine.acceptResponse response =
      ({ machine with state := none }, .error .noPendingRequest) := by
  unfold acceptResponse
  split
  · next hstate => exact absurd (phase_eq_awaiting.2 ⟨_, _, hstate⟩) h
  · rfl

omit [NetworkWire] in
/-- So does an abandonment. -/
theorem abandonPending_of_unawaited (h : machine.phase ≠ .awaitingResponse) :
    machine.abandonPending = ({ machine with state := none }, false) := by
  unfold abandonPending
  split
  · next hstate => exact absurd (phase_eq_awaiting.2 ⟨_, _, hstate⟩) h
  · rfl

/-- Nothing can be selected while a mutation is ambiguous. -/
theorem Ambiguous.select (h : Ambiguous intent machine) :
    machine.requestStatus.1 = machine ∧ machine.requestScan.1 = machine ∧
      (∀ ssid authentication passphrase bssid channel,
        (machine.requestJoinExplicit ssid authentication passphrase bssid channel).1 = machine) ∧
      ∀ recover, (machine.selectMutation recover).1 = machine := by
  have hbusy : machine.requireIdle = .error .requestPending := by
    unfold requireIdle
    rw [if_neg]
    rw [Option.isNone_iff_eq_none]
    exact h.state_ne_none
  have hbind : machine.bindMutation = .error .requestPending := by
    unfold bindMutation
    rw [hbusy]
    rfl
  refine ⟨?_, ?_, ?_, ?_⟩
  · unfold requestStatus
    rw [hbusy]
  · unfold requestScan
    rw [hbusy]
    rfl
  · intro ssid authentication passphrase bssid channel
    unfold requestJoinExplicit
    rw [hbind]
  · intro recover
    unfold selectMutation
    rw [hbind]

/-- A call that applies keeps an ambiguous mutation or releases it. -/
theorem Ambiguous.step (h : Ambiguous intent machine) (hstep : Step machine event next)
    (happlies : machine.Applies event.1) : Ambiguous intent next ∨ Releases intent event := by
  obtain ⟨call, outcome⟩ := event
  have hperform : perform machine call = (next, outcome) := hstep
  obtain ⟨hstatus, hscan, hjoin, hselect⟩ := h.select
  cases call with
  | requestStatus =>
    cases hperform
    exact .inl (hstatus.symm ▸ h)
  | requestScan =>
    cases hperform
    exact .inl (hscan.symm ▸ h)
  | requestJoin entry passphrase =>
    cases hperform
    exact .inl ((hjoin _ _ _ _ _).symm ▸ h)
  | requestJoinExplicit ssid authentication passphrase bssid channel =>
    cases hperform
    exact .inl ((hjoin _ _ _ _ _).symm ▸ h)
  | requestLeave =>
    cases hperform
    exact .inl ((hselect _).symm ▸ h)
  | requestRecoverAp =>
    cases hperform
    exact .inl ((hselect _).symm ▸ h)
  | nextRequest =>
    cases hperform
    left
    show Ambiguous intent machine.nextRequest.1
    rcases h.2 with ⟨reconciliation, hstate⟩ | hstate
    · rw [nextRequest_of_awaiting hstate]
      exact h
    · rw [nextRequest_of_reconciling hstate]
      exact ⟨h.1, .inl ⟨true, rfl⟩⟩
  | acceptResponse response =>
    cases hperform
    show Ambiguous intent (machine.acceptResponse response).1 ∨
      Releases intent (.acceptResponse response, .accepted (machine.acceptResponse response).2)
    rcases h.2 with ⟨reconciliation, hstate⟩ | hstate
    · rw [acceptResponse_of_awaiting response hstate]
      cases reconciliation with
      | true => exact Ambiguous.acceptReconciliation h.1 response
      | false =>
        have hdirect : ∀ taken : NetworkProvisioningMachine, taken.acceptDirect intent response =
            taken.acceptMutationResponse intent response false := by
          intro taken
          cases intent with
          | status => cases h.1
          | scan request => cases h.1
          | join request => rfl
          | leave request => rfl
          | recover request => rfl
        simp only [Bool.false_eq_true, if_false, hdirect]
        exact Ambiguous.acceptMutationResponse h.1 response
    · exfalso
      rcases happlies with hnone | hawaiting
      · exact h.state_ne_none hnone
      · rw [phase, hstate] at hawaiting
        cases hawaiting
  | abandonPending =>
    cases hperform
    rcases h.2 with ⟨reconciliation, hstate⟩ | hstate
    · left
      show Ambiguous intent machine.abandonPending.1
      rw [abandonPending_of_awaiting hstate]
      exact ⟨h.1, .inr (by simp [h.1])⟩
    · exfalso
      rcases happlies with hnone | hawaiting
      · exact h.state_ne_none hnone
      · rw [phase, hstate] at hawaiting
        cases hawaiting
  | reset transactionSeed =>
    cases hperform
    show Ambiguous intent (machine.reset transactionSeed).1 ∨
      Releases intent (.reset transactionSeed, .done (machine.reset transactionSeed).2)
    unfold NetworkProvisioningMachine.reset
    cases startingAt transactionSeed with
    | error error => exact .inl h
    | ok started => exact .inr (.reset transactionSeed)

/-- A call that applies keeps what it has to. -/
theorem Remembers.of_applies (hstep : Step machine event next) (happlies : machine.Applies event.1) :
    Remembers machine event next := by
  obtain ⟨call, outcome⟩ := event
  have hperform : perform machine call = (next, outcome) := hstep
  have hnone : ∀ {machine' : NetworkProvisioningMachine}, machine'.state = none →
      { machine' with state := none } = machine' := by
    intro machine' h
    rw [← h]
  refine ⟨?_, ?_, ?_, fun intent h => h.step hstep happlies⟩
  · intro response hawaiting hcall
    cases hcall
    cases hperform
    have hidle : machine.state = none := happlies.resolve_right hawaiting
    constructor
    · show (machine.acceptResponse response).1 = machine
      rw [acceptResponse_of_unawaited response hawaiting]
      exact hnone hidle
    · show Outcome.accepted (machine.acceptResponse response).2 = _
      rw [acceptResponse_of_unawaited response hawaiting]
  · intro hawaiting hcall
    cases hcall
    cases hperform
    have hidle : machine.state = none := happlies.resolve_right hawaiting
    constructor
    · show machine.abandonPending.1 = machine
      rw [abandonPending_of_unawaited hawaiting]
      exact hnone hidle
    · show Outcome.abandoned machine.abandonPending.2 = _
      rw [abandonPending_of_unawaited hawaiting]
  · intro error herror
    cases call with
    | nextRequest =>
      cases hperform
      have hrefused : machine.nextRequest.2 = .error error := Outcome.next.inj herror
      show machine.nextRequest.1.retained = machine.retained
      unfold nextRequest at hrefused ⊢
      split at hrefused
      · cases hrefused
      · next intent hstate =>
        -- the body of a request that applies is encoded
        obtain ⟨operation, hencoded⟩ := happlies intent hstate
        rw [hencoded] at hrefused
        cases hrefused
      · cases hrefused
      · rfl
    | _ =>
      cases hperform
      cases herror

/-- Exactly the calls that apply keep what they have to. -/
theorem remembers_iff (hstep : Step machine event next) :
    Remembers machine event next ↔ machine.Applies event.1 := by
  constructor
  · intro h
    obtain ⟨call, outcome⟩ := event
    have hperform : perform machine call = (next, outcome) := hstep
    cases call with
    | acceptResponse response =>
      by_cases hawaiting : machine.phase = .awaitingResponse
      · exact .inr hawaiting
      · left
        cases hperform
        have hkept : (machine.acceptResponse response).1 = machine :=
          (h.unawaitedResponse response hawaiting rfl).1
        rw [acceptResponse_of_unawaited response hawaiting] at hkept
        rw [← hkept]
    | abandonPending =>
      by_cases hawaiting : machine.phase = .awaitingResponse
      · exact .inr hawaiting
      · left
        cases hperform
        have hkept : machine.abandonPending.1 = machine :=
          (h.unawaitedAbandonment hawaiting rfl).1
        rw [abandonPending_of_unawaited hawaiting] at hkept
        rw [← hkept]
    | nextRequest =>
      intro intent hready
      cases hencoded : intent.operationBody with
      | ok operation => exact ⟨operation, rfl⟩
      | error error =>
        exfalso
        cases hperform
        have hdropped : machine.nextRequest =
            ({ machine with state := none }, .error error) := by
          simp only [nextRequest, hready, hencoded]
        have hkept : machine.nextRequest.1.retained = machine.retained :=
          h.refusedRequest error (congrArg Outcome.next (congrArg Prod.snd hdropped))
        rw [hdropped] at hkept
        simp [retained, hready] at hkept
    | _ => trivial
  · exact fun h => .of_applies hstep h

/-! ## Runs -/

/-- A step whose call applies. -/
def Applied (machine : NetworkProvisioningMachine) (event : Call × Outcome)
    (next : NetworkProvisioningMachine) : Prop :=
  Step machine event next ∧ machine.Applies event.1

/-- Over calls that apply, an ambiguous mutation is kept until something releases it. -/
theorem Ambiguous.of_run (h : Run Applied start history machine) (hstart : Ambiguous intent start) :
    Ambiguous intent machine ∨ ∃ event ∈ history, Releases intent event := by
  induction h with
  | nil machine => exact .inl hstart
  | cons head tail ih =>
    rcases hstart.step head.1 head.2 with hkept | hreleased
    · rcases ih hkept with hend | ⟨event, hevent, hreleases⟩
      · exact .inl hend
      · exact .inr ⟨event, List.mem_cons_of_mem _ hevent, hreleases⟩
    · exact .inr ⟨_, List.mem_cons_self, hreleased⟩

/-- A call keeps what it has to exactly when it applies, and over a run of such calls an ambiguous
mutation is kept until an accepted status explains it or the machine is reset. -/
theorem ambiguousMutation_retained :
    (∀ (machine : NetworkProvisioningMachine) (event : Call × Outcome)
      (next : NetworkProvisioningMachine), Step machine event next →
      (Remembers machine event next ↔ machine.Applies event.1)) ∧
    ∀ (start : NetworkProvisioningMachine) (history : List (Call × Outcome))
      (machine : NetworkProvisioningMachine) (intent : Intent), Run Applied start history machine →
      Ambiguous intent start →
      Ambiguous intent machine ∨ ∃ event ∈ history, Releases intent event :=
  ⟨fun _ _ _ hstep => remembers_iff hstep, fun _ _ _ _ h hstart => hstart.of_run h⟩

end Runs

/-! ## A mutation that is forgotten -/

section Sample

open HostLibrary

/-- A leave is sent, and its response is lost. -/
def lostLeave : List Call := [
    .requestStatus, .nextRequest, .acceptResponse (statusAfter 0 .disconnected false),
    .requestLeave, .nextRequest, .abandonPending]

/-- The machine after that. -/
def explaining : NetworkProvisioningMachine :=
  ⟨41, some (.reconciling (.leave ⟨40, 3⟩)),
    some ⟨3, 0, .none, .disconnected, ⟨false, true, false⟩, []⟩, none⟩

/-- The status that is then asked for keeps the leave. -/
theorem ambiguousMutation_retained_sample :
    (Run.execute perform provisioning lostLeave).1 = explaining ∧
      (Ambiguous (.leave ⟨40, 3⟩) explaining.nextRequest.1 ∨
        ∃ event ∈ [((Call.nextRequest, Outcome.next explaining.nextRequest.2) : Call × Outcome)],
          Releases (.leave ⟨40, 3⟩) event) :=
  ⟨by decide +kernel,
    ambiguousMutation_retained.2 explaining _ _ _
      (.cons ⟨rfl, fun _ h => by cases h⟩ (.nil explaining.nextRequest.1)) ⟨rfl, .inr rfl⟩⟩

/-- Once it is to be explained, another abandonment and a late response both forget it, and a scan
is selected in its place. -/
theorem ambiguousMutation_forgotten :
    (Run.execute perform provisioning lostLeave).1.state = some (.reconciling (.leave ⟨40, 3⟩)) ∧
      (Run.execute perform provisioning (lostLeave ++ [.abandonPending])).1.state = none ∧
      (Run.execute perform provisioning
        (lostLeave ++ [.acceptResponse (statusAfter 40 .disconnected false)])).1.state = none ∧
      (Run.execute perform provisioning
        (lostLeave ++ [.abandonPending, .requestScan])).1.state =
          some (.ready (.scan ⟨41⟩)) := by
  decide +kernel

end Sample

end NetworkProvisioningMachine

end Alumina.Client
