import Alumina.ForStd.List
import Alumina.Motion.SharedTimingEvidence

/-!
# The retiming search and its checker

The checker of the retiming evidence replays the search from the reports it left. Every schedule the
search selects passes the checker, and a schedule that passes it names the least factor that is
accepted, as far as acceptance is monotone.

## Key results

- `replaySharedTimerRound_eq_ok`: a round appends one report of its outcomes
- `bisect_spec`: the search and the checker halve the same interval
- `validateSearchTrace_of_select`: the checker accepts what the search selects
- `selected_isLeast`: the selected factor is the least accepted one
-/

namespace Alumina.Motion

open Except (failIf)
open Alumina.Graph (DeviceId)

/-! ## Midpoints -/

section Midpoints

variable {rejected admitted : UInt32}

/-- Between ordered bounds the midpoint is computed without wrapping. -/
theorem toNat_midpoint (h : rejected ≤ admitted) : (midpoint rejected admitted).toNat =
    rejected.toNat + (admitted.toNat - rejected.toNat) / 2 := by
  have hle : rejected.toNat ≤ admitted.toNat := h
  have hbound := admitted.toNat_lt
  unfold midpoint
  rw [UInt32.toNat_add, UInt32.toNat_div, UInt32.toNat_sub_of_le _ _ h]
  have htwo : (2 : UInt32).toNat = 2 := rfl
  rw [htwo, Nat.mod_eq_of_lt (by omega)]

theorem le_midpoint (h : rejected ≤ admitted) : rejected ≤ midpoint rejected admitted := by
  rw [UInt32.le_iff_toNat_le, toNat_midpoint h]
  omega

theorem midpoint_le (h : rejected ≤ admitted) : midpoint rejected admitted ≤ admitted := by
  have hle : rejected.toNat ≤ admitted.toNat := h
  rw [UInt32.le_iff_toNat_le, toNat_midpoint h]
  omega

/-- A midpoint lies strictly between bounds that are not neighbours. -/
theorem midpoint_strict (h : rejected < admitted) (hwide : 1 < admitted - rejected) :
    rejected < midpoint rejected admitted ∧ midpoint rejected admitted < admitted := by
  have hle : rejected ≤ admitted := UInt32.le_of_lt h
  have hlt : rejected.toNat < admitted.toNat := h
  have hdistance : 1 < (admitted - rejected).toNat := hwide
  rw [UInt32.toNat_sub_of_le _ _ hle] at hdistance
  constructor
  · rw [UInt32.lt_iff_toNat_lt, toNat_midpoint hle]
    omega
  · rw [UInt32.lt_iff_toNat_lt, toNat_midpoint hle]
    omega

end Midpoints

section Search

variable [ExactReal] [StepperExecutor] [LoweringProvenance]

/-! ## Rounds -/

variable {participants : List SharedTimerParticipant2} {numerator denominator maximum : UInt32}
  {trace trace' : SearchTrace} {round : SharedTimerCandidateRound2}

/-- What one participant does at a factor. -/
theorem replayParticipant_eq_ok {participant : SharedTimerParticipant2}
    {candidate : TimerCandidate2} {outcome : SharedTimerCandidateOutcome2}
    (h : replayParticipant numerator denominator participant = .ok (candidate, outcome)) :
    candidateOutcome participant candidate = .ok outcome := by
  simp only [replayParticipant, Except.bind_eq_ok, Except.pure_eq_ok, Prod.mk.injEq] at h
  obtain ⟨-, -, _, -, _, houtcome, rfl, rfl⟩ := h
  exact houtcome

/-- A round appends one report of its outcomes. -/
theorem replaySharedTimerRound_eq_ok
    (h : replaySharedTimerRound participants numerator denominator trace = .ok (round, trace')) :
    ∃ replays, participants.mapM (replayParticipant numerator denominator) = .ok replays ∧
      round = ⟨replays.map Prod.fst, replays.map Prod.snd,
        firstRejectionOf participants (replays.map Prod.snd)⟩ ∧
      trace'.candidateRounds.toNat = trace.candidateRounds.toNat + 1 ∧
      trace'.candidateReports = trace.candidateReports ++ [⟨numerator, replays.map Prod.snd⟩] := by
  simp only [replaySharedTimerRound, Except.bind_eq_ok, Except.exists_unit, Except.failIf_eq_ok,
    Except.pure_eq_ok, Prod.mk.injEq] at h
  obtain ⟨replays, hreplays, hcount, rfl, rfl⟩ := h
  refine ⟨replays, hreplays, rfl, ?_, rfl⟩
  have hone : (1 : UInt32).toNat = 1 := rfl
  rw [UInt32.toNat_add, hone, Nat.mod_eq_of_lt (by omega)]

/-- An outcome is a rejection only for timing pressure. -/
theorem candidateOutcome_rejection {participant : SharedTimerParticipant2}
    {candidate : TimerCandidate2} {outcome : SharedTimerCandidateOutcome2}
    (h : candidateOutcome participant candidate = .ok outcome) {error : MotionError}
    (herror : outcome.rejection = some error) :
    StepperExecutor.isTimeDilationCandidate error = true := by
  unfold candidateOutcome at h
  split at h
  · cases h
    cases herror
  · split at h
    · next hcandidate =>
      cases h
      cases herror
      exact hcandidate
    · cases h

/-- An outcome is accepted with the preflight of its candidate. -/
theorem candidateOutcome_accepted {participant : SharedTimerParticipant2}
    {candidate : TimerCandidate2} {outcome : SharedTimerCandidateOutcome2}
    (h : candidateOutcome participant candidate = .ok outcome)
    {preflight : StepperPreflightSummary} (hpreflight : candidate.executorPreflight = .ok preflight) :
    outcome = .accepted preflight := by
  unfold candidateOutcome at h
  rw [hpreflight] at h
  cases h
  rfl

/-- A round has no rejection exactly when every outcome is accepted. -/
theorem firstRejectionOf_eq_none {outcomes : List SharedTimerCandidateOutcome2}
    (hlength : outcomes.length = participants.length) :
    firstRejectionOf participants outcomes = none ↔ allAccepted outcomes = true := by
  have hzip : (participants.zip outcomes).map Prod.snd = outcomes :=
    List.map_snd_zip (Nat.le_of_eq hlength)
  unfold firstRejectionOf allAccepted
  rw [List.findSome?_eq_none_iff, List.all_eq_true]
  constructor
  · intro h outcome houtcome
    rw [← hzip, List.mem_map] at houtcome
    obtain ⟨pair, hpair, rfl⟩ := houtcome
    have hnone := Option.map_eq_none_iff.1 (h pair hpair)
    cases houtcome : pair.2 with
    | accepted preflight => rfl
    | rejected error =>
      rw [houtcome] at hnone
      cases hnone
  · intro h pair hpair
    have haccepted := h pair.2 (List.of_mem_zip hpair).2
    rw [Option.map_eq_none_iff]
    cases houtcome : pair.2 with
    | accepted preflight => rfl
    | rejected error =>
      rw [houtcome] at haccepted
      cases haccepted

/-- Reports of complete rounds on the lattice that reject for timing pressure only. -/
structure Complete (denominator maximum : UInt32) (count : Nat)
    (report : SharedTimerCandidateRoundReport2) : Prop where
  length : report.outcomes.length = count
  onLattice : denominator ≤ report.factorNumerator ∧ report.factorNumerator ≤ maximum
  pressure : ∀ outcome ∈ report.outcomes, ∀ error, outcome.rejection = some error →
    StepperExecutor.isTimeDilationCandidate error = true

/-- A trace counts its reports, which are complete. -/
structure Recorded (denominator maximum : UInt32) (count : Nat) (trace : SearchTrace) : Prop where
  rounds : trace.candidateRounds.toNat = trace.candidateReports.length
  reports : ∀ report ∈ trace.candidateReports, Complete denominator maximum count report

/-- A round at a factor of the lattice keeps the trace complete. -/
theorem Recorded.replay (h : Recorded denominator maximum participants.length trace)
    (hlattice : denominator ≤ numerator ∧ numerator ≤ maximum)
    (hround : replaySharedTimerRound participants numerator denominator trace =
      .ok (round, trace')) :
    Recorded denominator maximum participants.length trace' ∧
      trace'.candidateReports = trace.candidateReports ++ [⟨numerator, round.outcomes⟩] ∧
      round.outcomes.length = participants.length ∧
      (round.firstRejection = none ↔ allAccepted round.outcomes = true) := by
  obtain ⟨replays, hreplays, rfl, hcount, hreports⟩ := replaySharedTimerRound_eq_ok hround
  have hall := Except.mapM_eq_ok hreplays
  have hlength : (replays.map Prod.snd).length = participants.length := by
    rw [List.length_map, hall.length_eq]
  refine ⟨⟨?_, ?_⟩, hreports, hlength, firstRejectionOf_eq_none hlength⟩
  · rw [hcount, hreports, List.length_append, h.rounds]
    rfl
  · intro report hreport
    rw [hreports, List.mem_append, List.mem_singleton] at hreport
    rcases hreport with hold | rfl
    · exact h.reports report hold
    · refine ⟨hlength, hlattice, ?_⟩
      intro outcome houtcome error herror
      obtain ⟨replay, hreplay, rfl⟩ := List.mem_map.1 houtcome
      obtain ⟨participant, -, hone⟩ := hall.exists_of_mem_right hreplay
      exact candidateOutcome_rejection (replayParticipant_eq_ok hone) herror

/-! ## Bisection -/

/-- The search and the checker halve the same interval, which stays nonempty. -/
theorem bisect_spec {fuel : Nat} {rejected admitted rejected' admitted' : UInt32}
    (h : Recorded denominator maximum participants.length trace)
    (hlower : denominator ≤ rejected) (hwidth : rejected < admitted) (hupper : admitted ≤ maximum)
    (hbisect : bisect participants denominator fuel rejected admitted trace =
      .ok (rejected', admitted', trace')) :
    Recorded denominator maximum participants.length trace' ∧ denominator ≤ rejected' ∧
      rejected' < admitted' ∧ admitted' ≤ maximum ∧
      ∃ reports, trace'.candidateReports = trace.candidateReports ++ reports ∧
        replayBisection rejected admitted reports = .ok (rejected', admitted') := by
  induction fuel generalizing rejected admitted trace with
  | zero =>
    cases hbisect
    exact ⟨h, hlower, hwidth, hupper, [], (List.append_nil _).symm, rfl⟩
  | succ fuel ih =>
    unfold bisect at hbisect
    by_cases hwide : 1 < admitted - rejected
    · rw [if_pos hwide, Except.bind_eq_ok] at hbisect
      obtain ⟨⟨round, middle⟩, hround, hrest⟩ := hbisect
      obtain ⟨hbelow, habove⟩ := midpoint_strict hwidth hwide
      have hmid : denominator ≤ midpoint rejected admitted ∧
          midpoint rejected admitted ≤ maximum :=
        ⟨UInt32.le_trans hlower (UInt32.le_of_lt hbelow),
          UInt32.le_trans (UInt32.le_of_lt habove) hupper⟩
      obtain ⟨hmiddle, hreports, -, haccepted⟩ := h.replay hmid hround
      -- One report more, then the half that the round left.
      have hreplay (rest : List SharedTimerCandidateRoundReport2) :
          replayBisection rejected admitted
            (⟨midpoint rejected admitted, round.outcomes⟩ :: rest) =
          if allAccepted round.outcomes then
            replayBisection rejected (midpoint rejected admitted) rest
          else replayBisection (midpoint rejected admitted) admitted rest := by
        rw [replayBisection]
        exact Except.bind_of_ok (Except.failIf_of_not (not_not.2 rfl))
      by_cases hrejects : round.firstRejection.isSome = true
      · dsimp only at hrest
        rw [if_pos hrejects] at hrest
        obtain ⟨htrace, hlow, hlt, hup, reports, hall, hchecked⟩ :=
          ih hmiddle hmid.1 habove hupper hrest
        have hnot : ¬ allAccepted round.outcomes = true := by
          rw [← haccepted]
          exact fun hnone => by simp [hnone] at hrejects
        refine ⟨htrace, hlow, hlt, hup, ⟨midpoint rejected admitted, round.outcomes⟩ :: reports,
          ?_, ?_⟩
        · rw [hall, hreports, List.append_assoc, List.singleton_append]
        · rw [hreplay, if_neg hnot]
          exact hchecked
      · dsimp only at hrest
        rw [if_neg hrejects] at hrest
        obtain ⟨htrace, hlow, hlt, hup, reports, hall, hchecked⟩ :=
          ih hmiddle hlower hbelow hmid.2 hrest
        have hyes : allAccepted round.outcomes = true := by
          rw [← haccepted]
          exact Option.not_isSome_iff_eq_none.1 hrejects
        refine ⟨htrace, hlow, hlt, hup, ⟨midpoint rejected admitted, round.outcomes⟩ :: reports,
          ?_, ?_⟩
        · rw [hall, hreports, List.append_assoc, List.singleton_append]
        · rw [hreplay, if_pos hyes]
          exact hchecked
    · rw [if_neg hwide] at hbisect
      cases hbisect
      exact ⟨h, hlower, hwidth, hupper, [], (List.append_nil _).symm, rfl⟩

/-! ## Selection -/

variable {selection : SharedTimerSelectionEvidence2} {shared : SharedTimerLatticeSchedule2}
  {unit selected : SharedTimerCandidateRoundReport2}
  {predecessor : Option SharedTimerCandidateRoundReport2}

/-- A retimed stream carries the outcomes of its participant at the boundary factors. -/
theorem retimedParticipant_eq_ok {first participant : SharedTimerParticipant2}
    {firstCandidate candidate : TimerCandidate2} {index : Nat}
    {retimed : SharedRetimedParticipant2} (hunit : selection.unitOutcomes = unit.outcomes)
    (hpredecessor : selection.predecessorOutcomes = predecessor.map (·.outcomes))
    (h : retimedParticipant selection first firstCandidate ((participant, candidate), index) =
      .ok retimed) :
    unit.outcomes[index]? = some retimed.unitFactorOutcome ∧
      predecessor.bind (·.outcomes[index]?) = retimed.predecessorOutcome ∧
      candidate.executorPreflight = .ok retimed.executorPreflight := by
  simp only [retimedParticipant, Except.bind_eq_ok, Except.exists_unit, Except.failIf_eq_ok,
    Except.mapError_eq_ok, Option.okOr_eq_ok, Except.pure_eq_ok] at h
  obtain ⟨-, preflight, hpreflight, unitOutcome, hunitOutcome, predecessorOutcome, hpre, rfl⟩ := h
  rw [hunit] at hunitOutcome
  rw [hpredecessor] at hpre
  refine ⟨hunitOutcome, ?_, hpreflight⟩
  cases predecessor with
  | none =>
    cases hpre
    rfl
  | some report =>
    cases hindex : report.outcomes[index]? with
    | none => simp [hindex, Except.map] at hpre
    | some outcome =>
      simp only [Option.map_some, Option.elim_some, hindex, Option.okOr_some] at hpre
      cases hpre
      exact hindex

/-- The streams a search retains agree with the reports of its boundary rounds. -/
theorem validateBoundary_of_finish {replays : List (TimerCandidate2 × SharedTimerCandidateOutcome2)}
    {first : SharedTimerParticipant2} {firstCandidate : TimerCandidate2}
    {retimed : List SharedRetimedParticipant2} (hunit : selection.unitOutcomes = unit.outcomes)
    (hpredecessor : selection.predecessorOutcomes = predecessor.map (·.outcomes))
    (hselected : selected.outcomes = replays.map Prod.snd)
    (hreplays : participants.mapM (replayParticipant numerator denominator) = .ok replays)
    (hretimed : ((participants.zip (replays.map Prod.fst)).zipIdx).mapM
      (retimedParticipant selection first firstCandidate) = .ok retimed) :
    Except.forEach (validateBoundary unit predecessor selected) retimed.zipIdx = .ok () := by
  rw [Except.forEach_eq_ok]
  rintro ⟨participant, index⟩ hmem
  rw [List.mem_zipIdx_iff_getElem?] at hmem
  obtain ⟨hindex, hparticipant⟩ := List.getElem?_eq_some_iff.1 hmem
  obtain ⟨hcount, hall⟩ := List.forall₂_iff_get.1 (Except.mapM_eq_ok hretimed)
  obtain ⟨hlength, hreplay⟩ := List.forall₂_iff_get.1 (Except.mapM_eq_ok hreplays)
  have hone := hall index (hcount ▸ hindex) hindex
  have hzip : index < replays.length := by
    rw [← hcount] at hindex
    simp only [List.length_zipIdx, List.length_zip, List.length_map] at hindex
    omega
  simp only [List.get_eq_getElem, List.getElem_zipIdx, List.getElem_zip, List.getElem_map,
    Nat.zero_add, hparticipant] at hone
  obtain ⟨hunitOutcome, hpredecessorOutcome, hpreflight⟩ :=
    retimedParticipant_eq_ok hunit hpredecessor hone
  have houtcome := candidateOutcome_accepted
    (replayParticipant_eq_ok (hreplay index (hlength ▸ hzip) hzip)) hpreflight
  have hselectedOutcome : selected.outcomes[index]? =
      some (.accepted participant.executorPreflight) := by
    rw [hselected, List.getElem?_map, List.getElem?_eq_getElem hzip, Option.map_some]
    exact congrArg some houtcome
  unfold validateBoundary
  simp only [hunitOutcome, hpredecessorOutcome, hselectedOutcome, Option.okOr_some]
  rw [Except.bind_of_ok (Except.failIf_of_not (not_not.2 rfl)),
    Except.bind_of_ok (Except.failIf_of_not (not_not.2 rfl))]
  exact Except.failIf_of_not (not_not.2 rfl)

/-- A finished selection keeps its factors and its trace. -/
theorem finishSharedTimerSelection_eq_ok
    (h : finishSharedTimerSelection participants round selection = .ok shared) :
    shared.selectedFactorNumerator = selection.selectedFactorNumerator ∧
      shared.selectedFactorDenominator = selection.selectedFactorDenominator ∧
      shared.maximumFactorNumerator = selection.maximumFactorNumerator ∧
      shared.candidateRounds = selection.trace.candidateRounds ∧
      shared.candidateReports = selection.trace.candidateReports ∧
      participants.length < 2 ^ 64 ∧
      selection.trace.candidateRounds.toUInt64.checkedMul (.ofNat participants.length) =
        some shared.participantReplays ∧
      ∃ first firstCandidate, ((participants.zip round.candidates).zipIdx).mapM
        (retimedParticipant selection first firstCandidate) = .ok shared.participants := by
  simp only [finishSharedTimerSelection, Except.bind_eq_ok, Except.exists_unit,
    Except.failIf_eq_ok, Option.okOr_eq_ok, Except.pure_eq_ok, not_le] at h
  obtain ⟨firstCandidate, -, _, -, first, -, hcount, replays, hreplays, retimed, hretimed,
    rfl⟩ := h
  exact ⟨rfl, rfl, rfl, rfl, rfl, hcount, hreplays, first, firstCandidate, hretimed⟩

/-- A complete trace passes the checks of its rounds. -/
theorem validateRounds_of_recorded (h : Recorded denominator maximum participants.length trace)
    (hdenominator : shared.selectedFactorDenominator = denominator)
    (hmaximum : shared.maximumFactorNumerator = maximum)
    (hrounds : shared.candidateRounds = trace.candidateRounds)
    (hreports : shared.candidateReports = trace.candidateReports)
    (hlength : shared.participants.length = participants.length)
    (hcount : participants.length < 2 ^ 64)
    (hreplays : trace.candidateRounds.toUInt64.checkedMul (.ofNat participants.length) =
      some shared.participantReplays) :
    validateRounds shared = .ok () := by
  unfold validateRounds
  dsimp only
  rw [hlength, hrounds, hreports, hreplays, hdenominator, hmaximum]
  rw [Except.bind_of_ok (Except.failIf_of_not (not_not.2 h.rounds)),
    Except.bind_of_ok (Except.failIf_of_not (not_le.2 hcount)), Option.okOr_some]
  have hlengths : ¬ (shared.participantReplays ≠ shared.participantReplays ∨
      trace.candidateReports.any (fun report => report.outcomes.length ≠ participants.length) =
        true) := by
    rw [not_or, not_not, List.any_eq_true]
    refine ⟨rfl, ?_⟩
    rintro ⟨report, hreport, hne⟩
    exact of_decide_eq_true hne (h.reports report hreport).length
  show (failIf _ _ >>= fun _ => _) = _
  rw [Except.bind_of_ok (Except.failIf_of_not hlengths)]
  apply Except.failIf_of_not
  rw [List.any_eq_true]
  rintro ⟨report, hreport, hbad⟩
  obtain ⟨-, ⟨hlow, hhigh⟩, hpressure⟩ := h.reports report hreport
  rcases of_decide_eq_true hbad with hbelow | habove | hrejected
  · exact UInt32.not_lt.2 hlow hbelow
  · exact UInt32.not_lt.2 hhigh habove
  · obtain ⟨outcome, houtcome, hany⟩ := List.any_eq_true.1 hrejected
    cases herror : outcome.rejection with
    | none =>
      rw [herror] at hany
      cases hany
    | some error =>
      rw [herror, Option.any_some, hpressure outcome houtcome error herror] at hany
      cases hany

/-! ## Accepted traces -/

/-- The trace of a search above factor one. -/
structure DilatedTrace (shared : SharedTimerLatticeSchedule2)
    (unit maximum : SharedTimerCandidateRoundReport2)
    (middle : List SharedTimerCandidateRoundReport2)
    (selected predecessor : SharedTimerCandidateRoundReport2) : Prop where
  reports : shared.candidateReports = unit :: maximum :: (middle ++ [selected, predecessor])
  unitFactor : unit.factorNumerator = shared.selectedFactorDenominator
  unitRejected : ¬ allAccepted unit.outcomes = true
  maximumFactor : maximum.factorNumerator = shared.maximumFactorNumerator
  maximumAccepted : allAccepted maximum.outcomes = true
  bisection : ∃ rejected, replayBisection shared.selectedFactorDenominator
    shared.maximumFactorNumerator middle = .ok (rejected, shared.selectedFactorNumerator)
  selectedFactor : selected.factorNumerator = shared.selectedFactorNumerator
  selectedAccepted : allAccepted selected.outcomes = true
  predecessorFactor : predecessor.factorNumerator = shared.selectedFactorNumerator - 1
  predecessorRejected : ¬ allAccepted predecessor.outcomes = true
  boundary : Except.forEach (validateBoundary unit (some predecessor) selected)
    shared.participants.zipIdx = .ok ()

omit [StepperExecutor] [LoweringProvenance] in
/-- The checker accepts exactly the traces of a search above factor one. -/
theorem validateDilatedTrace_eq_ok : validateDilatedTrace shared = .ok () ↔
    ∃ unit maximum middle selected predecessor,
      DilatedTrace shared unit maximum middle selected predecessor := by
  unfold validateDilatedTrace
  constructor
  · intro h
    split at h
    · next unit maximum rest predecessor selected before hreports hreverse =>
      simp only [Except.bind_eq_ok, Except.exists_unit, Except.failIf_eq_ok, not_or, not_not,
        Prod.exists] at h
      obtain ⟨⟨hlong, hunit, hunitRejected, hmaximum, hmaximumAccepted⟩, rejected, admitted,
        hbisection, ⟨hadmitted, hselected, hselectedAccepted, hpredecessor, hrejected⟩,
        hboundary⟩ := h
      subst hadmitted
      -- The last two reports are those of the selected factor and of its predecessor.
      have hall : shared.candidateReports = before.reverse ++ [selected, predecessor] := by
        rw [← List.reverse_reverse shared.candidateReports, hreverse]
        simp
      have hrest : rest = rest.dropLast.dropLast ++ [selected, predecessor] := by
        rw [hreports] at hall
        cases hbefore : before.reverse with
        | nil =>
          rw [hbefore] at hall
          have hlength := congrArg List.length hall
          simp only [List.length_cons, List.nil_append, List.length_nil] at hlength
          omega
        | cons first others =>
          rw [hbefore] at hall
          cases others with
          | nil =>
            have hlength := congrArg List.length hall
            simp only [List.length_cons, List.cons_append, List.nil_append,
              List.length_nil] at hlength
            omega
          | cons second middle =>
            rw [List.cons_append, List.cons_append, List.cons.injEq, List.cons.injEq] at hall
            rw [hall.2.2]
            simp
      rw [hrest] at hreports
      exact ⟨unit, maximum, rest.dropLast.dropLast, selected, predecessor, hreports, hunit,
        hunitRejected, hmaximum, hmaximumAccepted, ⟨rejected, hbisection⟩, hselected,
        hselectedAccepted, hpredecessor, hrejected, hboundary⟩
    · cases h
  · rintro ⟨unit, maximum, middle, selected, predecessor, h⟩
    obtain ⟨rejected, hbisection⟩ := h.bisection
    rw [h.reports]
    simp only [List.reverse_cons, List.reverse_append, List.reverse_nil, List.nil_append,
      List.cons_append]
    have hmiddle : (middle ++ [selected, predecessor]).dropLast.dropLast = middle := by simp
    have hlong : ¬ (middle ++ [selected, predecessor]).length < 2 := by simp
    rw [hmiddle, hbisection]
    rw [Except.bind_of_ok (Except.failIf_of_not (by
      simp only [not_or, not_not]
      exact ⟨hlong, h.unitFactor, h.unitRejected, h.maximumFactor, h.maximumAccepted⟩))]
    show (failIf _ _ >>= fun _ => _) = _
    rw [Except.bind_of_ok (Except.failIf_of_not (by
      simp only [not_or, not_not]
      exact ⟨trivial, h.selectedFactor, h.selectedAccepted, h.predecessorFactor,
        h.predecessorRejected⟩))]
    exact h.boundary

/-- A finished selection over a complete trace passes the checks of its rounds. -/
theorem validateRounds_of_finish
    (hrecorded : Recorded selection.selectedFactorDenominator selection.maximumFactorNumerator
      participants.length selection.trace)
    (hround : round.candidates.length = participants.length)
    (h : finishSharedTimerSelection participants round selection = .ok shared) :
    validateRounds shared = .ok () := by
  obtain ⟨-, hdenominator, hmaximum, hrounds, hreports, hcount, hreplays, first, firstCandidate,
    hretimed⟩ := finishSharedTimerSelection_eq_ok h
  have hlength := (Except.mapM_eq_ok hretimed).length_eq
  rw [List.length_zipIdx, List.length_zip, hround, min_self] at hlength
  exact validateRounds_of_recorded hrecorded hdenominator hmaximum hrounds hreports
    hlength.symm hcount hreplays

/-- A search that stops at factor one passes its checks. -/
theorem validateUnitTrace_of_finish {replays : List (TimerCandidate2 × SharedTimerCandidateOutcome2)}
    (hreplays : participants.mapM (replayParticipant numerator denominator) = .ok replays)
    (hround : round.candidates = replays.map Prod.fst)
    (hreports : selection.trace.candidateReports =
      [⟨selection.selectedFactorDenominator, replays.map Prod.snd⟩])
    (haccepted : allAccepted (replays.map Prod.snd) = true)
    (hunit : selection.unitOutcomes = replays.map Prod.snd)
    (hpredecessor : selection.predecessorOutcomes = none)
    (h : finishSharedTimerSelection participants round selection = .ok shared) :
    validateUnitTrace shared = .ok () := by
  obtain ⟨-, hdenominator, -, -, hsame, -, -, first, firstCandidate, hretimed⟩ :=
    finishSharedTimerSelection_eq_ok h
  rw [hround] at hretimed
  unfold validateUnitTrace
  rw [hsame, hreports]
  dsimp only
  rw [Except.bind_of_ok (Except.failIf_of_not (by
    rw [not_or, not_not, not_not]
    exact ⟨hdenominator.symm, haccepted⟩))]
  apply validateBoundary_of_finish hunit _ rfl hreplays hretimed
  exact hpredecessor

omit [StepperExecutor] [LoweringProvenance] in
theorem requireAccepted_eq_ok {error : DeviceId → MotionError → MotionScheduleError} :
    requireAccepted round error = .ok () ↔ round.firstRejection = none := by
  unfold requireAccepted
  cases round.firstRejection with
  | none => simp
  | some rejection => simp

/-- The checker accepts what the search above factor one selects. -/
theorem validateSearchTrace_of_selectDilated {policy : TimerDilationPolicy}
    (hrecorded : Recorded policy.factorDenominator policy.maximumFactorNumerator
      participants.length trace)
    (htrace : trace.candidateReports = [⟨policy.factorDenominator, round.outcomes⟩])
    (hrejected : ¬ allAccepted round.outcomes = true) (hsome : round.firstRejection ≠ none)
    (h : selectDilated participants policy round trace = .ok shared) :
    validateSearchTrace shared = .ok () := by
  simp only [selectDilated, Except.bind_eq_ok, Except.exists_unit, requireAccepted_eq_ok,
    Except.failIf_eq_ok, Prod.exists] at h
  obtain ⟨hceiling, maximumRound, maximumTrace, hmaximum, hmaximumNone, rejected, admitted,
    bisected, hbisect, selectedRound, selectedTrace, hselected, hselectedNone, predecessorRound,
    finalTrace, hpredecessor, hpredecessorSome, hfinish⟩ := h
  -- The ceiling lies above factor one.
  have hwidth : policy.factorDenominator < policy.maximumFactorNumerator := by
    apply UInt32.lt_of_le_of_ne policy.ordered
    intro hsame
    unfold requireCeiling at hceiling
    rw [if_pos hsame.symm, requireAccepted_eq_ok] at hceiling
    exact hsome hceiling
  obtain ⟨hrecorded, hreports₁, -, haccepted₁⟩ :=
    hrecorded.replay ⟨policy.ordered, UInt32.le_refl _⟩ hmaximum
  obtain ⟨hrecorded, hlow, hlt, hup, middle, hreports₂, hbisection⟩ :=
    bisect_spec hrecorded (UInt32.le_refl _) hwidth (UInt32.le_refl _) hbisect
  have hselectedLow : policy.factorDenominator < admitted := UInt32.lt_of_le_of_lt hlow hlt
  have hpredecessorLattice : policy.factorDenominator ≤ admitted - 1 ∧
      admitted - 1 ≤ policy.maximumFactorNumerator := by
    have hone : (1 : UInt32) ≤ admitted := by
      rw [UInt32.le_iff_toNat_le]
      rw [UInt32.lt_iff_toNat_lt] at hselectedLow
      exact Nat.lt_of_le_of_lt (Nat.zero_le _) hselectedLow
    have hvalue : (admitted - 1).toNat = admitted.toNat - 1 := UInt32.toNat_sub_of_le _ _ hone
    rw [UInt32.lt_iff_toNat_lt] at hselectedLow
    rw [UInt32.le_iff_toNat_le] at hup
    constructor
    · rw [UInt32.le_iff_toNat_le, hvalue]
      omega
    · rw [UInt32.le_iff_toNat_le, hvalue]
      omega
  obtain ⟨hrecorded, hreports₃, -, haccepted₃⟩ :=
    hrecorded.replay ⟨UInt32.le_of_lt hselectedLow, hup⟩ hselected
  obtain ⟨hrecorded, hreports₄, -, haccepted₄⟩ := hrecorded.replay hpredecessorLattice hpredecessor
  obtain ⟨replays, hreplays, hround, -, -⟩ := replaySharedTimerRound_eq_ok hselected
  have hcandidates : selectedRound.candidates = replays.map Prod.fst := by rw [hround]
  have houtcomes : selectedRound.outcomes = replays.map Prod.snd := by rw [hround]
  have hrounds : validateRounds shared = .ok () := by
    apply validateRounds_of_finish hrecorded _ hfinish
    rw [hcandidates, List.length_map, (Except.mapM_eq_ok hreplays).length_eq]
  obtain ⟨hnumerator, hdenominator, hmaximumFactor, -, hreports, -, -, first, firstCandidate,
    hretimed⟩ := finishSharedTimerSelection_eq_ok hfinish
  dsimp only at hnumerator hdenominator hmaximumFactor hreports
  have hdilated : shared.selectedFactorNumerator ≠ shared.selectedFactorDenominator := by
    rw [hnumerator, hdenominator]
    exact (UInt32.ne_of_lt hselectedLow).symm
  unfold validateSearchTrace
  rw [Except.bind_of_ok hrounds, if_neg hdilated, validateDilatedTrace_eq_ok]
  refine ⟨⟨policy.factorDenominator, round.outcomes⟩,
    ⟨policy.maximumFactorNumerator, maximumRound.outcomes⟩, middle,
    ⟨admitted, selectedRound.outcomes⟩, ⟨admitted - 1, predecessorRound.outcomes⟩, ?_⟩
  constructor
  case reports =>
    rw [hreports, hreports₄, hreports₃, hreports₂, hreports₁, htrace]
    simp
  case unitFactor => exact hdenominator.symm
  case unitRejected => exact hrejected
  case maximumFactor => exact hmaximumFactor.symm
  case maximumAccepted => exact haccepted₁.1 hmaximumNone
  case bisection =>
    rw [hdenominator, hmaximumFactor, hnumerator]
    exact ⟨rejected, hbisection⟩
  case selectedFactor => exact hnumerator.symm
  case selectedAccepted => exact haccepted₃.1 hselectedNone
  case predecessorFactor => rw [hnumerator]
  case predecessorRejected =>
    rw [← haccepted₄]
    simpa using hpredecessorSome
  case boundary =>
    rw [hcandidates] at hretimed
    exact validateBoundary_of_finish rfl rfl houtcomes hreplays hretimed

/-- The checker accepts every schedule the search selects. -/
theorem validateSearchTrace_of_select {policy : TimerDilationPolicy}
    (h : selectSharedTimerLatticeSchedule participants policy = .ok shared) :
    validateSearchTrace shared = .ok () := by
  simp only [selectSharedTimerLatticeSchedule, Except.bind_eq_ok, Prod.exists] at h
  obtain ⟨sorted, -, unitRound, trace, hunit, h⟩ := h
  have hnone : Recorded policy.factorDenominator policy.maximumFactorNumerator sorted.length
      ⟨0, []⟩ := ⟨rfl, by simp⟩
  obtain ⟨hrecorded, hreports, -, haccepted⟩ :=
    hnone.replay ⟨UInt32.le_refl _, policy.ordered⟩ hunit
  by_cases hall : unitRound.firstRejection.isNone = true
  · rw [if_pos hall, Option.isNone_iff_eq_none] at *
    obtain ⟨replays, hreplays, hround, -, -⟩ := replaySharedTimerRound_eq_ok hunit
    have hcandidates : unitRound.candidates = replays.map Prod.fst := by rw [hround]
    have houtcomes : unitRound.outcomes = replays.map Prod.snd := by rw [hround]
    have hrounds : validateRounds shared = .ok () := by
      apply validateRounds_of_finish hrecorded _ h
      rw [hcandidates, List.length_map, (Except.mapM_eq_ok hreplays).length_eq]
    have hlattice : shared.selectedFactorNumerator = shared.selectedFactorDenominator := by
      obtain ⟨hnumerator, hdenominator, -⟩ := finishSharedTimerSelection_eq_ok h
      rw [hnumerator, hdenominator]
    unfold validateSearchTrace
    rw [Except.bind_of_ok hrounds, if_pos hlattice]
    refine validateUnitTrace_of_finish hreplays hcandidates ?_ ?_ houtcomes rfl h
    · dsimp only
      rw [hreports, houtcomes]
      rfl
    · rw [← houtcomes]
      exact haccepted.1 hall
  · rw [if_neg hall] at h
    have hsome : unitRound.firstRejection ≠ none := fun hnone => hall (by rw [hnone]; rfl)
    exact validateSearchTrace_of_selectDilated hrecorded hreports
      (fun haccept => hsome (haccepted.2 haccept)) hsome h

/-! ## Minimality -/

/-- The bounds the checker passes through while it replays a bisection. -/
def bisectionBounds (rejected admitted : UInt32) :
    List SharedTimerCandidateRoundReport2 → List (UInt32 × UInt32)
  | [] => [(rejected, admitted)]
  | report :: reports => (rejected, admitted) ::
    if allAccepted report.outcomes then
      bisectionBounds rejected (midpoint rejected admitted) reports
    else bisectionBounds (midpoint rejected admitted) admitted reports

omit [ExactReal] [StepperExecutor] [LoweringProvenance] in
/-- A completed replay ends at some of its bounds. -/
theorem mem_bisectionBounds {rejected admitted rejected' admitted' : UInt32}
    {reports : List SharedTimerCandidateRoundReport2}
    (h : replayBisection rejected admitted reports = .ok (rejected', admitted')) :
    (rejected', admitted') ∈ bisectionBounds rejected admitted reports := by
  induction reports generalizing rejected admitted with
  | nil =>
    cases h
    exact List.mem_singleton_self _
  | cons report reports ih =>
    simp only [replayBisection, Except.bind_eq_ok, Except.exists_unit, Except.failIf_eq_ok] at h
    obtain ⟨-, h⟩ := h
    rw [bisectionBounds, List.mem_cons]
    right
    split at h
    · next haccepted =>
      rw [if_pos haccepted]
      exact ih h
    · next hrejected =>
      rw [if_neg hrejected]
      exact ih h

omit [ExactReal] [StepperExecutor] [LoweringProvenance] in
/-- Every pair of bounds is ordered and lies within the first one. -/
theorem bisectionBounds_within {rejected admitted : UInt32}
    {reports : List SharedTimerCandidateRoundReport2} (h : rejected ≤ admitted) :
    ∀ bounds ∈ bisectionBounds rejected admitted reports,
      rejected ≤ bounds.1 ∧ bounds.1 ≤ bounds.2 ∧ bounds.2 ≤ admitted := by
  induction reports generalizing rejected admitted with
  | nil =>
    intro bounds hbounds
    rw [bisectionBounds, List.mem_singleton] at hbounds
    subst hbounds
    exact ⟨UInt32.le_refl _, h, UInt32.le_refl _⟩
  | cons report reports ih =>
    intro bounds hbounds
    rw [bisectionBounds, List.mem_cons] at hbounds
    rcases hbounds with rfl | hbounds
    · exact ⟨UInt32.le_refl _, h, UInt32.le_refl _⟩
    · split at hbounds
      · obtain ⟨hlow, hordered, hhigh⟩ := ih (le_midpoint h) bounds hbounds
        exact ⟨hlow, hordered, UInt32.le_trans hhigh (midpoint_le h)⟩
      · obtain ⟨hlow, hordered, hhigh⟩ := ih (midpoint_le h) bounds hbounds
        exact ⟨UInt32.le_trans (le_midpoint h) hlow, hordered, hhigh⟩

/-- The reports between the boundary rounds. -/
def bisectionReports (shared : SharedTimerLatticeSchedule2) :
    List SharedTimerCandidateRoundReport2 :=
  (shared.candidateReports.drop 2).dropLast.dropLast

/-- Every bound and every midpoint of the replayed bisection lies on the lattice, and none of its
differences underflows. -/
structure ReplaysWithin (shared : SharedTimerLatticeSchedule2) : Prop where
  bounds : ∀ bounds ∈ bisectionBounds shared.selectedFactorDenominator
    shared.maximumFactorNumerator (bisectionReports shared),
    shared.selectedFactorDenominator ≤ bounds.1 ∧ bounds.1 ≤ bounds.2 ∧
      bounds.2 ≤ shared.maximumFactorNumerator ∧
      shared.selectedFactorDenominator ≤ midpoint bounds.1 bounds.2 ∧
      midpoint bounds.1 bounds.2 ≤ shared.maximumFactorNumerator ∧
      (midpoint bounds.1 bounds.2).toNat =
        bounds.1.toNat + (bounds.2.toNat - bounds.1.toNat) / 2
  selected : shared.selectedFactorNumerator ≠ shared.selectedFactorDenominator →
    0 < shared.selectedFactorNumerator ∧ ∃ rejected, (rejected, shared.selectedFactorNumerator) ∈
      bisectionBounds shared.selectedFactorDenominator shared.maximumFactorNumerator
        (bisectionReports shared)

omit [LoweringProvenance] in
/-- Every round of a checked trace is on the lattice. -/
theorem lattice_of_validateRounds (h : validateRounds shared = .ok ()) :
    ∀ report ∈ shared.candidateReports,
      shared.selectedFactorDenominator ≤ report.factorNumerator ∧
        report.factorNumerator ≤ shared.maximumFactorNumerator := by
  intro report hreport
  simp only [validateRounds, Except.bind_eq_ok, Except.exists_unit, Except.failIf_eq_ok] at h
  obtain ⟨-, -, -, -, -, hreports⟩ := h
  constructor
  · apply UInt32.not_lt.1
    intro hlow
    exact hreports (List.any_eq_true.2 ⟨report, hreport, decide_eq_true (Or.inl hlow)⟩)
  · apply UInt32.not_lt.1
    intro hhigh
    exact hreports (List.any_eq_true.2 ⟨report, hreport, decide_eq_true (Or.inr (Or.inl hhigh))⟩)

omit [LoweringProvenance] in
/-- The lattice of a checked trace is not empty. -/
theorem ordered_of_validateSearchTrace (h : validateSearchTrace shared = .ok ()) :
    shared.selectedFactorDenominator ≤ shared.maximumFactorNumerator := by
  simp only [validateSearchTrace, Except.bind_eq_ok, Except.exists_unit] at h
  obtain ⟨hrounds, h⟩ := h
  have hlattice := lattice_of_validateRounds hrounds
  have hsome : ∃ report, report ∈ shared.candidateReports := by
    split at h
    · unfold validateUnitTrace at h
      split at h
      · next unit hreports =>
        rw [hreports]
        exact ⟨unit, List.mem_singleton_self unit⟩
      · cases h
    · obtain ⟨unit, maximum, middle, selected, predecessor, h⟩ := validateDilatedTrace_eq_ok.1 h
      rw [h.reports]
      exact ⟨unit, List.mem_cons_self⟩
  obtain ⟨report, hreport⟩ := hsome
  exact UInt32.le_trans (hlattice report hreport).1 (hlattice report hreport).2

omit [LoweringProvenance] in
/-- The checker never leaves the lattice while it replays the bisection. -/
theorem replaysWithin_of_validateSearchTrace (h : validateSearchTrace shared = .ok ()) :
    ReplaysWithin shared := by
  have hordered := ordered_of_validateSearchTrace h
  constructor
  case bounds =>
    intro bounds hbounds
    obtain ⟨hlow, hle, hhigh⟩ := bisectionBounds_within hordered bounds hbounds
    exact ⟨hlow, hle, hhigh, UInt32.le_trans hlow (le_midpoint hle),
      UInt32.le_trans (midpoint_le hle) hhigh, toNat_midpoint hle⟩
  case selected =>
    intro hdilated
    simp only [validateSearchTrace, Except.bind_eq_ok, Except.exists_unit] at h
    obtain ⟨hrounds, h⟩ := h
    rw [if_neg hdilated] at h
    obtain ⟨unit, maximum, middle, selected, predecessor, htrace⟩ := validateDilatedTrace_eq_ok.1 h
    have hselected : selected ∈ shared.candidateReports := by
      rw [htrace.reports]
      simp
    have hlow := (lattice_of_validateRounds hrounds selected hselected).1
    rw [htrace.selectedFactor] at hlow
    obtain ⟨rejected, hbisection⟩ := htrace.bisection
    have hmiddle : bisectionReports shared = middle := by
      rw [bisectionReports, htrace.reports]
      simp
    refine ⟨UInt32.lt_of_le_of_lt UInt32.zero_le (UInt32.lt_of_le_of_ne hlow hdilated.symm),
      rejected, ?_⟩
    rw [hmiddle]
    exact mem_bisectionBounds hbisection

omit [LoweringProvenance] in
/-- Over a monotone oracle the selected factor is the least accepted one. -/
theorem selected_isLeast {oracle : UInt32 → List SharedTimerCandidateOutcome2}
    (h : validateSearchTrace shared = .ok ())
    (htrue : ∀ report ∈ shared.candidateReports, report.outcomes = oracle report.factorNumerator)
    (hmono : ∀ m n, shared.selectedFactorDenominator ≤ m → m ≤ n →
      n ≤ shared.maximumFactorNumerator → allAccepted (oracle m) = true →
        allAccepted (oracle n) = true) :
    IsLeast {n | shared.selectedFactorDenominator ≤ n ∧ n ≤ shared.maximumFactorNumerator ∧
      allAccepted (oracle n) = true} shared.selectedFactorNumerator := by
  have hordered := ordered_of_validateSearchTrace h
  simp only [validateSearchTrace, Except.bind_eq_ok, Except.exists_unit] at h
  obtain ⟨hrounds, h⟩ := h
  have hlattice := lattice_of_validateRounds hrounds
  by_cases hunit : shared.selectedFactorNumerator = shared.selectedFactorDenominator
  · rw [if_pos hunit] at h
    unfold validateUnitTrace at h
    split at h
    · next unit hreports =>
      simp only [Except.bind_eq_ok, Except.exists_unit, Except.failIf_eq_ok, not_or,
        not_not] at h
      obtain ⟨⟨hfactor, haccepted⟩, -⟩ := h
      rw [htrue unit (by rw [hreports]; exact List.mem_singleton_self unit), hfactor] at haccepted
      rw [hunit]
      exact ⟨⟨UInt32.le_refl _, hordered, haccepted⟩, fun n hn => hn.1⟩
    · cases h
  · rw [if_neg hunit] at h
    obtain ⟨unit, maximum, middle, selected, predecessor, htrace⟩ := validateDilatedTrace_eq_ok.1 h
    have hselected : selected ∈ shared.candidateReports := by
      rw [htrace.reports]
      simp
    have hpredecessor : predecessor ∈ shared.candidateReports := by
      rw [htrace.reports]
      simp
    have hin := hlattice selected hselected
    have haccepted := htrace.selectedAccepted
    have hrejected := htrace.predecessorRejected
    rw [htrue selected hselected, htrace.selectedFactor] at haccepted
    rw [htrue predecessor hpredecessor, htrace.predecessorFactor] at hrejected
    rw [htrace.selectedFactor] at hin
    refine ⟨⟨hin.1, hin.2, haccepted⟩, ?_⟩
    -- A smaller accepted factor would make the predecessor accepted.
    rintro n ⟨hlow, hhigh, hn⟩
    by_contra hlt
    have hlt : n < shared.selectedFactorNumerator := UInt32.not_le.1 hlt
    apply hrejected
    have hone : (1 : UInt32) ≤ shared.selectedFactorNumerator := by
      rw [UInt32.le_iff_toNat_le]
      rw [UInt32.lt_iff_toNat_lt] at hlt
      exact Nat.lt_of_le_of_lt (Nat.zero_le _) hlt
    have hvalue : (shared.selectedFactorNumerator - 1).toNat =
        shared.selectedFactorNumerator.toNat - 1 := UInt32.toNat_sub_of_le _ _ hone
    rw [UInt32.lt_iff_toNat_lt] at hlt
    have hbound := hin.2
    rw [UInt32.le_iff_toNat_le] at hbound
    refine hmono n _ hlow ?_ ?_ hn
    · rw [UInt32.le_iff_toNat_le, hvalue]
      omega
    · rw [UInt32.le_iff_toNat_le, hvalue]
      omega

end Search

end Alumina.Motion
