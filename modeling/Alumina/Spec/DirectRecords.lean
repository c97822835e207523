import Alumina.Motion.RealLibrary

/-!
# The length of a direct record

Up to the tentative length, the lengths that validation accepts come before the ones with another
error, and those before the ones that are refused for turning back or stepping too far. Bisection
between an accepted and a refused length therefore meets every kind of error there is, or ends at
the longest accepted length. Every selected record takes an update, so the record loop covers its
phase and ends.

## Key results

- `selectStructurallyValidRecord_longest`, `selectStructurallyValidRecord_eq_error_iff`: what is
  selected, and when nothing is
- `recordLoop_eq_ok`, `buildRecords_eq_ok`: the records of a phase take exactly its updates, and
  those of a build account for its count
-/

namespace Alumina.Motion.Direct

open Alumina.Partition (FiniteDifferenceSegment FiniteDifferenceValidationLimits)

/-! ## Selection -/

section Selection

variable [FiniteDifferenceMachine]

/-- Up to a length, validation is closed on its two refinement errors: longer records than a refused
one are refused, and shorter ones than an accepted one are accepted. -/
structure PrefixClosed (template : RecordTemplate) (tentative : Nat) : Prop where
  refused : ∀ {count longer : Nat}, 1 ≤ count → count ≤ longer → longer ≤ tentative →
    template.accepts count = .ok false → (∃ segment, template.record longer = .ok segment) →
    template.accepts longer = .ok false
  accepted : ∀ {shorter count : Nat}, 1 ≤ shorter → shorter ≤ count → count ≤ tentative →
    template.accepts count = .ok true → template.accepts shorter = .ok true

/-- The longest length up to the tentative one whose record is accepted. -/
structure IsLongest (template : RecordTemplate) (tentative count : Nat) : Prop where
  positive : 1 ≤ count
  le : count ≤ tentative
  accepted : template.accepts count = .ok true
  longest : ∀ longer, longer ≤ tentative → template.accepts longer = .ok true → longer ≤ count

variable {template : RecordTemplate} {tentativeCount : UInt32} {segment : FiniteDifferenceSegment}

/-- A record can be formed when a longer one can. -/
theorem RecordTemplate.record_of_le {count longer : Nat} (hle : count ≤ longer)
    (hsize : longer < 2 ^ 32) (h : template.record longer = .ok segment) :
    ∃ shorter, template.record count = .ok shorter := by
  simp only [record, finiteDifferenceRecord, Except.bind_eq_ok, Option.okOr_eq_ok,
    UInt64.checkedMul_eq_some, UInt64.checkedAdd_eq_some, UInt32.toNat_toUInt64] at h ⊢
  obtain ⟨duration, hduration, endTick, hend, -⟩ := h
  rw [UInt32.toNat_ofNat_of_lt' hsize] at hduration
  rw [UInt32.toNat_ofNat_of_lt' (hle.trans_lt hsize)]
  have hshorter : template.updatePeriod.toNat * count ≤ template.updatePeriod.toNat * longer :=
    Nat.mul_le_mul_left _ hle
  have hendLt := endTick.toNat_lt
  have hfits : (UInt64.ofNat (template.updatePeriod.toNat * count)).toNat =
      template.updatePeriod.toNat * count :=
    UInt64.toNat_ofNat_of_lt' (show _ < 2 ^ 64 by omega)
  have hendFits : (UInt64.ofNat (template.startTick.toNat +
      template.updatePeriod.toNat * count)).toNat =
        template.startTick.toNat + template.updatePeriod.toNat * count :=
    UInt64.toNat_ofNat_of_lt' (show _ < 2 ^ 64 by omega)
  rw [← hfits] at hendFits
  exact ⟨_, _, hfits, _, hendFits, rfl⟩

/-- Where validation is closed, the selected record is the longest accepted one. -/
theorem selectStructurallyValidRecord_longest (hpos : 0 < tentativeCount.toNat)
    (hclosed : PrefixClosed template tentativeCount.toNat)
    (h : selectStructurallyValidRecord template tentativeCount = .ok segment) :
    ∃ count, IsLongest template tentativeCount.toNat count ∧
      template.record count = .ok segment := by
  obtain ⟨count, hone, hle, haccepted, hrecord, hmaximal⟩ :=
    selectStructurallyValidRecord_eq_ok hpos h
  refine ⟨count, ⟨hone, hle, haccepted, ?_⟩, hrecord⟩
  intro longer hlonger hacceptedLonger
  rcases hmaximal with heq | ⟨-, hnext⟩
  · omega
  · by_contra hlt
    -- the next length would be accepted as well
    have haccepts : template.accepts (count + 1) = .ok true :=
      hclosed.accepted (by omega) (by omega) hlonger hacceptedLonger
    rw [hnext] at haccepts
    cases haccepts

/-- The error of a selection is the one of the shortest record, or one that is no refinement. -/
theorem selectStructurallyValidRecord_eq_error {error : FiniteDifferenceError}
    (hpos : 0 < tentativeCount.toNat)
    (h : selectStructurallyValidRecord template tentativeCount = .error error) :
    template.accepts 1 ≠ .ok true ∨
      ∃ count, 1 ≤ count ∧ count ≤ tentativeCount.toNat ∧
        template.accepts count = .error error := by
  rw [selectStructurallyValidRecord, Except.bind_eq_error] at h
  rcases h with htentative | ⟨accepted, haccepts, h⟩
  · exact .inr ⟨_, hpos, le_rfl, htentative⟩
  cases accepted with
  | true =>
    obtain ⟨candidate, hrecord, -⟩ := RecordTemplate.accepts_eq_true.1 haccepts
    rw [if_pos rfl, hrecord] at h
    cases h
  | false =>
    by_cases hone : template.accepts 1 = .ok true
    · right
      obtain ⟨first, hfirst, hvalid⟩ := RecordTemplate.accepts_eq_true.1 hone
      have hlt : 1 < tentativeCount.toNat := by
        rcases Nat.lt_or_eq_of_le (Nat.succ_le_of_lt hpos) with hlt | heq
        · exact hlt
        · rw [← heq, hone] at haccepts
          cases haccepts
      simp only [Bool.false_eq_true, if_false, hfirst, hvalid, Except.bind_of_ok rfl] at h
      rcases Except.bind_eq_error.1 h with hbisect | ⟨valid, hbisect, hrecord⟩
      · obtain ⟨middle, hlow, hhigh, herror⟩ :=
          Bisection.bisect_eq_error hbisect hlt hone haccepts
        exact ⟨middle, by omega, by omega, herror⟩
      · obtain ⟨-, -, htrue, -⟩ := Bisection.bisect_eq_ok hbisect hlt hone haccepts
        obtain ⟨candidate, hfound, -⟩ := RecordTemplate.accepts_eq_true.1 htrue
        rw [hfound] at hrecord
        cases hrecord
    · exact .inl hone

/-- Where validation is closed, nothing is selected exactly when the shortest record is rejected or
some length up to the tentative one has another error than the two refinements. -/
theorem selectStructurallyValidRecord_eq_error_iff (hpos : 0 < tentativeCount.toNat)
    (hclosed : PrefixClosed template tentativeCount.toNat) :
    (∃ error, selectStructurallyValidRecord template tentativeCount = .error error) ↔
      template.accepts 1 ≠ .ok true ∨
        ∃ count error, 1 ≤ count ∧ count ≤ tentativeCount.toNat ∧
          template.accepts count = .error error := by
  constructor
  · intro h
    obtain ⟨error, h⟩ := h
    rcases selectStructurallyValidRecord_eq_error hpos h with hone | ⟨count, hother⟩
    · exact .inl hone
    · exact .inr ⟨count, error, hother⟩
  · intro h
    cases hselect : selectStructurallyValidRecord template tentativeCount with
    | error error => exact ⟨error, rfl⟩
    | ok segment =>
      exfalso
      obtain ⟨count, hone, hle, haccepted, -, hmaximal⟩ :=
        selectStructurallyValidRecord_eq_ok hpos hselect
      rcases h with hfirst | ⟨other, error, hother, hotherLe, herror⟩
      · exact hfirst (hclosed.accepted le_rfl hone hle haccepted)
      by_cases hshort : other ≤ count
      · -- shorter lengths than the selected one are accepted
        rw [hclosed.accepted hother hshort hle haccepted] at herror
        cases herror
      · -- longer ones are refused
        rcases hmaximal with heq | ⟨htentative, hnext⟩
        · omega
        obtain ⟨longest, hlongest⟩ : ∃ longest,
            template.record tentativeCount.toNat = .ok longest := by
          simp only [RecordTemplate.accepts, Except.bind_eq_ok] at htentative
          obtain ⟨longest, hlongest, -⟩ := htentative
          exact ⟨longest, hlongest⟩
        have hrefused := hclosed.refused (by omega) (by omega) hotherLe hnext
          (RecordTemplate.record_of_le hotherLe tentativeCount.toNat_lt hlongest)
        rw [hrefused] at herror
        cases herror

end Selection

/-! ## The record loop -/

section Loop

variable [ExactReal] [RealFunctions] [RationalEnclosures] [FeedPaths] [FiniteDifferenceMachine]
  {updatePeriod : UInt32} {policy : DirectFiniteDifferencePolicy2}
  {limits : FiniteDifferenceValidationLimits} {site : PhaseSite} {cursor cursor' : PhaseCursor}

/-- The updates that some records take. -/
def totalUpdates (records : List FiniteDifferenceSegment) : Nat :=
  (records.map (·.updateCount.toNat)).sum

/-- What the passes of a phase have done since the first of them: they have added records, each of
positive length, which take the updates up to the offset. -/
structure Covered (site : PhaseSite) (start cursor : PhaseCursor)
    (added : List FiniteDifferenceSegment) : Prop where
  records : cursor.build.records = start.build.records ++ added
  positive : ∀ record ∈ added, 0 < record.updateCount.toNat
  offset : cursor.phaseOffset.toNat = start.phaseOffset.toNat + totalUpdates added
  total : cursor.build.totalUpdateCount.toNat =
    start.build.totalUpdateCount.toNat + totalUpdates added
  within : cursor.phaseOffset.toNat ≤ site.phaseUpdates.toNat

/-- A pass adds its record to what is covered. -/
theorem Covered.pass {start : PhaseCursor} {added : List FiniteDifferenceSegment}
    (hcovered : Covered site start cursor added) (hlt : cursor.phaseOffset < site.phaseUpdates)
    (h : recordPass updatePeriod policy limits site cursor = .ok cursor') :
    ∃ record, Covered site start cursor' (added ++ [record]) := by
  obtain ⟨selected, hpos, hrecords, hoffset, htotal, hwithin⟩ := recordPass_eq_ok hlt h
  have hsum : totalUpdates (added ++ [selected]) =
      totalUpdates added + selected.updateCount.toNat := by
    simp [totalUpdates]
  refine ⟨selected, ?_, ?_, ?_, ?_, hwithin⟩
  · rw [hrecords, hcovered.records, List.append_assoc]
  · intro record hrecord
    rcases List.mem_append.1 hrecord with hold | hnew
    · exact hcovered.positive record hold
    · rwa [List.mem_singleton.1 hnew]
  · rw [hoffset, hcovered.offset, hsum, Nat.add_assoc]
  · rw [htotal, hcovered.total, hsum, Nat.add_assoc]

/-- The record loop of a phase ends at its last update: its records take exactly the updates from
the offset on. -/
theorem recordLoop_eq_ok (hle : cursor.phaseOffset.toNat ≤ site.phaseUpdates.toNat)
    (h : recordLoop updatePeriod policy limits site cursor = .ok cursor') :
    cursor'.phaseOffset = site.phaseUpdates ∧
      ∃ records, Covered site cursor cursor' records := by
  obtain ⟨⟨records, hcovered⟩, hend⟩ := Except.loop_eq_ok
    (P := fun reached => ∃ records, Covered site cursor reached records)
    (fun _ _ hreached hlt hpass => by
      obtain ⟨records, hcovered⟩ := hreached
      obtain ⟨record, hnext⟩ := hcovered.pass hlt hpass
      exact ⟨_, hnext⟩)
    ⟨[], by simp, by simp, by simp [totalUpdates], by simp [totalUpdates], hle⟩ h
  rw [UInt64.lt_iff_toNat_lt, Nat.not_lt] at hend
  exact ⟨UInt64.toNat_inj.1 (le_antisymm hcovered.within hend), records, hcovered⟩

/-! ## The whole build -/

/-- The count of updates is the one of the records, and every record takes one. -/
structure Counted (build : RecordBuildState) : Prop where
  total : build.totalUpdateCount.toNat = totalUpdates build.records
  positive : ∀ record ∈ build.records, 0 < record.updateCount.toNat

omit [RealFunctions] [RationalEnclosures] [FeedPaths] [FiniteDifferenceMachine] in
theorem Counted.phase {added : List FiniteDifferenceSegment} (hcounted : Counted cursor.build)
    (hcovered : Covered site cursor cursor' added) : Counted cursor'.build := by
  constructor
  · rw [hcovered.total, hcovered.records, hcounted.total]
    simp [totalUpdates]
  · intro record hrecord
    rw [hcovered.records] at hrecord
    rcases List.mem_append.1 hrecord with hold | hnew
    · exact hcounted.positive record hold
    · exact hcovered.positive record hnew

variable [RecordSources]

theorem Counted.buildPhase {updateSeconds : ExactReal.Real} {line : ElementLine}
    {element element' : ElementCursor}
    {phase : JerkRampPhaseProposal ExactReal.Real × Nat} (hcounted : Counted element.build)
    (h : buildPhase updatePeriod policy limits updateSeconds line element phase = .ok element') :
    Counted element'.build := by
  simp only [Direct.buildPhase, Except.bind_eq_ok, Except.pure_eq_ok] at h
  obtain ⟨phaseUpdates, -, finished, hloop, rfl⟩ := h
  obtain ⟨-, added, hcovered⟩ := recordLoop_eq_ok (Nat.zero_le _) hloop
  have hstart : Counted (⟨element.build, 0⟩ : PhaseCursor).build := hcounted
  exact hstart.phase hcovered

theorem Counted.buildElement {profile : Machine.MachineDynamicsProfile2}
    {metricStart : Axes ExactReal.Real} {updateSeconds : ExactReal.Real}
    {build build' : RecordBuildState}
    {element : (FeedPathElement × List (JerkRampPhaseProposal ExactReal.Real)) × Nat}
    (hcounted : Counted build)
    (h : buildElement updatePeriod policy limits profile metricStart updateSeconds build element =
      .ok build') : Counted build' := by
  unfold Direct.buildElement at h
  split at h
  · simp only [Except.bind_eq_ok, Except.pure_eq_ok] at h
    obtain ⟨_, -, _, -, _, -, finished, hphases, rfl⟩ := h
    exact Except.foldlM_invariant (P := fun element => Counted element.build)
      (fun _ _ _ _ hs hpass => hs.buildPhase hpass) hcounted hphases
  · cases h

/-- The records of a build account for all of its updates. -/
theorem buildRecords_eq_ok {metricStart : Option (Axes ExactReal.Real)}
    {elements : List (FeedPathElement × List (JerkRampPhaseProposal ExactReal.Real))}
    {profile : Machine.MachineDynamicsProfile2} {build : RecordBuild}
    (h : buildRecords policy metricStart elements profile = .ok build) :
    build.records ≠ [] ∧ build.totalUpdateCount.toNat = totalUpdates build.records ∧
      ∀ record ∈ build.records, 0 < record.updateCount.toNat := by
  simp only [buildRecords, Except.bind_eq_ok, Except.exists_unit, Except.failIf_eq_ok,
    Except.pure_eq_ok, List.isEmpty_iff] at h
  obtain ⟨_, -, _, -, _, -, state, helements, _, -, _, -, hnonempty, rfl⟩ := h
  have hcounted : Counted state := Except.foldlM_invariant (P := Counted)
    (fun _ _ _ _ hs hpass => hs.buildElement hpass) ⟨rfl, by simp⟩ helements
  exact ⟨hnonempty, hcounted.total, hcounted.positive⟩

end Loop

/-! ## Both together -/

section Code

variable [ExactReal] [RealFunctions] [RationalEnclosures] [FeedPaths] [FiniteDifferenceMachine]

/-- Where validation is closed on its refinement errors, the longest accepted length is selected,
and nothing exactly when the shortest record is rejected or another error is met. The record loop
takes no infinite run of passes: every pass moves on by the updates of the record that it selects,
and a loop that succeeds has covered its phase. -/
theorem recordLength_refined :
    (∀ (template : RecordTemplate) (tentativeCount : UInt32), 0 < tentativeCount.toNat →
      PrefixClosed template tentativeCount.toNat →
      (∀ segment, selectStructurallyValidRecord template tentativeCount = .ok segment →
        ∃ count, IsLongest template tentativeCount.toNat count ∧
          template.record count = .ok segment) ∧
      ((∃ error, selectStructurallyValidRecord template tentativeCount = .error error) ↔
        template.accepts 1 ≠ .ok true ∨
          ∃ count error, 1 ≤ count ∧ count ≤ tentativeCount.toNat ∧
            template.accepts count = .error error)) ∧
    ∀ (updatePeriod : UInt32) (policy : DirectFiniteDifferencePolicy2)
      (limits : FiniteDifferenceValidationLimits) (site : PhaseSite),
      (WellFounded fun later earlier : PhaseCursor => earlier.phaseOffset < site.phaseUpdates ∧
        recordPass updatePeriod policy limits site earlier = .ok later) ∧
      (∀ cursor cursor' : PhaseCursor, cursor.phaseOffset < site.phaseUpdates →
        recordPass updatePeriod policy limits site cursor = .ok cursor' →
        cursor.phaseOffset < cursor'.phaseOffset ∧ cursor'.phaseOffset ≤ site.phaseUpdates) ∧
      ∀ cursor cursor' : PhaseCursor, cursor.phaseOffset ≤ site.phaseUpdates →
        recordLoop updatePeriod policy limits site cursor = .ok cursor' →
        cursor'.phaseOffset = site.phaseUpdates ∧
          ∃ records, Covered site cursor cursor' records := by
  constructor
  · intro template tentativeCount hpos hclosed
    exact ⟨fun _ => selectStructurallyValidRecord_longest hpos hclosed,
      selectStructurallyValidRecord_eq_error_iff hpos hclosed⟩
  · intro updatePeriod policy limits site
    refine ⟨Except.wellFounded_pass fun _ _ => recordPass_advances, ?_, ?_⟩
    · intro cursor cursor' hlt h
      obtain ⟨selected, hpos, -, hoffset, -, hwithin⟩ := recordPass_eq_ok hlt h
      exact ⟨UInt64.lt_iff_toNat_lt.2 (by omega), UInt64.le_iff_toNat_le.2 hwithin⟩
    · intro cursor cursor' hle h
      exact recordLoop_eq_ok (UInt64.le_iff_toNat_le.1 hle) h

end Code

/-! ## A concrete selection -/

section Sample

open HostLibrary

/-- A record that moves half a step of the first axis with every update, and at most three steps. -/
def sampleTemplate : RecordTemplate where
  startTick := 100
  updatePeriod := 20
  axes := ⟨⟨0, 2 ^ 31, 0, 0⟩, ⟨0, 0, 0, 0⟩⟩
  expectedPosition := ⟨0, 0⟩
  limits :=
    { maximumSegmentTicks := 1000
      maximumUpdateCount := 10
      requiredUpdatePeriodTicks := 20
      maximumStepsPerSegment := 3
      maximumAbsoluteFirstDifference := ⟨2 ^ 32 - 1, 2 ^ 32 - 1⟩ }

private theorem checkUpdates_error {maximumSteps : UInt64} {axes : Axes FiniteDifferenceAxis}
    {update : Nat} {problem : RecordProblem}
    (h : checkUpdates maximumSteps axes update = .error problem) :
    recordLengthRefinementCandidate (problem : FiniteDifferenceError) = true := by
  have hone : ∀ {axis : FiniteDifferenceAxis},
      checkUpdate maximumSteps axis update = .error problem →
      recordLengthRefinementCandidate (problem : FiniteDifferenceError) = true := by
    intro axis hcheck
    simp only [checkUpdate, Except.bind_eq_error, Except.failIf_eq_error] at hcheck
    rcases hcheck with ⟨-, rfl⟩ | ⟨_, -, -, rfl⟩ <;> rfl
  rw [checkUpdates, Except.bind_eq_error] at h
  rcases h with h | ⟨_, -, h⟩
  · exact hone h
  · exact hone h

/-- A validation that goes update by update accepts or refuses every length within its limit. -/
private theorem accepts_of_record {template : RecordTemplate} {count : Nat}
    {segment : FiniteDifferenceSegment} (hone : 1 ≤ count)
    (hle : count ≤ template.limits.maximumUpdateCount.toNat)
    (hrecord : template.record count = .ok segment) :
    template.accepts count = .ok (decide (∀ update < count,
      checkUpdates template.limits.maximumStepsPerSegment template.axes update = .ok ())) := by
  have hupdates := RecordTemplate.record_eq_ok hrecord
  have hcount : segment.updateCount.toNat = count := by
    rw [hupdates]
    exact UInt32.toNat_ofNat_of_lt' (hle.trans_lt (UInt32.toNat_lt _))
  have haxes : segment.axes = template.axes := by
    simp only [RecordTemplate.record, finiteDifferenceRecord, Except.bind_eq_ok,
      Except.pure_eq_ok] at hrecord
    obtain ⟨_, -, _, -, rfl⟩ := hrecord
    rfl
  have hlimit : ¬ (segment.updateCount = 0 ∨
      template.limits.maximumUpdateCount < segment.updateCount) := by
    rw [← UInt32.toNat_inj, UInt32.lt_iff_toNat_lt, hcount]
    simp only [UInt32.toNat_zero]
    omega
  have hvalidate : template.validate segment =
      Except.forEach (checkUpdates template.limits.maximumStepsPerSegment template.axes)
        (List.range count) := by
    show (Except.failIf _ _ >>= fun _ => Except.forEach _ _) = _
    rw [Except.bind_of_ok (Except.failIf_of_not hlimit), haxes, hcount]
  rw [RecordTemplate.accepts, Except.bind_of_ok hrecord, hvalidate]
  cases hchecks : Except.forEach
      (checkUpdates template.limits.maximumStepsPerSegment template.axes) (List.range count) with
  | ok _ =>
    have hall := Except.forEach_eq_ok.1 hchecks
    rw [decide_eq_true fun update hupdate => hall update (List.mem_range.2 hupdate)]
    rfl
  | error problem =>
    obtain ⟨update, hmem, herror⟩ := Except.forEach_eq_error hchecks
    have hnot : ¬ ∀ update < count,
        checkUpdates template.limits.maximumStepsPerSegment template.axes update = .ok () := by
      intro hall
      rw [hall update (List.mem_range.1 hmem)] at herror
      cases herror
    rw [decide_eq_false hnot]
    show (if recordLengthRefinementCandidate (problem : FiniteDifferenceError) then _ else _) = _
    rw [if_pos (checkUpdates_error herror)]
    rfl

/-- A validation that goes update by update is closed within its limit. -/
theorem prefixClosed_of_le {template : RecordTemplate} {tentative : Nat}
    (hle : tentative ≤ template.limits.maximumUpdateCount.toNat) :
    PrefixClosed template tentative := by
  constructor
  · intro count longer hone hlonger htentative hrefused hrecord
    obtain ⟨segment, hrecord⟩ := hrecord
    obtain ⟨shorter, hshorter⟩ := RecordTemplate.record_of_le hlonger
      ((htentative.trans hle).trans_lt (UInt32.toNat_lt _)) hrecord
    rw [accepts_of_record hone (by omega) hshorter] at hrefused
    rw [accepts_of_record (by omega) (by omega) hrecord]
    have hnot := of_decide_eq_false (Except.ok.inj hrefused)
    exact congrArg _ (decide_eq_false fun hall =>
      hnot fun update hupdate => hall update (by omega))
  · intro shorter count hone hshorter htentative haccepted
    obtain ⟨segment, hrecord, -⟩ := RecordTemplate.accepts_eq_true.1 haccepted
    obtain ⟨shortSegment, hshort⟩ := RecordTemplate.record_of_le hshorter
      ((htentative.trans hle).trans_lt (UInt32.toNat_lt _)) hrecord
    rw [accepts_of_record (by omega) (by omega) hrecord] at haccepted
    rw [accepts_of_record hone (by omega) hshort]
    have hall := of_decide_eq_true (Except.ok.inj haccepted)
    exact congrArg _ (decide_eq_true fun update hupdate => hall update (by omega))

/-- Of ten updates, the six that keep to three steps are selected. -/
theorem recordLength_refined_sample :
    (selectStructurallyValidRecord sampleTemplate 10).toOption.map (·.updateCount) = some 6 ∧
      ∀ segment, selectStructurallyValidRecord sampleTemplate 10 = .ok segment →
        ∃ count, IsLongest sampleTemplate 10 count ∧ sampleTemplate.record count = .ok segment :=
  ⟨by decide +kernel,
    (recordLength_refined.1 sampleTemplate 10 (by decide) (prefixClosed_of_le le_rfl)).1⟩

end Sample

end Alumina.Motion.Direct
