import Alumina.ForStd.List
import Alumina.Motion.RealLibrary

/-!
# Chord compilation does not drift

Chord ends and cumulative times are rounded independently of each other, so an error never enters
the next value. `Chords` says what the loop over the chords leaves behind: every segment starts
where the last one ended, moves by the difference of two rounded points, and ends at the rounded
time of the exact path. What holds of a prefix, of a fraction of a segment and of its duration
follows from that by induction.

## Key results

- `quantizeAxis_eq_ok`, `compileChord_eq_ok`: one rounding
- `chords_of_compileChords`: the run of the loop
- `Chords.deltas_sum`: the deltas of a prefix add up to its end
- `chordProgram_sound`: the whole program, and the bounds that cannot be violated
-/

namespace Alumina.Motion

/-! ## Rounding -/

section Rounding

/-- A rounded multiple is within half a unit of the lattice. -/
theorem abs_div_sub_le {density x : ℝ} (hdensity : 0 < density) {n : ℝ}
    (h : |n - x * density| ≤ 1 / 2) : |n / density - x| ≤ 1 / (2 * density) := by
  have hscaled : n / density - x = (n - x * density) / density := by
    field_simp
  rw [hscaled, abs_div, abs_of_pos hdensity, div_le_div_iff₀ hdensity (by positivity)]
  nlinarith

/-- What is within a bound at both ends is within it at every fraction between them. -/
theorem abs_interpolate_le {start finish bound fraction : ℝ} (hstart : |start| ≤ bound)
    (hfinish : |finish| ≤ bound) (hfraction : fraction ∈ Set.Icc 0 1) :
    |(1 - fraction) * start + fraction * finish| ≤ bound := by
  rw [abs_le] at hstart hfinish ⊢
  exact (convex_Icc (-bound) bound) hstart hfinish (sub_nonneg.mpr hfraction.2) hfraction.1
    (by ring)

end Rounding

section Code

variable [ExactReal] [RealFunctions] [RealMeaning] [SourceCurves]

theorem divideMm_eq_ok {x y quotient : ExactReal.Real} (h : divideMm x y = .ok quotient) :
    value quotient = value x / value y :=
  (RealMeaning.div_ok (Except.mapError_eq_ok.mp h)).2

theorem halfLatticeUnit_eq_ok {density : ℚ} {half : ExactReal.Real}
    (h : halfLatticeUnit density = .ok half) : value half = 1 / (2 * density) := by
  have hvalue := divideMm_eq_ok h
  simpa using hvalue

variable {policy : MotionCompilePolicy2}

/-! ## Points -/

/-- One rounded coordinate. -/
theorem quantizeAxis_eq_ok {coordinate bound signedError : ExactReal.Real} {density : ℚ}
    (hdensity : 0 < density) {pointIndex axis : Nat} {steps : Int64}
    (h : quantizeAxis coordinate density bound pointIndex axis = .ok (steps, signedError)) :
    |(steps.toInt : ℝ) / density - value coordinate| ≤ 1 / (2 * density) := by
  simp only [quantizeAxis, Except.bind_eq_ok, Except.exists_unit, Except.failIf_eq_ok,
    Except.mapError_eq_ok, Except.pure_eq_ok, Prod.mk.injEq] at h
  obtain ⟨rounded, hround, hrange, canonical, -, -, rfl, -⟩ := h
  have hint : (Int64.ofInt rounded).toInt = rounded := Int64.toInt_ofInt_of_le (by omega) (by omega)
  have hnearest := RealMeaning.round_ok hround
  rw [RealMeaning.value_mul, RealMeaning.value_ofRational] at hnearest
  rw [hint]
  exact abs_div_sub_le (by exact_mod_cast hdensity) hnearest

/-- One rounded point: each coordinate is within half a step. -/
structure Quantized (policy : MotionCompilePolicy2) (point : CanonicalPathPoint2) : Prop where
  x : |(point.steps.x.toInt : ℝ) / policy.stepsPerMillimetre.x - value point.chordPointMm.x| ≤
    1 / (2 * policy.stepsPerMillimetre.x)
  y : |(point.steps.y.toInt : ℝ) / policy.stepsPerMillimetre.y - value point.chordPointMm.y| ≤
    1 / (2 * policy.stepsPerMillimetre.y)

theorem quantizePoint_eq_ok {bounds exact : Axes ExactReal.Real} {pointIndex : Nat}
    {point : CanonicalPathPoint2} (h : quantizePoint policy bounds exact pointIndex = .ok point) :
    point.chordPointMm = exact ∧ Quantized policy point := by
  simp only [quantizePoint, Except.bind_eq_ok, Except.pure_eq_ok] at h
  obtain ⟨⟨xSteps, xError⟩, hx, ⟨ySteps, yError⟩, hy, rfl⟩ := h
  exact ⟨rfl, quantizeAxis_eq_ok policy.x_pos hx, quantizeAxis_eq_ok policy.y_pos hy⟩

/-! ## Chords -/

/-- The exact length of a chord. -/
noncomputable def exactLength (start finish : Axes ExactReal.Real) : ℝ :=
  √((value finish.x - value start.x) ^ 2 + (value finish.y - value start.y) ^ 2)

theorem chordLength_eq_ok {start finish : Axes ExactReal.Real} {length : ExactReal.Real}
    (h : chordLength start finish = .ok length) : value length = exactLength start finish := by
  have hroot := (RealMeaning.sqrt_ok (Except.mapError_eq_ok.mp h)).2
  simp only [RealMeaning.value_add, RealMeaning.value_mul, RealMeaning.value_sub] at hroot
  rw [hroot, exactLength, sq, sq]

omit [RealFunctions] [RealMeaning] in
theorem chordDelta_eq_ok {segmentIndex axis : Nat} {next previous delta : Int64}
    (h : chordDelta segmentIndex axis next previous = .ok delta) :
    delta.toInt = next.toInt - previous.toInt := by
  simp only [chordDelta, Except.bind_eq_ok, Except.exists_unit, Except.failIf_eq_ok,
    Except.pure_eq_ok] at h
  obtain ⟨hrange, rfl⟩ := h
  exact Int64.toInt_ofInt_of_le (by omega) (by omega)

theorem certifiedU64Round_eq_ok {x : ExactReal.Real} {domain : String} {index : Nat} {tick : UInt64}
    (h : certifiedU64Round x domain index = .ok tick) : |(tick.toNat : ℝ) - value x| ≤ 1 / 2 := by
  simp only [certifiedU64Round, Except.bind_eq_ok, Except.exists_unit, Except.failIf_eq_ok,
    Except.mapError_eq_ok, Except.pure_eq_ok] at h
  obtain ⟨rounded, hround, hrange, rfl⟩ := h
  have hnearest := RealMeaning.round_ok hround
  have htick : ((UInt64.ofNat rounded.toNat).toNat : Int) = rounded := by
    rw [UInt64.toNat_ofNat_of_lt' (by simp only [UInt64.size]; omega)]
    omega
  have hcast : ((UInt64.ofNat rounded.toNat).toNat : ℝ) = rounded := by
    exact_mod_cast congrArg (Int.cast : Int → ℝ) htick
  rwa [hcast]

/-- The difference of the rounded ends of a chord. -/
def stepDifference (first second : CanonicalPathPoint2) : Axes Int :=
  ⟨second.steps.x.toInt - first.steps.x.toInt, second.steps.y.toInt - first.steps.y.toInt⟩

def ExecutionSegment.delta (segment : ExecutionSegment) : Axes Int :=
  ⟨segment.deltaSteps.x.toInt, segment.deltaSteps.y.toInt⟩

/-- One chord of a program, after a path of a given length that ends at a given tick. -/
structure Chord (policy : MotionCompilePolicy2) (pathLength : ℝ) (start : UInt64)
    (first second : CanonicalPathPoint2) (boundary : CanonicalTimeBoundary)
    (segment : ExecutionSegment) : Prop where
  starts : segment.startTick = start
  ends : segment.endTick = boundary.tick
  advances : segment.startTick < segment.endTick
  delta : segment.delta = stepDifference first second
  ideal : value boundary.idealSeconds =
    (pathLength + exactLength first.chordPointMm second.chordPointMm) /
      policy.feedMillimetresPerSecond
  near : |(boundary.tick.toNat : ℝ) / policy.timerTicksPerSecond.toNat -
    value boundary.idealSeconds| ≤ 1 / (2 * policy.timerTicksPerSecond.toNat)

variable {bound pathLength : ExactReal.Real} {segmentIndex : Nat} {start : UInt64}
  {first second : CanonicalPathPoint2}

theorem compileChord_eq_ok {chord : CompiledChord}
    (h : compileChord policy bound segmentIndex pathLength start first second = .ok chord) :
    value chord.pathLengthMm =
        value pathLength + exactLength first.chordPointMm second.chordPointMm ∧
      Chord policy (value pathLength) start first second chord.boundary chord.segment := by
  simp only [compileChord, Except.bind_eq_ok, Except.exists_unit, Except.failIf_eq_ok,
    Except.pure_eq_ok] at h
  obtain ⟨length, hlength, ideal, hideal, tick, htick, hadvances, x, hx, y, hy, -, -, canonical, -,
    -, rfl⟩ := h
  have htimer : (0 : ℝ) < policy.timerTicksPerSecond.toNat := by exact_mod_cast policy.timer_pos
  have htotal : value (ExactReal.add pathLength length) =
      value pathLength + exactLength first.chordPointMm second.chordPointMm := by
    rw [RealMeaning.value_add, chordLength_eq_ok hlength]
  have hidealValue := divideMm_eq_ok hideal
  rw [htotal, RealMeaning.value_ofRational] at hidealValue
  have hnearest := certifiedU64Round_eq_ok htick
  rw [RealMeaning.value_mul, RealMeaning.value_ofU64] at hnearest
  exact ⟨htotal,
    { starts := rfl
      ends := rfl
      advances := UInt64.not_le.mp hadvances
      delta := by
        rw [ExecutionSegment.delta, stepDifference, chordDelta_eq_ok hx, chordDelta_eq_ok hy]
      ideal := hidealValue
      near := abs_div_sub_le htimer hnearest }⟩

/-- The chords of a program, one for each pair of consecutive points. -/
inductive Chords (policy : MotionCompilePolicy2) : ℝ → UInt64 → List CanonicalPathPoint2 →
    List CanonicalTimeBoundary → List ExecutionSegment → Prop
  | done {pathLength : ℝ} {start : UInt64} {points : List CanonicalPathPoint2}
    (h : points.length ≤ 1) : Chords policy pathLength start points [] []
  | chord {pathLength : ℝ} {start : UInt64} {first second : CanonicalPathPoint2}
    {rest : List CanonicalPathPoint2} {boundary : CanonicalTimeBoundary}
    {segment : ExecutionSegment} {boundaries : List CanonicalTimeBoundary}
    {segments : List ExecutionSegment}
    (hchord : Chord policy pathLength start first second boundary segment)
    (hrest : Chords policy (pathLength + exactLength first.chordPointMm second.chordPointMm)
      boundary.tick (second :: rest) boundaries segments) :
    Chords policy pathLength start (first :: second :: rest) (boundary :: boundaries)
      (segment :: segments)

theorem chords_of_compileChords {points : List CanonicalPathPoint2} {total : ExactReal.Real}
    {boundaries : List CanonicalTimeBoundary} {segments : List ExecutionSegment}
    (h : compileChords policy bound segmentIndex pathLength start points =
      .ok (total, boundaries, segments)) :
    Chords policy (value pathLength) start points boundaries segments := by
  induction points generalizing segmentIndex pathLength start total boundaries segments with
  | nil =>
    cases h
    exact .done (by simp)
  | cons first rest ih =>
    cases rest with
    | nil =>
      cases h
      exact .done (by simp)
    | cons second rest =>
      simp only [compileChords, Except.bind_eq_ok, Except.pure_eq_ok, Prod.mk.injEq] at h
      obtain ⟨chord, hchord, ⟨total, restBoundaries, restSegments⟩, hrest, -, rfl, rfl⟩ := h
      obtain ⟨hlength, hsound⟩ := compileChord_eq_ok hchord
      have hchords := ih hrest
      rw [hlength] at hchords
      exact .chord hsound hchords

/-! ## The whole path -/

/-- The length of the exact path through some points. -/
noncomputable def exactPathLength : List (Axes ExactReal.Real) → ℝ
  | first :: second :: rest => exactLength first second + exactPathLength (second :: rest)
  | _ => 0

omit [SourceCurves] in
/-- The path through one more point is one chord longer. -/
theorem exactPathLength_take_succ {points : List (Axes ExactReal.Real)} {i : Nat}
    {first second : Axes ExactReal.Real} (hfirst : points[i]? = some first)
    (hsecond : points[i + 1]? = some second) :
    exactPathLength (points.take (i + 2)) =
      exactPathLength (points.take (i + 1)) + exactLength first second := by
  induction i generalizing points with
  | zero =>
    obtain ⟨rest, rfl⟩ : ∃ rest, points = first :: second :: rest := by
      cases points with
      | nil => cases hfirst
      | cons head tail =>
        cases hfirst
        cases tail with
        | nil => cases hsecond
        | cons next rest =>
          cases hsecond
          exact ⟨rest, rfl⟩
    simp [exactPathLength]
  | succ i ih =>
    cases points with
    | nil => cases hfirst
    | cons head tail =>
      cases tail with
      | nil => cases hfirst
      | cons next rest =>
        have htail := ih hfirst hsecond
        simp only [List.take_succ_cons, exactPathLength] at htail ⊢
        rw [htail, add_assoc]

namespace Chords

variable {length : ℝ} {points : List CanonicalPathPoint2}
  {boundaries : List CanonicalTimeBoundary} {segments : List ExecutionSegment}

omit [SourceCurves] in
theorem lengths (h : Chords policy length start points boundaries segments) :
    boundaries.length = points.length - 1 ∧ segments.length = points.length - 1 := by
  induction h with
  | done hshort =>
    simp only [List.length_nil]
    omega
  | chord _ _ ih =>
    simp only [List.length_cons] at ih ⊢
    omega

omit [SourceCurves] in
/-- The chord in one place, after the path that leads there. -/
theorem exists_chord (h : Chords policy length start points boundaries segments) {i : Nat}
    {segment : ExecutionSegment} (hi : segments[i]? = some segment) :
    ∃ first second boundary tick, points[i]? = some first ∧ points[i + 1]? = some second ∧
      boundaries[i]? = some boundary ∧ (start :: boundaries.map (·.tick))[i]? = some tick ∧
      Chord policy (length + exactPathLength ((points.map (·.chordPointMm)).take (i + 1))) tick
        first second boundary segment := by
  induction h generalizing i with
  | done _ => cases hi
  | @chord length start first second rest boundary _ _ _ hchord hrest ih =>
    cases i with
    | zero =>
      cases hi
      refine ⟨first, second, boundary, start, rfl, rfl, rfl, rfl, ?_⟩
      rw [List.map_cons, List.take_succ_cons, List.take_zero, exactPathLength.eq_def, add_zero]
      exact hchord
    | succ i =>
      obtain ⟨first', second', boundary', tick, hfirst, hsecond, hboundary, htick, hthere⟩ := ih hi
      refine ⟨first', second', boundary', tick, hfirst, hsecond, hboundary, htick, ?_⟩
      simp only [List.map_cons, List.take_succ_cons, exactPathLength] at hthere ⊢
      rw [← add_assoc]
      exact hthere

omit [SourceCurves] in
/-- The deltas of a prefix of the segments lead from its first point to its last. -/
theorem deltas_sum (h : Chords policy length start points boundaries segments) (axis : Fin 2)
    {first last : CanonicalPathPoint2} {n : Nat} (hn : n ≤ segments.length)
    (hfirst : points[0]? = some first) (hlast : points[n]? = some last) :
    (first.steps.get axis).toInt +
        ((segments.take n).map fun segment => (segment.deltaSteps.get axis).toInt).sum =
      (last.steps.get axis).toInt := by
  induction h generalizing n first with
  | done _ =>
    obtain rfl : n = 0 := by simpa using hn
    obtain rfl := Option.some.inj (hfirst.symm.trans hlast)
    simp
  | @chord _ _ head second _ _ segment _ _ hchord _ ih =>
    cases n with
    | zero =>
      obtain rfl := Option.some.inj (hfirst.symm.trans hlast)
      simp
    | succ n =>
      cases hfirst
      have hrest := ih (Nat.le_of_succ_le_succ hn) rfl hlast
      have hdelta : (segment.deltaSteps.get axis).toInt =
          (second.steps.get axis).toInt - (head.steps.get axis).toInt := by
        have hboth := hchord.delta
        simp only [ExecutionSegment.delta, stepDifference, Axes.mk.injEq] at hboth
        fin_cases axis
        · exact hboth.1
        · exact hboth.2
      simp only [List.take_succ_cons, List.map_cons, List.sum_cons]
      omega

end Chords

/-! ## Interpolation -/

/-- How far the interpolated canonical position is from the exact chord, at some fraction. -/
noncomputable def deviation (policy : MotionCompilePolicy2) (first second : CanonicalPathPoint2)
    (fraction : ℝ) : Plane :=
  Plane.of fun axis =>
    ((1 - fraction) * (first.steps.get axis).toInt + fraction * (second.steps.get axis).toInt) /
        policy.stepsPerMillimetre.get axis -
      ((1 - fraction) * value (first.chordPointMm.get axis) +
        fraction * value (second.chordPointMm.get axis))

omit [SourceCurves] in
theorem Quantized.get {point : CanonicalPathPoint2} (h : Quantized policy point)
    (axis : Fin 2) :
    |((point.steps.get axis).toInt : ℝ) / policy.stepsPerMillimetre.get axis -
      value (point.chordPointMm.get axis)| ≤ 1 / (2 * policy.stepsPerMillimetre.get axis) := by
  fin_cases axis
  · exact h.x
  · exact h.y

omit [SourceCurves] in
/-- Between two rounded points the deviation of each axis stays within half a step. -/
theorem deviation_le (hfirst : Quantized policy first) (hsecond : Quantized policy second)
    {fraction : ℝ} (hfraction : fraction ∈ Set.Icc 0 1) (axis : Fin 2) :
    |deviation policy first second fraction axis| ≤
      1 / (2 * policy.stepsPerMillimetre.get axis) := by
  have hsplit : deviation policy first second fraction axis =
      (1 - fraction) * ((first.steps.get axis).toInt / policy.stepsPerMillimetre.get axis -
        value (first.chordPointMm.get axis)) +
      fraction * ((second.steps.get axis).toInt / policy.stepsPerMillimetre.get axis -
        value (second.chordPointMm.get axis)) := by
    simp only [deviation, Plane.of_apply]
    ring
  rw [hsplit]
  exact abs_interpolate_le (hfirst.get axis) (hsecond.get axis) hfraction

/-! ## Bounds that cannot be violated -/

/-- The rejections of a bound that was violated after rounding. -/
def MachineCompileError.IsBoundViolation : MachineCompileError → Prop
  | .spatialBoundViolated _ _ | .timerBoundViolated _ => True
  | _ => False

theorem certifyBound_eq_error {magnitude bound : ExactReal.Real}
    {violated error : MachineCompileError} (hle : value magnitude ≤ value bound)
    (h : certifyBound magnitude bound violated = .error error) : ¬ error.IsBoundViolation := by
  unfold certifyBound at h
  split at h
  · cases h
  · cases h
  · next hgreater => exact absurd hle (not_le.mpr (RealMeaning.compare_some hgreater))
  · cases h
    exact id

omit [RealFunctions] [RealMeaning] in
theorem divideMm_eq_error {x y : ExactReal.Real} {error : MachineCompileError}
    (h : divideMm x y = .error error) : ¬ error.IsBoundViolation := by
  obtain ⟨problem, -, rfl⟩ := Except.mapError_eq_error.mp h
  exact id

theorem quantizeAxis_eq_error {coordinate half : ExactReal.Real} {density : ℚ}
    (hdensity : 0 < density) (hhalf : halfLatticeUnit density = .ok half) {pointIndex axis : Nat}
    {error : MachineCompileError}
    (h : quantizeAxis coordinate density half pointIndex axis = .error error) :
    ¬ error.IsBoundViolation := by
  simp only [quantizeAxis, Except.bind_eq_error, Except.mapError_eq_error, Except.mapError_eq_ok,
    Except.failIf_eq_error, Except.failIf_eq_ok, Except.exists_unit] at h
  obtain ⟨problem, -, rfl⟩ | ⟨rounded, hround, ⟨-, rfl⟩ | ⟨-, hdivide | ⟨canonical, hcanonical,
    hbound | ⟨-, h⟩⟩⟩⟩ := h
  · exact id
  · exact id
  · exact divideMm_eq_error hdivide
  · apply certifyBound_eq_error ?_ hbound
    have hnearest := RealMeaning.round_ok hround
    rw [RealMeaning.value_mul, RealMeaning.value_ofRational] at hnearest
    rw [RealMeaning.value_abs, RealMeaning.value_sub, divideMm_eq_ok hcanonical,
      RealMeaning.value_integer, RealMeaning.value_ofRational, halfLatticeUnit_eq_ok hhalf]
    exact abs_div_sub_le (by exact_mod_cast hdensity) hnearest
  · cases h

theorem quantizePoint_eq_error {x y : ExactReal.Real}
    (hx : halfLatticeUnit policy.stepsPerMillimetre.x = .ok x)
    (hy : halfLatticeUnit policy.stepsPerMillimetre.y = .ok y) {point : Axes ExactReal.Real}
    {pointIndex : Nat} {error : MachineCompileError}
    (h : quantizePoint policy ⟨x, y⟩ point pointIndex = .error error) :
    ¬ error.IsBoundViolation := by
  simp only [quantizePoint, Except.bind_eq_error] at h
  obtain hfirst | ⟨_, _, hsecond | ⟨_, _, h⟩⟩ := h
  · exact quantizeAxis_eq_error policy.x_pos hx hfirst
  · exact quantizeAxis_eq_error policy.y_pos hy hsecond
  · cases h

omit [RealFunctions] [RealMeaning] in
theorem chordDelta_eq_error {axis : Nat} {next previous : Int64} {error : MachineCompileError}
    (h : chordDelta segmentIndex axis next previous = .error error) :
    ¬ error.IsBoundViolation := by
  simp only [chordDelta, Except.bind_eq_error, Except.failIf_eq_error, Except.exists_unit] at h
  obtain ⟨-, rfl⟩ | ⟨-, h⟩ := h
  · exact id
  · cases h

theorem compileChord_eq_error
    (hbound : value bound = 1 / (2 * policy.timerTicksPerSecond.toNat)) {error : MachineCompileError}
    (h : compileChord policy bound segmentIndex pathLength start first second = .error error) :
    ¬ error.IsBoundViolation := by
  have htimer : (0 : ℝ) < policy.timerTicksPerSecond.toNat := by exact_mod_cast policy.timer_pos
  simp only [compileChord, Except.bind_eq_error, Except.failIf_eq_error, Except.failIf_eq_ok,
    Except.exists_unit] at h
  obtain hlength | ⟨length, -, hideal | ⟨ideal, -, hround | ⟨tick, htick, ⟨-, rfl⟩ | ⟨-, hx |
    ⟨x, -, hy | ⟨y, -, ⟨-, rfl⟩ | ⟨-, ⟨-, rfl⟩ | ⟨-, hcanonical | ⟨canonical, hdivide,
    hcertify | ⟨-, h⟩⟩⟩⟩⟩⟩⟩⟩⟩⟩ := h
  · obtain ⟨problem, -, rfl⟩ := Except.mapError_eq_error.mp hlength
    exact id
  · exact divideMm_eq_error hideal
  · simp only [certifiedU64Round, Except.bind_eq_error, Except.mapError_eq_error,
      Except.failIf_eq_error, Except.exists_unit] at hround
    obtain ⟨problem, -, rfl⟩ | ⟨_, _, ⟨-, rfl⟩ | ⟨-, h⟩⟩ := hround
    · exact id
    · exact id
    · cases h
  · exact id
  · exact chordDelta_eq_error hx
  · exact chordDelta_eq_error hy
  · exact id
  · exact id
  · exact divideMm_eq_error hcanonical
  · apply certifyBound_eq_error ?_ hcertify
    have hnearest := certifiedU64Round_eq_ok htick
    rw [RealMeaning.value_mul, RealMeaning.value_ofU64] at hnearest
    rw [RealMeaning.value_abs, RealMeaning.value_sub, divideMm_eq_ok hdivide,
      RealMeaning.value_ofU64, RealMeaning.value_ofU64, hbound]
    exact abs_div_sub_le htimer hnearest
  · cases h

theorem compileChords_eq_error
    (hbound : value bound = 1 / (2 * policy.timerTicksPerSecond.toNat)) {error : MachineCompileError}
    {points : List CanonicalPathPoint2}
    (h : compileChords policy bound segmentIndex pathLength start points = .error error) :
    ¬ error.IsBoundViolation := by
  induction points generalizing segmentIndex pathLength start with
  | nil => cases h
  | cons first rest ih =>
    cases rest with
    | nil => cases h
    | cons second rest =>
      simp only [compileChords, Except.bind_eq_error] at h
      obtain hchord | ⟨_, _, hrest | ⟨_, _, h⟩⟩ := h
      · exact compileChord_eq_error hbound hchord
      · exact ih hrest
      · cases h

/-! ## Programs -/

variable {source : SourceCurves.Path} {program : CanonicalPathProgram2}

/-- A program of a polyline: rounded points, contiguous segments, and errors that do not grow. -/
structure SoundProgram (policy : MotionCompilePolicy2) (exact : List (Axes ExactReal.Real))
    (program : CanonicalPathProgram2) : Prop where
  points : program.points.map (·.chordPointMm) = exact
  segments : program.segments.length = exact.length - 1
  boundaries : program.timeBoundaries.length = program.segments.length + 1
  origin : program.timeBoundaries.head?.map (·.tick) = some 0
  contiguous {i : Nat} {segment : ExecutionSegment} : program.segments[i]? = some segment →
    ∃ before after, program.timeBoundaries[i]? = some before ∧
      program.timeBoundaries[i + 1]? = some after ∧ segment.startTick = before.tick ∧
      segment.endTick = after.tick ∧ segment.startTick < segment.endTick
  prefixes {n : Nat} {first last : CanonicalPathPoint2} (axis : Fin 2) :
    n ≤ program.segments.length → program.points[0]? = some first →
    program.points[n]? = some last →
    (first.steps.get axis).toInt + ((program.segments.take n).map fun segment =>
      (segment.deltaSteps.get axis).toInt).sum = (last.steps.get axis).toInt
  halfStep (axis : Fin 2) : value (program.evidence.maximumAxisQuantizationErrorMm.get axis) =
    1 / (2 * policy.stepsPerMillimetre.get axis)
  interpolated {i : Nat} {first second : CanonicalPathPoint2} {fraction : ℝ} :
    program.points[i]? = some first → program.points[i + 1]? = some second →
    fraction ∈ Set.Icc 0 1 →
    (∀ axis, |deviation policy first second fraction axis| ≤
      value (program.evidence.maximumAxisQuantizationErrorMm.get axis)) ∧
    ‖deviation policy first second fraction‖ ≤
      value program.evidence.maximumPositionQuantizationErrorMm
  halfTick : value program.evidence.maximumTimerBoundaryErrorSeconds =
    1 / (2 * policy.timerTicksPerSecond.toNat)
  timed {i : Nat} {boundary : CanonicalTimeBoundary} :
    program.timeBoundaries[i]? = some boundary →
    value boundary.idealSeconds =
      exactPathLength (exact.take (i + 1)) / policy.feedMillimetresPerSecond ∧
    |(boundary.tick.toNat : ℝ) / policy.timerTicksPerSecond.toNat -
      value boundary.idealSeconds| ≤ value program.evidence.maximumTimerBoundaryErrorSeconds
  oneTick : value program.evidence.maximumSegmentDurationErrorSeconds =
    1 / policy.timerTicksPerSecond.toNat
  durations {i : Nat} {segment : ExecutionSegment} {start finish : Axes ExactReal.Real} :
    program.segments[i]? = some segment → exact[i]? = some start → exact[i + 1]? = some finish →
    |((segment.endTick.toNat : ℝ) - segment.startTick.toNat) / policy.timerTicksPerSecond.toNat -
      exactLength start finish / policy.feedMillimetresPerSecond| ≤
      value program.evidence.maximumSegmentDurationErrorSeconds

/-- What a successful compilation did. -/
structure Compiled (source : SourceCurves.Path) (policy : MotionCompilePolicy2)
    (polyline : CertifiedPolyline ExactReal.Real) (program : CanonicalPathProgram2) : Prop where
  segmented : segmentSource source (RealFunctions.ofRational policy.maximumSourceChordErrorMm)
    policy.maximumSubdivisionDepth = .ok polyline
  points : program.points.map (·.chordPointMm) = polyline.points
  quantized : ∀ point ∈ program.points, Quantized policy point
  halfX : value program.evidence.maximumAxisQuantizationErrorMm.x =
    1 / (2 * policy.stepsPerMillimetre.x)
  halfY : value program.evidence.maximumAxisQuantizationErrorMm.y =
    1 / (2 * policy.stepsPerMillimetre.y)
  position : value program.evidence.maximumPositionQuantizationErrorMm =
    √(value program.evidence.maximumAxisQuantizationErrorMm.x ^ 2 +
      value program.evidence.maximumAxisQuantizationErrorMm.y ^ 2)
  halfTick : value program.evidence.maximumTimerBoundaryErrorSeconds =
    1 / (2 * policy.timerTicksPerSecond.toNat)
  oneTick : value program.evidence.maximumSegmentDurationErrorSeconds =
    1 / policy.timerTicksPerSecond.toNat
  chords : ∃ boundaries,
    program.timeBoundaries = ⟨ExactReal.zero, 0, ExactReal.zero⟩ :: boundaries ∧
      Chords policy 0 0 program.points boundaries program.segments

theorem quantizePoints_eq_ok {bounds : Axes ExactReal.Real} {exact : List (Axes ExactReal.Real)}
    {points : List CanonicalPathPoint2}
    (h : (exact.zipIdx.mapM fun (point, pointIndex) =>
      quantizePoint policy bounds point pointIndex) = .ok points) :
    points.map (·.chordPointMm) = exact ∧ ∀ point ∈ points, Quantized policy point := by
  have hpairs := Except.mapM_eq_ok h
  constructor
  · have hmap := hpairs.map_eq_map (f := Prod.fst) (g := (·.chordPointMm))
      fun pair point hpoint => (quantizePoint_eq_ok hpoint).1.symm
    rw [← hmap, List.zipIdx_map_fst]
  · intro point hpoint
    obtain ⟨pair, -, hpair⟩ := hpairs.exists_of_mem_right hpoint
    exact (quantizePoint_eq_ok hpair).2

theorem compile_eq_ok (h : compileCertifiedChordProgram source policy = .ok program) :
    ∃ polyline, Compiled source policy polyline program := by
  simp only [compileCertifiedChordProgram, Except.bind_eq_ok, Except.mapError_eq_ok,
    Except.pure_eq_ok] at h
  obtain ⟨polyline, hpolyline, x, hx, y, hy, position, hposition, timer, htimer, duration,
    hduration, points, hpoints, ⟨total, boundaries, segments⟩, hchords, rfl⟩ := h
  obtain ⟨hexact, hquantized⟩ := quantizePoints_eq_ok hpoints
  have hpositionValue := (RealMeaning.sqrt_ok hposition).2
  have htimerValue := divideMm_eq_ok htimer
  have hdurationValue := divideMm_eq_ok hduration
  simp only [RealMeaning.value_add, RealMeaning.value_mul, RealMeaning.value_ofU64,
    UInt64.reduceToNat, Nat.cast_ofNat, Nat.cast_one, ← sq]
    at hpositionValue htimerValue hdurationValue
  have hrun := chords_of_compileChords hchords
  rw [RealMeaning.value_zero] at hrun
  exact ⟨polyline,
    { segmented := hpolyline
      points := hexact
      quantized := hquantized
      halfX := halfLatticeUnit_eq_ok hx
      halfY := halfLatticeUnit_eq_ok hy
      position := hpositionValue
      halfTick := htimerValue
      oneTick := hdurationValue
      chords := ⟨boundaries, rfl, hrun⟩ }⟩

/-! ## Soundness -/

namespace Compiled

variable {polyline : CertifiedPolyline ExactReal.Real}

theorem halfStep (h : Compiled source policy polyline program) (axis : Fin 2) :
    value (program.evidence.maximumAxisQuantizationErrorMm.get axis) =
      1 / (2 * policy.stepsPerMillimetre.get axis) := by
  fin_cases axis
  · exact h.halfX
  · exact h.halfY

/-- The ideal time and the rounding of every boundary, the origin included. -/
theorem timed (h : Compiled source policy polyline program) {i : Nat}
    {boundary : CanonicalTimeBoundary} (hboundary : program.timeBoundaries[i]? = some boundary) :
    value boundary.idealSeconds =
        exactPathLength (polyline.points.take (i + 1)) / policy.feedMillimetresPerSecond ∧
      |(boundary.tick.toNat : ℝ) / policy.timerTicksPerSecond.toNat -
        value boundary.idealSeconds| ≤ 1 / (2 * policy.timerTicksPerSecond.toNat) := by
  obtain ⟨boundaries, hall, hchords⟩ := h.chords
  rw [hall] at hboundary
  cases i with
  | zero =>
    cases hboundary
    have hpath : exactPathLength (polyline.points.take 1) = 0 := by
      cases polyline.points with
      | nil => rfl
      | cons point rest => rfl
    simp [RealMeaning.value_zero, hpath]
  | succ i =>
    -- boundary `i + 1` belongs to segment `i`
    have hsegment : i < program.segments.length := by
      have hinside := (List.getElem?_eq_some_iff.mp hboundary).1
      have hlengths := hchords.lengths
      simp only [List.length_cons] at hinside
      omega
    obtain ⟨first, second, boundary', tick, hfirst, hsecond, hplace, -, hchord⟩ :=
      hchords.exists_chord (List.getElem?_eq_getElem hsegment)
    obtain rfl : boundary' = boundary := Option.some.inj (hplace.symm.trans hboundary)
    have hstart : polyline.points[i]? = some first.chordPointMm := by
      rw [← h.points, List.getElem?_map, hfirst, Option.map_some]
    have hfinish : polyline.points[i + 1]? = some second.chordPointMm := by
      rw [← h.points, List.getElem?_map, hsecond, Option.map_some]
    refine ⟨?_, hchord.near⟩
    rw [hchord.ideal, exactPathLength_take_succ hstart hfinish, h.points, zero_add]

/-- Every segment leads from one boundary to the next. -/
theorem contiguous (h : Compiled source policy polyline program) {i : Nat}
    {segment : ExecutionSegment} (hsegment : program.segments[i]? = some segment) :
    ∃ before after, program.timeBoundaries[i]? = some before ∧
      program.timeBoundaries[i + 1]? = some after ∧ segment.startTick = before.tick ∧
      segment.endTick = after.tick ∧ segment.startTick < segment.endTick := by
  obtain ⟨boundaries, hall, hchords⟩ := h.chords
  obtain ⟨first, second, after, tick, -, -, hafter, htick, hchord⟩ := hchords.exists_chord hsegment
  have hticks : (program.timeBoundaries.map (·.tick))[i]? = some tick := by
    rw [hall]
    exact htick
  rw [List.getElem?_map, Option.map_eq_some_iff] at hticks
  obtain ⟨before, hbefore, rfl⟩ := hticks
  refine ⟨before, after, hbefore, ?_, hchord.starts, hchord.ends, hchord.advances⟩
  rw [hall]
  exact hafter

/-- The duration of a segment is off by the roundings of its two boundaries. -/
theorem durations (h : Compiled source policy polyline program) {i : Nat}
    {segment : ExecutionSegment} {start finish : Axes ExactReal.Real}
    (hsegment : program.segments[i]? = some segment) (hstart : polyline.points[i]? = some start)
    (hfinish : polyline.points[i + 1]? = some finish) :
    |((segment.endTick.toNat : ℝ) - segment.startTick.toNat) / policy.timerTicksPerSecond.toNat -
      exactLength start finish / policy.feedMillimetresPerSecond| ≤
      1 / policy.timerTicksPerSecond.toNat := by
  obtain ⟨before, after, hbefore, hafter, hstarts, hends, -⟩ := h.contiguous hsegment
  obtain ⟨hbeforeIdeal, hbeforeNear⟩ := h.timed hbefore
  obtain ⟨hafterIdeal, hafterNear⟩ := h.timed hafter
  rw [exactPathLength_take_succ hstart hfinish] at hafterIdeal
  have hideal : exactLength start finish / policy.feedMillimetresPerSecond =
      value after.idealSeconds - value before.idealSeconds := by
    rw [hafterIdeal, hbeforeIdeal]
    ring
  have hhalves : (1 : ℝ) / policy.timerTicksPerSecond.toNat =
      1 / (2 * policy.timerTicksPerSecond.toNat) + 1 / (2 * policy.timerTicksPerSecond.toNat) := by
    ring
  rw [hstarts, hends, hideal, hhalves, sub_div]
  rw [abs_le] at hbeforeNear hafterNear ⊢
  constructor <;> linarith

/-- At every fraction of every segment the canonical position is within the reported bounds. -/
theorem interpolated (h : Compiled source policy polyline program) {i : Nat} {fraction : ℝ}
    (hfirst : program.points[i]? = some first) (hsecond : program.points[i + 1]? = some second)
    (hfraction : fraction ∈ Set.Icc 0 1) :
    (∀ axis, |deviation policy first second fraction axis| ≤
      value (program.evidence.maximumAxisQuantizationErrorMm.get axis)) ∧
    ‖deviation policy first second fraction‖ ≤
      value program.evidence.maximumPositionQuantizationErrorMm := by
  have haxis : ∀ axis, |deviation policy first second fraction axis| ≤
      value (program.evidence.maximumAxisQuantizationErrorMm.get axis) := by
    intro axis
    rw [h.halfStep]
    exact deviation_le (h.quantized first (List.mem_of_getElem? hfirst))
      (h.quantized second (List.mem_of_getElem? hsecond)) hfraction axis
  refine ⟨haxis, ?_⟩
  rw [h.position]
  exact norm_plane_le (haxis 0) (haxis 1)

theorem sound (h : Compiled source policy polyline program) :
    SoundProgram policy polyline.points program := by
  obtain ⟨boundaries, hall, hchords⟩ := h.chords
  have hlengths := hchords.lengths
  have hpoints : program.points.length = polyline.points.length := by
    rw [← h.points, List.length_map]
  exact
    { points := h.points
      segments := by omega
      boundaries := by
        rw [hall, List.length_cons]
        omega
      origin := by rw [hall, List.head?_cons, Option.map_some]
      contiguous := h.contiguous
      prefixes := fun axis hn hfirst hlast => hchords.deltas_sum axis hn hfirst hlast
      halfStep := h.halfStep
      interpolated := h.interpolated
      halfTick := h.halfTick
      timed := fun hboundary => h.halfTick ▸ h.timed hboundary
      oneTick := h.oneTick
      durations := fun hsegment hstart hfinish =>
        h.oneTick ▸ h.durations hsegment hstart hfinish }

end Compiled

omit [RealFunctions] [RealMeaning] in
theorem segmentSource_eq_error {limit : ExactReal.Real} {depth : Nat} {error : MachineCompileError}
    (h : segmentSource source limit depth = .error error) : ¬ error.IsBoundViolation := by
  simp only [segmentSource, Except.bind_eq_error, Except.mapError_eq_error] at h
  obtain ⟨problem, -, rfl⟩ | ⟨options, -, h⟩ := h
  · exact id
  · split at h
    · cases h
    · split at h
      · cases h
        exact id
      · cases h
        exact id

/-- Every rejection is of an input, never of a bound that the rounding itself would break. -/
theorem compile_eq_error {error : MachineCompileError}
    (h : compileCertifiedChordProgram source policy = .error error) :
    ¬ error.IsBoundViolation := by
  simp only [compileCertifiedChordProgram, Except.bind_eq_error, Except.mapError_eq_error,
    Except.mapError_eq_ok] at h
  obtain hsource | ⟨polyline, -, hx | ⟨x, hx, hy | ⟨y, hy, ⟨problem, -, rfl⟩ | ⟨position, -,
    htimer | ⟨timer, htimer, hduration | ⟨duration, -, hpoints | ⟨points, -, hchords |
    ⟨_, -, h⟩⟩⟩⟩⟩⟩⟩⟩ := h
  · exact segmentSource_eq_error hsource
  · exact divideMm_eq_error hx
  · exact divideMm_eq_error hy
  · exact id
  · exact divideMm_eq_error htimer
  · exact divideMm_eq_error hduration
  · obtain ⟨point, -, hpoint⟩ := Except.mapM_eq_error hpoints
    exact quantizePoint_eq_error hx hy hpoint
  · have hbound := divideMm_eq_ok htimer
    simp only [RealMeaning.value_mul, RealMeaning.value_ofU64, UInt64.reduceToNat,
      Nat.cast_ofNat, Nat.cast_one] at hbound
    exact compileChords_eq_error hbound hchords
  · cases h

/-- A compiled program keeps every reported bound over its whole length, and no compilation ends
in a violated bound. -/
theorem chordProgram_sound (source : SourceCurves.Path) (policy : MotionCompilePolicy2) :
    (∀ program, compileCertifiedChordProgram source policy = .ok program →
      ∃ polyline, segmentSource source (RealFunctions.ofRational policy.maximumSourceChordErrorMm)
        policy.maximumSubdivisionDepth = .ok polyline ∧
        SoundProgram policy polyline.points program) ∧
    ∀ error, compileCertifiedChordProgram source policy = .error error →
      ¬ error.IsBoundViolation := by
  constructor
  · intro program h
    obtain ⟨polyline, hcompiled⟩ := compile_eq_ok h
    exact ⟨polyline, hcompiled.segmented, hcompiled.sound⟩
  · intro error h
    exact compile_eq_error h

end Code

/-! ## Five millimetres -/

open HostLibrary

def fiveMillimetres : SourceCurves.Path where
  points := [⟨(0 : ℚ), (0 : ℚ)⟩, ⟨(3 : ℚ), (4 : ℚ)⟩]
  sourceFragmentCount := 1
  segmentCount := 1
  maximumDepth := 0

/-- Ten steps on each axis, at ten millimetres per second. -/
def tenStepPolicy : MotionCompilePolicy2 where
  machineConfigurationDigest := .replicate 32 1
  capabilityDigest := .replicate 32 2
  resolutionBudget := none
  stepsPerMillimetre := ⟨10 / 3, 5 / 2⟩
  timerTicksPerSecond := 1000
  feedMillimetresPerSecond := 10
  maximumSourceChordErrorMm := 1 / 100
  maximumSubdivisionDepth := 8
  x_pos := by norm_num
  y_pos := by norm_num
  timer_pos := by decide
  feed_pos := by norm_num

theorem chordProgram_sound_fiveMillimetres : ∃ polyline program,
    compileCertifiedChordProgram fiveMillimetres tenStepPolicy = .ok program ∧
      SoundProgram tenStepPolicy polyline program := by
  have hrun : (compileCertifiedChordProgram fiveMillimetres tenStepPolicy).isOk = true := by
    decide +kernel
  obtain ⟨program, hprogram⟩ := Except.isOk_iff_exists.mp hrun
  obtain ⟨polyline, -, hsound⟩ :=
    (chordProgram_sound fiveMillimetres tenStepPolicy).1 program hprogram
  exact ⟨polyline.points, program, hprogram, hsound⟩

end Alumina.Motion
