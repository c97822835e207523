import Alumina.ForStd.List
import Alumina.Motion.RealLibrary

/-!
# Rest-to-rest profiles are kinematically exact

The acceleration of a ramp is linear in time, so it stays between its ends; where it keeps its sign
the speed stays between its ends too. A profile is therefore within its limits exactly when its
three peaks are, and the peaks fall as the phase duration grows. The least duration is the greatest
of three times, and the number of ticks is its ceiling.

## Key results

- `JerkRampSpanProposal.speed_between`: the speed of a ramp stays between its ends
- `restToRest_profileAt`: the profile of any duration joins, adds up and moves forward
- `keepsLimits_profileAt_iff`: the peaks decide whether the limits hold
- `restToRest_exact`: the phases of the code, and those rebuilt on the output grid
-/

namespace Alumina.Motion

/-! ## Ramps -/

namespace JerkRampSpanProposal

noncomputable section

variable (ramp : JerkRampSpanProposal ℝ) (t : ℝ)

def jerk : ℝ := (ramp.endAcceleration - ramp.startAcceleration) / ramp.traversalTime

def acceleration : ℝ := ramp.startAcceleration + ramp.jerk * t

def speed : ℝ := ramp.startFeed + ramp.startAcceleration * t + ramp.jerk * t ^ 2 / (2 : Nat)

def distance : ℝ :=
  ramp.startFeed * t + ramp.startAcceleration * t ^ 2 / (2 : Nat) + ramp.jerk * t ^ 3 / (6 : Nat)

end

variable {ramp : JerkRampSpanProposal ℝ} {t : ℝ}

theorem speed_eq : ramp.speed t =
    ramp.startFeed + ramp.startAcceleration * t + ramp.jerk * t ^ 2 / 2 := by
  rw [speed, Nat.cast_ofNat]

theorem distance_eq : ramp.distance t =
    ramp.startFeed * t + ramp.startAcceleration * t ^ 2 / 2 + ramp.jerk * t ^ 3 / 6 := by
  rw [distance, Nat.cast_ofNat, Nat.cast_ofNat]

theorem hasDerivAt_distance : HasDerivAt ramp.distance (ramp.speed t) t := by
  have hlinear := (hasDerivAt_id t).const_mul ramp.startFeed
  have hsquare := ((hasDerivAt_pow 2 t).const_mul ramp.startAcceleration).div_const 2
  have hcube := ((hasDerivAt_pow 3 t).const_mul ramp.jerk).div_const 6
  refine ((hlinear.add hsquare).add hcube).congr_deriv ?_
  rw [speed]
  push_cast
  ring

/-- The ramp takes some time and arrives at its end. -/
structure Arrives (ramp : JerkRampSpanProposal ℝ) : Prop where
  time_pos : 0 < ramp.traversalTime
  endFeed : ramp.speed ramp.traversalTime = ramp.endFeed

/-- The acceleration of a ramp keeps its sign. -/
def KeepsSign (ramp : JerkRampSpanProposal ℝ) : Prop :=
  (0 ≤ ramp.startAcceleration ∧ 0 ≤ ramp.endAcceleration) ∨
    (ramp.startAcceleration ≤ 0 ∧ ramp.endAcceleration ≤ 0)

theorem acceleration_end (h : ramp.Arrives) :
    ramp.acceleration ramp.traversalTime = ramp.endAcceleration := by
  rw [acceleration, jerk, div_mul_cancel₀ _ h.time_pos.ne']
  ring

/-- The acceleration is a mean of those at the ends. -/
theorem acceleration_eq (h : ramp.Arrives) :
    ramp.acceleration t = (1 - t / ramp.traversalTime) * ramp.startAcceleration +
      t / ramp.traversalTime * ramp.endAcceleration := by
  have hne := h.time_pos.ne'
  rw [acceleration, jerk]
  field_simp
  ring

/-- An instant of a ramp splits it into two parts. -/
theorem fractions_nonneg (h : ramp.Arrives) (ht : t ∈ Set.Icc 0 ramp.traversalTime) :
    0 ≤ t / ramp.traversalTime ∧ 0 ≤ 1 - t / ramp.traversalTime := by
  constructor
  · exact div_nonneg ht.1 h.time_pos.le
  · rw [sub_nonneg, div_le_one h.time_pos]
    exact ht.2

/-- The acceleration stays between bounds on its ends. -/
theorem acceleration_between (h : ramp.Arrives) (ht : t ∈ Set.Icc 0 ramp.traversalTime)
    {low high : ℝ} (hstart : ramp.startAcceleration ∈ Set.Icc low high)
    (hend : ramp.endAcceleration ∈ Set.Icc low high) : ramp.acceleration t ∈ Set.Icc low high := by
  obtain ⟨hpart, hrest⟩ := fractions_nonneg h ht
  rw [acceleration_eq h]
  exact (convex_Icc low high) hstart hend hrest hpart (by ring)

/-- The speed gained since the start, from the mean of two accelerations. -/
theorem speed_sub_start : ramp.speed t - ramp.startFeed =
    t * (ramp.startAcceleration + ramp.acceleration t) / 2 := by
  rw [speed_eq, acceleration]
  ring

theorem speed_sub_end (h : ramp.Arrives) : ramp.endFeed - ramp.speed t =
    (ramp.traversalTime - t) * (ramp.acceleration t + ramp.endAcceleration) / 2 := by
  rw [← h.endFeed, ← acceleration_end h, speed_eq, speed_eq, acceleration, acceleration]
  ring

/-- Where the acceleration keeps its sign, the speed stays between bounds on its ends. -/
theorem speed_between (h : ramp.Arrives) (hsign : ramp.KeepsSign)
    (ht : t ∈ Set.Icc 0 ramp.traversalTime) {low high : ℝ}
    (hstart : ramp.startFeed ∈ Set.Icc low high) (hend : ramp.endFeed ∈ Set.Icc low high) :
    ramp.speed t ∈ Set.Icc low high := by
  have hfrom : ramp.speed t - ramp.startFeed =
      t * (ramp.startAcceleration + ramp.acceleration t) / 2 := speed_sub_start
  have hto := speed_sub_end (t := t) h
  have hrest : 0 ≤ ramp.traversalTime - t := sub_nonneg.mpr ht.2
  obtain ⟨hpart, hwhole⟩ := fractions_nonneg h ht
  obtain ⟨hstartSign, hendSign⟩ | ⟨hstartSign, hendSign⟩ := hsign
  · have hacceleration : 0 ≤ ramp.acceleration t := by
      rw [acceleration_eq h]
      positivity
    have hgain := mul_nonneg ht.1 (add_nonneg hstartSign hacceleration)
    have hleft := mul_nonneg hrest (add_nonneg hacceleration hendSign)
    exact ⟨by linarith [hstart.1], by linarith [hend.2]⟩
  · have hacceleration : ramp.acceleration t ≤ 0 := by
      rw [acceleration_eq h]
      exact add_nonpos (mul_nonpos_of_nonneg_of_nonpos hwhole hstartSign)
        (mul_nonpos_of_nonneg_of_nonpos hpart hendSign)
    have hgain := mul_nonpos_of_nonneg_of_nonpos ht.1 (add_nonpos hstartSign hacceleration)
    have hleft := mul_nonpos_of_nonneg_of_nonpos hrest (add_nonpos hacceleration hendSign)
    exact ⟨by linarith [hend.1], by linarith [hstart.2]⟩

end JerkRampSpanProposal

/-! ## Profiles -/

/-- A profile from rest to rest over a length, in phases of one duration. -/
structure RestToRest (phases : List (JerkRampPhaseProposal ℝ)) (length duration : ℝ) : Prop where
  four : phases.length = 4
  durations : ∀ phase ∈ phases, phase.ramp.traversalTime = duration
  starts : ∀ phase ∈ phases.head?, phase.ramp.startFeed = 0 ∧ phase.ramp.startAcceleration = 0
  ends : ∀ phase ∈ phases.getLast?, phase.ramp.endFeed = 0 ∧ phase.ramp.endAcceleration = 0
  joins : phases.IsChain fun before after => before.ramp.endFeed = after.ramp.startFeed ∧
    before.ramp.endAcceleration = after.ramp.startAcceleration
  arrives : ∀ phase ∈ phases, phase.ramp.speed duration = phase.ramp.endFeed ∧
    phase.ramp.acceleration duration = phase.ramp.endAcceleration ∧
    phase.ramp.distance duration = phase.pathLength
  total : (phases.map (·.pathLength)).sum = length
  forward : ∀ phase ∈ phases, (∀ t ∈ Set.Icc 0 duration, 0 ≤ phase.ramp.speed t) ∧
    MonotoneOn phase.ramp.distance (Set.Icc 0 duration)

/-- The speed, the acceleration and the jerk keep their maxima at every instant. -/
def KeepsLimits (phases : List (JerkRampPhaseProposal ℝ)) (feed acceleration jerk : ℝ) : Prop :=
  ∀ phase ∈ phases, ∀ t ∈ Set.Icc 0 phase.ramp.traversalTime, |phase.ramp.speed t| ≤ feed ∧
    |phase.ramp.acceleration t| ≤ acceleration ∧ |phase.ramp.jerk| ≤ jerk

/-- The profile of a length with a given phase duration. -/
noncomputable def profileAt (length duration : ℝ) : List (JerkRampPhaseProposal ℝ) :=
  let peakSpeed := length / ((2 : Nat) * duration)
  fourPhases 0 Neg.neg (length / (12 : Nat)) ((5 : Nat) * (length / (12 : Nat)))
    (peakSpeed / (2 : Nat)) peakSpeed (peakSpeed / duration) duration

theorem profileAt_eq (length duration : ℝ) : profileAt length duration =
    fourPhases 0 Neg.neg (length / 12) (5 * (length / 12)) (length / (2 * duration) / 2)
      (length / (2 * duration)) (length / (2 * duration) / duration) duration := by
  simp only [profileAt, Nat.cast_ofNat]

section Profile

variable {length duration : ℝ}

/-- Every phase arrives at its end and keeps the sign of its acceleration. -/
theorem profileAt_arrives (hduration : 0 < duration) (hlength : 0 ≤ length) :
    ∀ phase ∈ profileAt length duration, phase.ramp.Arrives ∧ phase.ramp.KeepsSign ∧
      phase.ramp.distance duration = phase.pathLength := by
  have hne := hduration.ne'
  have hpeak : 0 ≤ length / (2 * duration) / duration := by positivity
  simp only [profileAt_eq, fourPhases, List.forall_mem_cons, List.not_mem_nil, false_implies,
    implies_true, and_true]
  refine ⟨⟨⟨hduration, ?_⟩, .inl ⟨le_refl 0, hpeak⟩, ?_⟩,
    ⟨⟨hduration, ?_⟩, .inl ⟨hpeak, le_refl 0⟩, ?_⟩,
    ⟨⟨hduration, ?_⟩, .inr ⟨le_refl 0, neg_nonpos.mpr hpeak⟩, ?_⟩,
    ⟨hduration, ?_⟩, .inr ⟨neg_nonpos.mpr hpeak, le_refl 0⟩, ?_⟩ <;>
  · simp only [JerkRampSpanProposal.speed_eq, JerkRampSpanProposal.distance_eq,
      JerkRampSpanProposal.jerk]
    field_simp
    ring

/-- The ends of every phase, in terms of the peaks. -/
theorem profileAt_ends (hduration : 0 < duration) (hlength : 0 ≤ length) :
    ∀ phase ∈ profileAt length duration, phase.ramp.traversalTime = duration ∧
      phase.ramp.startFeed ∈ Set.Icc 0 (length / (2 * duration)) ∧
      phase.ramp.endFeed ∈ Set.Icc 0 (length / (2 * duration)) ∧
      |phase.ramp.startAcceleration| ≤ length / (2 * duration) / duration ∧
      |phase.ramp.endAcceleration| ≤ length / (2 * duration) / duration ∧
      |phase.ramp.jerk| = length / (2 * duration) / duration / duration := by
  have hfeed : 0 ≤ length / (2 * duration) := by positivity
  have hhalf : length / (2 * duration) / 2 ≤ length / (2 * duration) := half_le_self hfeed
  have hhalfNonneg : 0 ≤ length / (2 * duration) / 2 := by positivity
  have hacceleration : 0 ≤ length / (2 * duration) / duration := by positivity
  have hjerk : 0 ≤ length / (2 * duration) / duration / duration := by positivity
  simp only [profileAt_eq, fourPhases, JerkRampSpanProposal.jerk, List.forall_mem_cons,
    List.not_mem_nil, false_implies, implies_true, and_true, Set.mem_Icc, abs_zero,
    abs_neg, sub_zero, zero_sub, sub_neg_eq_add, zero_add, le_refl, hfeed, hhalf, hhalfNonneg,
    hacceleration, neg_div, abs_of_nonneg hacceleration, abs_of_nonneg hjerk]

/-- Some phase reaches each of the peaks. -/
theorem profileAt_peaks (hduration : 0 < duration) :
    ∃ phase ∈ profileAt length duration, ∃ rising ∈ profileAt length duration,
      phase.ramp.speed duration = length / (2 * duration) ∧
      rising.ramp.acceleration duration = length / (2 * duration) / duration ∧
      rising.ramp.jerk = length / (2 * duration) / duration / duration := by
  have hne := hduration.ne'
  rw [profileAt_eq]
  refine ⟨_, List.mem_cons_of_mem _ List.mem_cons_self, _, List.mem_cons_self, ?_, ?_, ?_⟩
  · simp only [JerkRampSpanProposal.speed_eq, JerkRampSpanProposal.jerk]
    field_simp
    ring
  · simp only [JerkRampSpanProposal.acceleration, JerkRampSpanProposal.jerk]
    field_simp
    ring
  · simp only [JerkRampSpanProposal.jerk, sub_zero]

theorem profileAt_forward (hduration : 0 < duration) (hlength : 0 ≤ length) :
    ∀ phase ∈ profileAt length duration, (∀ t ∈ Set.Icc 0 duration, 0 ≤ phase.ramp.speed t) ∧
      MonotoneOn phase.ramp.distance (Set.Icc 0 duration) := by
  intro phase hphase
  obtain ⟨harrives, hsign, -⟩ := profileAt_arrives hduration hlength phase hphase
  obtain ⟨htime, hstart, hend, -⟩ := profileAt_ends hduration hlength phase hphase
  have hspeed : ∀ t ∈ Set.Icc 0 duration, 0 ≤ phase.ramp.speed t := fun t ht =>
    (JerkRampSpanProposal.speed_between harrives hsign (by rwa [htime]) hstart hend).1
  refine ⟨hspeed, monotoneOn_of_deriv_nonneg (convex_Icc 0 duration) ?_ ?_ ?_⟩
  · exact fun t _ => JerkRampSpanProposal.hasDerivAt_distance.continuousAt.continuousWithinAt
  · exact fun t _ =>
      JerkRampSpanProposal.hasDerivAt_distance.differentiableAt.differentiableWithinAt
  · intro t ht
    rw [JerkRampSpanProposal.hasDerivAt_distance.deriv]
    exact hspeed t (interior_subset ht)

/-- The profile of any positive duration is exact. -/
theorem restToRest_profileAt (hduration : 0 < duration) (hlength : 0 ≤ length) :
    RestToRest (profileAt length duration) length duration where
  four := rfl
  durations phase hphase := (profileAt_ends hduration hlength phase hphase).1
  starts phase hphase := by
    cases hphase
    exact ⟨rfl, rfl⟩
  ends phase hphase := by
    cases hphase
    exact ⟨rfl, rfl⟩
  joins := by simp [profileAt_eq, fourPhases]
  arrives phase hphase := by
    obtain ⟨harrives, -, hdistance⟩ := profileAt_arrives hduration hlength phase hphase
    have htime := (profileAt_ends hduration hlength phase hphase).1
    have hfeed := harrives.endFeed
    have hacceleration := JerkRampSpanProposal.acceleration_end harrives
    rw [htime] at hfeed hacceleration
    exact ⟨hfeed, hacceleration, hdistance⟩
  total := by
    simp only [profileAt_eq, fourPhases, List.map_cons, List.map_nil, List.sum_cons, List.sum_nil]
    ring
  forward := profileAt_forward hduration hlength

/-- The limits hold at every instant exactly when the three peaks keep them. -/
theorem keepsLimits_profileAt_iff (hduration : 0 < duration) (hlength : 0 ≤ length)
    {feed acceleration jerk : ℝ} :
    KeepsLimits (profileAt length duration) feed acceleration jerk ↔
      length / (2 * duration) ≤ feed ∧ length / (2 * duration) / duration ≤ acceleration ∧
        length / (2 * duration) / duration / duration ≤ jerk := by
  constructor
  · intro h
    obtain ⟨fast, hfast, rising, hrising, hspeed, haccelerates, hjerks⟩ :
        ∃ phase ∈ profileAt length duration, ∃ rising ∈ profileAt length duration,
          phase.ramp.speed duration = length / (2 * duration) ∧
          rising.ramp.acceleration duration = length / (2 * duration) / duration ∧
          rising.ramp.jerk = length / (2 * duration) / duration / duration :=
      profileAt_peaks hduration
    have hfastTime := (profileAt_ends hduration hlength fast hfast).1
    have hrisingTime := (profileAt_ends hduration hlength rising hrising).1
    have hend : duration ∈ Set.Icc 0 duration := ⟨hduration.le, le_refl _⟩
    obtain ⟨hfeed, -⟩ := h fast hfast duration (by rwa [hfastTime])
    obtain ⟨-, hacceleration, hjerk⟩ := h rising hrising duration (by rwa [hrisingTime])
    rw [hspeed] at hfeed
    rw [haccelerates] at hacceleration
    rw [hjerks] at hjerk
    exact ⟨(le_abs_self _).trans hfeed, (le_abs_self _).trans hacceleration,
      (le_abs_self _).trans hjerk⟩
  · rintro ⟨hfeed, hacceleration, hjerk⟩ phase hphase t ht
    obtain ⟨harrives, hsign, -⟩ := profileAt_arrives hduration hlength phase hphase
    obtain ⟨-, hstart, hend, hstartAcceleration, hendAcceleration, hjerks⟩ :=
      profileAt_ends hduration hlength phase hphase
    obtain ⟨hlow, hhigh⟩ := JerkRampSpanProposal.speed_between harrives hsign ht hstart hend
    have hbetween := JerkRampSpanProposal.acceleration_between harrives ht
      (abs_le.mp hstartAcceleration) (abs_le.mp hendAcceleration)
    refine ⟨?_, (abs_le.mpr hbetween).trans hacceleration, hjerks.trans_le hjerk⟩
    rw [abs_of_nonneg hlow]
    exact hhigh.trans hfeed

end Profile

/-! ## The least duration -/

/-- The limits hold from the greatest of the three times on. -/
theorem keepsLimits_profileAt_iff_le {length duration feed acceleration jerk jerkTime : ℝ}
    (hduration : 0 < duration) (hlength : 0 ≤ length) (hfeed : 0 < feed)
    (hacceleration : 0 < acceleration) (hjerk : 0 < jerk)
    (hjerkTime : jerkTime ^ 3 = length / (2 * jerk)) :
    KeepsLimits (profileAt length duration) feed acceleration jerk ↔
      max (length / (2 * feed)) (max √(length / (2 * acceleration)) jerkTime) ≤ duration := by
  rw [keepsLimits_profileAt_iff hduration hlength, max_le_iff, max_le_iff]
  have hfirst : length / (2 * duration) ≤ feed ↔ length / (2 * feed) ≤ duration := by
    rw [div_le_iff₀ (by positivity), div_le_iff₀ (by positivity)]
    constructor <;> intro h <;> linarith
  have hsecond : length / (2 * duration) / duration ≤ acceleration ↔
      √(length / (2 * acceleration)) ≤ duration := by
    rw [Real.sqrt_le_left hduration.le, div_div, div_le_iff₀ (by positivity),
      div_le_iff₀ (by positivity)]
    constructor <;> intro h <;> nlinarith only [h]
  have hthird : length / (2 * duration) / duration / duration ≤ jerk ↔ jerkTime ≤ duration := by
    have hodd : StrictMono fun x : ℝ => x ^ 3 := (by decide : Odd 3).strictMono_pow
    have hcube : jerkTime ≤ duration ↔ length / (2 * jerk) ≤ duration ^ 3 := by
      rw [← hodd.le_iff_le, hjerkTime]
    rw [hcube, div_div, div_div, div_le_iff₀ (by positivity),
      div_le_iff₀ (by positivity)]
    constructor <;> intro h <;> nlinarith only [h]
  exact and_congr hfirst (and_congr hsecond hthird)

/-! ## The phases of the code -/

section Code

variable [ExactReal] [RealFunctions] [RealMeaning]

noncomputable def JerkRampSpanProposal.meaning (ramp : JerkRampSpanProposal ExactReal.Real) :
    JerkRampSpanProposal ℝ where
  startFeed := value ramp.startFeed
  endFeed := value ramp.endFeed
  startAcceleration := value ramp.startAcceleration
  endAcceleration := value ramp.endAcceleration
  traversalTime := value ramp.traversalTime

noncomputable def JerkRampPhaseProposal.meaning (phase : JerkRampPhaseProposal ExactReal.Real) :
    JerkRampPhaseProposal ℝ where
  pathLength := value phase.pathLength
  ramp := phase.ramp.meaning

/-- The distance that the code computes is that of the ramp. -/
theorem jerkPhaseDistance_eq_ok {ramp : JerkRampSpanProposal ExactReal.Real}
    {localTime distance : ExactReal.Real} (h : jerkPhaseDistance ramp localTime = .ok distance) :
    value distance = ramp.meaning.distance (value localTime) := by
  simp only [jerkPhaseDistance, Except.bind_eq_ok, Except.mapError_eq_ok, Except.pure_eq_ok] at h
  obtain ⟨jerk, hjerk, accelerated, haccelerated, jerked, hjerked, rfl⟩ := h
  have hjerkValue := (RealMeaning.div_ok hjerk).2
  have hacceleratedValue := (RealMeaning.div_ok haccelerated).2
  have hjerkedValue := (RealMeaning.div_ok hjerked).2
  simp only [RealMeaning.value_mul, RealMeaning.value_sub, RealMeaning.value_ofU64,
    UInt64.reduceToNat, Nat.cast_ofNat] at hjerkValue hacceleratedValue hjerkedValue
  simp only [RealMeaning.value_add, RealMeaning.value_mul, hacceleratedValue, hjerkedValue,
    hjerkValue, JerkRampSpanProposal.distance_eq, JerkRampSpanProposal.jerk,
    JerkRampSpanProposal.meaning]
  ring

/-- The phases built for a duration are the profile of that duration. -/
theorem phasesAtTime_eq_ok {length phaseTime : ExactReal.Real}
    {phases : List (JerkRampPhaseProposal ExactReal.Real)}
    (h : phasesAtTime length phaseTime = .ok phases) :
    phases.map JerkRampPhaseProposal.meaning = profileAt (value length) (value phaseTime) := by
  simp only [phasesAtTime, Except.bind_eq_ok, Except.pure_eq_ok] at h
  obtain ⟨peakFeed, hpeakFeed, half, hhalf, peakAcceleration, hpeakAcceleration, unit, hunit,
    rfl⟩ := h
  have hpeakFeedValue := (RealMeaning.div_ok hpeakFeed).2
  have hhalfValue := (RealMeaning.div_ok hhalf).2
  have hpeakAccelerationValue := (RealMeaning.div_ok hpeakAcceleration).2
  have hunitValue := (RealMeaning.div_ok hunit).2
  simp only [RealMeaning.value_mul, RealMeaning.value_ofU64, UInt64.reduceToNat,
    Nat.cast_ofNat] at hpeakFeedValue hhalfValue hpeakAccelerationValue hunitValue
  simp [fourPhases, profileAt_eq, JerkRampPhaseProposal.meaning, JerkRampSpanProposal.meaning,
    hpeakFeedValue, hhalfValue, hpeakAccelerationValue, hunitValue]

theorem requirePositive_eq_ok {x : ExactReal.Real} {domain : String}
    (h : requirePositive x domain = .ok ()) : 0 < value x := by
  unfold requirePositive at h
  split at h
  · next hsign => exact sign_eq_one_iff.mp (RealMeaning.sign_some hsign).symm
  · cases h
  · cases h
  · cases h

theorem maximumReal_eq_ok {left right greatest : ExactReal.Real}
    (h : maximumReal left right = .ok greatest) :
    value greatest = max (value left) (value right) := by
  unfold maximumReal at h
  split at h
  · next hless =>
    cases h
    exact (max_eq_right (RealMeaning.compare_some hless).le).symm
  · next hequal =>
    cases h
    exact (max_eq_left (RealMeaning.compare_some hequal).ge).symm
  · next hgreater =>
    cases h
    exact (max_eq_left (RealMeaning.compare_some hgreater).le).symm
  · cases h

variable [FeedPaths] {length : ExactReal.Real} {limits : ScalarMotionLimits2}
  {timerTicksPerSecond : UInt64} {phases : List (JerkRampPhaseProposal ExactReal.Real)}

/-- The three scalar limits are positive. -/
structure ScalarMotionLimits2.Positive (limits : ScalarMotionLimits2) : Prop where
  feed : 0 < value limits.maximumFeedMmPerSecond
  acceleration : 0 < value limits.maximumAccelerationMmPerSecondSquared
  jerk : 0 < value limits.maximumJerkMmPerSecondCubed

/-- Phases keep the scalar limits. -/
def ScalarMotionLimits2.Keeps (limits : ScalarMotionLimits2)
    (phases : List (JerkRampPhaseProposal ℝ)) : Prop :=
  KeepsLimits phases (value limits.maximumFeedMmPerSecond)
    (value limits.maximumAccelerationMmPerSecondSquared) (value limits.maximumJerkMmPerSecondCubed)

/-- The required time decides which durations keep the limits. -/
theorem requiredPhaseTime_eq_ok (hlimits : limits.Positive) (hlength : 0 ≤ value length)
    {required : ExactReal.Real} (h : requiredPhaseTime length limits = .ok required)
    {duration : ℝ} (hduration : 0 < duration) :
    limits.Keeps (profileAt (value length) duration) ↔ value required ≤ duration := by
  simp only [requiredPhaseTime, Except.bind_eq_ok, Except.mapError_eq_ok] at h
  obtain ⟨feedTime, hfeed, square, hsquare, accelerationTime, hacceleration, cube, hcube, jerkTime,
    hjerk, slower, hslower, hrequired⟩ := h
  have hfeedValue := (RealMeaning.div_ok hfeed).2
  have hsquareValue := (RealMeaning.div_ok hsquare).2
  have haccelerationValue := (RealMeaning.sqrt_ok hacceleration).2
  have hcubeValue := (RealMeaning.div_ok hcube).2
  have hjerkValue := RealMeaning.cbrt_ok hjerk
  simp only [RealMeaning.value_mul, RealMeaning.value_ofU64, UInt64.reduceToNat,
    Nat.cast_ofNat] at hfeedValue hsquareValue hcubeValue
  rw [hcubeValue] at hjerkValue
  rw [ScalarMotionLimits2.Keeps, keepsLimits_profileAt_iff_le hduration hlength hlimits.feed
    hlimits.acceleration hlimits.jerk hjerkValue, maximumReal_eq_ok hrequired,
    maximumReal_eq_ok hslower, hfeedValue, haccelerationValue, hsquareValue]

/-- The duration of the phases is the least number of ticks that keeps the limits. -/
theorem symmetricRestToRestPhases_eq_ok (hlimits : limits.Positive)
    (h : symmetricRestToRestPhases length limits timerTicksPerSecond = .ok phases) :
    0 < value length ∧ 0 < timerTicksPerSecond.toNat ∧ ∃ ticks : Nat, 0 < ticks ∧
      phases.map JerkRampPhaseProposal.meaning =
        profileAt (value length) (ticks / timerTicksPerSecond.toNat) ∧
      ∀ other : Nat, 0 < other →
        (limits.Keeps (profileAt (value length) (other / timerTicksPerSecond.toNat)) ↔
          ticks ≤ other) := by
  simp only [symmetricRestToRestPhases, Except.bind_eq_ok, Except.exists_unit,
    Except.mapError_eq_ok] at h
  obtain ⟨hlength, required, hrequired, phaseTicks, hticks, phaseTime, htime, hpositive,
    hphases⟩ := h
  have hlengthPos := requirePositive_eq_ok hlength
  have htimePos := requirePositive_eq_ok hpositive
  obtain ⟨htimerNe, htimeValue⟩ := RealMeaning.div_ok htime
  have hceil := RealMeaning.ceil_ok hticks
  rw [RealMeaning.value_ofU64] at htimerNe htimeValue
  rw [RealMeaning.value_integer] at htimeValue
  rw [RealMeaning.value_mul, RealMeaning.value_ofU64] at hceil
  have htimer : 0 < timerTicksPerSecond.toNat := Nat.pos_of_ne_zero fun hzero => htimerNe (by
    rw [hzero, Nat.cast_zero])
  have htimerReal : (0 : ℝ) < timerTicksPerSecond.toNat := by exact_mod_cast htimer
  rw [htimeValue, div_pos_iff_of_pos_right htimerReal] at htimePos
  have hticksPos : 0 < phaseTicks := by exact_mod_cast htimePos
  obtain ⟨ticks, rfl⟩ := Int.eq_ofNat_of_zero_le hticksPos.le
  refine ⟨hlengthPos, htimer, ticks, by omega, ?_, fun other hother => ?_⟩
  · rw [phasesAtTime_eq_ok hphases, htimeValue, Int.cast_natCast]
  · have hduration : (0 : ℝ) < other / timerTicksPerSecond.toNat := by positivity
    rw [requiredPhaseTime_eq_ok hlimits hlengthPos.le hrequired hduration,
      le_div_iff₀ htimerReal]
    have hcast : value required * timerTicksPerSecond.toNat ≤ other ↔
        ⌈value required * timerTicksPerSecond.toNat⌉ ≤ (other : Int) := by
      rw [Int.ceil_le, Int.cast_natCast]
    rw [hcast, ← hceil]
    omega

/-! ## Certified phases -/

/-- Phases that are exact, keep the limits and agree with the distances that the code computes. -/
structure CertifiedPhases (limits : ScalarMotionLimits2)
    (phases : List (JerkRampPhaseProposal ExactReal.Real)) (length : ExactReal.Real)
    (duration : ℝ) : Prop where
  duration_pos : 0 < duration
  kinematics : RestToRest (phases.map JerkRampPhaseProposal.meaning) (value length) duration
  limits : limits.Keeps (phases.map JerkRampPhaseProposal.meaning)
  distances : ∀ phase ∈ phases, ∀ {distance : ExactReal.Real},
    jerkPhaseDistance phase.ramp phase.ramp.traversalTime = .ok distance →
      value distance = value phase.pathLength

omit [FeedPaths] in
theorem certifiedPhases_of_profileAt {duration : ℝ} (hduration : 0 < duration)
    (hlength : 0 ≤ value length)
    (hphases : phases.map JerkRampPhaseProposal.meaning = profileAt (value length) duration)
    (hkeeps : limits.Keeps (profileAt (value length) duration)) :
    CertifiedPhases limits phases length duration where
  duration_pos := hduration
  kinematics := hphases ▸ restToRest_profileAt hduration hlength
  limits := hphases ▸ hkeeps
  distances phase hphase distance hdistance := by
    have hmem : phase.meaning ∈ profileAt (value length) duration :=
      hphases ▸ List.mem_map_of_mem hphase
    have hreached := ((restToRest_profileAt hduration hlength).arrives _ hmem).2.2
    have htime := (restToRest_profileAt hduration hlength).durations _ hmem
    rw [jerkPhaseDistance_eq_ok hdistance]
    rw [← htime] at hreached
    exact hreached

omit [FeedPaths] in
/-- A difference that the code finds to be zero or positive is nonnegative. -/
theorem nonneg_of_padding {x : ExactReal.Real}
    (h : ¬ (ExactReal.compareReals x ExactReal.zero ≠ some .eq ∧
      ExactReal.compareReals x ExactReal.zero ≠ some .gt)) : 0 ≤ value x := by
  rw [not_and_or, not_not, not_not] at h
  obtain h | h := h
  · have hequal : value x = value ExactReal.zero := RealMeaning.compare_some h
    rw [hequal, RealMeaning.value_zero]
  · have hgreater : value ExactReal.zero < value x := RealMeaning.compare_some h
    rw [RealMeaning.value_zero] at hgreater
    exact hgreater.le

/-- An element rebuilt on the output grid takes a whole number of frames, no shorter than before. -/
theorem gridElement_eq_ok {outputQuantumCycles : UInt32} {elementIndex : Nat}
    {line : FeedPaths.Line} {rebuilt : List (JerkRampPhaseProposal ExactReal.Real)}
    {evidence : List DirectGridPhaseEvidence2}
    (h : gridElement timerTicksPerSecond outputQuantumCycles elementIndex (.line line) phases =
      .ok (rebuilt, evidence))
    (hline : FeedPaths.euclideanLength line = .ok length) (htimer : 0 < timerTicksPerSecond.toNat)
    {ticks : Nat} (hticks : phases.map JerkRampPhaseProposal.meaning =
      profileAt (value length) (ticks / timerTicksPerSecond.toNat)) :
    ∃ gridTicks : Nat, ticks ≤ gridTicks ∧ outputQuantumCycles.toNat ∣ gridTicks ∧
      rebuilt.map JerkRampPhaseProposal.meaning =
        profileAt (value length) (gridTicks / timerTicksPerSecond.toNat) := by
  cases phases with
  | nil => cases h
  | cons first rest =>
    simp only [gridElement, Except.bind_eq_ok, Except.exists_unit, Except.failIf_eq_ok,
      Except.mapError_eq_ok, Except.pure_eq_ok, Prod.mk.injEq, hline, Except.ok.injEq,
      exists_eq_left'] at h
    obtain ⟨-, frames, -, -, hpadding, built, hrebuilt, rfl, -⟩ := h
    have htimerReal : (0 : ℝ) < timerTicksPerSecond.toNat := by exact_mod_cast htimer
    have hfirst : value first.ramp.traversalTime = ticks / timerTicksPerSecond.toNat :=
      congrArg (fun phase : JerkRampPhaseProposal ℝ => phase.ramp.traversalTime)
        (List.cons.inj hticks).1
    have hduration : value (RealFunctions.ofRational (((frames.toNat * outputQuantumCycles.toNat :
        Nat) : ℚ) / timerTicksPerSecond.toNat)) =
        ((frames.toNat * outputQuantumCycles.toNat : Nat) : ℝ) / timerTicksPerSecond.toNat := by
      rw [RealMeaning.value_ofRational, Rat.cast_div, Rat.cast_natCast, Rat.cast_natCast]
    have hnonneg := nonneg_of_padding hpadding
    rw [RealMeaning.value_sub, hduration, hfirst, sub_nonneg,
      div_le_div_iff_of_pos_right htimerReal] at hnonneg
    refine ⟨frames.toNat * outputQuantumCycles.toNat, by exact_mod_cast hnonneg,
      dvd_mul_left _ _, ?_⟩
    rw [phasesAtTime_eq_ok (Except.mapError_eq_ok.mp hrebuilt), hduration]

/-- The phases of an element are exact, keep the limits, and take the least number of ticks that
does so. Rebuilt on a longer duration they stay exact and keep the limits, and the output grid
rebuilds every line on such a duration. -/
theorem restToRest_exact (hlimits : limits.Positive)
    (h : symmetricRestToRestPhases length limits timerTicksPerSecond = .ok phases) :
    ∃ ticks : Nat, 0 < ticks ∧
      CertifiedPhases limits phases length (ticks / timerTicksPerSecond.toNat) ∧
      (∀ other : Nat, 0 < other →
        (limits.Keeps (profileAt (value length) (other / timerTicksPerSecond.toNat)) ↔
          ticks ≤ other)) ∧
      (∀ {longer : Nat} {phaseTime : ExactReal.Real}
        {rebuilt : List (JerkRampPhaseProposal ExactReal.Real)}, ticks ≤ longer →
        value phaseTime = longer / timerTicksPerSecond.toNat →
        symmetricPhasesAtTime length phaseTime = .ok rebuilt →
        CertifiedPhases limits rebuilt length (longer / timerTicksPerSecond.toNat)) ∧
      ∀ {outputQuantumCycles : UInt32}
        {elements : List (FeedPathElement × List (JerkRampPhaseProposal ExactReal.Real))}
        {rebuilt : List (List (JerkRampPhaseProposal ExactReal.Real))}
        {evidence : List DirectGridPhaseEvidence2} {index : Nat} {line : FeedPaths.Line},
        buildGridPhases timerTicksPerSecond outputQuantumCycles elements =
          .ok (rebuilt, evidence) →
        elements[index]? = some (.line line, phases) →
        FeedPaths.euclideanLength line = .ok length →
        ∃ new longer, rebuilt[index]? = some new ∧ ticks ≤ longer ∧
          outputQuantumCycles.toNat ∣ longer ∧
          CertifiedPhases limits new length (longer / timerTicksPerSecond.toNat) := by
  obtain ⟨hlength, htimer, ticks, hticks, hphases, hleast⟩ :=
    symmetricRestToRestPhases_eq_ok hlimits h
  have hpositive : ∀ {longer : Nat}, ticks ≤ longer →
      (0 : ℝ) < longer / timerTicksPerSecond.toNat := fun {longer} hle => by
    have hlonger : 0 < longer := by omega
    positivity
  have hkeeps : ∀ {longer : Nat}, ticks ≤ longer →
      limits.Keeps (profileAt (value length) (longer / timerTicksPerSecond.toNat)) :=
    fun hle => (hleast _ (by omega)).mpr hle
  refine ⟨ticks, hticks, certifiedPhases_of_profileAt (hpositive le_rfl) hlength.le hphases
    (hkeeps le_rfl), hleast, ?_, ?_⟩
  · intro longer phaseTime rebuilt hle htime hrebuilt
    refine certifiedPhases_of_profileAt (hpositive hle) hlength.le ?_ (hkeeps hle)
    rw [phasesAtTime_eq_ok (Except.mapError_eq_ok.mp hrebuilt), htime]
  · intro outputQuantumCycles elements rebuilt evidence index line hgrid hindex hline
    simp only [buildGridPhases, Except.bind_eq_ok, Except.pure_eq_ok, Prod.mk.injEq] at hgrid
    obtain ⟨pairs, hpairs, rfl, -⟩ := hgrid
    have hplace : elements.zipIdx[index]? = some ((.line line, phases), index) := by
      rw [List.getElem?_zipIdx, hindex, Option.map_some, Nat.zero_add]
    obtain ⟨pair, hpair, helement⟩ := (Except.mapM_eq_ok hpairs).exists_getElem?_eq hplace
    obtain ⟨longer, hle, hdvd, hnew⟩ := gridElement_eq_ok helement hline htimer hphases
    refine ⟨pair.1, longer, ?_, hle, hdvd, ?_⟩
    · rw [List.getElem?_map, hpair, Option.map_some]
    · exact certifiedPhases_of_profileAt (hpositive hle) hlength.le hnew (hkeeps hle)

end Code

/-! ## Two millimetres at unit limits -/

open HostLibrary

def unitLimits : ScalarMotionLimits2 where
  maximumFeedMmPerSecond := (1 : ℚ)
  maximumAccelerationMmPerSecondSquared := (1 : ℚ)
  maximumJerkMmPerSecondCubed := (1 : ℚ)
  maximumSpatialAccelerationMmPerSecondSquared := (1 : ℚ)
  affineAxisProjection := none

theorem positive_unitLimits : unitLimits.Positive := by
  have h : (0 : ℝ) < ((1 : ℚ) : ℝ) := by norm_num
  exact ⟨h, h, h⟩

theorem restToRest_exact_unit : ∃ phases ticks,
    symmetricRestToRestPhases (2 : ℚ) unitLimits 1000 = .ok phases ∧
      CertifiedPhases unitLimits phases (2 : ℚ) ((ticks : Nat) / (1000 : UInt64).toNat) := by
  have hrun : (symmetricRestToRestPhases (2 : ℚ) unitLimits 1000).isOk = true := by
    decide +kernel
  obtain ⟨phases, hphases⟩ := Except.isOk_iff_exists.mp hrun
  obtain ⟨ticks, -, hcertified, -⟩ := restToRest_exact positive_unitLimits hphases
  exact ⟨phases, ticks, hphases, hcertified⟩

end Alumina.Motion
