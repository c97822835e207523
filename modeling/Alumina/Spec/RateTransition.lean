import Alumina.ForStd.RateCount
import Alumina.Spec.SimulationTime
import Alumina.Spec.StorageCeiling

/-!
# Rate transitions

What the loop of `simulateTransition` computes, and why the queue bound that analysis proves
is the one the loop needs. Between two target ticks the loop consumes exactly the source
samples that become due, so its queue checks count those; `ForStd.RateCount` bounds the count.

Key results:
- `transitionTicks_ok`: what a completed loop has generated and consumed
- `simulateTransition_isOk`: a transition with an initial sample and enough ticks succeeds
- `rateTransition_queueBound`: the proved capacity is never exceeded and never too large
-/

namespace Alumina.Graph

open Except (failIf)

/-! ## Due samples -/

section Due

variable (rootRate sourceRate targetRate : GraphClockRate)

/-- The samples due by a root time. -/
def dueBy (time : ℚ) (samples : List RuntimeSample) : List RuntimeSample :=
  samples.filter fun sample => tickTime rootRate sourceRate sample.clockTick.toNat ≤ time

/-- The samples due only after a root time. -/
def dueAfter (time : ℚ) (samples : List RuntimeSample) : List RuntimeSample :=
  samples.filter fun sample => !decide (tickTime rootRate sourceRate sample.clockTick.toNat ≤ time)

/-- The samples newly due at a target tick: due by it and by no earlier one. -/
def newlyDue (samples : List RuntimeSample) (tick : Nat) : List RuntimeSample :=
  samples.filter fun sample =>
    tickTime rootRate sourceRate sample.clockTick.toNat ≤ tickTime rootRate targetRate tick ∧
      ∀ j < tick,
        tickTime rootRate targetRate j < tickTime rootRate sourceRate sample.clockTick.toNat

/-- The samples left over after the first `count` target ticks. -/
def leftOver (samples : List RuntimeSample) (count : Nat) : List RuntimeSample :=
  samples.filter fun sample => ∀ j < count,
    tickTime rootRate targetRate j < tickTime rootRate sourceRate sample.clockTick.toNat

/-- The sample a transition generates at a target tick: the newest due value. -/
def transitionSample (samples : List RuntimeSample) (tick : Nat) : Option RuntimeSample :=
  (dueBy rootRate sourceRate (tickTime rootRate targetRate tick) samples).getLast?.map
    fun sample => ⟨.ofNat tick, .ofNat tick, sample.value⟩

end Due

/-- Source samples in strictly increasing tick order. -/
def TicksIncrease (samples : List RuntimeSample) : Prop :=
  samples.Pairwise fun a b => a.clockTick.toNat < b.clockTick.toNat

section Transition

variable {context : SimulationContext} {input : WireEndpoint} {transition : GraphRateTransition}
  {capacity : UInt32} {sourceRate targetRate : GraphClockRate}
  (hroot : 0 < context.rootRate.ticksPerSecond) (hsourcePos : 0 < sourceRate.ticksPerSecond)
  (htargetPos : 0 < targetRate.ticksPerSecond)
  (hsource : clockRateInHorizon context.analysis context.rootRate transition.sourceClock =
    .ok sourceRate)
  (htarget : clockRateInHorizon context.analysis context.rootRate transition.targetClock =
    .ok targetRate)

include hroot hsourcePos in
/-- Samples in tick order split into those due by a time and those due after it. -/
theorem dueBy_append_dueAfter {samples : List RuntimeSample} (hsorted : TicksIncrease samples)
    (time : ℚ) :
    dueBy context.rootRate sourceRate time samples ++
      dueAfter context.rootRate sourceRate time samples = samples := by
  refine List.filter_append_filter_not (hsorted.imp fun {a b} hab hb => ?_)
  have hle := (tickTime_le_tickTime hroot hsourcePos).mpr hab.le
  exact decide_eq_true (hle.trans (of_decide_eq_true hb))

include hsource in
/-- Taking stops at the first sample that is not due. -/
private theorem takeDue_append {time : ℚ} (now later : List RuntimeSample)
    (held : Option TypedGraphValue)
    (hnow : ∀ s ∈ now, tickTime context.rootRate sourceRate s.clockTick.toNat ≤ time)
    (hlater : ∀ s ∈ later, time < tickTime context.rootRate sourceRate s.clockTick.toNat) :
    context.takeDue transition.sourceClock time (now ++ later) held =
      .ok (later, (now.getLast?.map RuntimeSample.value).or held, now.length) := by
  induction now generalizing held with
  | nil =>
    cases later with
    | nil => simp [SimulationContext.takeDue]
    | cons sample later =>
      have htime := hlater sample (by simp)
      rw [List.nil_append, SimulationContext.takeDue, SimulationContext.rootTime,
        rootTime_of_rate hsource]
      simp [bind, Except.bind, htime, pure, Except.pure]
  | cons sample now ih =>
    have htime := hnow sample (by simp)
    have hrest := ih (some sample.value) fun s hs => hnow s (by simp [hs])
    rw [List.cons_append, SimulationContext.takeDue, SimulationContext.rootTime,
      rootTime_of_rate hsource]
    simp only [bind, Except.bind, if_neg (not_lt.mpr htime), hrest, pure, Except.pure,
      Except.ok.injEq, Prod.mk.injEq, true_and, List.length_cons, and_true]
    -- the last value taken is the head's when nothing else is taken
    cases now with
    | nil => simp
    | cons next now =>
      have hlast : (next :: now).getLast? = some ((next :: now).getLast (by simp)) :=
        List.getLast?_eq_some_getLast (by simp)
      rw [List.getLast?_cons_cons, hlast]
      rfl

include hroot hsourcePos hsource in
theorem takeDue_eq {time : ℚ} {samples : List RuntimeSample} (hsorted : TicksIncrease samples)
    (held : Option TypedGraphValue) :
    context.takeDue transition.sourceClock time samples held =
      .ok (dueAfter context.rootRate sourceRate time samples,
        ((dueBy context.rootRate sourceRate time samples).getLast?.map RuntimeSample.value).or held,
        (dueBy context.rootRate sourceRate time samples).length) := by
  have htake := takeDue_append hsource (dueBy context.rootRate sourceRate time samples)
    (dueAfter context.rootRate sourceRate time samples) held
    (fun s hs => of_decide_eq_true (List.mem_filter.mp hs).2)
    (fun s hs => not_le.mp (by simpa using (List.mem_filter.mp hs).2))
  rwa [dueBy_append_dueAfter hroot hsourcePos hsorted] at htake

/-! ## The loop over target ticks -/

/-- Before target tick `tick` the loop has consumed `past`, and `source` is left: `past` was
due at an earlier target tick, and nothing that is left was. -/
structure TransitionSplit (rootRate sourceRate targetRate : GraphClockRate)
    (samples past source : List RuntimeSample) (tick : Nat) : Prop where
  split : samples = past ++ source
  past_due : ∀ s ∈ past, ∃ j < tick,
    tickTime rootRate sourceRate s.clockTick.toNat ≤ tickTime rootRate targetRate j
  source_due : ∀ s ∈ source, ∀ j < tick,
    tickTime rootRate targetRate j < tickTime rootRate sourceRate s.clockTick.toNat

omit hroot in
theorem TransitionSplit.initial (rootRate sourceRate targetRate : GraphClockRate)
    (samples : List RuntimeSample) :
    TransitionSplit rootRate sourceRate targetRate samples [] samples 0 :=
  ⟨rfl, by simp, by simp⟩

section Split

variable {samples past source : List RuntimeSample} {tick : Nat}

include hroot hsourcePos in
/-- One target tick consumes the samples that become due. -/
theorem TransitionSplit.step (hsorted : TicksIncrease samples)
    (h : TransitionSplit context.rootRate sourceRate targetRate samples past source tick) :
    TransitionSplit context.rootRate sourceRate targetRate samples
      (past ++ dueBy context.rootRate sourceRate
        (tickTime context.rootRate targetRate tick) source)
      (dueAfter context.rootRate sourceRate (tickTime context.rootRate targetRate tick) source)
      (tick + 1) := by
  have hsource : TicksIncrease source := by
    have hsorted' := hsorted
    rw [h.split] at hsorted'
    exact (List.pairwise_append.mp hsorted').2.1
  constructor
  · rw [List.append_assoc, dueBy_append_dueAfter hroot hsourcePos hsource]
    exact h.split
  · intro s hs
    rcases List.mem_append.mp hs with hpast | hnow
    · obtain ⟨j, hj, hle⟩ := h.past_due s hpast
      exact ⟨j, by omega, hle⟩
    · exact ⟨tick, by omega, of_decide_eq_true (List.mem_filter.mp hnow).2⟩
  · intro s hs j hj
    obtain ⟨hmem, hlater⟩ := List.mem_filter.mp hs
    rcases Nat.lt_succ_iff_lt_or_eq.mp hj with hj | rfl
    · exact h.source_due s hmem j hj
    · exact not_le.mp (by simpa using hlater)

include hroot htargetPos in
/-- The samples due by a target tick are those consumed earlier and those newly due. -/
theorem TransitionSplit.dueBy_eq
    (h : TransitionSplit context.rootRate sourceRate targetRate samples past source tick) :
    dueBy context.rootRate sourceRate (tickTime context.rootRate targetRate tick) samples =
      past ++ dueBy context.rootRate sourceRate
        (tickTime context.rootRate targetRate tick) source := by
  rw [h.split, dueBy, List.filter_append, dueBy]
  congr 1
  rw [List.filter_eq_self]
  intro s hs
  obtain ⟨j, hj, hle⟩ := h.past_due s hs
  have hmono := (tickTime_le_tickTime hroot htargetPos).mpr hj.le
  exact decide_eq_true (hle.trans hmono)

include hroot htargetPos in
/-- The value held at a target tick is that of the newest due sample. -/
theorem TransitionSplit.held_eq
    (h : TransitionSplit context.rootRate sourceRate targetRate samples past source tick) :
    ((dueBy context.rootRate sourceRate (tickTime context.rootRate targetRate tick)
        source).getLast?.map RuntimeSample.value).or (past.getLast?.map RuntimeSample.value) =
      (dueBy context.rootRate sourceRate (tickTime context.rootRate targetRate tick)
        samples).getLast?.map RuntimeSample.value := by
  rw [h.dueBy_eq hroot htargetPos, List.getLast?_append, Option.map_or]

omit hroot in
/-- What becomes due of the samples that are left is what is newly due. -/
theorem TransitionSplit.newlyDue_eq
    (h : TransitionSplit context.rootRate sourceRate targetRate samples past source tick) :
    newlyDue context.rootRate sourceRate targetRate samples tick =
      dueBy context.rootRate sourceRate (tickTime context.rootRate targetRate tick) source := by
  rw [newlyDue, h.split, List.filter_append]
  have hpast : past.filter (fun sample =>
      tickTime context.rootRate sourceRate sample.clockTick.toNat ≤
          tickTime context.rootRate targetRate tick ∧ ∀ j < tick,
        tickTime context.rootRate targetRate j <
          tickTime context.rootRate sourceRate sample.clockTick.toNat) = [] := by
    rw [List.filter_eq_nil_iff]
    intro s hs hdue
    obtain ⟨j, hj, hle⟩ := h.past_due s hs
    exact not_lt.mpr hle ((of_decide_eq_true hdue).2 j hj)
  rw [hpast, List.nil_append, dueBy]
  exact List.filter_congr fun s hs => by simpa using fun _ => h.source_due s hs

omit hroot in
theorem TransitionSplit.leftOver_eq
    (h : TransitionSplit context.rootRate sourceRate targetRate samples past source tick) :
    leftOver context.rootRate sourceRate targetRate samples tick = source := by
  rw [leftOver, h.split, List.filter_append]
  have hpast : past.filter (fun sample => ∀ j < tick,
      tickTime context.rootRate targetRate j <
        tickTime context.rootRate sourceRate sample.clockTick.toNat) = [] := by
    rw [List.filter_eq_nil_iff]
    intro s hs hdue
    obtain ⟨j, hj, hle⟩ := h.past_due s hs
    exact not_lt.mpr hle (of_decide_eq_true hdue j hj)
  rw [hpast, List.nil_append, List.filter_eq_self]
  exact fun s hs => decide_eq_true (h.source_due s hs)

theorem TransitionSplit.source_sorted (hsorted : TicksIncrease samples)
    (h : TransitionSplit context.rootRate sourceRate targetRate samples past source tick) :
    TicksIncrease source := by
  rw [h.split] at hsorted
  exact (List.pairwise_append.mp hsorted).2.1

end Split

section Loop

variable {samples past source generated : List RuntimeSample} {allowed tick : Nat}
  {held : Option TypedGraphValue}

include htarget in
theorem transitionTicks_of_after
    (h : context.horizon.time < tickTime context.rootRate targetRate tick) :
    context.transitionTicks input transition capacity allowed tick source held generated =
      .ok (generated, source) := by
  rw [SimulationContext.transitionTicks, SimulationContext.rootTime, rootTime_of_rate htarget]
  simp [bind, Except.bind, h, pure, Except.pure]

include htarget in
theorem transitionTicks_zero
    (h : tickTime context.rootRate targetRate tick ≤ context.horizon.time) :
    context.transitionTicks input transition capacity 0 tick source held generated =
      .error (.limitExceeded "ticks per transition") := by
  rw [SimulationContext.transitionTicks, SimulationContext.rootTime, rootTime_of_rate htarget]
  simp [bind, Except.bind, not_lt.mpr h]

include hroot hsourcePos hsource htarget in
/-- One target tick within the horizon. -/
theorem transitionTicks_succ (hsorted : TicksIncrease source)
    (h : tickTime context.rootRate targetRate tick ≤ context.horizon.time) :
    context.transitionTicks input transition capacity (allowed + 1) tick source held generated =
      (do
        failIf ((dueBy context.rootRate sourceRate (tickTime context.rootRate targetRate tick)
          source).length > capacity.toNat) (.queueCapacityExceeded input capacity
          (dueBy context.rootRate sourceRate (tickTime context.rootRate targetRate tick)
            source).length)
        let value ← (((dueBy context.rootRate sourceRate
          (tickTime context.rootRate targetRate tick) source).getLast?.map
            RuntimeSample.value).or held).okOr (.missingInitialSample input)
        context.transitionTicks input transition capacity allowed (tick + 1)
          (dueAfter context.rootRate sourceRate (tickTime context.rootRate targetRate tick) source)
          (((dueBy context.rootRate sourceRate (tickTime context.rootRate targetRate tick)
            source).getLast?.map RuntimeSample.value).or held)
          (generated ++ [⟨.ofNat tick, .ofNat tick, value⟩])) := by
  rw [SimulationContext.transitionTicks, SimulationContext.rootTime, rootTime_of_rate htarget]
  simp only [bind, Except.bind, if_neg (not_lt.mpr h),
    takeDue_eq hroot hsourcePos hsource hsorted]

include hroot hsourcePos htargetPos hsource htarget in
/-- A completed loop has generated one sample at each target tick up to the horizon, with the
newest due value; it has left the samples due after the last of them, and its queue was never
overfull. -/
theorem transitionTicks_ok {count : Nat}
    (hcount : ∀ t, t < count ↔ tickTime context.rootRate targetRate t ≤ context.horizon.time)
    (hsorted : TicksIncrease samples)
    (hsplit : TransitionSplit context.rootRate sourceRate targetRate samples past source tick)
    (htick : tick ≤ count) {result rest : List RuntimeSample}
    (h : context.transitionTicks input transition capacity allowed tick source
      (past.getLast?.map RuntimeSample.value) generated = .ok (result, rest)) :
    count ≤ tick + allowed ∧ rest = leftOver context.rootRate sourceRate targetRate samples count ∧
      (∀ t, tick ≤ t → t < count →
        (newlyDue context.rootRate sourceRate targetRate samples t).length ≤ capacity.toNat) ∧
      ∃ new, result = generated ++ new ∧ new.map some = (List.range' tick (count - tick)).map
        (transitionSample context.rootRate sourceRate targetRate samples) := by
  induction allowed generalizing tick past source generated with
  | zero =>
    by_cases hwithin : tickTime context.rootRate targetRate tick ≤ context.horizon.time
    · rw [transitionTicks_zero htarget hwithin] at h
      cases h
    · rw [transitionTicks_of_after htarget (not_le.mp hwithin)] at h
      simp only [Except.ok.injEq, Prod.mk.injEq] at h
      obtain ⟨rfl, rfl⟩ := h
      obtain rfl : tick = count := le_antisymm htick (not_lt.mp fun hlt => hwithin ((hcount _).mp hlt))
      exact ⟨by omega, hsplit.leftOver_eq.symm, by omega, [], by simp, by simp⟩
  | succ allowed ih =>
    by_cases hwithin : tickTime context.rootRate targetRate tick ≤ context.horizon.time
    · have hlt : tick < count := (hcount tick).mpr hwithin
      rw [transitionTicks_succ hroot hsourcePos hsource htarget (hsplit.source_sorted hsorted)
        hwithin] at h
      simp only [Except.bind_eq_ok, Except.exists_unit, Option.okOr_eq_ok, Except.failIf_eq_ok,
        not_lt] at h
      obtain ⟨hlength, value, hvalue, h⟩ := h
      rw [hsplit.held_eq hroot htargetPos, hsplit.dueBy_eq hroot htargetPos] at h
      obtain ⟨hallowed, hrest, hnewly, new, hresult, hnew⟩ :=
        ih (hsplit.step hroot hsourcePos hsorted) hlt h
      refine ⟨by omega, hrest, fun t ht htlt => ?_,
        ⟨.ofNat tick, .ofNat tick, value⟩ :: new, ?_, ?_⟩
      · rcases Nat.eq_or_lt_of_le ht with rfl | ht
        · rwa [hsplit.newlyDue_eq]
        · exact hnewly t ht htlt
      · rw [hresult, List.append_assoc, List.singleton_append]
      · rw [show count - tick = (count - (tick + 1)) + 1 by omega, List.range'_succ,
          List.map_cons, List.map_cons, hnew]
        congr 1
        rw [hsplit.held_eq hroot htargetPos] at hvalue
        rw [transitionSample]
        obtain ⟨sample, hsample, rfl⟩ := Option.map_eq_some_iff.mp hvalue
        rw [hsample]
        rfl
    · rw [transitionTicks_of_after htarget (not_le.mp hwithin)] at h
      simp only [Except.ok.injEq, Prod.mk.injEq] at h
      obtain ⟨rfl, rfl⟩ := h
      obtain rfl : tick = count := le_antisymm htick (not_lt.mp fun hlt => hwithin ((hcount _).mp hlt))
      exact ⟨by omega, hsplit.leftOver_eq.symm, by omega, [], by simp, by simp⟩

include hroot hsourcePos htargetPos hsource htarget in
/-- A loop that stops early ran out of ticks, found nothing due yet, or found an overfull
queue. -/
theorem transitionTicks_error
    (hsorted : TicksIncrease samples)
    (hsplit : TransitionSplit context.rootRate sourceRate targetRate samples past source tick)
    {error : GraphSimulationError}
    (h : context.transitionTicks input transition capacity allowed tick source
      (past.getLast?.map RuntimeSample.value) generated = .error error) :
    (error = .limitExceeded "ticks per transition" ∧
        tickTime context.rootRate targetRate (tick + allowed) ≤ context.horizon.time ∧
        ∀ t, tick ≤ t → t < tick + allowed →
          (newlyDue context.rootRate sourceRate targetRate samples t).length ≤ capacity.toNat) ∨
      (error = .missingInitialSample input ∧ ∃ t,
        dueBy context.rootRate sourceRate (tickTime context.rootRate targetRate t) samples = []) ∨
      ∃ t, capacity.toNat < (newlyDue context.rootRate sourceRate targetRate samples t).length ∧
        error = .queueCapacityExceeded input capacity
          (newlyDue context.rootRate sourceRate targetRate samples t).length := by
  induction allowed generalizing tick past source generated with
  | zero =>
    by_cases hwithin : tickTime context.rootRate targetRate tick ≤ context.horizon.time
    · rw [transitionTicks_zero htarget hwithin] at h
      exact Or.inl ⟨(Except.error.inj h).symm, hwithin, by omega⟩
    · rw [transitionTicks_of_after htarget (not_le.mp hwithin)] at h
      cases h
  | succ allowed ih =>
    by_cases hwithin : tickTime context.rootRate targetRate tick ≤ context.horizon.time
    · rw [transitionTicks_succ hroot hsourcePos hsource htarget (hsplit.source_sorted hsorted)
        hwithin, hsplit.held_eq hroot htargetPos, ← hsplit.newlyDue_eq] at h
      by_cases hlength : (newlyDue context.rootRate sourceRate targetRate samples tick).length ≤
          capacity.toNat
      · rw [Except.bind_of_ok (Except.failIf_of_not (not_lt.mpr hlength))] at h
        cases hheld : (dueBy context.rootRate sourceRate
            (tickTime context.rootRate targetRate tick) samples).getLast? with
        | none =>
          rw [hheld] at h
          exact Or.inr (Or.inl ⟨(Except.error.inj h).symm, tick, List.getLast?_eq_none_iff.mp hheld⟩)
        | some value =>
          rw [hheld, Option.map_some, Except.bind_of_ok (Option.okOr_some), ← Option.map_some,
            ← hheld, hsplit.dueBy_eq hroot htargetPos] at h
          have hnext := ih (hsplit.step hroot hsourcePos hsorted) h
          rw [show tick + 1 + allowed = tick + (allowed + 1) by omega] at hnext
          rcases hnext with ⟨herror, htime, hnewly⟩ | hrest
          · refine Or.inl ⟨herror, htime, fun t ht htlt => ?_⟩
            rcases Nat.eq_or_lt_of_le ht with rfl | ht
            · exact hlength
            · exact hnewly t ht htlt
          · exact Or.inr hrest
      · rw [failIf, if_pos (not_le.mp hlength)] at h
        exact Or.inr (Or.inr ⟨tick, not_le.mp hlength, (Except.error.inj h).symm⟩)
    · rw [transitionTicks_of_after htarget (not_le.mp hwithin)] at h
      cases h

end Loop

/-! ## Whole transitions -/

section Whole

variable {samples generated : List RuntimeSample}

include hroot hsourcePos htargetPos hsource htarget in
/-- A completed transition has one sample at each target tick up to the horizon, with the
newest due value; its queue was never overfull. -/
theorem simulateTransition_ok (hsorted : TicksIncrease samples)
    (h : context.simulateTransition input transition capacity samples = .ok generated) :
    tickCount context.rootRate targetRate context.horizon.time ≤
        context.limits.maximumTicksPerTransition.toNat ∧
      generated.map some = (List.range
        (tickCount context.rootRate targetRate context.horizon.time)).map
          (transitionSample context.rootRate sourceRate targetRate samples) ∧
      ∀ t, t < tickCount context.rootRate targetRate context.horizon.time →
        (newlyDue context.rootRate sourceRate targetRate samples t).length ≤ capacity.toNat := by
  simp only [SimulationContext.simulateTransition, Except.bind_eq_ok, Except.exists_unit,
    Except.pure_eq_ok] at h
  obtain ⟨⟨result, rest⟩, hrun, -, rfl⟩ := h
  have hsplit := TransitionSplit.initial context.rootRate sourceRate targetRate samples
  have hcount := fun t => @lt_tickCount_iff context.rootRate targetRate hroot htargetPos t
    context.horizon.time (horizon_nonneg context.horizon)
  obtain ⟨hallowed, -, hnewly, new, hresult, hnew⟩ := transitionTicks_ok hroot hsourcePos
    htargetPos hsource htarget hcount hsorted hsplit (Nat.zero_le _) hrun
  refine ⟨by omega, ?_, fun t ht => hnewly t (Nat.zero_le t) ht⟩
  rw [hresult, List.nil_append, hnew, Nat.sub_zero, List.range_eq_range']

include hroot hsourcePos htargetPos hsource htarget in
/-- A transition that stops early ran out of ticks, found nothing due yet, or found an
overfull queue. -/
theorem simulateTransition_error (hsorted : TicksIncrease samples) {error : GraphSimulationError}
    (h : context.simulateTransition input transition capacity samples = .error error) :
    (error = .limitExceeded "ticks per transition" ∧
        context.limits.maximumTicksPerTransition.toNat <
          tickCount context.rootRate targetRate context.horizon.time ∧
        ∀ t, t < context.limits.maximumTicksPerTransition.toNat →
          (newlyDue context.rootRate sourceRate targetRate samples t).length ≤ capacity.toNat) ∨
      (error = .missingInitialSample input ∧ ∃ t,
        dueBy context.rootRate sourceRate (tickTime context.rootRate targetRate t) samples = []) ∨
      ∃ pending : List RuntimeSample, ((∃ t, pending =
          newlyDue context.rootRate sourceRate targetRate samples t) ∨
          pending = leftOver context.rootRate sourceRate targetRate samples
            (tickCount context.rootRate targetRate context.horizon.time)) ∧
        capacity.toNat < pending.length ∧
        error = .queueCapacityExceeded input capacity pending.length := by
  have hsplit := TransitionSplit.initial context.rootRate sourceRate targetRate samples
  have hcount := fun t => @lt_tickCount_iff context.rootRate targetRate hroot htargetPos t
    context.horizon.time (horizon_nonneg context.horizon)
  rw [SimulationContext.simulateTransition] at h
  cases hrun : context.transitionTicks input transition capacity
      context.limits.maximumTicksPerTransition.toNat 0 samples none [] with
  | error stopped =>
    rw [hrun] at h
    obtain rfl : stopped = error := Except.error.inj h
    rcases transitionTicks_error hroot hsourcePos htargetPos hsource htarget hsorted hsplit hrun
      with ⟨herror, htime, hnewly⟩ | hmissing | ⟨t, hlength, herror⟩
    · rw [Nat.zero_add] at htime hnewly
      exact Or.inl ⟨herror, (hcount _).mpr htime, fun t ht => hnewly t (Nat.zero_le t) ht⟩
    · exact Or.inr (Or.inl hmissing)
    · exact Or.inr (Or.inr ⟨_, Or.inl ⟨t, rfl⟩, hlength, herror⟩)
  | ok result =>
    obtain ⟨result, rest⟩ := result
    obtain ⟨-, hrest, -⟩ := transitionTicks_ok hroot hsourcePos htargetPos hsource htarget
      hcount hsorted hsplit (Nat.zero_le _) hrun
    rw [Except.bind_of_ok hrun] at h
    dsimp only at h
    by_cases hlength : rest.length > capacity.toNat
    · rw [failIf, if_pos hlength] at h
      exact Or.inr (Or.inr ⟨rest, Or.inr hrest, hlength, (Except.error.inj h).symm⟩)
    · rw [Except.bind_of_ok (Except.failIf_of_not hlength)] at h
      cases h

end Whole

/-! ## Counting the queue -/

section Count

variable {p q : Nat} (hp : 0 < p) (hq : 0 < q)
  (hratio : sourceRate.ticksPerSecond / targetRate.ticksPerSecond = p / q)
  {samples : List RuntimeSample}

include hroot hsourcePos htargetPos hp hq hratio in
/-- No target tick finds more newly due samples than the proved capacity. -/
theorem length_newlyDue_le (hsorted : TicksIncrease samples) (tick : Nat) :
    (newlyDue context.rootRate sourceRate targetRate samples tick).length ≤
      RateCount.capacity p q := by
  have hdue := @tickTime_le_iff_mul context.rootRate sourceRate targetRate p q hroot hsourcePos
    htargetPos hq hratio
  have hticks : ((newlyDue context.rootRate sourceRate targetRate samples tick).map
      fun s => s.clockTick.toNat).Pairwise (· < ·) :=
    List.pairwise_map.mpr (hsorted.sublist List.filter_sublist)
  have hbounds : ∀ t ∈ (newlyDue context.rootRate sourceRate targetRate samples tick).map
      fun s => s.clockTick.toNat,
      RateCount.seen p q tick ≤ t ∧ t < RateCount.seen p q (tick + 1) := by
    intro t ht
    obtain ⟨s, hs, rfl⟩ := List.mem_map.mp ht
    obtain ⟨hle, hearlier⟩ := of_decide_eq_true (List.mem_filter.mp hs).2
    refine ⟨?_, (RateCount.lt_seen_succ_iff hq).mpr (hdue.mp hle)⟩
    cases tick with
    | zero => exact Nat.zero_le _
    | succ j =>
      by_contra hlt
      have hseen := hdue.mpr ((RateCount.lt_seen_succ_iff hq).mp (not_le.mp hlt))
      exact not_lt.mpr hseen (hearlier j (by omega))
  have hlength := RateCount.length_le_of_strictMono hticks hbounds
  have hstep := RateCount.seen_succ_le hp hq tick
  rw [List.length_map] at hlength
  omega

include hroot hsourcePos htargetPos hp hq hratio in
/-- What the target ticks within the horizon leave over is newly due at the next one. -/
theorem length_leftOver_le {horizon : ℚ} {count : Nat} (hsorted : TicksIncrease samples)
    (hwithin : ∀ s ∈ samples, tickTime context.rootRate sourceRate s.clockTick.toNat ≤ horizon)
    (hafter : horizon < tickTime context.rootRate targetRate count) :
    (leftOver context.rootRate sourceRate targetRate samples count).length ≤
      RateCount.capacity p q := by
  have hnext : leftOver context.rootRate sourceRate targetRate samples count =
      newlyDue context.rootRate sourceRate targetRate samples count := by
    refine List.filter_congr fun s hs => ?_
    have hle := (hwithin s hs).trans hafter.le
    simp [hle]
  rw [hnext]
  exact length_newlyDue_le hroot hsourcePos htargetPos hp hq hratio hsorted count

include hroot hsourcePos htargetPos hsource htarget hp hq hratio in
/-- A transition whose queue has the proved capacity never finds it overfull. -/
theorem simulateTransition_ne_exceeded (hcapacity : RateCount.capacity p q ≤ capacity.toNat)
    (hsorted : TicksIncrease samples)
    (hwithin : ∀ s ∈ samples,
      tickTime context.rootRate sourceRate s.clockTick.toNat ≤ context.horizon.time)
    (full : WireEndpoint) (size : UInt32) (pending : Nat) :
    context.simulateTransition input transition capacity samples ≠
      .error (.queueCapacityExceeded full size pending) := by
  intro h
  have hafter : context.horizon.time < tickTime context.rootRate targetRate
      (tickCount context.rootRate targetRate context.horizon.time) :=
    not_le.mp fun hle => lt_irrefl _
      ((lt_tickCount_iff hroot htargetPos (horizon_nonneg context.horizon)).mpr hle)
  rcases simulateTransition_error hroot hsourcePos htargetPos hsource htarget hsorted h with
    ⟨herror, -⟩ | ⟨herror, -⟩ | ⟨queue, hqueue, hlength, -⟩
  · cases herror
  · cases herror
  · have hle : queue.length ≤ RateCount.capacity p q := by
      rcases hqueue with ⟨t, rfl⟩ | rfl
      · exact length_newlyDue_le hroot hsourcePos htargetPos hp hq hratio hsorted t
      · exact length_leftOver_le hroot hsourcePos htargetPos hp hq hratio hsorted hwithin hafter
    omega

include hroot hsourcePos htargetPos hsource htarget hp hq hratio in
/-- A transition succeeds when the policy allows its target ticks and a sample is due at the
first of them. -/
theorem simulateTransition_isOk (hcapacity : RateCount.capacity p q ≤ capacity.toNat)
    (hsorted : TicksIncrease samples)
    (hwithin : ∀ s ∈ samples,
      tickTime context.rootRate sourceRate s.clockTick.toNat ≤ context.horizon.time)
    (hallowed : tickCount context.rootRate targetRate context.horizon.time ≤
      context.limits.maximumTicksPerTransition.toNat)
    (hinitial : dueBy context.rootRate sourceRate 0 samples ≠ []) :
    ∃ generated, context.simulateTransition input transition capacity samples = .ok generated := by
  cases h : context.simulateTransition input transition capacity samples with
  | ok generated => exact ⟨generated, rfl⟩
  | error error =>
    exfalso
    rcases simulateTransition_error hroot hsourcePos htargetPos hsource htarget hsorted h with
      ⟨-, hexceeded, -⟩ | ⟨-, t, hnone⟩ | ⟨queue, -, -, rfl⟩
    · omega
    · -- a sample due at time zero is due at every target tick
      apply hinitial
      rw [dueBy, List.filter_eq_nil_iff] at hnone ⊢
      intro s hs hdue
      have hzero : tickTime context.rootRate targetRate 0 ≤ tickTime context.rootRate targetRate t :=
        (tickTime_le_tickTime hroot htargetPos).mpr (Nat.zero_le t)
      rw [tickTime_zero] at hzero
      exact hnone s hs (decide_eq_true ((of_decide_eq_true hdue).trans hzero))
    · exact simulateTransition_ne_exceeded hroot hsourcePos htargetPos hsource htarget hp hq hratio
        hcapacity hsorted hwithin _ _ _ h

include hroot hsourcePos htargetPos hq hratio in
/-- With a sample at every source tick, the newly due samples are as many as the source ticks
between two target ticks. -/
theorem le_length_newlyDue {tick : Nat} (hdense : ∀ t,
      tickTime context.rootRate sourceRate t ≤ tickTime context.rootRate targetRate tick →
      ∃ s ∈ samples, s.clockTick.toNat = t) :
    RateCount.seen p q (tick + 1) - RateCount.seen p q tick ≤
      (newlyDue context.rootRate sourceRate targetRate samples tick).length := by
  have hdue := @tickTime_le_iff_mul context.rootRate sourceRate targetRate p q hroot hsourcePos
    htargetPos hq hratio
  have hsubset : Finset.Ico (RateCount.seen p q tick) (RateCount.seen p q (tick + 1)) ⊆
      ((newlyDue context.rootRate sourceRate targetRate samples tick).map
        fun s => s.clockTick.toNat).toFinset := by
    intro t ht
    obtain ⟨hlow, hhigh⟩ := Finset.mem_Ico.mp ht
    have hle := hdue.mpr ((RateCount.lt_seen_succ_iff hq).mp hhigh)
    obtain ⟨s, hs, rfl⟩ := hdense t hle
    refine List.mem_toFinset.mpr (List.mem_map.mpr ⟨s, List.mem_filter.mpr ⟨hs, ?_⟩, rfl⟩)
    refine decide_eq_true ⟨hle, fun j hj => not_le.mp fun hearlier => ?_⟩
    have hseen := (RateCount.lt_seen_succ_iff hq).mpr (hdue.mp hearlier)
    have hmono := RateCount.seen_mono p q (show j + 1 ≤ tick by omega)
    omega
  have hcard := Finset.card_le_card hsubset
  rw [Nat.card_Ico] at hcard
  calc RateCount.seen p q (tick + 1) - RateCount.seen p q tick ≤ _ := hcard
    _ ≤ ((newlyDue context.rootRate sourceRate targetRate samples tick).map
          fun s => s.clockTick.toNat).length := List.toFinset_card_le _
    _ = _ := List.length_map _

end Count

end Transition

/-! ## The analysed capacity -/

/-- What analysis has computed for one rate transition. -/
theorem analyzeRateTransition_ok {tables : DocumentTables} {node : NodeDefinition}
    {schema : NodeSchema} {contract : NodeRateTransitionContract} {rates : List GraphClockRate}
    {bounds : List GraphTypeStorageBound} {maximum : UInt64} {report : GraphRateTransition}
    (h : analyzeRateTransition tables node schema contract rates bounds maximum = .ok report) :
    report.node = node.id ∧ report.input = contract.input ∧ report.output = contract.output ∧
      (∃ sourceRate targetRate, clockRate rates report.sourceClock = .ok sourceRate ∧
        clockRate rates report.targetClock = .ok targetRate ∧
        sourceRate.root = report.rootClock ∧ targetRate.root = report.rootClock ∧
        report.sourceTicksPerPattern =
          (sourceRate.ticksPerSecond / targetRate.ticksPerSecond).num.toNat ∧
        report.targetTicksPerPattern =
          (sourceRate.ticksPerSecond / targetRate.ticksPerSecond).den) ∧
      report.requiredInputCapacity =
        RateCount.capacity report.sourceTicksPerPattern report.targetTicksPerPattern ∧
      ∃ declared, schema.streamCapacity contract.input = some declared ∧
        report.requiredInputCapacity ≤ declared.toNat := by
  simp only [analyzeRateTransition, Except.bind_eq_ok, Except.exists_unit, Option.okOr_eq_ok,
    Except.failIf_eq_ok, not_not, ne_eq, not_lt, Except.pure_eq_ok] at h
  obtain ⟨_, -, _, -, source, -, target, -, sourceRate, hsourceRate, targetRate, htargetRate,
    hroots, -, declared, hdeclared, hcapacity, _, -, rfl⟩ := h
  exact ⟨rfl, rfl, rfl, ⟨sourceRate, targetRate, hsourceRate, htargetRate, rfl, hroots.symm, rfl,
    rfl⟩, rfl, declared, hdeclared, hcapacity⟩

/-- The analysed capacity of a transition is the queue bound of its run-time loop. -/
structure QueueBound (context : SimulationContext) (transition : GraphRateTransition)
    (sourceRate targetRate : GraphClockRate) : Prop where
  /-- No target tick finds more newly due samples. -/
  newly_due : ∀ samples, TicksIncrease samples → ∀ tick,
    (newlyDue context.rootRate sourceRate targetRate samples tick).length ≤
      transition.requiredInputCapacity
  /-- No more samples are left after the last target tick within the horizon. -/
  left_over : ∀ samples, TicksIncrease samples →
    (∀ s ∈ samples, tickTime context.rootRate sourceRate s.clockTick.toNat ≤ context.horizon.time) →
    ∀ count, (∀ t, t < count ↔ tickTime context.rootRate targetRate t ≤ context.horizon.time) →
      (leftOver context.rootRate sourceRate targetRate samples count).length ≤
        transition.requiredInputCapacity
  /-- A queue of at least that capacity is never overfull. -/
  never_exceeded : ∀ input capacity samples, transition.requiredInputCapacity ≤ capacity.toNat →
    TicksIncrease samples →
    (∀ s ∈ samples, tickTime context.rootRate sourceRate s.clockTick.toNat ≤ context.horizon.time) →
    ∀ full size pending, context.simulateTransition input transition capacity samples ≠
      .error (.queueCapacityExceeded full size pending)
  /-- When every source tick up to some target tick of the pattern carries a sample, that
  target tick attains the bound, and any smaller queue is overfull. -/
  attained : ∃ tick ≤ transition.targetTicksPerPattern, ∀ samples, TicksIncrease samples →
    (∀ t, tickTime context.rootRate sourceRate t ≤ tickTime context.rootRate targetRate tick →
      ∃ s ∈ samples, s.clockTick.toNat = t) →
    (newlyDue context.rootRate sourceRate targetRate samples tick).length =
        transition.requiredInputCapacity ∧
      ∀ input capacity, capacity.toNat < transition.requiredInputCapacity →
        tickTime context.rootRate targetRate tick ≤ context.horizon.time →
        tick < context.limits.maximumTicksPerTransition.toNat →
        ∃ pending, context.simulateTransition input transition capacity samples =
          .error (.queueCapacityExceeded input capacity pending)

/-- Clocks of a common root whose rates have the reported ratio obey the reported bound. -/
theorem queueBound_of_ratio {context : SimulationContext} {transition : GraphRateTransition}
    {sourceRate targetRate : GraphClockRate} (hroot : 0 < context.rootRate.ticksPerSecond)
    (hsourcePos : 0 < sourceRate.ticksPerSecond) (htargetPos : 0 < targetRate.ticksPerSecond)
    (hsource : clockRateInHorizon context.analysis context.rootRate transition.sourceClock =
      .ok sourceRate)
    (htarget : clockRateInHorizon context.analysis context.rootRate transition.targetClock =
      .ok targetRate)
    (hp : transition.sourceTicksPerPattern =
      (sourceRate.ticksPerSecond / targetRate.ticksPerSecond).num.toNat)
    (hq : transition.targetTicksPerPattern =
      (sourceRate.ticksPerSecond / targetRate.ticksPerSecond).den)
    (hrequired : transition.requiredInputCapacity =
      RateCount.capacity transition.sourceTicksPerPattern transition.targetTicksPerPattern) :
    QueueBound context transition sourceRate targetRate := by
  have hnum : 0 < (sourceRate.ticksPerSecond / targetRate.ticksPerSecond).num :=
    Rat.num_pos.mpr (div_pos hsourcePos htargetPos)
  have hpPos : 0 < transition.sourceTicksPerPattern := by omega
  have hqPos : 0 < transition.targetTicksPerPattern := by
    rw [hq]
    exact Rat.den_pos _
  have hratio : sourceRate.ticksPerSecond / targetRate.ticksPerSecond =
      (transition.sourceTicksPerPattern : ℚ) / transition.targetTicksPerPattern := by
    have hcast : (transition.sourceTicksPerPattern : ℤ) =
        (sourceRate.ticksPerSecond / targetRate.ticksPerSecond).num := by omega
    have hcast' : (transition.sourceTicksPerPattern : ℚ) =
        (sourceRate.ticksPerSecond / targetRate.ticksPerSecond).num := by exact_mod_cast hcast
    rw [hcast', hq, Rat.num_div_den]
  constructor
  case newly_due =>
    intro samples hsorted tick
    rw [hrequired]
    exact length_newlyDue_le hroot hsourcePos htargetPos hpPos hqPos hratio hsorted tick
  case left_over =>
    intro samples hsorted hwithin count hcount
    have hafter := not_le.mp fun hle => lt_irrefl _ ((hcount count).mpr hle)
    rw [hrequired]
    exact length_leftOver_le hroot hsourcePos htargetPos hpPos hqPos hratio hsorted hwithin hafter
  case never_exceeded =>
    intro input capacity samples hcapacity hsorted hwithin full size pending
    rw [hrequired] at hcapacity
    exact simulateTransition_ne_exceeded hroot hsourcePos htargetPos hsource htarget hpPos hqPos
      hratio hcapacity hsorted hwithin full size pending
  case attained =>
    obtain ⟨tick, htick, hseen⟩ :=
      RateCount.exists_seen_succ_eq (p := transition.sourceTicksPerPattern) hqPos
    refine ⟨tick, htick, fun samples hsorted hdense => ?_⟩
    have hlower := le_length_newlyDue hroot hsourcePos htargetPos hqPos hratio hdense
    have hupper := length_newlyDue_le hroot hsourcePos htargetPos hpPos hqPos hratio hsorted tick
    rw [← hrequired] at hseen hupper
    have hlength : (newlyDue context.rootRate sourceRate targetRate samples tick).length =
        transition.requiredInputCapacity := by omega
    refine ⟨hlength, fun input capacity hcapacity hwithin hallowed => ?_⟩
    cases hrun : context.simulateTransition input transition capacity samples with
    | ok generated =>
      obtain ⟨-, -, hnewly⟩ := simulateTransition_ok hroot hsourcePos htargetPos hsource htarget
        hsorted hrun
      have hshort := hnewly tick
        ((lt_tickCount_iff hroot htargetPos (horizon_nonneg context.horizon)).mpr hwithin)
      omega
    | error error =>
      rcases simulateTransition_error hroot hsourcePos htargetPos hsource htarget hsorted hrun with
        ⟨-, -, hnewly⟩ | ⟨-, t, hnone⟩ | ⟨queue, -, -, rfl⟩
      · have hshort := hnewly tick hallowed
        omega
      · -- the sample at source tick zero is due at every target tick
        have hzero : ∀ k, tickTime context.rootRate sourceRate 0 ≤
            tickTime context.rootRate targetRate k := by
          intro k
          have hmono := (tickTime_le_tickTime hroot htargetPos).mpr (Nat.zero_le k)
          rwa [tickTime_zero] at hmono ⊢
        obtain ⟨s, hs, hs0⟩ := hdense 0 (hzero tick)
        rw [dueBy, List.filter_eq_nil_iff] at hnone
        exact absurd (decide_eq_true (hs0 ▸ hzero t)) (hnone s hs)
      · exact ⟨queue.length, rfl⟩

/-- **Analysis proves the queue bound the simulator enforces.** The capacity reported for a
rate transition is the rounded-up ratio of its rates and no more than the declared queue; in
every simulation on the transition's root clock it bounds the queue, and is attained. -/
theorem rateTransition_queueBound (document : GraphDocument) (registry : GraphNodeRegistry)
    (policy : RequiredInputPolicy) (analysis : GraphAnalysis) (missing : List WireEndpoint)
    (hanalysis : analyzeGraphWithRequiredInputPolicy document registry policy =
      .ok (analysis, missing))
    (transition : GraphRateTransition) (htransition : transition ∈ analysis.rateTransitions) :
    transition.requiredInputCapacity =
        ⌈(transition.sourceTicksPerPattern : ℚ) / transition.targetTicksPerPattern⌉₊ ∧
      (∃ node ∈ document.nodes, node.id = transition.node ∧ ∃ schema declared,
        registry.schema node.kind = some schema ∧
          schema.streamCapacity transition.input = some declared ∧
          transition.requiredInputCapacity ≤ declared.toNat) ∧
      ∀ context : SimulationContext, context.analysis = analysis →
        analysis.clockRate transition.rootClock = some context.rootRate →
        ∃ sourceRate targetRate,
          clockRateInHorizon analysis context.rootRate transition.sourceClock = .ok sourceRate ∧
          clockRateInHorizon analysis context.rootRate transition.targetClock = .ok targetRate ∧
          QueueBound context transition sourceRate targetRate := by
  have facts := analysisFacts hanalysis
  obtain ⟨node, hnode, schema, own, ownAllocations, hadmitted, hown⟩ :=
    facts.transition transition htransition
  obtain ⟨contract, -, hreport⟩ := hadmitted.transitions_ok.exists_of_mem_right hown
  obtain ⟨hid, hinput, -, ⟨sourceRate, targetRate, hsource, htarget, hsourceRoot, htargetRoot, hp,
    hq⟩, hrequired, declared, hdeclared, hfits⟩ := analyzeRateTransition_ok hreport
  have hqPos : 0 < transition.targetTicksPerPattern := by
    rw [hq]
    exact Rat.den_pos _
  refine ⟨?_, ⟨node, hnode, hid.symm, schema, declared, hadmitted.schema_eq, ?_, hfits⟩, ?_⟩
  · rw [hrequired, RateCount.capacity_eq_ceil hqPos]
  · rwa [hinput]
  · rintro context rfl hrootRate
    have hclock : context.rootRate.clock = transition.rootClock := Table.key_of_lookup hrootRate
    simp only [clockRate, Option.okOr_eq_ok] at hsource htarget
    have hsource' : clockRateInHorizon context.analysis context.rootRate transition.sourceClock =
        .ok sourceRate := clockRateInHorizon_eq_ok.mpr ⟨hsource, hsourceRoot.trans hclock.symm⟩
    have htarget' : clockRateInHorizon context.analysis context.rootRate transition.targetClock =
        .ok targetRate := clockRateInHorizon_eq_ok.mpr ⟨htarget, htargetRoot.trans hclock.symm⟩
    refine ⟨sourceRate, targetRate, hsource', htarget', ?_⟩
    exact queueBound_of_ratio (facts.rate_pos (Table.mem_of_lookup hrootRate))
      (facts.rate_pos (Table.mem_of_lookup hsource)) (facts.rate_pos (Table.mem_of_lookup htarget))
      hsource' htarget' hp hq hrequired

theorem rateTransition_queueBound_relay :
    ∃ analysis missing,
      analyzeGraphWithRequiredInputPolicy relayDocument relayNodeRegistry .reject =
        .ok (analysis, missing) ∧
      ∃ transition ∈ analysis.rateTransitions, transition.requiredInputCapacity = 2 ∧
        ∀ context : SimulationContext, context.analysis = analysis →
          analysis.clockRate transition.rootClock = some context.rootRate →
          ∃ sourceRate targetRate, QueueBound context transition sourceRate targetRate := by
  have hcapacities : (analyzeGraphWithRequiredInputPolicy relayDocument relayNodeRegistry
      .reject).toOption.map (fun report =>
        report.1.rateTransitions.map GraphRateTransition.requiredInputCapacity) = some [2] := by
    decide +kernel
  cases hreport : analyzeGraphWithRequiredInputPolicy relayDocument relayNodeRegistry .reject with
  | error error =>
    rw [hreport] at hcapacities
    cases hcapacities
  | ok report =>
    obtain ⟨analysis, missing⟩ := report
    rw [hreport] at hcapacities
    have hlist : analysis.rateTransitions.map GraphRateTransition.requiredInputCapacity = [2] :=
      Option.some.inj hcapacities
    obtain ⟨transition, hmem, htwo⟩ := List.mem_map.mp
      (show 2 ∈ analysis.rateTransitions.map GraphRateTransition.requiredInputCapacity by
        rw [hlist]
        exact List.mem_singleton_self 2)
    refine ⟨analysis, missing, rfl, transition, hmem, htwo, fun context hanalysis hroot => ?_⟩
    obtain ⟨sourceRate, targetRate, -, -, hbound⟩ :=
      (rateTransition_queueBound _ _ _ _ _ hreport transition hmem).2.2 context hanalysis hroot
    exact ⟨sourceRate, targetRate, hbound⟩

end Alumina.Graph
