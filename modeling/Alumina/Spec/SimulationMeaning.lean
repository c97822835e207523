import Alumina.Spec.SimulationClocks

/-!
# Meaning of a simulation

A graph of fixed behaviours is a system of synchronous equations: at every tick a combinational
node is a function of the values its sources carry at that tick, a delay carries the value its
input had one tick before, and a rate transition carries the newest sample that is due. This file
states the equations on the streams themselves, with no reference to the order in which the
simulator evaluates them, and proves that a simulation solves them.

Key results:
- `Computes`: what a combinational behaviour computes from its inputs
- `SolvesEquations`: the synchronous equations of a plan
- `simulation_solves`: a returned trace holds a solution of them, in time order
-/

namespace Alumina.Graph

open Except (failIf)

/-! ## Synchronous equations -/

/-- What a combinational behaviour computes from the values at its inputs. -/
inductive Computes (tables : DocumentTables) (node : GraphNodeId)
    (input : GraphPortId → Option GraphValue) : GraphSimulationNodeKind → GraphValue → Prop
  | exactAdd {left right output : GraphPortId} {a b : ℚ}
      (hleft : input left = some (.exactRational a))
      (hright : input right = some (.exactRational b)) :
      Computes tables node input (.exactAdd left right output) (.exactRational (a + b))
  | exactSubtract {left right output : GraphPortId} {a b : ℚ}
      (hleft : input left = some (.exactRational a))
      (hright : input right = some (.exactRational b)) :
      Computes tables node input (.exactSubtract left right output) (.exactRational (a - b))
  | exactScale {port output : GraphPortId} {factorParameter : UInt32} {a factor : ℚ}
      (hport : input port = some (.exactRational a))
      (hfactor : dimensionlessParameter tables node factorParameter = .ok factor) :
      Computes tables node input (.exactScale port factorParameter output)
        (.exactRational (a * factor))
  | exactClamp {port output : GraphPortId} {minimumParameter maximumParameter : UInt32}
      {a low high : ℚ} (hport : input port = some (.exactRational a))
      (hlow : exactParameter tables node minimumParameter = .ok low)
      (hhigh : exactParameter tables node maximumParameter = .ok high) (hrange : low ≤ high) :
      Computes tables node input (.exactClamp port minimumParameter maximumParameter output)
        (.exactRational (max low (min a high)))
  | exactWithinInclusive {port output : GraphPortId} {minimumParameter maximumParameter : UInt32}
      {a low high : ℚ} (hport : input port = some (.exactRational a))
      (hlow : exactParameter tables node minimumParameter = .ok low)
      (hhigh : exactParameter tables node maximumParameter = .ok high) (hrange : low ≤ high) :
      Computes tables node input
        (.exactWithinInclusive port minimumParameter maximumParameter output)
        (.boolean (low ≤ a ∧ a ≤ high))
  | booleanAnd {left right output : GraphPortId} {a b : Bool}
      (hleft : input left = some (.boolean a)) (hright : input right = some (.boolean b)) :
      Computes tables node input (.booleanAnd left right output) (.boolean (a && b))
  | typedConstant {output : GraphPortId} {parameter : UInt32} {value : TypedGraphValue}
      (hparameter : parameterValue tables node parameter = .ok value) :
      Computes tables node input (.typedConstant parameter output) value.value
  | typedCase {selector whenFalse whenTrue output : GraphPortId} {choice : Bool}
      {value : GraphValue} (hselector : input selector = some (.boolean choice))
      (hchosen : input (if choice then whenTrue else whenFalse) = some value) :
      Computes tables node input (.typedCase selector whenFalse whenTrue output) value
  | exactPermitGate_permitted {port permit output : GraphPortId} {safeParameter : UInt32} {a : ℚ}
      (hpermit : input permit = some (.boolean true))
      (hport : input port = some (.exactRational a)) :
      Computes tables node input (.exactPermitGate port permit safeParameter output)
        (.exactRational a)
  | exactPermitGate_refused {port permit output : GraphPortId} {safeParameter : UInt32} {a : ℚ}
      (hpermit : input permit = some (.boolean false))
      (hsafe : exactParameter tables node safeParameter = .ok a) :
      Computes tables node input (.exactPermitGate port permit safeParameter output)
        (.exactRational a)

section Equations

variable (context : SimulationContext) (streams : RuntimeStreams)

/-- The value at an input of a node at a tick. -/
def inputValue (node : GraphNodeId) (tick : Nat) (port : GraphPortId) : Option GraphValue :=
  match context.sourceForInput ⟨node, port⟩ with
  | .ok source => (streamValue streams source tick).map TypedGraphValue.value
  | .error _ => none

/-- The equation of a clocked node whose output carries `value` at the ticks below `count`. -/
inductive NodeEquation (node : ClockedNode) (count : Nat)
    (value : Nat → Option TypedGraphValue) : Prop
  /-- A delay starts with its parameter, and then repeats its input one tick later. -/
  | delay {input output : GraphPortId} {parameter : UInt32} {initial : TypedGraphValue}
      {source : RuntimeStreamSource}
      (hbehavior : node.behavior = .unitDelay input parameter output)
      (hsource : context.sourceForInput ⟨node.node, input⟩ = .ok source)
      (hinitial : parameterValue context.document node.node parameter = .ok initial)
      (hfirst : value 0 = some initial)
      (hnext : ∀ tick, tick + 1 < count → value (tick + 1) = streamValue streams source tick)
  /-- Any other node computes its value, of its output's type, from the values of the same
  tick. -/
  | combinational {port : StreamPort} (hbehavior : node.behavior.isDelay = false)
      (hport : streamOutput context.document node.output = .ok port)
      (hvalue : ∀ tick < count, ∃ found, value tick = some found ∧
        found.valueType = port.sampleType ∧
        Computes context.document node.node (inputValue context streams node.node tick)
          node.behavior found.value)

/-- The equation of a rate transition: at each tick of its target clock it carries the newest
sample of its source that is due. -/
def TransitionEquation (item : GraphNodeId × GraphPortId × GraphPortId) : Prop :=
  ∃ source samples sourceRate targetRate generated,
    context.sourceForInput ⟨item.1, item.2.1⟩ = .ok source ∧ streams source = some samples ∧
      clockRateInHorizon context.analysis context.rootRate (streamClock context.document source) =
        .ok sourceRate ∧
      clockRateInHorizon context.analysis context.rootRate
        (streamClock context.document (.output (transitionTarget item))) = .ok targetRate ∧
      streams (.output (transitionTarget item)) = some generated ∧
      TickStream generated (context.ticks targetRate) fun tick =>
        (dueBy context.rootRate sourceRate (tickTime context.rootRate targetRate tick)
          samples).getLast?.map RuntimeSample.value

/-- The synchronous equations of a plan, with the caller's samples given. -/
structure SolvesEquations (plan : SimulationPlan) (external : List ExternalStreamSample)
    (injected : List InjectedInputSample) : Prop where
  external : ∀ endpoint ∈ plan.sources.map Prod.fst, streams (.output endpoint) =
    some (((SimulationContext.sortExternal external).filter (·.source = endpoint)).map
      fun sample => sample.caller.sample)
  injected : ∀ endpoint ∈ injected.map InjectedInputSample.input,
    streams (.injectedInput endpoint) =
      some (((SimulationContext.sortInjected injected).filter (·.input = endpoint)).map
        fun sample => sample.caller.sample)
  transition : ∀ item ∈ plan.transitions, TransitionEquation context streams item
  clocked : ∀ node ∈ plan.clocked, ∃ rate samples value,
    clockRateInHorizon context.analysis context.rootRate
        (streamClock context.document node.source) = .ok rate ∧
      streams node.source = some samples ∧ TickStream samples (context.ticks rate) value ∧
      NodeEquation context streams node (context.ticks rate) value

end Equations

/-! ## One behaviour -/

section Compute

variable {context : SimulationContext} {streams : RuntimeStreams} {node : GraphNodeId} {tick : Nat}

/-- The values a tick ended with, read from the streams. -/
def tickValues (streams : RuntimeStreams) (tick : Nat) : TickValues :=
  fun source => streamValue streams source tick

private theorem inputValue_of_typed {port : GraphPortId} {value : TypedGraphValue}
    (h : typedInput context.document context.injected node tick (tickValues streams tick) port =
      .ok value) : inputValue context streams node tick port = some value.value := by
  simp only [typedInput, Except.bind_eq_ok, Option.okOr_eq_ok] at h
  obtain ⟨source, hsource, hvalue⟩ := h
  have hsource : context.sourceForInput ⟨node, port⟩ = .ok source := hsource
  have hvalue : streamValue streams source tick = some value := hvalue
  simp only [inputValue, hsource, hvalue, Option.map_some]

private theorem inputValue_of_rational {port : GraphPortId} {value : ℚ}
    (h : rationalInput context.document context.injected node tick (tickValues streams tick) port =
      .ok value) : inputValue context streams node tick port = some (.exactRational value) := by
  simp only [rationalInput, Except.bind_eq_ok] at h
  obtain ⟨typed, htyped, hvalue⟩ := h
  rw [inputValue_of_typed htyped]
  split at hvalue
  · next found hfound =>
    rw [hfound, Except.ok.inj hvalue]
  · cases hvalue

private theorem inputValue_of_boolean {port : GraphPortId} {value : Bool}
    (h : booleanInput context.document context.injected node tick (tickValues streams tick) port =
      .ok value) : inputValue context streams node tick port = some (.boolean value) := by
  simp only [booleanInput, Except.bind_eq_ok] at h
  obtain ⟨typed, htyped, hvalue⟩ := h
  rw [inputValue_of_typed htyped]
  split at hvalue
  · next found hfound =>
    rw [hfound, Except.ok.inj hvalue]
  · cases hvalue

private theorem rangeParameters_eq_ok {minimumParameter maximumParameter : UInt32} {aspect : String}
    {range : ℚ × ℚ}
    (h : rangeParameters context.document node minimumParameter maximumParameter aspect =
      .ok range) : exactParameter context.document node minimumParameter = .ok range.1 ∧
        exactParameter context.document node maximumParameter = .ok range.2 ∧
        range.1 ≤ range.2 := by
  simp only [rangeParameters, Except.bind_eq_ok, Except.exists_unit, Except.failIf_eq_ok,
    not_lt, Except.pure_eq_ok] at h
  obtain ⟨minimum, hminimum, maximum, hmaximum, hle, rfl⟩ := h
  exact ⟨hminimum, hmaximum, hle⟩

/-- The clamp of the source is the one of the order. -/
private theorem clamp_eq {a low high : ℚ} (h : low ≤ high) :
    (if a < low then low else if a > high then high else a) = max low (min a high) := by
  split
  · next hlow => rw [min_eq_left (hlow.le.trans h), max_eq_left hlow.le]
  · next hlow =>
    split
    · next hhigh => rw [min_eq_right hhigh.le, max_eq_right h]
    · next hhigh => rw [min_eq_left (not_lt.mp hhigh), max_eq_right (not_lt.mp hlow)]

/-- What a node computes is what its behaviour means: one case for each behaviour. -/
theorem computes_of_computeClockedNode {behavior : GraphSimulationNodeKind} {value : GraphValue}
    (h : computeClockedNode context.document context.injected node tick (tickValues streams tick)
      behavior = .ok value) :
    Computes context.document node (inputValue context streams node tick) behavior value := by
  cases behavior with
  | exactAdd left right output =>
    simp only [computeClockedNode, Except.bind_eq_ok, Except.pure_eq_ok] at h
    obtain ⟨a, ha, b, hb, rfl⟩ := h
    exact .exactAdd (inputValue_of_rational ha) (inputValue_of_rational hb)
  | exactSubtract left right output =>
    simp only [computeClockedNode, Except.bind_eq_ok, Except.pure_eq_ok] at h
    obtain ⟨a, ha, b, hb, rfl⟩ := h
    exact .exactSubtract (inputValue_of_rational ha) (inputValue_of_rational hb)
  | exactScale input factorParameter output =>
    simp only [computeClockedNode, Except.bind_eq_ok, Except.pure_eq_ok] at h
    obtain ⟨a, ha, factor, hfactor, rfl⟩ := h
    exact .exactScale (inputValue_of_rational ha) hfactor
  | exactClamp input minimumParameter maximumParameter output =>
    simp only [computeClockedNode, Except.bind_eq_ok, Except.pure_eq_ok] at h
    obtain ⟨a, ha, ⟨low, high⟩, hrange, rfl⟩ := h
    obtain ⟨hlow, hhigh, hle⟩ := rangeParameters_eq_ok hrange
    rw [clamp_eq hle]
    exact .exactClamp (inputValue_of_rational ha) hlow hhigh hle
  | exactWithinInclusive input minimumParameter maximumParameter output =>
    simp only [computeClockedNode, Except.bind_eq_ok, Except.pure_eq_ok] at h
    obtain ⟨a, ha, ⟨low, high⟩, hrange, rfl⟩ := h
    obtain ⟨hlow, hhigh, hle⟩ := rangeParameters_eq_ok hrange
    exact .exactWithinInclusive (inputValue_of_rational ha) hlow hhigh hle
  | booleanAnd left right output =>
    simp only [computeClockedNode, Except.bind_eq_ok, Except.pure_eq_ok] at h
    obtain ⟨a, ha, b, hb, rfl⟩ := h
    exact .booleanAnd (inputValue_of_boolean ha) (inputValue_of_boolean hb)
  | typedConstant parameter output =>
    simp only [computeClockedNode, Except.bind_eq_ok, Except.pure_eq_ok] at h
    obtain ⟨found, hfound, rfl⟩ := h
    exact .typedConstant hfound
  | typedCase selector whenFalse whenTrue output =>
    simp only [computeClockedNode, Except.bind_eq_ok, Except.pure_eq_ok] at h
    obtain ⟨choice, hchoice, found, hfound, rfl⟩ := h
    exact .typedCase (inputValue_of_boolean hchoice) (inputValue_of_typed hfound)
  | exactPermitGate input permit safeParameter output =>
    simp only [computeClockedNode, Except.bind_eq_ok] at h
    obtain ⟨permitted, hpermit, h⟩ := h
    cases permitted with
    | true =>
      simp only [if_true, Except.bind_eq_ok, Except.pure_eq_ok] at h
      obtain ⟨a, ha, rfl⟩ := h
      exact .exactPermitGate_permitted (inputValue_of_boolean hpermit) (inputValue_of_rational ha)
    | false =>
      simp only [Bool.false_eq_true, if_false, Except.bind_eq_ok, Except.pure_eq_ok] at h
      obtain ⟨a, ha, rfl⟩ := h
      exact .exactPermitGate_refused (inputValue_of_boolean hpermit) ha
  | externalStreamSource | latestRateTransition | streamSink | unitDelay => cases h

theorem computes_of_evaluate {node : ClockedNode} {value : TypedGraphValue}
    (h : evaluateClockedNode context.document context.injected node tick (tickValues streams tick) =
      .ok value) :
    (∃ port, streamOutput context.document node.output = .ok port ∧
      value.valueType = port.sampleType) ∧
      Computes context.document node.node (inputValue context streams node.node tick)
        node.behavior value.value := by
  simp only [evaluateClockedNode, Except.bind_eq_ok, Except.mapError_eq_ok,
    TypedGraphValue.tryNew, Except.exists_unit, Except.pure_eq_ok] at h
  obtain ⟨port, hport, computed, hcomputed, -, rfl⟩ := h
  exact ⟨⟨port, hport, rfl⟩, computes_of_computeClockedNode hcomputed⟩

end Compute

/-! ## Growing runs -/

/-- No stream is lost or changed. -/
def KeepsStreams (streams later : RuntimeStreams) : Prop :=
  ∀ source samples, streams source = some samples → later source = some samples

theorem KeepsStreams.trans {first middle last : RuntimeStreams}
    (h : KeepsStreams first middle) (h' : KeepsStreams middle last) : KeepsStreams first last :=
  fun source samples hsamples => h' source samples (h source samples hsamples)

theorem KeepsStreams.fresh {streams later : RuntimeStreams} (h : KeepsStreams streams later)
    {source : RuntimeStreamSource} (hnone : later source = none) : streams source = none := by
  cases hsource : streams source with
  | none => rfl
  | some samples =>
    rw [h source samples hsource] at hnone
    cases hnone

theorem KeepsStreams.tickValues {streams later : RuntimeStreams} (h : KeepsStreams streams later)
    (tick : Nat) : KeepsValues (tickValues streams tick) (tickValues later tick) := by
  intro source value hvalue
  cases hsource : streams source with
  | none => simp [Graph.tickValues, streamValue, hsource] at hvalue
  | some samples =>
    show streamValue later source tick = some value
    rw [streamValue_congr ((h source samples hsource).trans hsource.symm)]
    exact hvalue

/-- The kind of the entries that record a source's stream. -/
def SimulationPlan.traceKind (plan : SimulationPlan) : RuntimeStreamSource → GraphTraceEntryKind
  | .output endpoint => if (plan.sourcePort endpoint).isSome then .externalSource else .nodeOutput
  | .injectedInput _ => .injectedInput

def RuntimeStreamSource.endpoint : RuntimeStreamSource → WireEndpoint
  | .output endpoint | .injectedInput endpoint => endpoint

/-- The entry that records a sample of a source's stream. -/
def SimulationPlan.entry (plan : SimulationPlan) (tables : DocumentTables)
    (source : RuntimeStreamSource) (sample : RuntimeSample) : GraphTraceEntry :=
  sampleEntry tables (plan.traceKind source) source.endpoint sample

section Entries

variable {plan : SimulationPlan} {tables : DocumentTables} {source : RuntimeStreamSource}
  {sample : RuntimeSample}

theorem SimulationPlan.source_traceKind :
    (plan.traceKind source).source source.endpoint = source := by
  cases source with
  | output endpoint =>
    simp only [SimulationPlan.traceKind]
    split <;> rfl
  | injectedInput endpoint => rfl

@[simp] theorem SimulationPlan.entry_source : (plan.entry tables source sample).source = source :=
  SimulationPlan.source_traceKind

@[simp] theorem SimulationPlan.entry_sample : (plan.entry tables source sample).sample = sample :=
  rfl

@[simp] theorem SimulationPlan.entry_clockTick :
    (plan.entry tables source sample).clockTick = sample.clockTick := rfl

theorem SimulationPlan.entry_clock :
    (plan.entry tables source sample).clock = streamClock tables source := by
  show streamClock tables ((plan.traceKind source).source source.endpoint) = _
  rw [SimulationPlan.source_traceKind]

end Entries

/-- Entries of one stream follow in the order of its ticks. -/
def FollowsTicks (first second : GraphTraceEntry) : Prop :=
  first.source = second.source → first.clockTick.toNat < second.clockTick.toNat

/-- A clock's tick within the horizon. -/
def WithinHorizon (context : SimulationContext) (clock : GraphClockId) (tick : Nat) : Prop :=
  ∃ rate, clockRateInHorizon context.analysis context.rootRate clock = .ok rate ∧
    tickTime context.rootRate rate tick ≤ context.horizon.time

/-- The entries that record the streams `streams` has and `earlier` has not. -/
structure Recorded (context : SimulationContext) (plan : SimulationPlan)
    (earlier streams : RuntimeStreams) (entries : List GraphTraceEntry) : Prop where
  mem : ∀ entry, entry ∈ entries ↔ ∃ source samples sample, earlier source = none ∧
    streams source = some samples ∧ sample ∈ samples ∧
      entry = plan.entry context.document source sample
  ordered : entries.Pairwise FollowsTicks
  increase : ∀ source samples, earlier source = none → streams source = some samples →
    TicksIncrease samples
  within : ∀ source samples, earlier source = none → streams source = some samples →
    ∀ sample ∈ samples, WithinHorizon context (streamClock context.document source)
      sample.clockTick.toNat

section Runs

variable {context : SimulationContext} {plan : SimulationPlan}
  {first middle last : RuntimeStreams} {xs ys : List GraphTraceEntry}

theorem Recorded.source_eq_some (h : Recorded context plan first last xs) {entry : GraphTraceEntry}
    (hentry : entry ∈ xs) : first entry.source = none ∧ ∃ samples,
      last entry.source = some samples ∧ entry.sample ∈ samples := by
  obtain ⟨source, samples, sample, hfresh, hsamples, hsample, rfl⟩ := (h.mem entry).mp hentry
  rw [SimulationPlan.entry_source]
  exact ⟨hfresh, samples, hsamples, hsample⟩

theorem Recorded.append (hx : Recorded context plan first middle xs)
    (hy : Recorded context plan middle last ys) (hfirst : KeepsStreams first middle)
    (hlast : KeepsStreams middle last) : Recorded context plan first last (xs ++ ys) := by
  -- a new stream is new in one of the two halves
  have hsplit : ∀ source samples, first source = none → last source = some samples →
      (middle source = some samples) ∨ middle source = none := by
    intro source samples _ hsamples
    cases hmiddle : middle source with
    | none => exact .inr rfl
    | some found =>
      rw [hlast source found hmiddle] at hsamples
      exact .inl hsamples
  refine ⟨fun entry => ?_, ?_, fun source samples hfresh hsamples => ?_,
    fun source samples hfresh hsamples => ?_⟩
  · rw [List.mem_append, hx.mem, hy.mem]
    constructor
    · rintro (⟨source, samples, sample, hfresh, hsamples, hrest⟩ |
        ⟨source, samples, sample, hfresh, hsamples, hrest⟩)
      · exact ⟨source, samples, sample, hfresh, hlast source samples hsamples, hrest⟩
      · exact ⟨source, samples, sample, hfirst.fresh hfresh, hsamples, hrest⟩
    · rintro ⟨source, samples, sample, hfresh, hsamples, hrest⟩
      rcases hsplit source samples hfresh hsamples with hmiddle | hmiddle
      · exact .inl ⟨source, samples, sample, hfresh, hmiddle, hrest⟩
      · exact .inr ⟨source, samples, sample, hmiddle, hsamples, hrest⟩
  · refine List.pairwise_append.mpr ⟨hx.ordered, hy.ordered, fun a ha b hb hsame => ?_⟩
    obtain ⟨-, samples, hsamples, -⟩ := hx.source_eq_some ha
    rw [hsame, (hy.source_eq_some hb).1] at hsamples
    cases hsamples
  · rcases hsplit source samples hfresh hsamples with hmiddle | hmiddle
    · exact hx.increase source samples hfresh hmiddle
    · exact hy.increase source samples hmiddle hsamples
  · rcases hsplit source samples hfresh hsamples with hmiddle | hmiddle
    · exact hx.within source samples hfresh hmiddle
    · exact hy.within source samples hmiddle hsamples

theorem Recorded.refl (context : SimulationContext) (plan : SimulationPlan)
    (streams : RuntimeStreams) : Recorded context plan streams streams [] := by
  have hnone : ∀ source samples, streams source = none → streams source = some samples → False := by
    intro source samples hfresh hsamples
    rw [hfresh] at hsamples
    cases hsamples
  refine ⟨fun entry => ?_, .nil, fun source samples hfresh hsamples => ?_,
    fun source samples hfresh hsamples => ?_⟩
  · constructor
    · intro hentry
      cases hentry
    · rintro ⟨source, samples, sample, hfresh, hsamples, -⟩
      exact (hnone source samples hfresh hsamples).elim
  · exact (hnone source samples hfresh hsamples).elim
  · exact (hnone source samples hfresh hsamples).elim

/-- One stream, recorded in the order of its ticks. -/
theorem recorded_update {source : RuntimeStreamSource} {samples : List RuntimeSample}
    (hfresh : first source = none) (hincrease : TicksIncrease samples)
    (hwithin : ∀ sample ∈ samples, WithinHorizon context (streamClock context.document source)
      sample.clockTick.toNat) :
    Recorded context plan first (Function.update first source (some samples))
      (samples.map (plan.entry context.document source)) := by
  have honly : ∀ other found, first other = none →
      Function.update first source (some samples) other = some found →
        other = source ∧ found = samples := by
    intro other found hnone hfound
    by_cases hother : other = source
    · rw [hother, Function.update_self] at hfound
      exact ⟨hother, (Option.some.inj hfound).symm⟩
    · rw [Function.update_of_ne hother, hnone] at hfound
      cases hfound
  refine ⟨fun entry => ?_, ?_, fun other found hnone hfound => ?_,
    fun other found hnone hfound => ?_⟩
  · rw [List.mem_map]
    constructor
    · rintro ⟨sample, hsample, rfl⟩
      exact ⟨source, samples, sample, hfresh, Function.update_self .., hsample, rfl⟩
    · rintro ⟨other, found, sample, hnone, hfound, hsample, rfl⟩
      obtain ⟨rfl, rfl⟩ := honly other found hnone hfound
      exact ⟨sample, hsample, rfl⟩
  · rw [List.pairwise_map]
    refine hincrease.imp ?_
    intro a b hlt _
    exact hlt
  · obtain ⟨rfl, rfl⟩ := honly other found hnone hfound
    exact hincrease
  · obtain ⟨rfl, rfl⟩ := honly other found hnone hfound
    exact hwithin

theorem keepsStreams_update {source : RuntimeStreamSource} {samples : List RuntimeSample}
    (hfresh : first source = none) :
    KeepsStreams first (Function.update first source (some samples)) := by
  intro other found hfound
  by_cases hother : other = source
  · rw [hother, hfresh] at hfound
    cases hfound
  · rwa [Function.update_of_ne hother]

/-! ### Clock domains -/

/-- The nodes of a group produce streams on its clock. -/
structure OnGroupClock (context : SimulationContext) (plan : SimulationPlan) (clock : GraphClockId)
    (group : List ClockedNode) : Prop where
  clock : ∀ node ∈ group, streamClock context.document node.source = clock
  produced : ∀ node ∈ group, plan.sourcePort node.output = none

theorem OnGroupClock.entry_eq {clock : GraphClockId} {group : List ClockedNode}
    (h : OnGroupClock context plan clock group) {node : ClockedNode} (hnode : node ∈ group)
    {tick : Nat} {value : TypedGraphValue} :
    plan.entry context.document node.source (tickSample tick value) =
      tickEntry clock tick node value := by
  have hkind : plan.traceKind node.source = .nodeOutput := by
    show (if (plan.sourcePort node.output).isSome then _ else _) = _
    rw [h.produced node hnode]
    rfl
  rw [SimulationPlan.entry, hkind, sampleEntry]
  show (⟨_, _, streamClock context.document node.source, _, _, _⟩ : GraphTraceEntry) = _
  rw [h.clock node hnode]
  rfl

/-- What a clock domain adds to the trace records the streams it adds. -/
theorem GroupRun.recorded {clock : GraphClockId} {group : List ClockedNode}
    {before after : SimulationState} {rate : GraphClockRate} {values : Nat → TickValues}
    (h : GroupRun context clock group before after rate values)
    (hclock : OnGroupClock context plan clock group)
    (hroot : 0 < context.rootRate.ticksPerSecond) (hpos : 0 < rate.ticksPerSecond)
    (hnodup : (group.map ClockedNode.node).Nodup)
    (hfresh : ∀ node ∈ group, before.streams node.source = none) :
    KeepsStreams before.streams after.streams ∧ ∃ new, after.entries = before.entries ++ new ∧
      Recorded context plan before.streams after.streams new := by
  have hwidth : context.ticks rate ≤ 2 ^ 64 := h.allowed.trans (UInt64.toNat_lt _).le
  obtain ⟨nodes, hperm, hentries⟩ := h.entries
  have hown : ∀ source samples, before.streams source = none →
      after.streams source = some samples → ∃ node ∈ group, source = node.source ∧
        TickStream samples (context.ticks rate) fun tick => values tick node.source := by
    intro source samples hnone hsamples
    by_cases hmem : source ∈ group.map ClockedNode.source
    · obtain ⟨node, hnode, rfl⟩ := List.mem_map.mp hmem
      obtain ⟨found, hfound, hstream⟩ := h.stream node hnode
      obtain rfl := Option.some.inj (hfound.symm.trans hsamples)
      exact ⟨node, hnode, rfl, hstream⟩
    · rw [h.other source hmem, hnone] at hsamples
      cases hsamples
  constructor
  · intro source samples hsamples
    by_cases hmem : source ∈ group.map ClockedNode.source
    · obtain ⟨node, hnode, rfl⟩ := List.mem_map.mp hmem
      rw [hfresh node hnode] at hsamples
      cases hsamples
    · rwa [h.other source hmem]
  refine ⟨_, hentries, fun entry => ?_, ?_, fun source samples hnone hsamples => ?_,
    fun source samples hnone hsamples => ?_⟩
  · simp only [List.mem_flatMap, List.mem_range, tickEntries, List.mem_filterMap,
      Option.map_eq_some_iff]
    constructor
    · rintro ⟨tick, htick, node, hnode, value, hvalue, rfl⟩
      have hgroup := hperm.mem_iff.mp hnode
      obtain ⟨samples, hsamples, hstream⟩ := h.stream node hgroup
      exact ⟨node.source, samples, tickSample tick value, hfresh node hgroup, hsamples,
        hstream.mem_iff.mpr ⟨tick, htick, value, hvalue, rfl⟩, (hclock.entry_eq hgroup).symm⟩
    · rintro ⟨source, samples, sample, hnone, hsamples, hsample, rfl⟩
      obtain ⟨node, hnode, rfl, hstream⟩ := hown source samples hnone hsamples
      obtain ⟨tick, htick, value, hvalue, rfl⟩ := hstream.mem_iff.mp hsample
      exact ⟨tick, htick, node, hperm.mem_iff.mpr hnode, value, hvalue,
        (hclock.entry_eq hnode).symm⟩
  · -- ticks follow each other, and a tick has one entry for each node
    rw [List.pairwise_flatMap]
    constructor
    · intro tick _
      rw [tickEntries, List.pairwise_filterMap]
      have hsources : (nodes.map ClockedNode.source).Nodup := by
        apply List.Nodup.of_map RuntimeStreamSource.endpoint
        apply List.Nodup.of_map WireEndpoint.node
        rw [List.map_map, List.map_map]
        exact (hperm.map ClockedNode.node).nodup_iff.mpr hnodup
      refine (List.pairwise_map.mp hsources).imp fun {a b} hne x hx y hy hsame => ?_
      obtain ⟨_, -, rfl⟩ := Option.map_eq_some_iff.mp hx
      obtain ⟨_, -, rfl⟩ := Option.map_eq_some_iff.mp hy
      exact absurd hsame hne
    · refine List.Pairwise.imp_of_mem ?_ List.pairwise_lt_range
      intro i j hi hj hlt x hx y hy _
      rw [tickEntries, List.mem_filterMap] at hx hy
      obtain ⟨a, -, hx⟩ := hx
      obtain ⟨b, -, hy⟩ := hy
      obtain ⟨u, -, rfl⟩ := Option.map_eq_some_iff.mp hx
      obtain ⟨v, -, rfl⟩ := Option.map_eq_some_iff.mp hy
      rw [List.mem_range] at hi hj
      have hfirst : (tickSample i u).clockTick.toNat = i := TickStream.toNat_tickSample (by omega)
      have hsecond : (tickSample j v).clockTick.toNat = j := TickStream.toNat_tickSample (by omega)
      show (tickSample i u).clockTick.toNat < (tickSample j v).clockTick.toNat
      omega
  · obtain ⟨node, hnode, rfl, hstream⟩ := hown source samples hnone hsamples
    exact hstream.ticksIncrease
  · intro sample hsample
    obtain ⟨node, hnode, rfl, hstream⟩ := hown source samples hnone hsamples
    obtain ⟨tick, htick, value, -, rfl⟩ := hstream.mem_iff.mp hsample
    rw [TickStream.toNat_tickSample (by omega), hclock.clock node hnode]
    exact ⟨rate, h.rate_ok,
      (lt_tickCount_iff hroot hpos (horizon_nonneg context.horizon)).mp htick⟩

theorem groups_run {groups : List (GraphClockId × List ClockedNode)} {first last : SimulationState}
    (hroot : 0 < context.rootRate.ticksPerSecond)
    (hpos : ∀ clock rate, clockRateInHorizon context.analysis context.rootRate clock = .ok rate →
      0 < rate.ticksPerSecond)
    (hclocks : ∀ group ∈ groups, OnGroupClock context plan group.1 group.2)
    (hnodup : (groups.flatMap fun group => group.2.map ClockedNode.node).Nodup)
    (hfresh : ∀ group ∈ groups, ∀ node ∈ group.2, first.streams node.source = none)
    (h : groups.foldlM (fun state group => context.simulateClockedGroup group.1 state group.2)
      first = .ok last) :
    KeepsStreams first.streams last.streams ∧
      (∃ new, last.entries = first.entries ++ new ∧
        Recorded context plan first.streams last.streams new) ∧
      ∀ group ∈ groups, ∃ before after rate values,
        GroupRun context group.1 group.2 before after rate values ∧
          KeepsStreams after.streams last.streams := by
  induction groups generalizing first with
  | nil =>
    obtain rfl : first = last := by simpa using h
    exact ⟨fun _ _ h => h, ⟨[], by simp, .refl ..⟩, by simp⟩
  | cons group groups ih =>
    rw [List.foldlM_cons, Except.bind_eq_ok] at h
    obtain ⟨middle, hgroup, hrest⟩ := h
    rw [List.flatMap_cons, List.nodup_append] at hnodup
    obtain ⟨hown, hlater, hdisjoint⟩ := hnodup
    obtain ⟨rate, values, hrun⟩ := groupRun_of_group hroot (hpos group.1) hown hgroup
    obtain ⟨hkept, new, hentries, hrecorded⟩ := hrun.recorded (hclocks group List.mem_cons_self)
      hroot (hpos _ _ hrun.rate_ok) hown (hfresh group List.mem_cons_self)
    have hfresh' : ∀ other ∈ groups, ∀ node ∈ other.2, middle.streams node.source = none := by
      intro other hother node hnode
      rw [hrun.other node.source]
      · exact hfresh other (List.mem_cons_of_mem _ hother) node hnode
      · intro hmem
        obtain ⟨found, hfound, hsame⟩ := List.mem_map.mp hmem
        have hid : found.node = node.node :=
          congrArg WireEndpoint.node (RuntimeStreamSource.output.inj hsame)
        exact hdisjoint _ (List.mem_map_of_mem hfound) _
          (List.mem_flatMap.mpr ⟨other, hother, List.mem_map_of_mem hnode⟩) hid
    obtain ⟨hkept', ⟨new', hentries', hrecorded'⟩, hruns⟩ := ih
      (fun other hother => hclocks other (List.mem_cons_of_mem _ hother)) hlater hfresh' hrest
    refine ⟨hkept.trans hkept', ⟨new ++ new', ?_, hrecorded.append hrecorded' hkept hkept'⟩, ?_⟩
    · rw [hentries', hentries, List.append_assoc]
    · intro other hother
      rcases List.mem_cons.mp hother with rfl | hother
      · exact ⟨first, middle, rate, values, hrun, hkept'⟩
      · exact hruns other hother

/-! ### Rate transitions -/

theorem TransitionEquation.mono {item : GraphNodeId × GraphPortId × GraphPortId}
    (h : TransitionEquation context first item) (hkept : KeepsStreams first last) :
    TransitionEquation context last item := by
  obtain ⟨source, samples, sourceRate, targetRate, generated, hsource, hsamples, hsourceRate,
    htargetRate, hgenerated, hstream⟩ := h
  exact ⟨source, samples, sourceRate, targetRate, generated, hsource, hkept _ _ hsamples,
    hsourceRate, htargetRate, hkept _ _ hgenerated, hstream⟩

theorem streamPort_of_runtimePort {schema : SchemaTables} {port : PortDefinition}
    {found : RuntimePort} (h : runtimePort schema port = some found) (hkind : found.kind = .stream) :
    streamPort schema port.valueType = some ⟨found.payload, found.clock⟩ := by
  simp only [runtimePort, Option.bind_eq_bind, Option.bind_eq_some_iff] at h
  obtain ⟨definition, hdefinition, h⟩ := h
  simp only [streamPort, Option.bind_eq_bind, hdefinition, Option.bind_some]
  split at h
  · rw [← Option.some.inj h] at hkind
    cases hkind
  · next hstream =>
    rw [← Option.some.inj h]
    split
    · next hstream' =>
      rw [hstream] at hstream'
      cases hstream'
      rfl
    · next hother => exact absurd hstream (hother _ _ _)
  · cases h

/-- The clocks of a reported transition are those of the streams at its ports. -/
theorem transition_ports {document : GraphDocument} {registry : GraphNodeRegistry}
    {analysis : GraphAnalysis} (facts : AnalysisFacts document registry analysis)
    {report : GraphRateTransition} (h : report ∈ analysis.rateTransitions) :
    ∃ source target : StreamPort,
      streamInput document.toDocumentTables ⟨report.node, report.input⟩ = .ok source ∧
      streamOutput document.toDocumentTables ⟨report.node, report.output⟩ = .ok target ∧
      source.clock = report.sourceClock ∧ target.clock = report.targetClock ∧
      source.sampleType = target.sampleType := by
  obtain ⟨node, hnode, schema, own, _, hadmitted, hown⟩ := facts.transition report h
  obtain ⟨contract, hcontract, hreport⟩ := hadmitted.transitions_ok.exists_of_mem_right hown
  obtain ⟨hinputs, houtputs⟩ := validateInstance_ports hadmitted.instance_ok
  have hvalid := GraphNodeRegistry.validate_of_schema hadmitted.schema_eq
  simp only [NodeSchema.validate, NodeSchema.validateRateTransitionContracts, Except.bind_eq_ok,
    Except.exists_unit] at hvalid
  obtain ⟨-, -, -, -, -, -, -, -, -, -, ⟨pairs, hpairs, -⟩, -⟩ := hvalid
  have hkinds := Except.foldlM_forall (Q := fun contract => ∃ input output source target,
      schema.input? contract.input = some input ∧ schema.output? contract.output = some output ∧
      runtimePort registry.contextSchema.toSchemaTables input = some source ∧
      runtimePort registry.contextSchema.toSchemaTables output = some target ∧
      source.kind = .stream ∧ target.kind = .stream ∧ source.payload = target.payload) (by
    intro pairs contract next hstep
    simp only [NodeSchema.validateTransition, Except.bind_eq_ok, Except.exists_unit,
      Option.okOr_eq_ok, Except.failIf_eq_ok, not_or, not_not, ne_eq] at hstep
    obtain ⟨-, input, hinput, output, houtput, source, hsource, target, htarget,
      ⟨hsourceKind, htargetKind, hpayload, -⟩, -⟩ := hstep
    exact ⟨input, output, source, target, hinput, houtput, hsource, htarget, hsourceKind,
      htargetKind, hpayload⟩) hpairs contract hcontract
  obtain ⟨input, output, source, target, hinput, houtput, hsource, htarget, hsourceKind,
    htargetKind, hpayload⟩ := hkinds
  simp only [analyzeRateTransition, Except.bind_eq_ok, Except.exists_unit, Option.okOr_eq_ok,
    Except.pure_eq_ok] at hreport
  obtain ⟨input', hinput', output', houtput', source', hsource', target', htarget', _, -, _, -, -,
    -, _, -, -, _, -, rfl⟩ := hreport
  obtain rfl := Option.some.inj (hinput.symm.trans hinput')
  obtain rfl := Option.some.inj (houtput.symm.trans houtput')
  rw [facts.schema_eq] at hsource' htarget'
  obtain rfl := Option.some.inj (hsource.symm.trans hsource')
  obtain rfl := Option.some.inj (htarget.symm.trans htarget')
  refine ⟨⟨source.payload, source.clock⟩, ⟨target.payload, target.clock⟩, ?_, ?_, rfl, rfl,
    hpayload⟩
  · have hfind : findPort node.inputs contract.input = some input := by
      rw [hinputs]
      exact hinput
    simp only [streamInput, document.node_of_mem hnode, Option.okOr_some, hfind, facts.schema_eq,
      streamPort_of_runtimePort hsource hsourceKind, bind, Except.bind]
  · have hfind : findPort node.outputs contract.output = some output := by
      rw [houtputs]
      exact houtput
    simp only [streamOutput, document.node_of_mem hnode, Option.okOr_some, hfind, facts.schema_eq,
      streamPort_of_runtimePort htarget htargetKind, bind, Except.bind]

/-- An input carries the stream of its source. -/
theorem runtimeStreamPort_of_source {document : GraphDocument} {input : WireEndpoint}
    {source : RuntimeStreamSource} {port : StreamPort}
    (hdocument : context.document = document.toDocumentTables)
    (hsource : context.sourceForInput input = .ok source)
    (hport : streamInput document.toDocumentTables input = .ok port) :
    runtimeStreamPort context.document source = .ok port := by
  rw [SimulationContext.sourceForInput, hdocument, sourceForInput_eq_ok] at hsource
  rw [hdocument]
  rcases hsource with ⟨wire, hwire, rfl⟩ | ⟨-, -, rfl⟩
  · exact PlanFacts.streamOutput_of_wireInto hwire hport
  · exact hport

theorem target_in_horizon {input : WireEndpoint} {transition : GraphRateTransition}
    {capacity : UInt32} {samples generated : List RuntimeSample}
    (h : context.simulateTransition input transition capacity samples = .ok generated) :
    ∃ rate, clockRateInHorizon context.analysis context.rootRate transition.targetClock =
      .ok rate := by
  simp only [SimulationContext.simulateTransition, Except.bind_eq_ok] at h
  obtain ⟨result, hticks, -⟩ := h
  cases hallowed : context.limits.maximumTicksPerTransition.toNat <;>
  · rw [hallowed, SimulationContext.transitionTicks, Except.bind_eq_ok] at hticks
    obtain ⟨time, htime, -⟩ := hticks
    obtain ⟨rate, hrate, -⟩ := rootTime_eq_ok htime
    exact ⟨rate, hrate⟩

/-- One evaluated transition solves its equation, and is recorded. -/
theorem TransitionRun.solves {document : GraphDocument} {registry : GraphNodeRegistry}
    (facts : ContextFacts document registry context)
    {item : GraphNodeId × GraphPortId × GraphPortId} {source : RuntimeStreamSource}
    {samples generated : List RuntimeSample} {report : GraphRateTransition} {capacity : UInt32}
    {state next : SimulationState}
    (h : TransitionRun context item source samples generated report capacity state next)
    (hproduced : plan.sourcePort (transitionTarget item) = none)
    (hfresh : state.streams (.output (transitionTarget item)) = none)
    (hincrease : TicksIncrease samples) :
    TransitionEquation context next.streams item ∧ ∃ new, next.entries = state.entries ++ new ∧
      Recorded context plan state.streams next.streams new := by
  obtain ⟨hnode, hinput, houtput⟩ := h.report_node
  obtain ⟨input, target, hinputPort, htargetPort, hsourceClock, htargetClock, -⟩ :=
    transition_ports facts.analysis h.report_mem
  rw [hnode, hinput] at hinputPort
  rw [hnode, houtput] at htargetPort
  have hsourcePort := runtimeStreamPort_of_source facts.document_eq h.source_ok hinputPort
  have hsourceStream : streamClock context.document source = report.sourceClock :=
    (streamClock_of_ok hsourcePort).trans hsourceClock
  have htargetStream : streamClock context.document (.output (transitionTarget item)) =
      report.targetClock := by
    have hport : runtimeStreamPort context.document (.output (transitionTarget item)) =
        .ok target := by
      rw [facts.document_eq]
      exact htargetPort
    exact (streamClock_of_ok hport).trans htargetClock
  -- both clocks have the root of the horizon, as analysis compared their roots
  obtain ⟨targetRate, htarget⟩ := target_in_horizon h.generated_ok
  obtain ⟨htargetFound, htargetRoot⟩ := clockRateInHorizon_eq_ok.mp htarget
  obtain ⟨_, _, schema, own, _, hadmitted, hown⟩ := facts.analysis.transition report h.report_mem
  obtain ⟨_, -, hreport⟩ := hadmitted.transitions_ok.exists_of_mem_right hown
  obtain ⟨-, -, -, ⟨sourceRate, found, hsourceRate, hfound, hsourceRoot, hfoundRoot, -⟩, -⟩ :=
    analyzeRateTransition_ok hreport
  simp only [clockRate, Option.okOr_eq_ok] at hsourceRate hfound
  obtain rfl := Option.some.inj (hfound.symm.trans htargetFound)
  have hsource : clockRateInHorizon context.analysis context.rootRate report.sourceClock =
      .ok sourceRate :=
    clockRateInHorizon_eq_ok.mpr ⟨hsourceRate,
      hsourceRoot.trans (hfoundRoot.symm.trans htargetRoot)⟩
  have hroot := facts.root_pos
  have htargetPos := facts.rate_pos htarget
  obtain ⟨hallowed, hgenerated, -⟩ := simulateTransition_ok hroot (facts.rate_pos hsource)
    htargetPos hsource htarget hincrease h.generated_ok
  have hstream : TickStream generated (context.ticks found) fun tick =>
      (dueBy context.rootRate sourceRate (tickTime context.rootRate found tick)
        samples).getLast?.map RuntimeSample.value := by
    refine ⟨hallowed.trans (UInt64.toNat_lt _).le, ?_⟩
    rw [hgenerated]
    apply List.map_congr_left
    intro tick _
    rw [transitionSample, Option.map_map]
    rfl
  have hfits := hstream.fits
  constructor
  · refine ⟨source, samples, sourceRate, found, generated, h.source_ok, ?_, ?_, ?_, ?_, hstream⟩
    · rw [h.streams_eq]
      exact keepsStreams_update hfresh source samples h.samples_eq
    · rwa [hsourceStream]
    · rwa [htargetStream]
    · rw [h.streams_eq, Function.update_self]
  · refine ⟨generated.map (plan.entry context.document (.output (transitionTarget item))), ?_, ?_⟩
    · rw [h.entries_eq]
      congr 1
      apply List.map_congr_left
      intro sample _
      have hkind : plan.traceKind (.output (transitionTarget item)) = .nodeOutput := by
        rw [SimulationPlan.traceKind, hproduced]
        rfl
      rw [SimulationPlan.entry, hkind, sampleEntry]
      show _ = (⟨_, _, streamClock context.document (.output (transitionTarget item)), _, _, _⟩ :
        GraphTraceEntry)
      rw [htargetStream]
      rfl
    · rw [h.streams_eq]
      refine recorded_update hfresh hstream.ticksIncrease fun sample hsample => ?_
      obtain ⟨tick, htick, value, -, rfl⟩ := hstream.mem_iff.mp hsample
      rw [TickStream.toNat_tickSample (by omega), htargetStream]
      exact ⟨found, htarget,
        (lt_tickCount_iff hroot htargetPos (horizon_nonneg context.horizon)).mp htick⟩

theorem transitions_run {document : GraphDocument} {registry : GraphNodeRegistry}
    (facts : ContextFacts document registry context)
    {order : List (GraphNodeId × GraphPortId × GraphPortId)} {first last : SimulationState}
    (hproduced : ∀ item ∈ order, plan.sourcePort (transitionTarget item) = none)
    (hnodup : (order.map Prod.fst).Nodup)
    (hfresh : ∀ item ∈ order, first.streams (.output (transitionTarget item)) = none)
    (hincrease : ∀ source samples, first.streams source = some samples → TicksIncrease samples)
    (h : Worklist.Steps context.attemptTransition first order last) :
    KeepsStreams first.streams last.streams ∧
      (∃ new, last.entries = first.entries ++ new ∧
        Recorded context plan first.streams last.streams new) ∧
      ∀ item ∈ order, TransitionEquation context last.streams item := by
  induction h with
  | nil => exact ⟨fun _ _ h => h, ⟨[], by simp, .refl ..⟩, by simp⟩
  | @cons state next final item items hattempt _ ih =>
    rw [List.map_cons, List.nodup_cons] at hnodup
    obtain ⟨source, samples, generated, report, capacity, hrun⟩ :=
      attemptTransition_eq_some hattempt
    have hnone := hfresh item List.mem_cons_self
    have hkept : KeepsStreams state.streams next.streams := by
      rw [hrun.streams_eq]
      exact keepsStreams_update hnone
    obtain ⟨hequation, new, hentries, hrecorded⟩ := hrun.solves facts
      (hproduced item List.mem_cons_self) hnone (hincrease source samples hrun.samples_eq)
    have hfresh' : ∀ other ∈ items, next.streams (.output (transitionTarget other)) = none := by
      intro other hother
      rw [hrun.streams_eq, Function.update_of_ne]
      · exact hfresh other (List.mem_cons_of_mem _ hother)
      · intro hsame
        have hid : other.1 = item.1 :=
          congrArg WireEndpoint.node (RuntimeStreamSource.output.inj hsame)
        exact hnodup.1 (hid ▸ List.mem_map_of_mem hother)
    have hincrease' : ∀ source samples, next.streams source = some samples →
        TicksIncrease samples := by
      intro other found hfound
      cases hstate : state.streams other with
      | none => exact hrecorded.increase other found hstate hfound
      | some earlier =>
        rw [hkept other earlier hstate] at hfound
        exact Option.some.inj hfound ▸ hincrease other earlier hstate
    obtain ⟨hkept', ⟨new', hentries', hrecorded'⟩, hequations⟩ := ih
      (fun other hother => hproduced other (List.mem_cons_of_mem _ hother)) hnodup.2 hfresh'
      hincrease'
    refine ⟨hkept.trans hkept', ⟨new ++ new', ?_, hrecorded.append hrecorded' hkept hkept'⟩, ?_⟩
    · rw [hentries', hentries, List.append_assoc]
    · intro other hother
      rcases List.mem_cons.mp hother with rfl | hother
      · exact hequation.mono hkept'
      · exact hequations other hother

/-! ### Caller samples -/

/-- The samples of the caller are recorded, in the order of their ticks. -/
theorem CallersAdmitted.recorded {external : List ExternalStreamSample}
    {injected : List InjectedInputSample} {callers : SimulationState}
    (h : CallersAdmitted context plan external injected callers) :
    Recorded context plan (fun _ => none) callers.streams callers.entries := by
  have hexternal : ∀ sample ∈ external,
      plan.entry context.document (.output sample.source) sample.caller.sample =
        sample.caller.entry context.document := by
    intro sample hsample
    have hkind : plan.traceKind (.output sample.source) = .externalSource := by
      rw [SimulationPlan.traceKind, if_pos (h.source sample hsample)]
    rw [SimulationPlan.entry, hkind]
    rfl
  -- the samples of a stream are those of the caller at its endpoint
  have hown : ∀ source samples, callers.streams source = some samples →
      (∃ endpoint, source = .output endpoint ∧
        samples = ((SimulationContext.sortExternal external).filter (·.source = endpoint)).map
          fun sample => sample.caller.sample) ∨
      ∃ endpoint, source = .injectedInput endpoint ∧
        samples = ((SimulationContext.sortInjected injected).filter (·.input = endpoint)).map
          fun sample => sample.caller.sample := by
    intro source samples hsamples
    cases source with
    | output endpoint =>
      rw [h.output] at hsamples
      split at hsamples
      · exact .inl ⟨endpoint, rfl, (Option.some.inj hsamples).symm⟩
      · cases hsamples
    | injectedInput endpoint =>
      rw [h.input] at hsamples
      split at hsamples
      · exact .inr ⟨endpoint, rfl, (Option.some.inj hsamples).symm⟩
      · cases hsamples
  refine ⟨fun entry => ?_, ?_, fun source samples _ hsamples => ?_,
    fun source samples _ hsamples => ?_⟩
  · rw [h.entries, List.mem_append, List.mem_map, List.mem_map]
    constructor
    · rintro (⟨sample, hsample, rfl⟩ | ⟨sample, hsample, rfl⟩)
      · have hmem := Table.mem_sortByKey.mp hsample
        have hstream := (h.output sample.source).trans (if_pos (h.source sample hmem))
        refine ⟨.output sample.source, _, sample.caller.sample, rfl, hstream, ?_,
          (hexternal sample hmem).symm⟩
        exact List.mem_map.mpr ⟨sample, List.mem_filter.mpr ⟨hsample, by simp⟩, rfl⟩
      · have hmem := Table.mem_sortByKey.mp hsample
        have hstream := (h.input sample.input).trans (if_pos (List.mem_map_of_mem hmem))
        refine ⟨.injectedInput sample.input, _, sample.caller.sample, rfl, hstream, ?_, rfl⟩
        exact List.mem_map.mpr ⟨sample, List.mem_filter.mpr ⟨hsample, by simp⟩, rfl⟩
    · rintro ⟨source, samples, sample, -, hsamples, hsample, rfl⟩
      rcases hown source samples hsamples with ⟨endpoint, rfl, rfl⟩ | ⟨endpoint, rfl, rfl⟩
      · obtain ⟨found, hfound, rfl⟩ := List.mem_map.mp hsample
        obtain ⟨hmem, hname⟩ := List.mem_filter.mp hfound
        obtain rfl := of_decide_eq_true hname
        exact .inl ⟨found, hmem, (hexternal found (Table.mem_sortByKey.mp hmem)).symm⟩
      · obtain ⟨found, hfound, rfl⟩ := List.mem_map.mp hsample
        obtain ⟨hmem, hname⟩ := List.mem_filter.mp hfound
        obtain rfl := of_decide_eq_true hname
        exact .inr ⟨found, hmem, rfl⟩
  · rw [h.entries, List.pairwise_append, List.pairwise_map, List.pairwise_map]
    refine ⟨h.orderExternal.imp fun {a b} hbefore hsame => ?_,
      h.orderInjected.imp fun {a b} hbefore hsame => ?_, fun a ha b hb hsame => ?_⟩
    · exact (hbefore (RuntimeStreamSource.output.inj hsame)).1
    · exact (hbefore (RuntimeStreamSource.injectedInput.inj hsame)).1
    · obtain ⟨_, -, rfl⟩ := List.mem_map.mp ha
      obtain ⟨_, -, rfl⟩ := List.mem_map.mp hb
      cases hsame
  · rcases hown source samples hsamples with ⟨endpoint, rfl, rfl⟩ | ⟨endpoint, rfl, rfl⟩
    · rw [TicksIncrease, List.pairwise_map]
      refine (h.orderExternal.filter _).imp_of_mem fun {a b} ha hb hbefore => ?_
      have hfirst : a.source = endpoint := of_decide_eq_true (List.mem_filter.mp ha).2
      have hsecond : b.source = endpoint := of_decide_eq_true (List.mem_filter.mp hb).2
      exact (hbefore (hfirst.trans hsecond.symm)).1
    · rw [TicksIncrease, List.pairwise_map]
      refine (h.orderInjected.filter _).imp_of_mem fun {a b} ha hb hbefore => ?_
      have hfirst : a.input = endpoint := of_decide_eq_true (List.mem_filter.mp ha).2
      have hsecond : b.input = endpoint := of_decide_eq_true (List.mem_filter.mp hb).2
      exact (hbefore (hfirst.trans hsecond.symm)).1
  · intro sample hsample
    rcases hown source samples hsamples with ⟨endpoint, rfl, rfl⟩ | ⟨endpoint, rfl, rfl⟩
    · obtain ⟨found, hfound, rfl⟩ := List.mem_map.mp hsample
      obtain ⟨hmem, hname⟩ := List.mem_filter.mp hfound
      obtain rfl := of_decide_eq_true hname
      exact (h.fitsExternal found (Table.mem_sortByKey.mp hmem)).time
    · obtain ⟨found, hfound, rfl⟩ := List.mem_map.mp hsample
      obtain ⟨hmem, hname⟩ := List.mem_filter.mp hfound
      obtain rfl := of_decide_eq_true hname
      exact (h.fitsInjected found (Table.mem_sortByKey.mp hmem)).time

end Runs

/-! ## The sorted trace -/

section Trace

variable (context : SimulationContext)

/-- Exact time of an entry, in ticks of the root clock. -/
def entryTime (entry : GraphTraceEntry) : ℚ :=
  match context.rootTime entry.clock entry.clockTick.toNat with
  | .ok time => time
  | .error _ => 0

/-- Order of a trace: exact time, kind, endpoint. -/
def traceKey (entry : GraphTraceEntry) : ℚ ×ₗ ℕ ×ₗ WireEndpoint :=
  toLex (entryTime context entry, toLex (entry.kind.rank, entry.endpoint))

/-- A trace that records exactly the streams of a solution, up to the horizon and in order. -/
structure RecordsStreams (plan : SimulationPlan) (streams : RuntimeStreams)
    (entries : List GraphTraceEntry) : Prop where
  mem : ∀ entry, entry ∈ entries ↔ ∃ source samples sample, streams source = some samples ∧
    sample ∈ samples ∧ entry = plan.entry context.document source sample
  within : ∀ entry ∈ entries, WithinHorizon context entry.clock entry.clockTick.toNat
  ordered : entries.Pairwise fun a b => traceKey context a < traceKey context b

end Trace

section Sorted

variable {context : SimulationContext} {plan : SimulationPlan} {streams : RuntimeStreams}

theorem entryTime_of_within {entry : GraphTraceEntry} {rate : GraphClockRate}
    (h : clockRateInHorizon context.analysis context.rootRate entry.clock = .ok rate) :
    entryTime context entry = tickTime context.rootRate rate entry.clockTick.toNat := by
  have htime : context.rootTime entry.clock entry.clockTick.toNat =
      .ok (tickTime context.rootRate rate entry.clockTick.toNat) := rootTime_of_rate h _
  rw [entryTime, htime]

theorem rank_source {a b : GraphTraceEntry} (hrank : a.kind.rank = b.kind.rank)
    (hendpoint : a.endpoint = b.endpoint) : a.source = b.source := by
  have hkind : a.kind = b.kind := by
    cases ha : a.kind <;> cases hb : b.kind <;> simp_all [GraphTraceEntryKind.rank]
  rw [GraphTraceEntry.source, GraphTraceEntry.source, hkind, hendpoint]

/-- Sorting a record by time leaves no two entries in the same place. -/
theorem recordsStreams_of_sorted {document : GraphDocument} {registry : GraphNodeRegistry}
    (facts : ContextFacts document registry context) {entries : List GraphTraceEntry}
    {timed : List (ℚ × GraphTraceEntry)}
    (hrecorded : Recorded context plan (fun _ => none) streams entries)
    (htimed : entries.mapM context.timeEntry = .ok timed) :
    RecordsStreams context plan streams ((SimulationContext.sortTrace timed).map Prod.snd) := by
  have hpairs := Except.mapM_eq_ok htimed
  have htimes : timed = entries.map fun entry => (entryTime context entry, entry) := by
    clear hrecorded htimed
    induction hpairs with
    | nil => rfl
    | cons hfirst _ ih =>
      simp only [SimulationContext.timeEntry, Except.bind_eq_ok, Except.pure_eq_ok] at hfirst
      obtain ⟨time, htime, rfl⟩ := hfirst
      rw [List.map_cons, entryTime, htime, ← ih]
  have hsorted : (SimulationContext.sortTrace timed).Perm timed := Table.sortByKey_perm
  have hperm : ((SimulationContext.sortTrace timed).map Prod.snd).Perm entries := by
    have hsecond := hsorted.map Prod.snd
    rwa [htimes, List.map_map, show (Prod.snd ∘ fun entry => (entryTime context entry, entry)) =
      (id : GraphTraceEntry → GraphTraceEntry) from rfl, List.map_id, ← htimes] at hsecond
  have hmem : ∀ entry, entry ∈ entries ↔ ∃ source samples sample,
      streams source = some samples ∧ sample ∈ samples ∧
        entry = plan.entry context.document source sample := by
    intro entry
    rw [hrecorded.mem]
    constructor
    · rintro ⟨source, samples, sample, -, hrest⟩
      exact ⟨source, samples, sample, hrest⟩
    · rintro ⟨source, samples, sample, hrest⟩
      exact ⟨source, samples, sample, rfl, hrest⟩
  have hwithin : ∀ entry ∈ entries, WithinHorizon context entry.clock entry.clockTick.toNat := by
    intro entry hentry
    obtain ⟨source, samples, sample, hsamples, hsample, rfl⟩ := (hmem entry).mp hentry
    rw [SimulationPlan.entry_clock]
    exact hrecorded.within source samples rfl hsamples sample hsample
  refine ⟨fun entry => by rw [hperm.mem_iff, hmem],
    fun entry hentry => hwithin entry (hperm.mem_iff.mp hentry), ?_⟩
  -- two entries of one stream differ in their tick, so they differ in their time
  have hdistinct : ((SimulationContext.sortTrace timed).map Prod.snd).Pairwise fun a b =>
      a.source = b.source → a.clockTick.toNat ≠ b.clockTick.toNat := by
    refine (hperm.pairwise_iff ?_).mpr (hrecorded.ordered.imp fun hlt hsame => (hlt hsame).ne)
    intro a b hab hsame heq
    exact hab hsame.symm heq.symm
  have hkeys : (SimulationContext.sortTrace timed).Pairwise fun a b =>
      toLex (a.1, toLex (a.2.kind.rank, toLex (a.2.endpoint, a.2.sequence.toNat))) ≤
        toLex (b.1, toLex (b.2.kind.rank, toLex (b.2.endpoint, b.2.sequence.toNat))) :=
    Table.sortByKey_sorted
  rw [List.pairwise_map] at hdistinct ⊢
  refine (hkeys.and hdistinct).imp_of_mem fun {a b} ha hb hab => ?_
  obtain ⟨hle, hne⟩ := hab
  have hpaired : ∀ pair ∈ SimulationContext.sortTrace timed,
      pair.1 = entryTime context pair.2 ∧ pair.2 ∈ entries := by
    intro pair hpair
    rw [hsorted.mem_iff, htimes, List.mem_map] at hpair
    obtain ⟨entry, hentry, rfl⟩ := hpair
    exact ⟨rfl, hentry⟩
  obtain ⟨hfirst, hfirstMem⟩ := hpaired a ha
  obtain ⟨hsecond, hsecondMem⟩ := hpaired b hb
  rw [Prod.Lex.toLex_le_toLex, Prod.Lex.toLex_le_toLex, Prod.Lex.toLex_le_toLex] at hle
  rw [traceKey, traceKey, Prod.Lex.toLex_lt_toLex, Prod.Lex.toLex_lt_toLex, ← hfirst, ← hsecond]
  rcases hle with hlt | ⟨htime, hlt | ⟨hrank, hlt | ⟨hendpoint, -⟩⟩⟩
  · exact .inl hlt
  · exact .inr ⟨htime, .inl hlt⟩
  · exact .inr ⟨htime, .inr ⟨hrank, hlt⟩⟩
  · exfalso
    have hsource := rank_source hrank hendpoint
    apply hne hsource
    have hclock : a.2.clock = b.2.clock := by
      obtain ⟨source, _, sample, -, -, ha⟩ := (hmem a.2).mp hfirstMem
      obtain ⟨source', _, sample', -, -, hb⟩ := (hmem b.2).mp hsecondMem
      rw [ha, hb, SimulationPlan.entry_source, SimulationPlan.entry_source] at hsource
      rw [ha, hb, SimulationPlan.entry_clock, SimulationPlan.entry_clock, hsource]
    obtain ⟨rate, hrate, -⟩ := hwithin a.2 hfirstMem
    have hrate' : clockRateInHorizon context.analysis context.rootRate b.2.clock = .ok rate :=
      hclock ▸ hrate
    rw [hfirst, hsecond, entryTime_of_within hrate, entryTime_of_within hrate'] at htime
    have hroot := facts.root_pos
    have hpos := facts.rate_pos hrate
    exact le_antisymm ((tickTime_le_tickTime hroot hpos).mp htime.le)
      ((tickTime_le_tickTime hroot hpos).mp htime.ge)

end Sorted

/-! ## A whole simulation -/

/-- The sources that a plan and the caller give a stream. -/
def PlannedSource (plan : SimulationPlan) (injected : List InjectedInputSample) :
    RuntimeStreamSource → Prop
  | .output endpoint => endpoint ∈ plan.sources.map Prod.fst ∨
      (∃ item ∈ plan.transitions, endpoint = transitionTarget item) ∨
      ∃ node ∈ plan.clocked, endpoint = node.output
  | .injectedInput endpoint => endpoint ∈ injected.map InjectedInputSample.input

section Simulation

variable [Sha256] {document : GraphDocument} {registry : GraphSimulationRegistry}
  {context : SimulationContext} {plan : SimulationPlan}
  {clocked : List (GraphClockId × ClockedNode)}

omit [Sha256] in
private theorem map_snd_clockedOf (h : clockedOf context plan = .ok clocked) :
    clocked.map Prod.snd = plan.clocked := by
  have hpairs := Except.mapM_eq_ok h
  clear h
  generalize plan.clocked = nodes at hpairs
  induction hpairs with
  | nil => rfl
  | cons hfirst _ ih =>
    simp only [Except.bind_eq_ok, Except.pure_eq_ok] at hfirst
    obtain ⟨_, -, rfl⟩ := hfirst
    rw [List.map_cons, ih]

omit [Sha256] in
/-- Every clocked node is in the group of its clock. -/
private theorem exists_group (h : clockedOf context plan = .ok clocked) {node : ClockedNode}
    (hnode : node ∈ plan.clocked) :
    ∃ group ∈ SimulationContext.clockGroups clocked, node ∈ group.2 := by
  rw [← map_snd_clockedOf h, List.mem_map] at hnode
  obtain ⟨⟨clock, node⟩, hpair, rfl⟩ := hnode
  refine ⟨(clock, _), List.mem_map.mpr ⟨clock, ?_, rfl⟩, ?_⟩
  · rw [Table.mem_sortByKey, List.mem_dedup]
    exact List.mem_map_of_mem hpair
  · exact List.mem_map.mpr ⟨(clock, node), List.mem_filter.mpr ⟨hpair, by simp⟩, rfl⟩

/-- The groups share no node. -/
private theorem groups_nodup (hplan : PlanFacts document registry context plan)
    (h : clockedOf context plan = .ok clocked) :
    ((SimulationContext.clockGroups clocked).flatMap fun group =>
      group.2.map ClockedNode.node).Nodup := by
  rw [List.nodup_flatMap]
  constructor
  · rintro ⟨clock, group⟩ hgroup
    have hids : ((clocked.map Prod.snd).map ClockedNode.node).Nodup := by
      rw [map_snd_clockedOf h]
      exact hplan.clocked_nodup
    rw [mem_clockGroups hgroup]
    exact hids.sublist ((List.filter_sublist.map _).map _)
  · have hgroupClocks : ((SimulationContext.clockGroups clocked).map Prod.fst).Pairwise (· ≠ ·) :=
      clockGroups_nodup
    have hclocks := List.pairwise_map.mp hgroupClocks
    refine hclocks.imp_of_mem fun {a b} ha hb hne => ?_
    show List.Disjoint _ _
    intro id hfirst hsecond
    obtain ⟨node, hnode, rfl⟩ := List.mem_map.mp hfirst
    obtain ⟨other, hother, hid⟩ := List.mem_map.mp hsecond
    obtain ⟨hnodeMem, hnodeClock⟩ := (mem_group h ha).mp hnode
    obtain ⟨hotherMem, hotherClock⟩ := (mem_group h hb).mp hother
    obtain rfl := List.inj_on_of_nodup_map hplan.clocked_nodup hotherMem hnodeMem hid
    exact hne (Except.ok.inj (hnodeClock.symm.trans hotherClock))

/-- A transition produces no stream of the caller. -/
private theorem target_not_source (hplan : PlanFacts document registry context plan)
    {item : GraphNodeId × GraphPortId × GraphPortId} (hitem : item ∈ plan.transitions) :
    plan.sourcePort (transitionTarget item) = none := by
  rw [← Option.not_isSome_iff_eq_none, PlanFacts.sourcePort_isSome]
  intro hsource
  obtain ⟨definition, hmem, hid, hbound⟩ := hplan.mem_transitions.mp hitem
  obtain ⟨other, hother, hotherId, hotherBound⟩ := hplan.mem_sources.mp hsource
  cases PlanFacts.behavior_unique hmem hother (hid.trans hotherId.symm) hbound hotherBound

omit [Sha256] in
/-- The equation of a node holds of its domain's run, and streams added later keep it. -/
private theorem nodeEquation_of_group {clock : GraphClockId} {group : List ClockedNode}
    {before after : SimulationState} {rate : GraphClockRate} {values : Nat → TickValues}
    {streams : RuntimeStreams} (h : GroupRun context clock group before after rate values)
    (hkept : KeepsStreams after.streams streams) {node : ClockedNode} (hnode : node ∈ group) :
    NodeEquation context streams node (context.ticks rate) fun tick => values tick node.source := by
  have hknown : ∀ tick < context.ticks rate, KeepsValues (values tick) (tickValues streams tick) :=
    fun tick htick => (h.known tick htick).trans (hkept.tickValues tick)
  cases hkind : node.behavior.isDelay with
  | true =>
    obtain ⟨input, parameter, output, initial, hbehavior, hinitial, hfirst⟩ :=
      h.initial node hnode hkind
    obtain ⟨source, hsource, hlatched⟩ := h.latched node hnode hkind
    have hinput : node.delayInput = ⟨node.node, input⟩ := by
      rw [ClockedNode.delayInput, hbehavior]
      rfl
    rw [hinput] at hsource
    refine .delay hbehavior hsource hinitial hfirst fun tick htick => ?_
    obtain ⟨hsome, hnext⟩ := hlatched tick (by omega)
    obtain ⟨value, hvalue⟩ := Option.isSome_iff_exists.mp hsome
    show values (tick + 1) node.source = _
    rw [hnext htick, hvalue]
    exact (hknown tick (by omega) source value hvalue).symm
  | false =>
    have hzero : 0 < context.ticks rate := Nat.succ_pos _
    have hmeans : ∀ tick < context.ticks rate, ∃ found, values tick node.source = some found ∧
        (∃ port, streamOutput context.document node.output = .ok port ∧
          found.valueType = port.sampleType) ∧
        Computes context.document node.node (inputValue context streams node.node tick)
          node.behavior found.value := by
      intro tick htick
      obtain ⟨value, hvalue, hcomputed⟩ := h.computed node hnode hkind tick htick
      exact ⟨value, hvalue,
        computes_of_evaluate (evaluateClockedNode_mono (hknown tick htick) hcomputed)⟩
    obtain ⟨-, -, ⟨port, hport, -⟩, -⟩ := hmeans 0 hzero
    refine .combinational hkind hport fun tick htick => ?_
    obtain ⟨found, hfound, ⟨other, hother, htype⟩, hcomputes⟩ := hmeans tick htick
    obtain rfl := Except.ok.inj (hport.symm.trans hother)
    exact ⟨found, hfound, htype, hcomputes⟩

/-- What follows analysis and classification solves the equations of the plan. -/
theorem solution_of_simulatePlan (facts : ContextFacts document registry.semantic context)
    (hplan : PlanFacts document registry context plan) {external : List ExternalStreamSample}
    {injected : List InjectedInputSample} {entries : List GraphTraceEntry}
    (h : context.simulatePlan plan external injected = .ok entries) :
    ∃ streams, SolvesEquations context streams plan external injected ∧
      (∀ source, (streams source).isSome = true ↔ PlannedSource plan injected source) ∧
      RecordsStreams context plan streams entries := by
  simp only [SimulationContext.simulatePlan, SimulationContext.simulateClockedControl,
    Except.bind_eq_ok, Except.exists_unit, Except.pure_eq_ok] at h
  obtain ⟨callers, hcallers, transitioned, htransitioned, controlled,
    ⟨clocked, hclocked, hcontrolled⟩, -, timed, htimed, rfl⟩ := h
  have hclocked : clockedOf context plan = .ok clocked := hclocked
  have hadmitted := callersAdmitted (fun source hsource => (hplan.sourcePort source hsource).1)
    hcallers
  obtain ⟨order, horder, hsteps⟩ := Worklist.steps_of_solve htransitioned
  have hrecorded := hadmitted.recorded
  obtain ⟨hkept, ⟨new, hnew, hnewRecorded⟩, hequations⟩ := transitions_run facts
    (fun item hitem => target_not_source hplan (horder.mem_iff.mp hitem))
    ((horder.map Prod.fst).nodup_iff.mpr hplan.transitions_nodup)
    (fun item hitem => by
      rw [hadmitted.output, target_not_source hplan (horder.mem_iff.mp hitem)]
      rfl)
    (fun source samples hsamples => hrecorded.increase source samples rfl hsamples) hsteps
  have hdone : DomainsDone context plan external injected [] transitioned :=
    ⟨callers, transitioned, hcallers, htransitioned, rfl⟩
  have hgroupClock : ∀ group ∈ SimulationContext.clockGroups clocked,
      OnGroupClock context plan group.1 group.2 := by
    intro group hgroup
    constructor
    · intro node hnode
      obtain ⟨-, hclock⟩ := (mem_group hclocked hgroup).mp hnode
      obtain ⟨port, hport, hname, -⟩ := clockOf_eq_ok hclock
      have hstream : runtimeStreamPort context.document node.source = .ok port := hport
      exact (streamClock_of_ok hstream).trans hname
    · intro node hnode
      obtain ⟨hmem, -⟩ := (mem_group hclocked hgroup).mp hnode
      rw [← Option.not_isSome_iff_eq_none, PlanFacts.sourcePort_isSome]
      exact (hplan.output_of_clocked hmem).1
  obtain ⟨hkept', ⟨new', hnew', hnewRecorded'⟩, hgroups⟩ := groups_run facts.root_pos
    (fun clock rate hrate => facts.rate_pos hrate) hgroupClock (groups_nodup hplan hclocked)
    (fun group hgroup node hnode => by
      obtain ⟨hmem, -⟩ := (mem_group hclocked hgroup).mp hnode
      obtain ⟨hsource, htransition⟩ := hplan.output_of_clocked hmem
      rw [← Option.not_isSome_iff_eq_none, ClockedNode.source, stream_isSome_iff hplan hdone]
      rintro (hfound | ⟨item, hitem, hfound⟩ | ⟨_, hnone, -⟩)
      · exact hsource hfound
      · exact htransition item hitem (congrArg WireEndpoint.node hfound).symm
      · cases hnone) hcontrolled
  have hall : Recorded context plan (fun _ => none) controlled.streams controlled.entries := by
    rw [hnew', hnew, List.append_assoc]
    have hlater := hnewRecorded.append hnewRecorded' hkept hkept'
    refine hrecorded.append hlater ?_ (hkept.trans hkept')
    intro source samples hsamples
    cases hsamples
  have hdone' : DomainsDone context plan external injected (SimulationContext.clockGroups clocked)
      controlled := ⟨callers, transitioned, hcallers, htransitioned, hcontrolled⟩
  have hexists := stream_isSome_iff hplan hdone'
  refine ⟨controlled.streams, ⟨?_, ?_, ?_, ?_⟩, fun source => ?_,
    recordsStreams_of_sorted facts hall htimed⟩
  · intro endpoint hendpoint
    apply hkept'
    apply hkept
    rw [hadmitted.output, if_pos (PlanFacts.sourcePort_isSome.mpr hendpoint)]
  · intro endpoint hendpoint
    apply hkept'
    apply hkept
    rw [hadmitted.input, if_pos hendpoint]
  · intro item hitem
    exact (hequations item (horder.mem_iff.mpr hitem)).mono hkept'
  · intro node hnode
    obtain ⟨group, hgroup, hmem⟩ := exists_group hclocked hnode
    obtain ⟨before, after, rate, values, hrun, hlast⟩ := hgroups group hgroup
    obtain ⟨samples, hsamples, hstream⟩ := hrun.stream node hmem
    refine ⟨rate, samples, _, ?_, hlast _ _ hsamples, hstream,
      nodeEquation_of_group hrun hlast hmem⟩
    rw [(hgroupClock group hgroup).clock node hmem]
    exact hrun.rate_ok
  · rw [hexists]
    cases source with
    | injectedInput endpoint => rfl
    | output endpoint =>
      refine or_congr_right (or_congr_right ?_)
      constructor
      · rintro ⟨group, hgroup, node, hnode, rfl⟩
        exact ⟨node, ((mem_group hclocked hgroup).mp hnode).1, rfl⟩
      · rintro ⟨node, hnode, rfl⟩
        obtain ⟨group, hgroup, hmem⟩ := exists_group hclocked hnode
        exact ⟨group, hgroup, node, hmem, rfl⟩

end Simulation

/-- What a simulation returns records a solution of the document's equations. -/
theorem simulation_solves [Sha256] {document : GraphDocument} {registry : GraphSimulationRegistry}
    {horizon : GraphSimulationHorizon} {external : List ExternalStreamSample}
    {injected : List InjectedInputSample} {limits : GraphSimulationLimits}
    {simulation : GraphSimulation}
    (h : simulateGraphWithInputs document registry horizon external injected limits =
      .ok simulation) :
    ∃ context plan streams,
      simulationContext document registry horizon external injected limits = .ok context ∧
      document.nodes.foldlM (context.classifyNode registry.implementation) {} = .ok plan ∧
      SolvesEquations context streams plan external injected ∧
      (∀ source, (streams source).isSome = true ↔ PlannedSource plan injected source) ∧
      RecordsStreams context plan streams simulation.entries := by
  simp only [simulateGraphWithInputs, Except.bind_eq_ok, Except.pure_eq_ok] at h
  obtain ⟨context, hcontext, encoding, -, plan, hplan, entries, hentries, rfl⟩ := h
  obtain ⟨streams, hsolves, hexists, hrecords⟩ :=
    solution_of_simulatePlan (contextFacts hcontext) (planFacts hplan) hentries
  exact ⟨context, plan, streams, hcontext, hplan, hsolves, hexists, hrecords⟩

end Alumina.Graph
