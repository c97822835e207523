import Alumina.ForStd.Worklist
import Alumina.Graph.SimulationRegistry

/-!
# Host simulation

`simulateGraphWithInputs` runs a document to an inclusive horizon of one root clock. Caller
samples become streams first; rate transitions are evaluated from a worklist; then each clock
domain orders its combinational nodes once and evaluates them tick by tick, delays first. The
trace is sorted by exact root time at the end.

Ticks of caller samples and trace entries are `u64`; the tick of a running loop is a natural
number, which the tick limit keeps below that width.
-/

namespace Alumina.Graph

open Except (failIf)

/-! ## Policy and samples -/

/-- Explicit work and retention policy for host simulation. -/
structure GraphSimulationLimits where
  maximumExternalSamples : Nat
  maximumTraceEntries : Nat
  maximumTicksPerTransition : UInt64
  maximumRootTicks : UInt64
  maximumTraceBytes : Nat
  deriving DecidableEq, Repr

/-- Bounded browser/editor simulation policy. -/
def GraphSimulationLimits.interactive : GraphSimulationLimits where
  maximumExternalSamples := 65536
  maximumTraceEntries := 131072
  maximumTicksPerTransition := 1000000
  maximumRootTicks := 1000000
  maximumTraceBytes := 16 * 1024 * 1024

def GraphSimulationLimits.validate (limits : GraphSimulationLimits) :
    Except GraphSimulationError Unit :=
  failIf (limits.maximumExternalSamples = 0 ∨ limits.maximumTraceEntries = 0 ∨
    limits.maximumTicksPerTransition = 0 ∨ limits.maximumRootTicks = 0 ∨
    limits.maximumTraceBytes = 0) .zeroLimit

/-- Inclusive exact simulation boundary on one independent root clock. -/
structure GraphSimulationHorizon where
  rootClock : GraphClockId
  inclusiveRootTick : UInt64
  deriving DecidableEq, Repr

/-- Exact horizon time, in ticks of the root clock. -/
def GraphSimulationHorizon.time (horizon : GraphSimulationHorizon) : ℚ :=
  (horizon.inclusiveRootTick.toNat : ℚ)

structure ExternalStreamSample where
  source : WireEndpoint
  clockTick : UInt64
  sequence : UInt64
  value : TypedGraphValue

structure InjectedInputSample where
  input : WireEndpoint
  clockTick : UInt64
  sequence : UInt64
  value : TypedGraphValue

/-- Origin of one trace entry, in canonical order. -/
inductive GraphTraceEntryKind where
  | externalSource
  | injectedInput
  | nodeOutput
  deriving DecidableEq, Repr

def GraphTraceEntryKind.rank : GraphTraceEntryKind → Nat
  | .externalSource => 0
  | .injectedInput => 1
  | .nodeOutput => 2

structure GraphTraceEntry where
  kind : GraphTraceEntryKind
  endpoint : WireEndpoint
  clock : GraphClockId
  clockTick : UInt64
  sequence : UInt64
  value : TypedGraphValue

/-- Complete deterministic host simulation result. -/
structure GraphSimulation where
  graphDigest : Digest
  registryDigest : Digest
  horizon : GraphSimulationHorizon
  entries : List GraphTraceEntry

/-! ## Runtime streams -/

structure RuntimeSample where
  clockTick : UInt64
  sequence : UInt64
  value : TypedGraphValue

/-- Where a stream comes from: a node output, or the caller at an unwired input. -/
inductive RuntimeStreamSource where
  | output (endpoint : WireEndpoint)
  | injectedInput (endpoint : WireEndpoint)
  deriving DecidableEq, Repr

abbrev RuntimeStreams := RuntimeStreamSource → Option (List RuntimeSample)

/-- The streams evaluated so far, and the trace in evaluation order. -/
structure SimulationState where
  streams : RuntimeStreams
  entries : List GraphTraceEntry

structure ClockedNode where
  node : GraphNodeId
  behavior : GraphSimulationNodeKind
  deriving DecidableEq, Repr

/-- The output endpoint of a clocked node; every clocked behaviour has an output. -/
def ClockedNode.output (node : ClockedNode) : WireEndpoint :=
  ⟨node.node, (clockedOutput node.behavior).getD 0⟩

def ClockedNode.source (node : ClockedNode) : RuntimeStreamSource := .output node.output

/-- Append one entry, within the entry limit (`push_trace`). -/
def pushTrace (limits : GraphSimulationLimits) (entries : List GraphTraceEntry)
    (entry : GraphTraceEntry) : Except GraphSimulationError (List GraphTraceEntry) := do
  failIf (entries.length ≥ limits.maximumTraceEntries) (.limitExceeded "trace entry count")
  return entries ++ [entry]

section Document

variable (tables : DocumentTables)

/-- The source of an input: its wire, or else the caller. -/
def sourceForInput (injected : List WireEndpoint) (input : WireEndpoint) :
    Except GraphSimulationError RuntimeStreamSource :=
  match tables.wireInto input with
  | some wire => .ok (.output wire.source)
  | none =>
    if input ∈ injected then .ok (.injectedInput input)
    else .error (.unavailableStreamSource input)

def streamOutput (endpoint : WireEndpoint) : Except GraphSimulationError StreamPort := do
  let node ← (tables.node endpoint.node).okOr (.unknownExternalSource endpoint)
  let port ← (findPort node.outputs endpoint.port).okOr (.unknownExternalSource endpoint)
  (streamPort tables.schema.toSchemaTables port.valueType).okOr (.unknownExternalSource endpoint)

def streamInput (endpoint : WireEndpoint) : Except GraphSimulationError StreamPort := do
  let node ← (tables.node endpoint.node).okOr (.unknownInjectedInput endpoint)
  let port ← (findPort node.inputs endpoint.port).okOr (.unknownInjectedInput endpoint)
  (streamPort tables.schema.toSchemaTables port.valueType).okOr (.unknownInjectedInput endpoint)

def runtimeStreamPort : RuntimeStreamSource → Except GraphSimulationError StreamPort
  | .output endpoint => streamOutput tables endpoint
  | .injectedInput endpoint => streamInput tables endpoint

/-! ## Parameters -/

def parameterValue (node : GraphNodeId) (parameter : UInt32) :
    Except GraphSimulationError TypedGraphValue := do
  let found := (tables.node node).bind fun node => node.parameters.find? (·.id = parameter)
  (found.map NodeParameter.value).okOr
    (.invalidParameterValue node parameter "parameter identity")

def exactParameter (node : GraphNodeId) (parameter : UInt32) : Except GraphSimulationError ℚ := do
  match (← parameterValue tables node parameter).value with
  | .exactRational value => return value
  | _ => .error (.invalidParameterValue node parameter "exact-rational value")

/-- A dimensionless parameter, scaled to the unit one. -/
def dimensionlessParameter (node : GraphNodeId) (parameter : UInt32) :
    Except GraphSimulationError ℚ := do
  let value ← parameterValue tables node parameter
  let unitId ← match (tables.schema.valueType value.valueType).map TypeDefinition.kind with
    | some (.exactRational unit) => Except.ok unit
    | _ => .error (.invalidParameterValue node parameter "dimensionless exact type")
  let unit ← (tables.schema.unit unitId).okOr
    (.invalidParameterValue node parameter "registered dimensionless unit")
  failIf (unit.dimensions ≠ .dimensionless)
    (.invalidParameterValue node parameter "dimensionless unit")
  let exact ← exactParameter tables node parameter
  return exact * unit.scale

/-! ## Combinational nodes -/

/-- Values carried by the sources of one clock at one tick. -/
abbrev TickValues := RuntimeStreamSource → Option TypedGraphValue

section Evaluate

variable (injected : List WireEndpoint) (node : GraphNodeId) (tick : Nat) (values : TickValues)

def typedInput (port : GraphPortId) : Except GraphSimulationError TypedGraphValue := do
  let source ← sourceForInput tables injected ⟨node, port⟩
  (values source).okOr (.missingClockedSample ⟨node, port⟩ tick)

def rationalInput (port : GraphPortId) : Except GraphSimulationError ℚ := do
  match (← typedInput tables injected node tick values port).value with
  | .exactRational value => return value
  | _ => .error (.computedValueOutOfBounds node)

def booleanInput (port : GraphPortId) : Except GraphSimulationError Bool := do
  match (← typedInput tables injected node tick values port).value with
  | .boolean value => return value
  | _ => .error (.computedValueOutOfBounds node)

/-- The ordered pair of bounds of a range behaviour. -/
def rangeParameters (minimumParameter maximumParameter : UInt32) (aspect : String) :
    Except GraphSimulationError (ℚ × ℚ) := do
  let minimum ← exactParameter tables node minimumParameter
  let maximum ← exactParameter tables node maximumParameter
  failIf (minimum > maximum) (.invalidParameterValue node minimumParameter aspect)
  return (minimum, maximum)

/-- The literal a combinational node computes, before it is checked against the type of
the output. -/
def computeClockedNode (behavior : GraphSimulationNodeKind) :
    Except GraphSimulationError GraphValue := do
  let rational := rationalInput tables injected node tick values
  let boolean := booleanInput tables injected node tick values
  match behavior with
  | .exactAdd left right _ => return .exactRational ((← rational left) + (← rational right))
  | .exactSubtract left right _ => return .exactRational ((← rational left) - (← rational right))
  | .exactScale input factorParameter _ =>
    return .exactRational
      ((← rational input) * (← dimensionlessParameter tables node factorParameter))
  | .exactClamp input minimumParameter maximumParameter _ =>
    let value ← rational input
    let (minimum, maximum) ← rangeParameters tables node minimumParameter maximumParameter
      "ordered clamp range"
    return .exactRational
      (if value < minimum then minimum else if value > maximum then maximum else value)
  | .exactWithinInclusive input minimumParameter maximumParameter _ =>
    let value ← rational input
    let (minimum, maximum) ← rangeParameters tables node minimumParameter maximumParameter
      "ordered inclusive range"
    return .boolean (value ≥ minimum ∧ value ≤ maximum)
  | .booleanAnd left right _ =>
    let left ← boolean left
    let right ← boolean right
    return .boolean (left && right)
  | .typedConstant valueParameter _ => return (← parameterValue tables node valueParameter).value
  | .typedCase selector whenFalse whenTrue _ =>
    let selected := if ← boolean selector then whenTrue else whenFalse
    return (← typedInput tables injected node tick values selected).value
  | .exactPermitGate value permit safeParameter _ =>
    if ← boolean permit then return .exactRational (← rational value)
    else return .exactRational (← exactParameter tables node safeParameter)
  -- the source marks these unreachable: they are not combinational clocked nodes
  | .externalStreamSource _ | .latestRateTransition _ _ | .streamSink _ | .unitDelay _ _ _ =>
    .error (.computedValueOutOfBounds node)

end Evaluate

/-- `evaluate_clocked_node` -/
def evaluateClockedNode (injected : List WireEndpoint) (node : ClockedNode) (tick : Nat)
    (values : TickValues) : Except GraphSimulationError TypedGraphValue := do
  let port ← streamOutput tables node.output
  let computed ← computeClockedNode tables injected node.node tick values node.behavior
  (TypedGraphValue.tryNew tables.schema port.sampleType computed).mapError
    fun _ => .computedValueOutOfBounds node.node

end Document

/-! ## Exact time -/

section Clocks

variable (analysis : GraphAnalysis) (rootRate : GraphClockRate)

def clockRateInHorizon (clock : GraphClockId) : Except GraphSimulationError GraphClockRate := do
  let rate ← (analysis.clockRate clock).okOr (.invalidHorizonRoot clock)
  failIf (rate.root ≠ rootRate.clock) (.clockOutsideHorizonRoot clock rate.root rootRate.clock)
  return rate

/-- Exact time of a clock's tick, in ticks of the root clock. -/
def rootTime (clock : GraphClockId) (tick : Nat) : Except GraphSimulationError ℚ := do
  let rate ← clockRateInHorizon analysis rootRate clock
  return (tick : ℚ) * rootRate.ticksPerSecond / rate.ticksPerSecond

end Clocks

/-! ## Classification of the nodes -/

/-- The nodes of a document by the pass that evaluates them, in document order. -/
structure SimulationPlan where
  sources : List (WireEndpoint × StreamPort) := []
  transitions : List (GraphNodeId × GraphPortId × GraphPortId) := []
  sinks : List WireEndpoint := []
  clocked : List ClockedNode := []

/-- The stream port of an external source. -/
def SimulationPlan.sourcePort (plan : SimulationPlan) (source : WireEndpoint) :
    Option StreamPort :=
  (Table.lookup Prod.fst source plan.sources).map Prod.snd

/-- A loop of the simulator stays within one analysed document, horizon and policy. -/
structure SimulationContext where
  document : DocumentTables
  semantic : RegistryTables
  analysis : GraphAnalysis
  rootRate : GraphClockRate
  horizon : GraphSimulationHorizon
  limits : GraphSimulationLimits
  /-- Endpoints with a caller sample, as a sorted set (`injected_inputs`). -/
  injected : List WireEndpoint

namespace SimulationContext

variable (context : SimulationContext)

def rootTime (clock : GraphClockId) (tick : Nat) : Except GraphSimulationError ℚ :=
  Graph.rootTime context.analysis context.rootRate clock tick

def sourceForInput (input : WireEndpoint) : Except GraphSimulationError RuntimeStreamSource :=
  Graph.sourceForInput context.document context.injected input

def classifyNode (implementation : NodeKind → Option GraphSimulationImplementation)
    (plan : SimulationPlan) (node : NodeDefinition) :
    Except GraphSimulationError SimulationPlan := do
  failIf (node.domain ≠ .hostExact) (.nonHostDomain node.id)
  let found ← (implementation node.kind).okOr (.unimplementedNode node.id node.kind)
  match found.behavior with
  | .externalStreamSource output =>
    let endpoint : WireEndpoint := ⟨node.id, output⟩
    let port ← streamOutput context.document endpoint
    let _ ← clockRateInHorizon context.analysis context.rootRate port.clock
    return { plan with sources := plan.sources ++ [(endpoint, port)] }
  | .latestRateTransition input output =>
    return { plan with transitions := plan.transitions ++ [(node.id, input, output)] }
  | .streamSink input => return { plan with sinks := plan.sinks ++ [⟨node.id, input⟩] }
  | behavior => return { plan with clocked := plan.clocked ++ [⟨node.id, behavior⟩] }

/-! ## Caller samples -/

/-- The state of a pass over caller samples; `prior` holds the last tick and sequence seen
at each endpoint. -/
structure SampleProgress extends SimulationState where
  prior : WireEndpoint → Option (UInt64 × UInt64) := fun _ => none

/-- Checks and effects shared by external and injected samples. -/
def admitSample (kind : GraphTraceEntryKind) (source : RuntimeStreamSource)
    (endpoint : WireEndpoint) (port : StreamPort) (sample : RuntimeSample)
    (progress : SampleProgress) : Except GraphSimulationError SampleProgress := do
  failIf (sample.value.valueType ≠ port.sampleType)
    (.externalSampleType endpoint port.sampleType sample.value.valueType)
  failIf ((progress.prior endpoint).any fun prior =>
    sample.clockTick ≤ prior.1 || sample.sequence ≤ prior.2) (.externalSampleOrder endpoint)
  let time ← context.rootTime port.clock sample.clockTick.toNat
  failIf (time > context.horizon.time) (.externalSampleAfterHorizon endpoint)
  let entries ← pushTrace context.limits progress.entries
    ⟨kind, endpoint, port.clock, sample.clockTick, sample.sequence, sample.value⟩
  return {
    streams := Function.update progress.streams source
      (some ((progress.streams source).getD [] ++ [sample]))
    entries := entries
    prior := Function.update progress.prior endpoint (some (sample.clockTick, sample.sequence)) }

def admitExternal (plan : SimulationPlan) (progress : SampleProgress)
    (sample : ExternalStreamSample) : Except GraphSimulationError SampleProgress := do
  let port ← (plan.sourcePort sample.source).okOr (.unknownExternalSource sample.source)
  context.admitSample .externalSource (.output sample.source) sample.source port
    ⟨sample.clockTick, sample.sequence, sample.value⟩ progress

def admitInjected (progress : SampleProgress) (sample : InjectedInputSample) :
    Except GraphSimulationError SampleProgress := do
  failIf (context.document.wireInto sample.input).isSome (.unknownInjectedInput sample.input)
  let port ← streamInput context.document sample.input
  let _ ← clockRateInHorizon context.analysis context.rootRate port.clock
  context.admitSample .injectedInput (.injectedInput sample.input) sample.input port
    ⟨sample.clockTick, sample.sequence, sample.value⟩ progress

/-! ## Rate transitions -/

/-- Take the source samples due by `targetTime`, and hold the last value taken. -/
def takeDue (sourceClock : GraphClockId) (targetTime : ℚ) :
    List RuntimeSample → Option TypedGraphValue →
      Except GraphSimulationError (List RuntimeSample × Option TypedGraphValue × Nat)
  | [], held => .ok ([], held, 0)
  | sample :: samples, held => do
    let sourceTime ← context.rootTime sourceClock sample.clockTick.toNat
    if sourceTime > targetTime then return (sample :: samples, held, 0)
    else
      let (rest, held, taken) ← takeDue sourceClock targetTime samples (some sample.value)
      return (rest, held, taken + 1)

section Transition

variable (input : WireEndpoint) (transition : GraphRateTransition) (capacity : UInt32)

/-- The target ticks up to the horizon. Returns what was generated and the source samples
that are left; the first argument counts the ticks the policy still allows. -/
def transitionTicks : Nat → Nat → List RuntimeSample → Option TypedGraphValue →
    List RuntimeSample → Except GraphSimulationError (List RuntimeSample × List RuntimeSample)
  | allowed, tick, source, held, generated => do
    let targetTime ← context.rootTime transition.targetClock tick
    if targetTime > context.horizon.time then return (generated, source)
    else match allowed with
      | 0 => .error (.limitExceeded "ticks per transition")
      | allowed + 1 =>
        let (rest, held, taken) ← context.takeDue transition.sourceClock targetTime source held
        failIf (taken > capacity.toNat) (.queueCapacityExceeded input capacity taken)
        let value ← held.okOr (.missingInitialSample input)
        transitionTicks allowed (tick + 1) rest held
          (generated ++ [⟨.ofNat tick, .ofNat tick, value⟩])

/-- `simulate_transition` -/
def simulateTransition (source : List RuntimeSample) :
    Except GraphSimulationError (List RuntimeSample) := do
  let (generated, rest) ← context.transitionTicks input transition capacity
    context.limits.maximumTicksPerTransition.toNat 0 source none []
  failIf (rest.length > capacity.toNat) (.queueCapacityExceeded input capacity rest.length)
  return generated

end Transition

/-- Evaluate one rate transition, or defer it until its source stream exists. -/
def attemptTransition (state : SimulationState)
    (item : GraphNodeId × GraphPortId × GraphPortId) :
    Except GraphSimulationError (Option SimulationState) := do
  let (node, input, output) := item
  let inputEndpoint : WireEndpoint := ⟨node, input⟩
  let source ← context.sourceForInput inputEndpoint
  match state.streams source with
  | none => return none
  | some samples =>
    let report ← (context.analysis.rateTransitions.find? fun transition =>
      transition.node = node ∧ transition.input = input ∧ transition.output = output).okOr
      (.unavailableStreamSource inputEndpoint)
    let definition ← (context.document.node node).okOr (.unavailableStreamSource inputEndpoint)
    let schema ← (context.semantic.schema definition.kind).okOr
      (.unavailableStreamSource inputEndpoint)
    let capacity ← (schema.streamCapacity input).okOr (.unavailableStreamSource inputEndpoint)
    let generated ← context.simulateTransition inputEndpoint report capacity samples
    let target : WireEndpoint := ⟨node, output⟩
    let entries ← generated.foldlM (fun entries sample =>
      pushTrace context.limits entries ⟨.nodeOutput, target, report.targetClock, sample.clockTick,
        sample.sequence, sample.value⟩) state.entries
    return some ⟨Function.update state.streams (.output target) (some generated), entries⟩

def transitionStuck (item : GraphNodeId × GraphPortId × GraphPortId) : GraphSimulationError :=
  .unavailableStreamSource ⟨item.1, item.2.1⟩

/-! ## Clock domains -/

/-- Whether every input of a clocked node has an available source. -/
def isReady (available : RuntimeStreamSource → Bool) (node : ClockedNode) : Bool :=
  (clockedInputs node.behavior).all fun port =>
    match context.sourceForInput ⟨node.node, port⟩ with
    | .ok source => available source
    | .error _ => false

/-- Place one combinational node after its sources, or defer it. -/
def attemptOrder (state : (RuntimeStreamSource → Bool) × List ClockedNode) (node : ClockedNode) :
    Except GraphSimulationError (Option ((RuntimeStreamSource → Bool) × List ClockedNode)) :=
  if context.isReady state.1 node then
    .ok (some (Function.update state.1 node.source true, state.2 ++ [node]))
  else .ok none

def orderStuck (node : ClockedNode) : GraphSimulationError :=
  .unavailableStreamSource ⟨node.node, (clockedInputs node.behavior).headD 0⟩

/-- Order the combinational nodes of one clock: streams that exist and the outputs of
delays are available from the start. -/
def combinationalOrder (streams : RuntimeStreams) (nodes : List ClockedNode) :
    Except GraphSimulationError (List ClockedNode) := do
  let delays := nodes.filter fun node => node.behavior.isDelay
  let available : RuntimeStreamSource → Bool := fun source =>
    (streams source).isSome || source ∈ delays.map ClockedNode.source
  let (_, ordered) ← Worklist.solve context.attemptOrder orderStuck
    (nodes.filter fun node => !node.behavior.isDelay) (available, [])
  return ordered

/-- The inputs of one node that other clock domains or the caller feed. -/
def externalInputsOf (clock : GraphClockId) (streams : RuntimeStreams)
    (groupOutputs : List WireEndpoint) (node : ClockedNode)
    (inputs : List (WireEndpoint × RuntimeStreamSource)) (port : GraphPortId) :
    Except GraphSimulationError (List (WireEndpoint × RuntimeStreamSource)) := do
  let target : WireEndpoint := ⟨node.node, port⟩
  let source ← context.sourceForInput target
  if source ∈ groupOutputs.map RuntimeStreamSource.output then return inputs
  else
    let sourcePort ← runtimeStreamPort context.document source
    failIf (sourcePort.clock ≠ clock ∨ (streams source).isNone) (.unavailableStreamSource target)
    return inputs ++ [(target, source)]

/-- The inputs of a clock domain that no node of the domain feeds. The source of an input is
determined by the input, so ordering by the input orders the pairs. -/
def externalInputs (clock : GraphClockId) (streams : RuntimeStreams) (nodes : List ClockedNode) :
    Except GraphSimulationError (List (WireEndpoint × RuntimeStreamSource)) := do
  let inputs ← nodes.foldlM (fun inputs node =>
    (clockedInputs node.behavior).foldlM
      (context.externalInputsOf clock streams (nodes.map ClockedNode.output) node) inputs) []
  return (Table.sortByKey Prod.fst inputs).dedup

/-- Delay states, generated samples and the trace, between two ticks of one clock. -/
structure ClockedState where
  delays : GraphNodeId → Option TypedGraphValue
  generated : WireEndpoint → List RuntimeSample
  entries : List GraphTraceEntry

/-- The sample a stream carries at a tick. -/
def sampleAtTick (samples : List RuntimeSample) (tick : Nat) : Option RuntimeSample :=
  samples.find? fun sample => sample.clockTick.toNat = tick

section Group

variable (clock : GraphClockId)

/-- `emit_clocked_value`, and publish the value to the rest of the tick. -/
def emitClockedValue (tick : Nat) (node : ClockedNode) (value : TypedGraphValue)
    (state : ClockedState × TickValues) : Except GraphSimulationError (ClockedState × TickValues) := do
  let sample : RuntimeSample := ⟨.ofNat tick, .ofNat tick, value⟩
  let entries ← pushTrace context.limits state.1.entries
    ⟨.nodeOutput, node.output, clock, sample.clockTick, sample.sequence, value⟩
  return ({ state.1 with
      generated := Function.update state.1.generated node.output
        (state.1.generated node.output ++ [sample])
      entries := entries },
    Function.update state.2 node.source (some value))

def readExternalInput (streams : RuntimeStreams) (tick : Nat) (values : TickValues)
    (input : WireEndpoint × RuntimeStreamSource) : Except GraphSimulationError TickValues := do
  let sample ← ((streams input.2).bind fun samples => sampleAtTick samples tick).okOr
    (.missingClockedSample input.1 tick)
  return Function.update values input.2 (some sample.value)

/-- A delay shows its state before anything else is evaluated. -/
def emitDelay (tick : Nat) (state : ClockedState × TickValues) (node : ClockedNode) :
    Except GraphSimulationError (ClockedState × TickValues) := do
  let value ← (state.1.delays node.node).okOr (.missingClockedSample node.output tick)
  context.emitClockedValue clock tick node value state

def emitCombinational (tick : Nat) (state : ClockedState × TickValues) (node : ClockedNode) :
    Except GraphSimulationError (ClockedState × TickValues) := do
  let value ← evaluateClockedNode context.document context.injected node tick state.2
  context.emitClockedValue clock tick node value state

/-- The input of a delay becomes its next state. -/
def latchDelay (tick : Nat) (values : TickValues) (delays : GraphNodeId → Option TypedGraphValue)
    (node : ClockedNode) : Except GraphSimulationError (GraphNodeId → Option TypedGraphValue) := do
  let target : WireEndpoint := ⟨node.node, (clockedInputs node.behavior).headD 0⟩
  let source ← context.sourceForInput target
  let next ← (values source).okOr (.missingClockedSample target tick)
  return Function.update delays node.node (some next)

/-- One tick of a clock domain. -/
def clockedTick (streams : RuntimeStreams) (inputs : List (WireEndpoint × RuntimeStreamSource))
    (delays ordered : List ClockedNode) (tick : Nat) (state : ClockedState) :
    Except GraphSimulationError ClockedState := do
  let values ← inputs.foldlM (readExternalInput streams tick) fun _ => none
  let shown ← delays.foldlM (context.emitDelay clock tick) (state, values)
  let (state, values) ← ordered.foldlM (context.emitCombinational clock tick) shown
  let next ← delays.foldlM (context.latchDelay tick values) state.delays
  return { state with delays := next }

/-- The ticks of a clock domain up to the horizon; the first argument counts the ticks the
policy still allows. -/
def clockedTicks (streams : RuntimeStreams) (inputs : List (WireEndpoint × RuntimeStreamSource))
    (delays ordered : List ClockedNode) : Nat → Nat → ClockedState →
    Except GraphSimulationError ClockedState
  | allowed, tick, state => do
    let time ← context.rootTime clock tick
    if time > context.horizon.time then return state
    else match allowed with
      | 0 => .error (.limitExceeded "ticks per clocked domain")
      | allowed + 1 =>
        let state ← context.clockedTick clock streams inputs delays ordered tick state
        clockedTicks streams inputs delays ordered allowed (tick + 1) state

/-- The initial state of a delay is a parameter of its node. -/
def initialDelay (delays : GraphNodeId → Option TypedGraphValue) (node : ClockedNode) :
    Except GraphSimulationError (GraphNodeId → Option TypedGraphValue) :=
  match node.behavior with
  | .unitDelay _ initialParameter _ => do
    let value ← parameterValue context.document node.node initialParameter
    return Function.update delays node.node (some value)
  | _ => .ok delays

/-- Add the generated streams of a clock domain. -/
def publish (streams : RuntimeStreams) (outputs : List WireEndpoint)
    (generated : WireEndpoint → List RuntimeSample) : RuntimeStreams
  | .output endpoint =>
    if endpoint ∈ outputs then some (generated endpoint) else streams (.output endpoint)
  | .injectedInput endpoint => streams (.injectedInput endpoint)

/-- `simulate_clocked_group` -/
def simulateClockedGroup (state : SimulationState) (nodes : List ClockedNode) :
    Except GraphSimulationError SimulationState := do
  let delays := nodes.filter fun node => node.behavior.isDelay
  let ordered ← context.combinationalOrder state.streams nodes
  let inputs ← context.externalInputs clock state.streams nodes
  let initial ← delays.foldlM context.initialDelay fun _ => none
  let final ← context.clockedTicks clock state.streams inputs delays ordered
    context.limits.maximumTicksPerTransition.toNat 0 ⟨initial, fun _ => [], state.entries⟩
  return ⟨publish state.streams (nodes.map ClockedNode.output) final.generated, final.entries⟩

end Group

/-- The clock a clocked node belongs to. -/
def clockOf (node : ClockedNode) : Except GraphSimulationError GraphClockId := do
  let output ← (clockedOutput node.behavior).okOr (.unavailableStreamSource ⟨node.node, 0⟩)
  let port ← streamOutput context.document ⟨node.node, output⟩
  let _ ← clockRateInHorizon context.analysis context.rootRate port.clock
  return port.clock

/-- Nodes by clock, in clock order; the nodes of one clock keep their order. -/
def clockGroups (clocked : List (GraphClockId × ClockedNode)) :
    List (GraphClockId × List ClockedNode) :=
  (Table.sortByKey id (clocked.map Prod.fst).dedup).map fun clock =>
    (clock, (clocked.filter (·.1 = clock)).map Prod.snd)

/-- `simulate_clocked_control` -/
def simulateClockedControl (state : SimulationState) (nodes : List ClockedNode) :
    Except GraphSimulationError SimulationState := do
  let clocked ← nodes.mapM fun node => do return (← context.clockOf node, node)
  (clockGroups clocked).foldlM
    (fun state group => context.simulateClockedGroup group.1 state group.2) state

/-! ## The whole simulation -/

def checkSink (state : SimulationState) (sink : WireEndpoint) :
    Except GraphSimulationError Unit := do
  let source ← context.sourceForInput sink
  failIf (state.streams source).isNone (.unavailableStreamSource sink)

/-- Streams before any sample: one for each external source. -/
def initialStreams (plan : SimulationPlan) : RuntimeStreams
  | .output endpoint => if (plan.sourcePort endpoint).isSome then some [] else none
  | .injectedInput _ => none

def sortExternal (samples : List ExternalStreamSample) : List ExternalStreamSample :=
  Table.sortByKey (fun sample =>
    toLex (sample.source, toLex (sample.clockTick.toNat, sample.sequence.toNat))) samples

def sortInjected (samples : List InjectedInputSample) : List InjectedInputSample :=
  Table.sortByKey (fun sample =>
    toLex (sample.input, toLex (sample.clockTick.toNat, sample.sequence.toNat))) samples

/-- Sort a trace by exact root time, kind, endpoint and sequence. -/
def sortTrace (timed : List (ℚ × GraphTraceEntry)) : List (ℚ × GraphTraceEntry) :=
  Table.sortByKey (fun entry =>
    toLex (entry.1, toLex (entry.2.kind.rank, toLex (entry.2.endpoint, entry.2.sequence.toNat))))
    timed

/-- Pair an entry with its exact root time. -/
def timeEntry (entry : GraphTraceEntry) : Except GraphSimulationError (ℚ × GraphTraceEntry) := do
  let time ← context.rootTime entry.clock entry.clockTick.toNat
  return (time, entry)

/-- The streams and the trace of the caller samples alone. -/
def admitCallers (plan : SimulationPlan) (external : List ExternalStreamSample)
    (injected : List InjectedInputSample) : Except GraphSimulationError SimulationState := do
  let sources ← (sortExternal external).foldlM (context.admitExternal plan)
    { streams := initialStreams plan, entries := [] }
  let callers ← (sortInjected injected).foldlM context.admitInjected
    { sources with prior := fun _ => none }
  return callers.toSimulationState

/-- Everything after analysis and classification: caller samples, transitions, clock
domains, sinks, and the sorted trace. -/
def simulatePlan (plan : SimulationPlan) (external : List ExternalStreamSample)
    (injected : List InjectedInputSample) : Except GraphSimulationError (List GraphTraceEntry) := do
  let callers ← context.admitCallers plan external injected
  let transitioned ← Worklist.solve context.attemptTransition transitionStuck plan.transitions
    callers
  let controlled ← context.simulateClockedControl transitioned plan.clocked
  Except.forEach (context.checkSink controlled) plan.sinks
  let timed ← controlled.entries.mapM context.timeEntry
  return (sortTrace timed).map Prod.snd

end SimulationContext

section Simulate

variable [Sha256] (document : GraphDocument) (registry : GraphSimulationRegistry)
  (horizon : GraphSimulationHorizon) (external : List ExternalStreamSample)
  (injected : List InjectedInputSample) (limits : GraphSimulationLimits)

/-- The checks before any node runs: policy, analysis and the horizon's root clock. -/
def simulationContext : Except GraphSimulationError SimulationContext := do
  limits.validate
  failIf (external.length + injected.length > limits.maximumExternalSamples)
    (.limitExceeded "external sample count")
  failIf (horizon.inclusiveRootTick > limits.maximumRootTicks)
    (.limitExceeded "root tick horizon")
  let inputs := Table.distinct (injected.map InjectedInputSample.input)
  let analysis ← (analyzeGraphWithSuppliedInputs document registry.semantic inputs).mapError
    .analysis
  let rootRate ← ((analysis.clockRate horizon.rootClock).filter
    fun rate => rate.root = horizon.rootClock).okOr (.invalidHorizonRoot horizon.rootClock)
  return ⟨document.toDocumentTables, registry.semantic.toRegistryTables, analysis, rootRate,
    horizon, limits, inputs⟩

/-- Evaluate the fixed host subset with explicit samples at unowned stream inputs
(`simulate_graph_with_inputs`). -/
def simulateGraphWithInputs : Except GraphSimulationError GraphSimulation := do
  let context ← simulationContext document registry horizon external injected limits
  let encoding ← (encodeGraphDocument document).mapError .graph
  let plan ← document.nodes.foldlM (context.classifyNode registry.implementation) {}
  let entries ← context.simulatePlan plan external injected
  return ⟨encoding.digest, registry.digest, horizon, entries⟩

end Simulate

/-- `simulate_graph` -/
def simulateGraph [Sha256] (document : GraphDocument) (registry : GraphSimulationRegistry)
    (horizon : GraphSimulationHorizon) (external : List ExternalStreamSample)
    (limits : GraphSimulationLimits) : Except GraphSimulationError GraphSimulation :=
  simulateGraphWithInputs document registry horizon external [] limits

end Alumina.Graph
