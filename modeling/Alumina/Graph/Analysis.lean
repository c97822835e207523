import Alumina.ForStd.Dfs
import Alumina.Graph.NodeRegistry
import Alumina.Graph.Storage

/-!
# Whole-graph analysis

`analyzeGraph` resolves every opaque node through its audited schema and checks the shape,
placement, state, channel and clock-rate facts of the instance. It then rejects a cycle of
wires and current-tick feedthroughs. The report it returns is what the simulator runs from.
-/

namespace Alumina.Graph

open Except (failIf)

/-- Bytes of a queued item's envelope (`GRAPH_CHANNEL_ENVELOPE_BYTES`). -/
def graphChannelEnvelopeBytes : Nat := 16

/-! ## Reports -/

/-- One link in an exact combinational-cycle witness. -/
inductive DependencyLink where
  | wire (id : GraphWireId)
  | feedthrough (node : GraphNodeId) (input output : GraphPortId)
  deriving DecidableEq, Repr

/-- The derived order of links, as a list of integers compared lexicographically. -/
def DependencyLink.key : DependencyLink → List Nat
  | .wire id => [0, id.get.toNat]
  | .feedthrough node input output => [1, node.get.toNat, input.get.toNat, output.get.toNat]

structure CombinationalCycle where
  links : List DependencyLink
  deriving DecidableEq, Repr

/-- One admitted explicit state allocation declaration. -/
structure NodeStateAllocation where
  node : GraphNodeId
  domain : ExecutionDomain
  clock : GraphClockId
  valueType : GraphTypeId
  declaredStorageBytes : UInt32
  requiredCanonicalBytes : Nat
  deriving DecidableEq

/-- One connected input's proven canonical slot/queue allocation. -/
structure GraphChannelAllocation where
  source : WireEndpoint
  target : WireEndpoint
  kind : NodeInputChannelKind
  maximumItemBytes : Nat
  maximumTotalBytes : Nat
  deriving DecidableEq, Repr

/-- One registered clock's exact frequency and shared tick-zero root. -/
structure GraphClockRate where
  clock : GraphClockId
  root : GraphClockId
  ticksPerSecond : ℚ
  deriving DecidableEq

/-- One admitted exact repeating Stream-rate transition. -/
structure GraphRateTransition where
  node : GraphNodeId
  input : GraphPortId
  output : GraphPortId
  kind : RateTransitionKind
  sourceClock : GraphClockId
  targetClock : GraphClockId
  rootClock : GraphClockId
  sourceTicksPerPattern : Nat
  targetTicksPerPattern : Nat
  requiredInputCapacity : Nat
  retainedSampleBytes : Nat
  deriving DecidableEq, Repr

/-- Successful semantic shape/domain/state/channel/rate/cycle analysis report. -/
structure GraphAnalysis where
  admittedNodes : Nat
  dependencyLinks : Nat
  totalDeclaredStateBytes : Nat
  totalRequiredStateBytes : Nat
  stateAllocations : List NodeStateAllocation
  typeStorageBounds : List GraphTypeStorageBound
  totalChannelBytes : Nat
  channelAllocations : List GraphChannelAllocation
  clockRates : List GraphClockRate
  rateTransitions : List GraphRateTransition
  totalRateTransitionStateBytes : Nat
  deriving DecidableEq

/-- Failure at audited node admission or current-tick dependency analysis. -/
inductive GraphAnalysisError where
  | semanticContextMismatch
  | unresolvedNode (node : GraphNodeId) (kind : NodeKind)
  | nodeShape (node : GraphNodeId) (aspect : String)
  | domainNotAllowed (node : GraphNodeId) (domain : ExecutionDomain)
  | storage (error : GraphStorageError)
  | stateStorageTooSmall (node : GraphNodeId) (declared : UInt32) (required : Nat)
  | requiredInputUnconnected (input : WireEndpoint)
  | crossDomainSynchronous (wire : GraphWireId) (source target : ExecutionDomain)
  | channelStorageMismatch (input : WireEndpoint)
  | rateTransitionRootMismatch (node : GraphNodeId) (input output : GraphPortId)
      (sourceRoot targetRoot : GraphClockId)
  | rateTransitionPatternTooLarge (node : GraphNodeId) (input output : GraphPortId)
  | rateTransitionQueueTooSmall (node : GraphNodeId) (input : GraphPortId) (declared : UInt32)
      (required : Nat)
  | clockResolution (clock : GraphClockId)
  | limitExceeded (name : String)
  | invalidCycleWitness
  | combinationalCycle (cycle : CombinationalCycle)
  deriving DecidableEq

/-! ## Clock rates -/

section Clocks

variable (tables : DocumentTables)

/-- Follow the derivations of `clock` down to its root. `remaining` bounds the steps. -/
def resolveClockRate (clock : GraphClockId) :
    Nat → GraphClockId → ℚ → Except GraphAnalysisError (GraphClockId × ℚ)
  | 0, _, _ => .error (.clockResolution clock)
  | remaining + 1, current, multiplier => do
    let definition ← (tables.clock current).okOr (.clockResolution current)
    match definition.kind with
    | .hostMonotonic ticksPerSecond | .deviceCycle _ ticksPerSecond =>
      return (current, (ticksPerSecond.toNat : ℚ) * multiplier)
    | .derived source numerator denominator =>
      resolveClockRate clock remaining source
        (multiplier * (numerator.toNat : ℚ) / (denominator.toNat : ℚ))

/-- The rate of every clock, in table order. -/
def resolveClockRates : Except GraphAnalysisError (List GraphClockRate) :=
  tables.clocks.mapM fun clock => do
    let (root, ticksPerSecond) ← resolveClockRate tables clock.id (tables.clocks.length + 1)
      clock.id 1
    return ⟨clock.id, root, ticksPerSecond⟩

end Clocks

def clockRate (rates : List GraphClockRate) (clock : GraphClockId) :
    Except GraphAnalysisError GraphClockRate :=
  (Table.lookup GraphClockRate.clock clock rates).okOr (.clockResolution clock)

def GraphAnalysis.clockRate (analysis : GraphAnalysis) (clock : GraphClockId) :
    Option GraphClockRate :=
  Table.lookup GraphClockRate.clock clock analysis.clockRates

/-! ## Node instances -/

/-- Ports of an instance equal the ports of its schema (`validate_instance_ports`). -/
def validateInstancePorts (node : GraphNodeId) (aspect : String)
    (actual expected : List PortDefinition) : Except GraphAnalysisError Unit :=
  failIf (actual ≠ expected) (.nodeShape node aspect)

def validateInstance (node : NodeDefinition) (schema : NodeSchema) :
    Except GraphAnalysisError Unit := do
  failIf (¬ schema.allowedDomains.contains node.domain) (.domainNotAllowed node.id node.domain)
  validateInstancePorts node.id "input contract" node.inputs schema.inputs
  validateInstancePorts node.id "output contract" node.outputs schema.outputs
  failIf (node.parameters.map (fun p => (p.id, p.name, p.value.valueType)) ≠
    schema.parameters.map fun p => (p.id, p.name, p.valueType))
    (.nodeShape node.id "parameter contract")

/-- Item and total byte ceilings of one connected input. -/
def channelStorage (bounds : List GraphTypeStorageBound) (valueType : GraphTypeId)
    (channel : NodeInputChannelKind) (target : WireEndpoint) :
    Except GraphAnalysisError (Nat × Nat) := do
  let bound ← (storageBound bounds valueType).okOr (.storage (.unknownType valueType))
  let (payload, capacity, queued) ← match bound.kind, channel with
    | .literal bytes, .synchronous => Except.ok (bytes, 1, false)
    | .eventPayload _ bytes, .eventQueue capacity _ => .ok (bytes, capacity.toNat, true)
    | .streamSample _ bytes _, .streamQueue capacity _ => .ok (bytes, capacity.toNat, true)
    | _, _ => .error (.channelStorageMismatch target)
  let item := if queued then payload + graphChannelEnvelopeBytes else payload
  failIf (item ≥ 2 ^ 64) (.limitExceeded "channel item bytes")
  failIf (item * capacity ≥ 2 ^ 64) (.limitExceeded "channel byte count")
  return (item, item * capacity)

/-- The stream queue capacity an audited schema declares for an input. -/
def NodeSchema.streamCapacity (schema : NodeSchema) (input : GraphPortId) : Option UInt32 := do
  let channel ← schema.channel? input
  match channel.kind with
  | .streamQueue capacity _ => some capacity
  | .synchronous | .eventQueue _ _ => none

/-- The bytes of one stream sample of a type, if it is a stream. -/
def streamSampleBytes (bounds : List GraphTypeStorageBound) (valueType : GraphTypeId) :
    Option Nat := do
  let bound ← storageBound bounds valueType
  match bound.kind with
  | .streamSample _ bytes _ => some bytes
  | .literal _ | .eventPayload _ _ => none

/-- `analyze_rate_transition`: reduce the ratio of the two clock rates, and require a queue
for the source ticks of one target interval. -/
def analyzeRateTransition (tables : DocumentTables) (node : NodeDefinition) (schema : NodeSchema)
    (transition : NodeRateTransitionContract) (rates : List GraphClockRate)
    (bounds : List GraphTypeStorageBound) (maximumPatternTicks : UInt64) :
    Except GraphAnalysisError GraphRateTransition := do
  let input ← (schema.input? transition.input).okOr (.nodeShape node.id "rate transition input")
  let output ← (schema.output? transition.output).okOr
    (.nodeShape node.id "rate transition output")
  let source ← (runtimePort tables.schema.toSchemaTables input).okOr
    (.nodeShape node.id "rate transition input type")
  let target ← (runtimePort tables.schema.toSchemaTables output).okOr
    (.nodeShape node.id "rate transition output type")
  let sourceRate ← clockRate rates source.clock
  let targetRate ← clockRate rates target.clock
  failIf (sourceRate.root ≠ targetRate.root)
    (.rateTransitionRootMismatch node.id transition.input transition.output sourceRate.root
      targetRate.root)
  let ratio := sourceRate.ticksPerSecond / targetRate.ticksPerSecond
  -- the two `u64` conversions fail with the same error as the policy bound below them
  failIf (ratio.num < 0 ∨ ratio.num.toNat > maximumPatternTicks.toNat ∨
    ratio.den > maximumPatternTicks.toNat)
    (.rateTransitionPatternTooLarge node.id transition.input transition.output)
  let sourceTicks := ratio.num.toNat
  let targetTicks := ratio.den
  let required := sourceTicks / targetTicks + if sourceTicks % targetTicks ≠ 0 then 1 else 0
  let declared ← (schema.streamCapacity transition.input).okOr
    (.channelStorageMismatch ⟨node.id, transition.input⟩)
  failIf (declared.toNat < required)
    (.rateTransitionQueueTooSmall node.id transition.input declared required)
  let retained ← (streamSampleBytes bounds input.valueType).okOr
    (.channelStorageMismatch ⟨node.id, transition.input⟩)
  return {
    node := node.id
    input := transition.input
    output := transition.output
    kind := transition.kind
    sourceClock := source.clock
    targetClock := target.clock
    rootClock := sourceRate.root
    sourceTicksPerPattern := sourceTicks
    targetTicksPerPattern := targetTicks
    requiredInputCapacity := required
    retainedSampleBytes := retained }

/-! ## The pass over all nodes -/

/-- What to do with a required input that no wire feeds. -/
inductive RequiredInputPolicy where
  | reject
  | retain
  deriving DecidableEq, Repr

/-- What the pass over the nodes has gathered so far, in node order. -/
structure AnalysisProgress where
  requiredUnconnectedInputs : List WireEndpoint := []
  schemas : List NodeSchema := []
  stateAllocations : List NodeStateAllocation := []
  totalDeclaredStateBytes : Nat := 0
  totalRequiredStateBytes : Nat := 0
  channelAllocations : List GraphChannelAllocation := []
  totalChannelBytes : Nat := 0
  rateTransitions : List GraphRateTransition := []
  totalRateTransitionStateBytes : Nat := 0

/-- The wire into an input. -/
def DocumentTables.wireInto (tables : DocumentTables) (target : WireEndpoint) :
    Option WireDefinition :=
  Table.lookup WireDefinition.target target tables.wires

section Nodes

variable (tables : DocumentTables) (limits : GraphAnalysisLimits) (policy : RequiredInputPolicy)
  (rates : List GraphClockRate) (bounds : List GraphTypeStorageBound)

/-- One input of an instance: its connection, ownership and channel bytes. -/
def analyzeInput (node : NodeDefinition) (progress : AnalysisProgress)
    (pair : PortDefinition × NodeInputChannelContract) :
    Except GraphAnalysisError AnalysisProgress := do
  let (input, channel) := pair
  let target : WireEndpoint := ⟨node.id, input.id⟩
  match tables.wireInto target with
  | none =>
    if channel.requirement = .required then
      match policy with
      | .reject => .error (.requiredInputUnconnected target)
      | .retain => return { progress with
          requiredUnconnectedInputs := progress.requiredUnconnectedInputs ++ [target] }
    else return progress
  | some wire =>
    let sourceNode ← (tables.node wire.source.node).okOr (.channelStorageMismatch target)
    failIf (channel.kind = .synchronous ∧ sourceNode.domain ≠ node.domain)
      (.crossDomainSynchronous wire.id sourceNode.domain node.domain)
    let (item, total) ← channelStorage bounds input.valueType channel.kind target
    failIf (total > limits.maximumChannelBytesPerInput.toNat)
      (.limitExceeded "per-input channel bytes")
    failIf (progress.totalChannelBytes + total > limits.maximumTotalChannelBytes.toNat)
      (.limitExceeded "total channel bytes")
    return { progress with
      totalChannelBytes := progress.totalChannelBytes + total
      channelAllocations := progress.channelAllocations ++
        [⟨wire.source, target, channel.kind, item, total⟩] }

def analyzeTransition (node : NodeDefinition) (schema : NodeSchema) (progress : AnalysisProgress)
    (transition : NodeRateTransitionContract) : Except GraphAnalysisError AnalysisProgress := do
  failIf (progress.rateTransitions.length ≥ limits.maximumRateTransitions)
    (.limitExceeded "rate transition count")
  let analyzed ← analyzeRateTransition tables node schema transition rates bounds
    limits.maximumRatePatternTicks
  failIf (progress.totalRateTransitionStateBytes + analyzed.retainedSampleBytes >
    limits.maximumTotalRateTransitionStateBytes.toNat)
    (.limitExceeded "rate transition state bytes")
  return { progress with
    totalRateTransitionStateBytes :=
      progress.totalRateTransitionStateBytes + analyzed.retainedSampleBytes
    rateTransitions := progress.rateTransitions ++ [analyzed] }

/-- The state of an instance, if its schema has one. -/
def analyzeState (node : NodeDefinition) (progress : AnalysisProgress) :
    Option NodeStateContract → Except GraphAnalysisError AnalysisProgress
  | none => .ok progress
  | some state => do
    let declared := state.declaredStorageBytes.toNat
    failIf (progress.totalDeclaredStateBytes + declared > limits.maximumTotalStateBytes)
      (.limitExceeded "total state bytes")
    let required ← (literalStorageBytes bounds state.valueType).mapError .storage
    failIf (declared < required)
      (.stateStorageTooSmall node.id state.declaredStorageBytes required)
    failIf (progress.totalRequiredStateBytes + required ≥ 2 ^ 64)
      (.limitExceeded "required state byte count")
    return { progress with
      totalDeclaredStateBytes := progress.totalDeclaredStateBytes + declared
      totalRequiredStateBytes := progress.totalRequiredStateBytes + required
      stateAllocations := progress.stateAllocations ++
        [⟨node.id, node.domain, state.clock, state.valueType, state.declaredStorageBytes,
          required⟩] }

def analyzeNode (registry : RegistryTables) (progress : AnalysisProgress)
    (node : NodeDefinition) : Except GraphAnalysisError AnalysisProgress := do
  let schema ← (registry.schema node.kind).okOr (.unresolvedNode node.id node.kind)
  validateInstance node schema
  let progress ← (node.inputs.zip schema.inputChannels).foldlM
    (analyzeInput tables limits policy bounds node) progress
  let progress ← schema.rateTransitions.foldlM
    (analyzeTransition tables limits rates bounds node schema) progress
  let progress ← analyzeState limits bounds node progress schema.state
  return { progress with schemas := progress.schemas ++ [schema] }

end Nodes

/-! ## Combinational cycles -/

abbrev DependencyEdge := Dfs.Edge WireEndpoint DependencyLink

/-- Current-tick feedthroughs of one instance, with the endpoint each leaves. -/
def feedthroughEdges (node : NodeDefinition) (schema : NodeSchema) :
    List (WireEndpoint × DependencyEdge) :=
  schema.outputDependencies.flatMap fun dependency =>
    dependency.inputs.map fun input =>
      (⟨node.id, input⟩,
        ⟨⟨node.id, dependency.output⟩, .feedthrough node.id input dependency.output⟩)

def wireEdge (wire : WireDefinition) : WireEndpoint × DependencyEdge :=
  (wire.source, ⟨wire.target, .wire wire.id⟩)

/-- Every dependency of the document: the feedthroughs of each node, then the wires. -/
def dependencyEdges (tables : DocumentTables) (schemas : List NodeSchema) :
    List (WireEndpoint × DependencyEdge) :=
  (tables.nodes.zip schemas).flatMap (fun pair => feedthroughEdges pair.1 pair.2) ++
    tables.wires.map wireEdge

/-- All port endpoints in canonical order; the source uses an endpoint's position here as
its vertex. -/
def dependencyVertices (tables : DocumentTables) : List WireEndpoint :=
  Table.sortByKey id (tables.nodes.flatMap fun node =>
    (node.inputs ++ node.outputs).map fun port => ⟨node.id, port.id⟩)

/-- The edges out of one endpoint, in order of target and link. -/
def dependencyAdjacency (edges : List (WireEndpoint × DependencyEdge)) (vertex : WireEndpoint) :
    List DependencyEdge :=
  Table.sortByKey (fun edge => toLex (edge.target, edge.label.key))
    ((edges.filter (·.1 = vertex)).map Prod.snd)

/-- Walk the parents back from `cursor` to `target`. -/
def cycleLinks (parent : WireEndpoint → Option (WireEndpoint × DependencyLink))
    (target : WireEndpoint) :
    Nat → WireEndpoint → List DependencyLink → Except GraphAnalysisError (List DependencyLink)
  | 0, _, _ => .error (.limitExceeded "cycle witness link count")
  | remaining + 1, cursor, links =>
    if cursor = target then .ok links
    else do
      let (previous, link) ← (parent cursor).okOr .invalidCycleWitness
      failIf (remaining = 0) (.limitExceeded "cycle witness link count")
      cycleLinks parent target remaining previous (link :: links)

/-- `find_cycle`. The search gets one step for each vertex and edge, and one more, which is
always enough. -/
def findCycle (vertices : List WireEndpoint) (edges : List (WireEndpoint × DependencyEdge))
    (maximumWitnessLinks : Nat) : Except GraphAnalysisError (Option CombinationalCycle) :=
  match Dfs.search (dependencyAdjacency edges) (vertices.length + edges.length + 1) vertices
      .initial with
  | .finished _ => .ok none
  | .outOfFuel => .error .invalidCycleWitness
  | .backEdge source edge machine => do
    let links ← cycleLinks machine.parent edge.target maximumWitnessLinks source []
    failIf (links.length + 1 > maximumWitnessLinks) (.limitExceeded "cycle witness link count")
    return some ⟨links ++ [edge.label]⟩

/-! ## Analysis -/

instance : DecidableEq GraphSchema := fun left right =>
  decidable_of_iff (left.toSchemaTables = right.toSchemaTables)
    ⟨GraphSchema.ext_tables, fun h => h ▸ rfl⟩

/-- `analyze_graph_with_required_input_policy` -/
def analyzeGraphWithRequiredInputPolicy (document : GraphDocument) (registry : GraphNodeRegistry)
    (policy : RequiredInputPolicy) :
    Except GraphAnalysisError (GraphAnalysis × List WireEndpoint) := do
  failIf (document.schema ≠ registry.contextSchema ∨ document.clocks ≠ registry.contextClocks)
    .semanticContextMismatch
  let tables := document.toDocumentTables
  let bounds ← (analyzeTypeStorage document.schema.toSchemaTables).mapError .storage
  let rates ← resolveClockRates tables
  let progress ← document.nodes.foldlM
    (analyzeNode tables registry.limits policy rates bounds registry.toRegistryTables) {}
  let edges := dependencyEdges tables progress.schemas
  failIf (edges.length > registry.limits.maximumDependencyLinks)
    (.limitExceeded "dependency link count")
  match ← findCycle (dependencyVertices tables) edges
      registry.limits.maximumCycleWitnessLinks with
  | some cycle => .error (.combinationalCycle cycle)
  | none =>
    return ({
      admittedNodes := document.nodes.length
      dependencyLinks := edges.length
      totalDeclaredStateBytes := progress.totalDeclaredStateBytes
      totalRequiredStateBytes := progress.totalRequiredStateBytes
      stateAllocations := progress.stateAllocations
      typeStorageBounds := bounds
      totalChannelBytes := progress.totalChannelBytes
      channelAllocations := progress.channelAllocations
      clockRates := rates
      rateTransitions := progress.rateTransitions
      totalRateTransitionStateBytes := progress.totalRateTransitionStateBytes },
      progress.requiredUnconnectedInputs)

/-- Analyze a complete document; an unconnected required input is rejected. -/
def analyzeGraph (document : GraphDocument) (registry : GraphNodeRegistry) :
    Except GraphAnalysisError GraphAnalysis := do
  let (analysis, _) ← analyzeGraphWithRequiredInputPolicy document registry .reject
  return analysis

/-- Analyze a document whose unconnected required inputs are all supplied by the caller. -/
def analyzeGraphWithSuppliedInputs (document : GraphDocument) (registry : GraphNodeRegistry)
    (suppliedInputs : List WireEndpoint) : Except GraphAnalysisError GraphAnalysis := do
  let (analysis, missing) ← analyzeGraphWithRequiredInputPolicy document registry .retain
  match missing.find? (· ∉ suppliedInputs) with
  | some input => .error (.requiredInputUnconnected input)
  | none => return analysis

end Alumina.Graph
