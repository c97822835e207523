import Alumina.Graph.Document

/-!
# Audited node schemas

A `NodeSchema` says what an otherwise opaque node kind looks like: its ports, how each
input is delivered, its parameters, which inputs each output reads in the current tick,
which dependencies cross clocks, and its state. `GraphNodeRegistry.tryNew` sorts and
validates a set of schemas against the unit/type registry and clocks of one document.
-/

namespace Alumina.Graph

open Except (failIf)

/-! ## Contracts -/

/-- Set of execution-domain families, as a bitset. -/
structure ExecutionDomainSet where
  bits : UInt8
  deriving DecidableEq, Repr

namespace ExecutionDomainSet

def hostBit : UInt8 := 1

def serviceBit : UInt8 := 2

def realtimeBit : UInt8 := 4

def hostExact : ExecutionDomainSet := ⟨hostBit⟩

def contains (set : ExecutionDomainSet) (domain : ExecutionDomain) : Bool :=
  let bit := match domain with
    | .hostExact => hostBit
    | .service _ => serviceBit
    | .realtime _ => realtimeBit
  set.bits &&& bit != 0

def isEmpty (set : ExecutionDomainSet) : Bool := set.bits == 0

end ExecutionDomainSet

/-- Bounded semantic-registry and analysis policy. -/
structure GraphAnalysisLimits where
  maximumRegisteredKinds : Nat
  maximumDependencyLinks : Nat
  maximumCycleWitnessLinks : Nat
  maximumStateBytesPerNode : Nat
  maximumTotalStateBytes : Nat
  maximumQueueItemsPerInput : Nat
  maximumChannelBytesPerInput : UInt64
  maximumTotalChannelBytes : UInt64
  maximumRateTransitions : Nat
  maximumRatePatternTicks : UInt64
  maximumTotalRateTransitionStateBytes : UInt64
  deriving DecidableEq, Repr

/-- First-release bounded host analysis policy. -/
def GraphAnalysisLimits.interactive : GraphAnalysisLimits where
  maximumRegisteredKinds := 1024
  maximumDependencyLinks := 65536
  maximumCycleWitnessLinks := 4096
  maximumStateBytesPerNode := 1024 * 1024
  maximumTotalStateBytes := 16 * 1024 * 1024
  maximumQueueItemsPerInput := 4096
  maximumChannelBytesPerInput := 64 * 1024 * 1024
  maximumTotalChannelBytes := 256 * 1024 * 1024
  maximumRateTransitions := 8192
  maximumRatePatternTicks := 1000000
  maximumTotalRateTransitionStateBytes := 64 * 1024 * 1024

structure NodeParameterContract where
  id : UInt32
  name : String
  valueType : GraphTypeId
  deriving DecidableEq

/-- Whether one declared input must have a structural source wire. -/
inductive InputConnectionRequirement where
  | required
  | optional
  deriving DecidableEq, Repr

/-- Deterministic action when a bounded event/stream queue is full. -/
inductive ChannelFullPolicy where
  | backpressure
  | fault
  | dropNewest
  | dropOldest
  deriving DecidableEq, Repr

/-- Input delivery and bounded buffering semantics. -/
inductive NodeInputChannelKind where
  | synchronous
  | eventQueue (capacity : UInt32) (fullPolicy : ChannelFullPolicy)
  | streamQueue (capacity : UInt32) (fullPolicy : ChannelFullPolicy)
  deriving DecidableEq, Repr

structure NodeInputChannelContract where
  port : GraphPortId
  requirement : InputConnectionRequirement
  kind : NodeInputChannelKind
  deriving DecidableEq, Repr

/-- Deterministic first-release resampling semantics between two stream clocks. -/
inductive RateTransitionKind where
  | latestAtOrBeforeSourceFirst
  deriving DecidableEq, Repr

structure NodeRateTransitionContract where
  input : GraphPortId
  output : GraphPortId
  kind : RateTransitionKind
  deriving DecidableEq, Repr

/-- Complete current-tick input dependency set for one output. -/
structure NodeOutputDependency where
  output : GraphPortId
  inputs : List GraphPortId
  deriving DecidableEq, Repr

/-- Explicit read-before-write state boundary for one node kind. -/
structure NodeStateContract where
  clock : GraphClockId
  valueType : GraphTypeId
  initialParameter : UInt32
  nextInput : GraphPortId
  currentOutput : GraphPortId
  declaredStorageBytes : UInt32
  deriving DecidableEq, Repr

/-- One audited semantic schema for an otherwise opaque node kind. -/
structure NodeSchema where
  kind : NodeKind
  allowedDomains : ExecutionDomainSet
  inputs : List PortDefinition
  inputChannels : List NodeInputChannelContract
  outputs : List PortDefinition
  parameters : List NodeParameterContract
  outputDependencies : List NodeOutputDependency
  rateTransitions : List NodeRateTransitionContract
  state : Option NodeStateContract
  deriving DecidableEq

/-- Failure while constructing an audited node-schema registry. -/
inductive NodeRegistryError where
  | zeroLimit
  | limitExceeded (name : String)
  | duplicateKind (kind : NodeKind)
  | invalidSchema (kind : NodeKind) (aspect : String)
  deriving DecidableEq

def GraphAnalysisLimits.validate (limits : GraphAnalysisLimits) : Except NodeRegistryError Unit :=
  failIf (0 ∈ [limits.maximumRegisteredKinds, limits.maximumDependencyLinks,
      limits.maximumCycleWitnessLinks, limits.maximumStateBytesPerNode,
      limits.maximumTotalStateBytes, limits.maximumQueueItemsPerInput,
      limits.maximumRateTransitions] ∨
    limits.maximumChannelBytesPerInput = 0 ∨ limits.maximumTotalChannelBytes = 0 ∨
    limits.maximumRatePatternTicks = 0 ∨ limits.maximumTotalRateTransitionStateBytes = 0)
    .zeroLimit

/-! ## Runtime ports -/

inductive RuntimePortKind where
  | event
  | stream
  deriving DecidableEq, Repr

structure RuntimePort where
  kind : RuntimePortKind
  payload : GraphTypeId
  clock : GraphClockId
  deriving DecidableEq, Repr

/-- The event or stream a port carries, if it carries one. -/
def runtimePort (schema : SchemaTables) (port : PortDefinition) : Option RuntimePort := do
  let definition ← schema.valueType port.valueType
  match definition.kind with
  | .event payload clock => some ⟨.event, payload, clock⟩
  | .stream sample clock _ => some ⟨.stream, sample, clock⟩
  | _ => none

/-- The literal type behind a state port: the port's own type, or the sample type of a
stream on the state's clock. -/
def statePathValueType (schema : SchemaTables) (stateClock : GraphClockId)
    (port : PortDefinition) : Option GraphTypeId := do
  let definition ← schema.valueType port.valueType
  match definition.kind with
  | .stream sample clock _ => if clock = stateClock then some sample else none
  | .event _ _ => none
  | _ => some port.valueType

/-! ## Schema validation -/

namespace NodeSchema

variable (schema : NodeSchema)

def invalid (aspect : String) : NodeRegistryError := .invalidSchema schema.kind aspect

def output? (port : GraphPortId) : Option PortDefinition :=
  schema.outputs.find? (·.id = port)

def input? (port : GraphPortId) : Option PortDefinition :=
  schema.inputs.find? (·.id = port)

def channel? (port : GraphPortId) : Option NodeInputChannelContract :=
  schema.inputChannels.find? (·.port = port)

def dependency? (output : GraphPortId) : Option NodeOutputDependency :=
  schema.outputDependencies.find? (·.output = output)

section Validation

variable (limits : GraphAnalysisLimits) (context : SchemaTables)

def validatePortContract (seen : List GraphPortId × List String) (port : PortDefinition) :
    Except NodeRegistryError (List GraphPortId × List String) := do
  failIf (port.id = 0 ∨ port.valueType = 0 ∨ !validStableName port.name ∨ port.id ∈ seen.1 ∨
    port.name ∈ seen.2) (schema.invalid "port contract")
  failIf (context.valueType port.valueType).isNone (schema.invalid "port value type")
  return (port.id :: seen.1, port.name :: seen.2)

def validateQueueCapacity (capacity : UInt32) : Except NodeRegistryError Unit :=
  failIf (capacity = 0 ∨ capacity.toNat > limits.maximumQueueItemsPerInput)
    (schema.invalid "queue capacity")

def validateChannel (pair : PortDefinition × NodeInputChannelContract) :
    Except NodeRegistryError Unit := do
  let (input, channel) := pair
  failIf (input.id ≠ channel.port) (schema.invalid "input channel coverage")
  let definition ← (context.valueType input.valueType).okOr (schema.invalid "input channel type")
  match definition.kind, channel.kind with
  | .event _ _, .eventQueue capacity _ => schema.validateQueueCapacity limits capacity
  | .stream _ _ typeCapacity, .streamQueue capacity _ => do
    schema.validateQueueCapacity limits capacity
    failIf (capacity > typeCapacity) (schema.invalid "stream queue capacity")
  | .event _ _, _ | .stream _ _ _, _ => .error (schema.invalid "input channel type")
  | _, .synchronous => .ok ()
  | _, _ => .error (schema.invalid "input channel type")

def validateParameterContract (seen : Option UInt32 × List String)
    (parameter : NodeParameterContract) : Except NodeRegistryError (Option UInt32 × List String) := do
  failIf (parameter.id = 0 ∨ parameter.valueType = 0 ∨ seen.1 = some parameter.id ∨
    !validStableName parameter.name ∨ parameter.name ∈ seen.2) (schema.invalid "parameter contract")
  failIf (context.valueType parameter.valueType).isNone (schema.invalid "parameter value type")
  return (some parameter.id, parameter.name :: seen.2)

def validateDependencyInput (previous : Option GraphPortId) (input : GraphPortId) :
    Except NodeRegistryError (Option GraphPortId) := do
  failIf (previous = some input ∨ input ∉ schema.inputs.map PortDefinition.id)
    (schema.invalid "output dependency input")
  return some input

def validateDependency (pair : PortDefinition × NodeOutputDependency) :
    Except NodeRegistryError Unit := do
  failIf (pair.1.id ≠ pair.2.output) (schema.invalid "output dependency coverage")
  let _ ← pair.2.inputs.foldlM schema.validateDependencyInput none

/-- A transition's input must be delivered through a required stream queue. -/
def validateTransitionDelivery (input : GraphPortId) : Except NodeRegistryError Unit :=
  match schema.channel? input with
  | some ⟨_, .required, .streamQueue _ _⟩ => .ok ()
  | _ => .error (schema.invalid "rate transition input delivery")

/-- A transition's output must declare its input as a current-tick dependency. -/
def validateTransitionDependency (transition : NodeRateTransitionContract) :
    Except NodeRegistryError Unit :=
  match schema.dependency? transition.output with
  | some dependency =>
    failIf (transition.input ∉ dependency.inputs) (schema.invalid "rate transition dependency")
  | none => .error (schema.invalid "rate transition dependency")

/-- One declared rate transition: two streams of one payload on different clocks, with a
required stream queue and a declared dependency. -/
def validateTransition (pairs : List (GraphPortId × GraphPortId))
    (transition : NodeRateTransitionContract) :
    Except NodeRegistryError (List (GraphPortId × GraphPortId)) := do
  failIf (transition.input = 0 ∨ transition.output = 0 ∨
    (transition.output, transition.input) ∈ pairs) (schema.invalid "rate transition identity")
  let input ← (schema.input? transition.input).okOr (schema.invalid "rate transition input")
  let output ← (schema.output? transition.output).okOr (schema.invalid "rate transition output")
  let source ← (runtimePort context input).okOr (schema.invalid "rate transition input type")
  let target ← (runtimePort context output).okOr (schema.invalid "rate transition output type")
  failIf (source.kind ≠ .stream ∨ target.kind ≠ .stream ∨ source.payload ≠ target.payload ∨
    source.clock = target.clock) (schema.invalid "rate transition type")
  schema.validateTransitionDelivery transition.input
  schema.validateTransitionDependency transition
  return (transition.output, transition.input) :: pairs

/-- A dependency between runtime ports of different clocks must be a declared transition. -/
def validateCrossClockInput (pairs : List (GraphPortId × GraphPortId)) (output : GraphPortId)
    (target : RuntimePort) (inputId : GraphPortId) : Except NodeRegistryError Unit := do
  let input ← (schema.input? inputId).okOr (schema.invalid "output dependency input")
  match runtimePort context input with
  | none => .ok ()
  | some source =>
    failIf (source.clock ≠ target.clock ∧ (source.kind ≠ .stream ∨ target.kind ≠ .stream ∨
      source.payload ≠ target.payload ∨ (output, inputId) ∉ pairs))
      (schema.invalid "cross-clock dependency")

def validateCrossClock (pairs : List (GraphPortId × GraphPortId))
    (dependency : NodeOutputDependency) : Except NodeRegistryError Unit := do
  let output ← (schema.output? dependency.output).okOr
    (schema.invalid "output dependency coverage")
  match runtimePort context output with
  | none => .ok ()
  | some target =>
    Except.forEach (schema.validateCrossClockInput context pairs dependency.output target)
      dependency.inputs

def validateRateTransitionContracts : Except NodeRegistryError Unit := do
  let pairs ← schema.rateTransitions.foldlM (schema.validateTransition context) []
  Except.forEach (schema.validateCrossClock context pairs) schema.outputDependencies

def validateState (clocks : List ClockDefinition) (state : NodeStateContract) :
    Except NodeRegistryError Unit := do
  failIf (state.clock = 0 ∨ state.valueType = 0 ∨ state.initialParameter = 0 ∨
    state.declaredStorageBytes = 0 ∨
    state.declaredStorageBytes.toNat > limits.maximumStateBytesPerNode)
    (schema.invalid "state contract")
  failIf (context.valueType state.valueType).isNone (schema.invalid "state value type")
  failIf (¬ clocks.any (·.id = state.clock)) (schema.invalid "state clock")
  let initial := schema.parameters.find? (·.id = state.initialParameter)
  let next := schema.input? state.nextInput
  let current := schema.output? state.currentOutput
  failIf (initial.map NodeParameterContract.valueType ≠ some state.valueType ∨
    next.bind (statePathValueType context state.clock) ≠ some state.valueType ∨
    current.bind (statePathValueType context state.clock) ≠ some state.valueType)
    (schema.invalid "state value path")
  match schema.dependency? state.currentOutput with
  | some dependency => failIf (!dependency.inputs.isEmpty) (schema.invalid "state output feedthrough")
  | none => .error (schema.invalid "state output feedthrough")

/-- `validate_node_schema` -/
def validate (clocks : List ClockDefinition) : Except NodeRegistryError Unit := do
  failIf (!validStableName schema.kind.name ∨ schema.kind.version = 0)
    (schema.invalid "kind identity")
  failIf schema.allowedDomains.isEmpty (schema.invalid "allowed domains")
  let _ ← (schema.inputs ++ schema.outputs).foldlM (schema.validatePortContract context) ([], [])
  failIf (schema.inputChannels.length ≠ schema.inputs.length)
    (schema.invalid "input channel coverage")
  Except.forEach (schema.validateChannel limits context) (schema.inputs.zip schema.inputChannels)
  let _ ← schema.parameters.foldlM (schema.validateParameterContract context) (none, [])
  failIf (schema.outputDependencies.length ≠ schema.outputs.length)
    (schema.invalid "output dependency coverage")
  Except.forEach schema.validateDependency (schema.outputs.zip schema.outputDependencies)
  schema.validateRateTransitionContracts context
  match schema.state with
  | none => .ok ()
  | some state => schema.validateState limits context clocks state

end Validation

/-- Every list of the schema in its canonical order. -/
def canonical : NodeSchema :=
  { schema with
    inputs := Table.sortByKey PortDefinition.id schema.inputs
    inputChannels := Table.sortByKey NodeInputChannelContract.port schema.inputChannels
    outputs := Table.sortByKey PortDefinition.id schema.outputs
    parameters := Table.sortByKey (fun parameter => parameter.id.toNat) schema.parameters
    outputDependencies := (Table.sortByKey NodeOutputDependency.output
      schema.outputDependencies).map fun dependency =>
        { dependency with inputs := Table.sortByKey id dependency.inputs }
    rateTransitions := Table.sortByKey
      (fun transition => toLex (transition.output, transition.input)) schema.rateTransitions }

end NodeSchema

/-! ## Registries -/

/-- Kinds are ordered by name, then version. -/
def NodeKind.key (kind : NodeKind) : String ×ₗ Nat := toLex (kind.name, kind.version.toNat)

/-- The fields of a registry, before anything is known about them. -/
structure RegistryTables where
  limits : GraphAnalysisLimits
  contextSchema : GraphSchema
  contextClocks : List ClockDefinition
  schemas : List NodeSchema

namespace RegistryTables

variable (tables : RegistryTables)

/-- Resolve one exact opaque kind/version. -/
def schema (kind : NodeKind) : Option NodeSchema :=
  Table.lookup (fun schema => schema.kind.key) kind.key tables.schemas

/-- Validate the schemas in order; the kind before must differ. -/
def validateSchemas : Option NodeKind → List NodeSchema → Except NodeRegistryError Unit
  | _, [] => .ok ()
  | previous, schema :: schemas => do
    failIf (previous.map NodeKind.key = some schema.kind.key) (.duplicateKind schema.kind)
    schema.validate tables.limits tables.contextSchema.toSchemaTables tables.contextClocks
    validateSchemas (some schema.kind) schemas

def validate : Except NodeRegistryError Unit := do
  tables.limits.validate
  failIf (tables.schemas.length > tables.limits.maximumRegisteredKinds)
    (.limitExceeded "registered kind count")
  tables.validateSchemas none tables.schemas

def canonical : RegistryTables :=
  { tables with
    schemas := (Table.sortByKey (fun schema => schema.kind.key) tables.schemas).map
      NodeSchema.canonical }

end RegistryTables

/-- Canonical audited-node registry. -/
structure GraphNodeRegistry extends RegistryTables where
  valid : toRegistryTables.validate = .ok ()

namespace GraphNodeRegistry

/-- Canonicalize and validate one complete semantic schema registry. -/
def tryNew (limits : GraphAnalysisLimits) (context : GraphDocument) (schemas : List NodeSchema) :
    Except NodeRegistryError GraphNodeRegistry := do
  let tables : RegistryTables := ⟨limits, context.schema, context.clocks, schemas⟩
  let ⟨valid⟩ ← tables.canonical.validate.attest
  return ⟨tables.canonical, valid⟩

end GraphNodeRegistry

end Alumina.Graph
