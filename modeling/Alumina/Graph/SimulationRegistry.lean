import Alumina.Graph.Analysis
import Alumina.Graph.Wire

/-!
# Host simulation implementations

The fixed set of node behaviours the host simulator executes. A
`GraphSimulationRegistry` binds audited node kinds to behaviours; `validateImplementation`
checks that the audited schema of a kind has exactly the shape its behaviour needs.
-/

namespace Alumina.Graph

open Codec
open Except (failIf)

/-! ## Behaviours -/

/-- Exact first-release host implementation bound to an audited node kind. -/
inductive GraphSimulationNodeKind where
  | externalStreamSource (output : GraphPortId)
  | latestRateTransition (input output : GraphPortId)
  | streamSink (input : GraphPortId)
  | exactAdd (left right output : GraphPortId)
  | exactSubtract (left right output : GraphPortId)
  | exactScale (input : GraphPortId) (factorParameter : UInt32) (output : GraphPortId)
  | exactClamp (input : GraphPortId) (minimumParameter maximumParameter : UInt32)
      (output : GraphPortId)
  | exactWithinInclusive (input : GraphPortId) (minimumParameter maximumParameter : UInt32)
      (output : GraphPortId)
  | booleanAnd (left right output : GraphPortId)
  | typedConstant (valueParameter : UInt32) (output : GraphPortId)
  | typedCase (selector whenFalse whenTrue output : GraphPortId)
  | unitDelay (input : GraphPortId) (initialParameter : UInt32) (output : GraphPortId)
  | exactPermitGate (value permit : GraphPortId) (safeParameter : UInt32) (output : GraphPortId)
  deriving DecidableEq, Repr

/-- Output of a node that is evaluated tick by tick. -/
def clockedOutput : GraphSimulationNodeKind → Option GraphPortId
  | .exactAdd _ _ output | .exactSubtract _ _ output | .exactScale _ _ output
  | .exactClamp _ _ _ output | .exactWithinInclusive _ _ _ output | .booleanAnd _ _ output
  | .typedConstant _ output | .typedCase _ _ _ output | .unitDelay _ _ output
  | .exactPermitGate _ _ _ output => some output
  | .externalStreamSource _ | .latestRateTransition _ _ | .streamSink _ => none

/-- Inputs of a node that is evaluated tick by tick. -/
def clockedInputs : GraphSimulationNodeKind → List GraphPortId
  | .exactAdd left right _ | .exactSubtract left right _ | .booleanAnd left right _ => [left, right]
  | .typedCase selector whenFalse whenTrue _ => [selector, whenFalse, whenTrue]
  | .exactScale input _ _ | .exactClamp input _ _ _ | .exactWithinInclusive input _ _ _
  | .unitDelay input _ _ => [input]
  | .exactPermitGate value permit _ _ => [value, permit]
  | .typedConstant _ _ => []
  | .externalStreamSource _ | .latestRateTransition _ _ | .streamSink _ => []

/-- A unit delay breaks current-tick dependencies; every other clocked node is combinational. -/
def GraphSimulationNodeKind.isDelay : GraphSimulationNodeKind → Bool
  | .unitDelay _ _ _ => true
  | _ => false

structure GraphSimulationImplementation where
  kind : NodeKind
  behavior : GraphSimulationNodeKind
  deriving DecidableEq

/-! ## Errors -/

/-- Failure while binding or simulating a graph. -/
inductive GraphSimulationError where
  | zeroLimit
  | limitExceeded (name : String)
  | graph (error : GraphWireError)
  | analysis (error : GraphAnalysisError)
  | duplicateImplementation (kind : NodeKind)
  | unknownImplementationKind (kind : NodeKind)
  | invalidImplementation (kind : NodeKind) (aspect : String)
  | unimplementedNode (node : GraphNodeId) (kind : NodeKind)
  | nonHostDomain (node : GraphNodeId)
  | invalidHorizonRoot (clock : GraphClockId)
  | clockOutsideHorizonRoot (clock clockRoot horizonRoot : GraphClockId)
  | unknownExternalSource (source : WireEndpoint)
  | unknownInjectedInput (input : WireEndpoint)
  | externalSampleType (source : WireEndpoint) (expected received : GraphTypeId)
  | externalSampleOrder (source : WireEndpoint)
  | externalSampleAfterHorizon (source : WireEndpoint)
  | unavailableStreamSource (input : WireEndpoint)
  | missingInitialSample (input : WireEndpoint)
  | queueCapacityExceeded (input : WireEndpoint) (capacity : UInt32) (pending : Nat)
  | missingClockedSample (input : WireEndpoint) (clockTick : Nat)
  | invalidParameterValue (node : GraphNodeId) (parameter : UInt32) (aspect : String)
  | computedValueOutOfBounds (node : GraphNodeId)
  | registryEncoding
  deriving DecidableEq

/-! ## Stream ports of a schema -/

/-- Sample type and clock of a stream-typed port. -/
structure StreamPort where
  sampleType : GraphTypeId
  clock : GraphClockId
  deriving DecidableEq, Repr

def streamPort (schema : SchemaTables) (valueType : GraphTypeId) : Option StreamPort := do
  let definition ← schema.valueType valueType
  match definition.kind with
  | .stream sample clock _ => some ⟨sample, clock⟩
  | _ => none

def NodeInputChannelKind.isStreamQueue : NodeInputChannelKind → Bool
  | .streamQueue _ _ => true
  | .synchronous | .eventQueue _ _ => false

section Shape

variable (schema : NodeSchema) (values : SchemaTables)

def inputStream (port : GraphPortId) : Option StreamPort :=
  (schema.input? port).bind fun port => streamPort values port.valueType

def outputStream (port : GraphPortId) : Option StreamPort :=
  (schema.output? port).bind fun port => streamPort values port.valueType

def isExactSample (stream : StreamPort) : Bool :=
  match (values.valueType stream.sampleType).map TypeDefinition.kind with
  | some (.exactRational _) => true
  | _ => false

def isBooleanSample (stream : StreamPort) : Bool :=
  match (values.valueType stream.sampleType).map TypeDefinition.kind with
  | some .boolean => true
  | _ => false

def exactInputStream (port : GraphPortId) : Option StreamPort :=
  (inputStream schema values port).filter (isExactSample values)

def exactOutputStream (port : GraphPortId) : Option StreamPort :=
  (outputStream schema values port).filter (isExactSample values)

def booleanInputStream (port : GraphPortId) : Option StreamPort :=
  (inputStream schema values port).filter (isBooleanSample values)

def booleanOutputStream (port : GraphPortId) : Option StreamPort :=
  (outputStream schema values port).filter (isBooleanSample values)

/-- The output declares exactly these current-tick inputs. -/
def dependencyMatches (output : GraphPortId) (inputs : List GraphPortId) : Bool :=
  match schema.dependency? output with
  | none => false
  | some dependency => dependency.inputs = Table.sortByKey id inputs

def parameterType (parameter : UInt32) : Option GraphTypeId :=
  (schema.parameters.find? (·.id = parameter)).map NodeParameterContract.valueType

def parameterIsDimensionlessExact (parameter : UInt32) : Bool :=
  match (parameterType schema parameter).bind fun valueType =>
      (values.valueType valueType).map TypeDefinition.kind with
  | some (.exactRational unit) =>
    (values.unit unit).any fun unit => unit.dimensions = .dimensionless
  | _ => false

def requiredStreamQueue (input : GraphPortId) : Bool :=
  schema.inputChannels.any fun channel =>
    channel.port = input && channel.requirement = .required && channel.kind.isStreamQueue

/-- Shape shared by the two-operand behaviours: both operands and the result are streams
of one sample type on one clock. -/
def validateBinary (stream : GraphPortId → Option StreamPort) (result : Option StreamPort)
    (left right output : GraphPortId) (error : GraphSimulationError) :
    Except GraphSimulationError Unit :=
  failIf (schema.inputs.length ≠ 2 ∨ schema.outputs.length ≠ 1 ∨ left = right ∨
    (stream left).isNone ∨ stream left ≠ stream right ∨ stream left ≠ result ∨
    !requiredStreamQueue schema left ∨ !requiredStreamQueue schema right ∨
    !dependencyMatches schema output [left, right] ∨ !schema.parameters.isEmpty ∨
    !schema.rateTransitions.isEmpty ∨ schema.state.isSome) error

/-- Shape shared by the two range behaviours, up to the type of the result. -/
def validateRange (resultMatches : Prop) [Decidable resultMatches] (input : GraphPortId)
    (minimumParameter maximumParameter : UInt32) (output : GraphPortId)
    (error : GraphSimulationError) : Except GraphSimulationError Unit :=
  let stream := exactInputStream schema values input
  let sample := stream.map StreamPort.sampleType
  failIf (schema.inputs.length ≠ 1 ∨ schema.outputs.length ≠ 1 ∨
    minimumParameter = maximumParameter ∨ stream.isNone ∨ ¬ resultMatches ∨
    !requiredStreamQueue schema input ∨ !dependencyMatches schema output [input] ∨
    schema.parameters.length ≠ 2 ∨ parameterType schema minimumParameter ≠ sample ∨
    parameterType schema maximumParameter ≠ sample ∨ !schema.rateTransitions.isEmpty ∨
    schema.state.isSome) error

/-- Whether the state contract is the one a unit delay executes. -/
def delayStateMatches (input : GraphPortId) (initialParameter : UInt32) (output : GraphPortId) :
    Bool :=
  let stream := inputStream schema values input
  schema.state.any fun state =>
    state.clock = (stream.map StreamPort.clock).getD 0 ∧
      some state.valueType = stream.map StreamPort.sampleType ∧
      state.initialParameter = initialParameter ∧ state.nextInput = input ∧
      state.currentOutput = output

/-- `validate_implementation`: the audited schema has the shape its behaviour needs. -/
def validateImplementation (behavior : GraphSimulationNodeKind) :
    Except GraphSimulationError Unit :=
  let invalid := fun aspect => GraphSimulationError.invalidImplementation schema.kind aspect
  match behavior with
  | .externalStreamSource output =>
    failIf (!schema.inputs.isEmpty ∨ schema.outputs.map PortDefinition.id ≠ [output] ∨
      (outputStream schema values output).isNone ∨ !schema.parameters.isEmpty ∨
      schema.outputDependencies.map NodeOutputDependency.inputs ≠ [[]] ∨
      !schema.rateTransitions.isEmpty ∨ schema.state.isSome) (invalid "external Stream source shape")
  | .latestRateTransition input output =>
    failIf (schema.inputs.map PortDefinition.id ≠ [input] ∨
      schema.outputs.map PortDefinition.id ≠ [output] ∨
      schema.rateTransitions ≠ [⟨input, output, .latestAtOrBeforeSourceFirst⟩] ∨
      !schema.parameters.isEmpty ∨ schema.state.isSome) (invalid "latest rate-transition shape")
  | .streamSink input =>
    failIf (schema.inputs.map PortDefinition.id ≠ [input] ∨
      (inputStream schema values input).isNone ∨ !requiredStreamQueue schema input ∨
      !schema.outputs.isEmpty ∨ !schema.parameters.isEmpty ∨
      !schema.outputDependencies.isEmpty ∨ !schema.rateTransitions.isEmpty ∨ schema.state.isSome)
      (invalid "Stream sink shape")
  | .exactAdd left right output | .exactSubtract left right output =>
    validateBinary schema (exactInputStream schema values)
      (exactOutputStream schema values output) left right output
      (invalid "same-clock exact add/subtract shape")
  | .exactScale input factorParameter output =>
    let stream := exactInputStream schema values input
    failIf (schema.inputs.length ≠ 1 ∨ schema.outputs.length ≠ 1 ∨ stream.isNone ∨
      stream ≠ exactOutputStream schema values output ∨ !requiredStreamQueue schema input ∨
      !dependencyMatches schema output [input] ∨ schema.parameters.length ≠ 1 ∨
      !parameterIsDimensionlessExact schema values factorParameter ∨
      !schema.rateTransitions.isEmpty ∨ schema.state.isSome)
      (invalid "same-clock exact scale shape")
  | .exactClamp input minimumParameter maximumParameter output =>
    validateRange schema values
      (exactInputStream schema values input = exactOutputStream schema values output)
      input minimumParameter maximumParameter output (invalid "same-clock exact clamp shape")
  | .exactWithinInclusive input minimumParameter maximumParameter output =>
    validateRange schema values
      ((exactInputStream schema values input).map StreamPort.clock =
        (booleanOutputStream schema values output).map StreamPort.clock)
      input minimumParameter maximumParameter output
      (invalid "same-clock exact inclusive-range predicate shape")
  | .booleanAnd left right output =>
    validateBinary schema (booleanInputStream schema values)
      (booleanOutputStream schema values output) left right output
      (invalid "same-clock Boolean conjunction shape")
  | .typedConstant valueParameter output =>
    let stream := outputStream schema values output
    failIf (!schema.inputs.isEmpty ∨ !schema.inputChannels.isEmpty ∨ schema.outputs.length ≠ 1 ∨
      stream.isNone ∨ schema.parameters.length ≠ 1 ∨
      parameterType schema valueParameter ≠ stream.map StreamPort.sampleType ∨
      !dependencyMatches schema output [] ∨ !schema.rateTransitions.isEmpty ∨ schema.state.isSome)
      (invalid "clocked typed constant shape")
  | .typedCase selector whenFalse whenTrue output =>
    let falseStream := inputStream schema values whenFalse
    failIf (schema.inputs.length ≠ 3 ∨ schema.outputs.length ≠ 1 ∨ selector = whenFalse ∨
      selector = whenTrue ∨ whenFalse = whenTrue ∨
      (booleanInputStream schema values selector).isNone ∨ falseStream.isNone ∨
      falseStream ≠ inputStream schema values whenTrue ∨
      falseStream ≠ outputStream schema values output ∨
      (booleanInputStream schema values selector).map StreamPort.clock ≠
        falseStream.map StreamPort.clock ∨
      !requiredStreamQueue schema selector ∨ !requiredStreamQueue schema whenFalse ∨
      !requiredStreamQueue schema whenTrue ∨
      !dependencyMatches schema output [selector, whenFalse, whenTrue] ∨
      !schema.parameters.isEmpty ∨ !schema.rateTransitions.isEmpty ∨ schema.state.isSome)
      (invalid "same-clock typed case shape")
  | .unitDelay input initialParameter output =>
    let stream := inputStream schema values input
    failIf (schema.inputs.length ≠ 1 ∨ schema.outputs.length ≠ 1 ∨ stream.isNone ∨
      stream ≠ outputStream schema values output ∨ !requiredStreamQueue schema input ∨
      !dependencyMatches schema output [] ∨ schema.parameters.length ≠ 1 ∨
      parameterType schema initialParameter ≠ stream.map StreamPort.sampleType ∨
      !schema.rateTransitions.isEmpty ∨
      !delayStateMatches schema values input initialParameter output)
      (invalid "typed unit-delay state shape")
  | .exactPermitGate value permit safeParameter output =>
    let stream := exactInputStream schema values value
    failIf (schema.inputs.length ≠ 2 ∨ schema.outputs.length ≠ 1 ∨ value = permit ∨
      stream.isNone ∨ stream ≠ exactOutputStream schema values output ∨
      (booleanInputStream schema values permit).map StreamPort.clock ≠
        stream.map StreamPort.clock ∨
      !requiredStreamQueue schema value ∨ !requiredStreamQueue schema permit ∨
      !dependencyMatches schema output [value, permit] ∨ schema.parameters.length ≠ 1 ∨
      parameterType schema safeParameter ≠ stream.map StreamPort.sampleType ∨
      !schema.rateTransitions.isEmpty ∨ schema.state.isSome)
      (invalid "same-clock exact permit-gate shape")

end Shape

/-! ## Registry identity -/

def encodeAnalysisLimits (limits : GraphAnalysisLimits) : Encoded := do
  let policy := [limits.maximumRegisteredKinds, limits.maximumDependencyLinks,
    limits.maximumCycleWitnessLinks, limits.maximumStateBytesPerNode,
    limits.maximumTotalStateBytes, limits.maximumQueueItemsPerInput,
    limits.maximumRateTransitions]
  failIf (policy.any (· ≥ 2 ^ 64)) (.integerOverflow "analysis limit")
  return policy.flatMap (leBytes 8) ++ encodeU64 limits.maximumChannelBytesPerInput ++
    encodeU64 limits.maximumTotalChannelBytes ++ encodeU64 limits.maximumRatePatternTicks ++
    encodeU64 limits.maximumTotalRateTransitionStateBytes

def encodeNodeKind (kind : NodeKind) : Encoded := do
  let name ← encodeText kind.name
  return name ++ encodeU16 kind.version

def fullPolicyTag : ChannelFullPolicy → UInt8
  | .backpressure => 0
  | .fault => 1
  | .dropNewest => 2
  | .dropOldest => 3

def encodeChannel (channel : NodeInputChannelContract) : List UInt8 :=
  encodeId channel.port ++ [if channel.requirement = .required then 0 else 1] ++
    match channel.kind with
    | .synchronous => [0]
    | .eventQueue capacity fullPolicy => 1 :: encodeU32 capacity ++ [fullPolicyTag fullPolicy]
    | .streamQueue capacity fullPolicy => 2 :: encodeU32 capacity ++ [fullPolicyTag fullPolicy]

def encodeParameterContract (parameter : NodeParameterContract) : Encoded := do
  let name ← encodeText parameter.name
  return encodeU32 parameter.id ++ name ++ encodeId parameter.valueType

def encodeDependency (dependency : NodeOutputDependency) : Encoded := do
  let count ← encodeCount dependency.inputs.length "dependency input count"
  return encodeId dependency.output ++ count ++ dependency.inputs.flatMap encodeId

def encodeTransition (transition : NodeRateTransitionContract) : List UInt8 :=
  encodeId transition.input ++ encodeId transition.output ++
    match transition.kind with
    | .latestAtOrBeforeSourceFirst => [0]

def encodeState : Option NodeStateContract → List UInt8
  | none => [0]
  | some state =>
    1 :: encodeId state.clock ++ encodeId state.valueType ++ encodeU32 state.initialParameter ++
      encodeId state.nextInput ++ encodeId state.currentOutput ++
      encodeU32 state.declaredStorageBytes

def encodeNodeSchema (schema : NodeSchema) : Encoded := do
  let kind ← encodeNodeKind schema.kind
  let inputs ← encodePorts schema.inputs
  let channelCount ← encodeCount schema.inputChannels.length "input channel count"
  let outputs ← encodePorts schema.outputs
  let parameterCount ← encodeCount schema.parameters.length "parameter count"
  let parameters ← encodeAll encodeParameterContract schema.parameters
  let dependencyCount ← encodeCount schema.outputDependencies.length "dependency count"
  let dependencies ← encodeAll encodeDependency schema.outputDependencies
  let transitionCount ← encodeCount schema.rateTransitions.length "rate transition count"
  return kind ++ [schema.allowedDomains.bits] ++ inputs ++ channelCount ++
    schema.inputChannels.flatMap encodeChannel ++ outputs ++ parameterCount ++ parameters ++
    dependencyCount ++ dependencies ++ transitionCount ++
    schema.rateTransitions.flatMap encodeTransition ++ encodeState schema.state

def encodeBehavior : GraphSimulationNodeKind → List UInt8
  | .externalStreamSource output => 0 :: encodeId output
  | .latestRateTransition input output => 1 :: encodeId input ++ encodeId output
  | .streamSink input => 2 :: encodeId input
  | .exactAdd left right output => 3 :: encodeId left ++ encodeId right ++ encodeId output
  | .exactSubtract left right output => 4 :: encodeId left ++ encodeId right ++ encodeId output
  | .exactScale input factorParameter output =>
    5 :: encodeId input ++ encodeU32 factorParameter ++ encodeId output
  | .exactClamp input minimumParameter maximumParameter output =>
    6 :: encodeId input ++ encodeU32 minimumParameter ++ encodeU32 maximumParameter ++
      encodeId output
  | .unitDelay input initialParameter output =>
    7 :: encodeId input ++ encodeU32 initialParameter ++ encodeId output
  | .exactPermitGate value permit safeParameter output =>
    8 :: encodeId value ++ encodeId permit ++ encodeU32 safeParameter ++ encodeId output
  | .exactWithinInclusive input minimumParameter maximumParameter output =>
    9 :: encodeId input ++ encodeU32 minimumParameter ++ encodeU32 maximumParameter ++
      encodeId output
  | .booleanAnd left right output => 10 :: encodeId left ++ encodeId right ++ encodeId output
  | .typedConstant valueParameter output => 11 :: encodeU32 valueParameter ++ encodeId output
  | .typedCase selector whenFalse whenTrue output =>
    12 :: encodeId selector ++ encodeId whenFalse ++ encodeId whenTrue ++ encodeId output

def encodeImplementation (implementation : GraphSimulationImplementation) : Encoded := do
  let kind ← encodeNodeKind implementation.kind
  return kind ++ encodeBehavior implementation.behavior

/-- The part of a registry's identity after the digest of its type and clock context. -/
def encodeSimulationRegistry (semantic : RegistryTables)
    (implementations : List GraphSimulationImplementation) : Encoded := do
  let limits ← encodeAnalysisLimits semantic.limits
  let schemaCount ← encodeCount semantic.schemas.length "schema count"
  let schemas ← encodeAll encodeNodeSchema semantic.schemas
  let implementationCount ← encodeCount implementations.length "implementation count"
  let implementations ← encodeAll encodeImplementation implementations
  return limits ++ schemaCount ++ schemas ++ implementationCount ++ implementations

def simulationRegistryMagic : List UInt8 := [65, 76, 83, 73]

/-- `simulation_registry_digest` -/
def simulationRegistryDigest [Sha256] (semantic : RegistryTables)
    (implementations : List GraphSimulationImplementation) :
    Except GraphSimulationError Digest := do
  let context ← (GraphDocument.tryNew 0 semantic.contextSchema semantic.contextClocks [] []).mapError
    fun _ => .registryEncoding
  let encoding ← (encodeGraphDocument context).mapError .graph
  let body ← (encodeSimulationRegistry semantic implementations).mapError
    fun _ => .registryEncoding
  return Sha256.sha256 (simulationRegistryMagic ++ encodeU16 2 ++ encodeU16 0 ++
    encoding.digest.val ++ body)

/-! ## Registries -/

/-- Check the implementations in order; the kind before must differ. -/
def validateImplementations (semantic : RegistryTables) :
    Option NodeKind → List GraphSimulationImplementation → Except GraphSimulationError Unit
  | _, [] => .ok ()
  | previous, implementation :: implementations => do
    failIf (previous.map NodeKind.key = some implementation.kind.key)
      (.duplicateImplementation implementation.kind)
    let schema ← (semantic.schema implementation.kind).okOr
      (.unknownImplementationKind implementation.kind)
    validateImplementation schema semantic.contextSchema.toSchemaTables implementation.behavior
    validateImplementations semantic (some implementation.kind) implementations

/-- Audited schemas with an implementation for some of their kinds. -/
structure GraphSimulationRegistry [Sha256] where
  semantic : GraphNodeRegistry
  implementations : List GraphSimulationImplementation
  digest : Digest
  valid : validateImplementations semantic.toRegistryTables none implementations = .ok ()
  digest_eq : simulationRegistryDigest semantic.toRegistryTables implementations = .ok digest

namespace GraphSimulationRegistry

variable [Sha256]

/-- Bind fixed host implementations to exact audited schemas. -/
def tryNew (semantic : GraphNodeRegistry)
    (implementations : List GraphSimulationImplementation) :
    Except GraphSimulationError GraphSimulationRegistry := do
  let sorted := Table.sortByKey (fun implementation => implementation.kind.key) implementations
  let ⟨valid⟩ ← (validateImplementations semantic.toRegistryTables none sorted).attest
  match h : simulationRegistryDigest semantic.toRegistryTables sorted with
  | .error error => .error error
  | .ok digest => .ok ⟨semantic, sorted, digest, valid, h⟩

def implementation (registry : GraphSimulationRegistry) (kind : NodeKind) :
    Option GraphSimulationImplementation :=
  Table.lookup (fun implementation => implementation.kind.key) kind.key registry.implementations

end GraphSimulationRegistry

end Alumina.Graph
