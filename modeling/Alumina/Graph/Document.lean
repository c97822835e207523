import Mathlib
import Alumina.ForStd.Except
import Alumina.ForStd.Table
import Alumina.Graph.Schema

/-!
# Graph documents

Clocks, nodes, ports, parameters and wires over a validated registry.
`GraphDocument.tryNew` sorts every table and port list into canonical order, then
validates clocks, type clocks, nodes and wires in that order. As with `GraphSchema`, the
result of the validation is a field of the document.
-/

namespace Alumina.Graph

open Except (failIf)

/-! ## Structural definitions -/

/-- Node execution ownership. -/
inductive ExecutionDomain where
  | hostExact
  | service (deviceId : DeviceId)
  | realtime (deviceId : DeviceId)
  deriving DecidableEq

/-- Clock source and exact integer rate relationship. -/
inductive ClockKind where
  | hostMonotonic (ticksPerSecond : UInt64)
  | deviceCycle (deviceId : DeviceId) (ticksPerSecond : UInt64)
  | derived (source : GraphClockId) (numerator denominator : UInt32)
  deriving DecidableEq

structure ClockDefinition where
  id : GraphClockId
  name : String
  kind : ClockKind
  deriving DecidableEq

structure NodeKind where
  name : String
  version : UInt16
  deriving DecidableEq

structure PortDefinition where
  id : GraphPortId
  name : String
  valueType : GraphTypeId
  deriving DecidableEq

structure NodeParameter where
  id : UInt32
  name : String
  value : TypedGraphValue

structure NodeDefinition where
  id : GraphNodeId
  kind : NodeKind
  label : String
  domain : ExecutionDomain
  inputs : List PortDefinition
  outputs : List PortDefinition
  parameters : List NodeParameter

/-- Node/port pair used by a wire endpoint. -/
structure WireEndpoint where
  node : GraphNodeId
  port : GraphPortId
  deriving DecidableEq, Repr

/-- Endpoints are ordered by node, then port. -/
instance : LinearOrder WireEndpoint :=
  LinearOrder.lift' (fun e => toLex (e.node, e.port)) fun a b h => by
    cases a
    cases b
    simpa using h

structure WireDefinition where
  id : GraphWireId
  source : WireEndpoint
  target : WireEndpoint
  deriving DecidableEq, Repr

/-- Rejection at the structural graph-document boundary. -/
inductive GraphDocumentError where
  | schema (error : GraphSchemaError)
  | limitExceeded (name : String)
  | zeroIdentifier (kind : String)
  | duplicateIdentifier (kind : String)
  | duplicateName (kind : String)
  | invalidName (kind : String)
  | invalidDomain
  | unknownClock (clock : GraphClockId)
  | invalidClockRate (clock : GraphClockId)
  | recursiveClock (clock : GraphClockId)
  | unknownNode (node : GraphNodeId)
  | unknownOutput (endpoint : WireEndpoint)
  | unknownInput (endpoint : WireEndpoint)
  | wireTypeMismatch (source target : GraphTypeId)
  | inputAlreadyConnected (endpoint : WireEndpoint)
  | duplicateEndpoints
  deriving DecidableEq, Repr

/-! ## Scalar checks -/

def validateCount (received maximum : Nat) (name : String) : Except GraphDocumentError Unit :=
  failIf (received > maximum) (.limitExceeded name)

def validLabel (value : String) (maximum : Nat) : Bool :=
  !value.isEmpty && value.utf8ByteSize ≤ maximum && value.toList.all fun c => !isControl c

def ExecutionDomain.validate (domain : ExecutionDomain) : Except GraphDocumentError Unit :=
  match domain with
  | .hostExact => .ok ()
  | .service deviceId | .realtime deviceId => failIf deviceId.isZero .invalidDomain

def findPort (ports : List PortDefinition) (id : GraphPortId) : Option PortDefinition :=
  Table.lookup PortDefinition.id id ports

/-! ## Document tables -/

/-- The fields of a document, before anything is known about them. -/
structure DocumentTables where
  revision : UInt64
  schema : GraphSchema
  clocks : List ClockDefinition
  nodes : List NodeDefinition
  wires : List WireDefinition

namespace DocumentTables

variable (tables : DocumentTables)

def clock (id : GraphClockId) : Option ClockDefinition :=
  Table.lookup ClockDefinition.id id tables.clocks

def node (id : GraphNodeId) : Option NodeDefinition :=
  Table.lookup NodeDefinition.id id tables.nodes

def requireClock (id : GraphClockId) : Except GraphDocumentError ClockDefinition :=
  (tables.clock id).okOr (.unknownClock id)

def validateClock (clock : ClockDefinition) : Except GraphDocumentError Unit :=
  match clock.kind with
  | .hostMonotonic ticksPerSecond => failIf (ticksPerSecond = 0) (.invalidClockRate clock.id)
  | .deviceCycle deviceId ticksPerSecond =>
    failIf (deviceId.isZero ∨ ticksPerSecond = 0) (.invalidClockRate clock.id)
  | .derived source numerator denominator => do
    failIf (source = 0 ∨ numerator = 0 ∨ denominator = 0 ∨
      Nat.gcd numerator.toNat denominator.toNat ≠ 1) (.invalidClockRate clock.id)
    let _ ← tables.requireClock source

/-- Visit states of the clock walk: 0 is new, 1 on the current path, 2 finished. -/
abbrev ClockStates := GraphClockId → UInt8

/-- Walk from a clock to its source. The path never repeats a clock, so it is no longer
than the clock table, which is what the first argument counts down from. -/
def visitClock : Nat → ClockDefinition → ClockStates → Except GraphDocumentError ClockStates
  | 0, clock, _ => .error (.recursiveClock clock.id)
  | steps + 1, clock, states =>
    if states clock.id = 2 then .ok states
    else if states clock.id = 1 then .error (.recursiveClock clock.id)
    else do
      let states := Function.update states clock.id 1
      let states ← match clock.kind with
        | .derived source _ _ => do
          let source ← tables.requireClock source
          visitClock steps source states
        | _ => .ok states
      return Function.update states clock.id 2

def validateClocks : Except GraphDocumentError Unit := do
  let _ ← Table.walk (.zeroIdentifier "clock") (.duplicateIdentifier "clock") ClockDefinition.id
    (Table.namedStep (.invalidName "clock") (.duplicateName "clock") ClockDefinition.name
      validStableName tables.validateClock) none [] tables.clocks
  let _ ← tables.clocks.foldlM (fun states clock =>
    tables.visitClock (tables.clocks.length + 1) clock states) (fun _ => 0)

def validateTypeClock (definition : TypeDefinition) : Except GraphDocumentError Unit :=
  match definition.kind with
  | .event _ clock | .stream _ clock _ => do
    let _ ← tables.requireClock clock
  | _ => .ok ()

def validateTypeClocks : Except GraphDocumentError Unit :=
  Except.forEach tables.validateTypeClock tables.schema.types

/-- One port of a node; identifiers and names are unique across inputs and outputs. -/
def validatePort (seen : List GraphPortId × List String) (port : PortDefinition) :
    Except GraphDocumentError (List GraphPortId × List String) := do
  failIf (port.id = 0) (.zeroIdentifier "port")
  failIf (port.id ∈ seen.1) (.duplicateIdentifier "port")
  failIf (!validStableName port.name) (.invalidName "port")
  failIf (port.name ∈ seen.2) (.duplicateName "port")
  failIf (tables.schema.valueType port.valueType).isNone
    (.schema (.unknownType port.valueType))
  return (port.id :: seen.1, port.name :: seen.2)

def validateParameter (parameter : NodeParameter) : Except GraphDocumentError Unit :=
  (tables.schema.validateTypedValue parameter.value).mapError .schema

def validateNode (node : NodeDefinition) : Except GraphDocumentError Unit := do
  failIf (!validStableName node.kind.name ∨ node.kind.version = 0) (.invalidName "node kind")
  failIf (!validLabel node.label tables.schema.limits.maximumLabelBytes)
    (.invalidName "node label")
  node.domain.validate
  validateCount (node.inputs.length + node.outputs.length)
    tables.schema.limits.maximumPortsPerNode "node port count"
  validateCount node.parameters.length tables.schema.limits.maximumParametersPerNode
    "node parameter count"
  let _ ← (node.inputs ++ node.outputs).foldlM tables.validatePort ([], [])
  let _ ← Table.walk (.zeroIdentifier "parameter") (.duplicateIdentifier "parameter")
    (fun parameter : NodeParameter => parameter.id.toNat)
    (Table.namedStep (.invalidName "parameter") (.duplicateName "parameter") NodeParameter.name
      validStableName tables.validateParameter) none [] node.parameters

def validateNodes : Except GraphDocumentError Unit :=
  Table.walk (.zeroIdentifier "node") (.duplicateIdentifier "node") NodeDefinition.id
    (fun _ node => tables.validateNode node) none () tables.nodes

/-- Resolve both ends of a wire and compare their types. -/
def resolveWire (wire : WireDefinition) : Except GraphDocumentError Unit := do
  let sourceNode ← (tables.node wire.source.node).okOr (.unknownNode wire.source.node)
  let targetNode ← (tables.node wire.target.node).okOr (.unknownNode wire.target.node)
  let source ← (findPort sourceNode.outputs wire.source.port).okOr (.unknownOutput wire.source)
  let target ← (findPort targetNode.inputs wire.target.port).okOr (.unknownInput wire.target)
  failIf (source.valueType ≠ target.valueType)
    (.wireTypeMismatch source.valueType target.valueType)

/-- One wire; endpoint pairs are distinct and no input has two sources. -/
def validateWire (seen : List (WireEndpoint × WireEndpoint) × List WireEndpoint)
    (wire : WireDefinition) :
    Except GraphDocumentError (List (WireEndpoint × WireEndpoint) × List WireEndpoint) := do
  tables.resolveWire wire
  failIf ((wire.source, wire.target) ∈ seen.1) .duplicateEndpoints
  failIf (wire.target ∈ seen.2) (.inputAlreadyConnected wire.target)
  return ((wire.source, wire.target) :: seen.1, wire.target :: seen.2)

def validateWires : Except GraphDocumentError Unit := do
  let _ ← Table.walk (.zeroIdentifier "wire") (.duplicateIdentifier "wire") WireDefinition.id
    tables.validateWire none ([], []) tables.wires

/-- Every check of `GraphDocument::try_new`; the counts do not depend on table order. -/
def validate : Except GraphDocumentError Unit := do
  validateCount tables.clocks.length tables.schema.limits.maximumClocks "clock count"
  validateCount tables.nodes.length tables.schema.limits.maximumNodes "node count"
  validateCount tables.wires.length tables.schema.limits.maximumWires "wire count"
  tables.validateClocks
  tables.validateTypeClocks
  tables.validateNodes
  tables.validateWires

end DocumentTables

/-- Ports and parameters in identifier order. -/
def NodeDefinition.canonical (node : NodeDefinition) : NodeDefinition :=
  { node with
    inputs := Table.sortByKey PortDefinition.id node.inputs
    outputs := Table.sortByKey PortDefinition.id node.outputs
    parameters := Table.sortByKey (fun parameter => parameter.id.toNat) node.parameters }

structure NodeDefinition.Canonical (node : NodeDefinition) : Prop where
  inputs : Table.Sorted PortDefinition.id node.inputs
  outputs : Table.Sorted PortDefinition.id node.outputs
  parameters : Table.Sorted (fun parameter : NodeParameter => parameter.id.toNat) node.parameters

instance (node : NodeDefinition) : Decidable node.Canonical :=
  decidable_of_iff (Table.Sorted PortDefinition.id node.inputs ∧
    Table.Sorted PortDefinition.id node.outputs ∧
    Table.Sorted (fun parameter : NodeParameter => parameter.id.toNat) node.parameters)
    ⟨fun h => ⟨h.1, h.2.1, h.2.2⟩, fun h => ⟨h.inputs, h.outputs, h.parameters⟩⟩

theorem NodeDefinition.canonical_canonical (node : NodeDefinition) :
    node.canonical.Canonical :=
  ⟨Table.sortByKey_sorted, Table.sortByKey_sorted, Table.sortByKey_sorted⟩

theorem NodeDefinition.Canonical.canonical_eq {node : NodeDefinition} (h : node.Canonical) :
    node.canonical = node := by
  rw [canonical, Table.sortByKey_of_sorted h.inputs, Table.sortByKey_of_sorted h.outputs,
    Table.sortByKey_of_sorted h.parameters]

/-- Sort clocks, nodes, wires, ports and parameters by identifier. -/
def DocumentTables.canonical (tables : DocumentTables) : DocumentTables :=
  { tables with
    clocks := Table.sortByKey ClockDefinition.id tables.clocks
    nodes := (Table.sortByKey NodeDefinition.id tables.nodes).map NodeDefinition.canonical
    wires := Table.sortByKey WireDefinition.id tables.wires }

/-- Tables in canonical identifier order. -/
structure DocumentTables.Canonical (tables : DocumentTables) : Prop where
  clocks : Table.Sorted ClockDefinition.id tables.clocks
  nodes : Table.Sorted NodeDefinition.id tables.nodes
  wires : Table.Sorted WireDefinition.id tables.wires
  node : ∀ node ∈ tables.nodes, node.Canonical

instance (tables : DocumentTables) : Decidable tables.Canonical :=
  decidable_of_iff (Table.Sorted ClockDefinition.id tables.clocks ∧
    Table.Sorted NodeDefinition.id tables.nodes ∧ Table.Sorted WireDefinition.id tables.wires ∧
    ∀ node ∈ tables.nodes, node.Canonical)
    ⟨fun h => ⟨h.1, h.2.1, h.2.2.1, h.2.2.2⟩, fun h => ⟨h.clocks, h.nodes, h.wires, h.node⟩⟩

theorem DocumentTables.canonical_canonical (tables : DocumentTables) :
    tables.canonical.Canonical where
  clocks := Table.sortByKey_sorted
  nodes := List.pairwise_map.2 Table.sortByKey_sorted
  wires := Table.sortByKey_sorted
  node := by
    intro node hmem
    obtain ⟨origin, _, rfl⟩ := List.mem_map.1 hmem
    exact origin.canonical_canonical

theorem DocumentTables.Canonical.canonical_eq {tables : DocumentTables} (h : tables.Canonical) :
    tables.canonical = tables := by
  have hnodes : tables.nodes.map NodeDefinition.canonical = tables.nodes := by
    refine (List.map_congr_left fun node hmem => ?_).trans (List.map_id _)
    exact (h.node node hmem).canonical_eq
  rw [canonical, Table.sortByKey_of_sorted h.clocks, Table.sortByKey_of_sorted h.nodes,
    Table.sortByKey_of_sorted h.wires, hnodes]

/-! ## Validated documents -/

/-- Canonical structural graph document. -/
structure GraphDocument extends DocumentTables where
  sorted : toDocumentTables.Canonical
  valid : toDocumentTables.validate = .ok ()

namespace GraphDocument

/-- Canonicalize and validate one complete structural document. -/
def tryNew (revision : UInt64) (schema : GraphSchema) (clocks : List ClockDefinition)
    (nodes : List NodeDefinition) (wires : List WireDefinition) :
    Except GraphDocumentError GraphDocument := do
  let tables : DocumentTables := ⟨revision, schema, clocks, nodes, wires⟩
  let ⟨valid⟩ ← tables.canonical.validate.attest
  return ⟨tables.canonical, tables.canonical_canonical, valid⟩

/-- A document is determined by its tables. -/
theorem ext_tables {left right : GraphDocument}
    (h : left.toDocumentTables = right.toDocumentTables) : left = right := by
  cases left
  cases right
  cases h
  rfl

/-- Rebuilding a document from its own tables returns it. -/
theorem tryNew_self (document : GraphDocument) :
    tryNew document.revision document.schema document.clocks document.nodes document.wires =
      .ok document := by
  have hcanonical : DocumentTables.canonical ⟨document.revision, document.schema,
      document.clocks, document.nodes, document.wires⟩ = document.toDocumentTables :=
    document.sorted.canonical_eq
  have hvalid : (DocumentTables.canonical ⟨document.revision, document.schema,
      document.clocks, document.nodes, document.wires⟩).validate = .ok () := by
    rw [hcanonical]
    exact document.valid
  simp only [tryNew, Except.attest_of_ok hvalid]
  exact congrArg Except.ok (ext_tables hcanonical)

/-- A successful construction holds the sorted tables it was given. -/
theorem toDocumentTables_of_tryNew {revision : UInt64} {schema : GraphSchema}
    {clocks : List ClockDefinition} {nodes : List NodeDefinition} {wires : List WireDefinition}
    {document : GraphDocument} (h : tryNew revision schema clocks nodes wires = .ok document) :
    document.toDocumentTables =
      DocumentTables.canonical ⟨revision, schema, clocks, nodes, wires⟩ := by
  simp only [tryNew, Except.bind_eq_ok, Except.pure_eq_ok] at h
  obtain ⟨_, _, rfl⟩ := h
  rfl

end GraphDocument

end Alumina.Graph
