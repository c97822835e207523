import Alumina.Graph.Component

/-!
# Graph hierarchies

A hierarchy is a root workspace, a library of components, and bindings from the authoring-only
instance nodes of the root and of the components to library components by digest.
`GraphHierarchyDocument.tryNew` checks that each instance node has the shape its component
derives, that the dependencies are acyclic, and how large the expansion is.
-/

namespace Alumina.Graph

open Codec
open Except (failIf)

/-! ## Limits, bindings and errors -/

/-- Bounds for one hierarchy and its flattened result. -/
structure GraphHierarchyLimits where
  maximumHierarchyBytes : Nat
  maximumComponents : Nat
  maximumInstanceBindings : Nat
  maximumNestingDepth : Nat
  maximumExpandedInstances : Nat
  maximumFlattenedNodes : Nat
  maximumFlattenedWires : Nat
  deriving DecidableEq, Repr

/-- Bounded first hierarchy policy. -/
def GraphHierarchyLimits.interactive : GraphHierarchyLimits where
  maximumHierarchyBytes := 32 * 1024 * 1024
  maximumComponents := 64
  maximumInstanceBindings := 4096
  maximumNestingDepth := 32
  maximumExpandedInstances := 4096
  maximumFlattenedNodes := 4096
  maximumFlattenedWires := 8192

/-- Bytes of a digest, as they are compared. -/
def digestKey (digest : Digest) : List ℕ := digest.val.map UInt8.toNat

/-- Workspace that holds a component instance. -/
inductive GraphInstanceScope where
  | root
  | component (digest : Digest)
  deriving DecidableEq

/-- Binding of one instance node to a component. -/
structure GraphComponentInstance where
  scope : GraphInstanceScope
  node : GraphNodeId
  component : Digest
  deriving DecidableEq

/-- The root comes before every component. -/
def GraphInstanceScope.key : GraphInstanceScope → ℕ ×ₗ List ℕ
  | .root => toLex (0, [])
  | .component digest => toLex (1, digestKey digest)

/-- Bindings are ordered by scope, node and component. -/
def GraphComponentInstance.key (binding : GraphComponentInstance) :
    (ℕ ×ₗ List ℕ) ×ₗ GraphNodeId ×ₗ List ℕ :=
  toLex (binding.scope.key, toLex (binding.node, digestKey binding.component))

/-- Rejection at hierarchy construction, replay, or flattening. -/
inductive GraphHierarchyError where
  | zeroLimit
  | limitExceeded (name : String)
  | invalidMagic
  | unsupportedVersion (version : UInt16)
  | unsupportedFlags (flags : UInt16)
  | truncated
  | integerOverflow (name : String)
  | trailingBytes
  | nonCanonical
  | duplicateComponent (component : Digest)
  | unknownComponent (component : Digest)
  | unknownInstanceScope (component : Digest)
  | duplicateInstance (scope : GraphInstanceScope) (node : GraphNodeId)
  | unknownInstanceNode (scope : GraphInstanceScope) (node : GraphNodeId)
  | notComponentInstance (scope : GraphInstanceScope) (node : GraphNodeId)
  | unsupportedInstanceVersion (scope : GraphInstanceScope) (node : GraphNodeId)
      (version : UInt16)
  | missingInstanceBinding (scope : GraphInstanceScope) (node : GraphNodeId)
  | instanceShapeMismatch (scope : GraphInstanceScope) (node : GraphNodeId) (aspect : String)
  | semanticContextMismatch (component : Digest)
  | dependencyCycle (component : Digest)
  | unknownInstancePort (endpoint : WireEndpoint)
  | placementOverflow (instanceNode componentNode : GraphNodeId)
  | component (error : GraphComponentError)
  | workspace (error : GraphWorkspaceWireError)
  deriving DecidableEq

def GraphHierarchyLimits.validate (limits : GraphHierarchyLimits) :
    Except GraphHierarchyError Unit :=
  failIf (limits.maximumHierarchyBytes = 0 ∨ limits.maximumComponents = 0 ∨
    limits.maximumInstanceBindings = 0 ∨ limits.maximumNestingDepth = 0 ∨
    limits.maximumExpandedInstances = 0 ∨ limits.maximumFlattenedNodes = 0 ∨
    limits.maximumFlattenedWires = 0) .zeroLimit

/-! ## Instance nodes -/

/-- `GRAPH_COMPONENT_INSTANCE_KIND` -/
def graphComponentInstanceKind : String := "alumina.component.instance"

def graphComponentInstanceVersion : UInt16 := 2

/-- `has_component_instance_name` -/
def NodeDefinition.isInstance (node : NodeDefinition) : Bool :=
  node.kind.name = graphComponentInstanceKind

section Instances

variable [Sha256] (component : GraphComponentDocument)

/-- `graph_component_instance_parameters` -/
def graphComponentInstanceParameters : Except GraphHierarchyError (List NodeParameter) :=
  (component.panelItems.filterMap fun item =>
    match item.binding with
    | .parameterControl node parameter => some (item, node, parameter)
    | _ => none).mapM fun (item, node, parameter) => do
      let value ← ((component.workspace.graph.node node).bind fun definition =>
        (definition.parameters.find? fun candidate => candidate.id = parameter).map
          NodeParameter.value).okOr .nonCanonical
      return ⟨item.id.get, item.name, value⟩

/-- The node-local parameter behind a promoted one (`graph_component_instance_parameter_target`). -/
def graphComponentInstanceParameterTarget (parameter : GraphFrontPanelItemId) :
    Option (GraphNodeId × UInt32) :=
  (component.panelItem parameter).bind fun item =>
    match item.binding with
    | .parameterControl node parameter => some (node, parameter)
    | _ => none

/-- Ports of an instance: inputs are numbered from one, outputs after them
(`component_instance_ports`). -/
def componentInstancePorts :
    Except GraphHierarchyError (List PortDefinition × List PortDefinition) := do
  failIf (component.inputs.length + component.outputs.length ≥ 2 ^ 32)
    (.integerOverflow "instance port count")
  let inputs ← component.inputs.zipIdx.mapM fun (input, index) => do
    let valueType ← (component.inputValueType input.id).okOr .nonCanonical
    return ⟨⟨.ofNat (index + 1)⟩, input.name, valueType⟩
  let outputs ← component.outputs.zipIdx.mapM fun (output, index) => do
    failIf (component.inputs.length + index + 1 ≥ 2 ^ 32) (.integerOverflow "instance output port")
    let valueType ← (component.outputValueType output.id).okOr .nonCanonical
    return ⟨⟨.ofNat (component.inputs.length + index + 1)⟩, output.name, valueType⟩
  return (inputs, outputs)

/-- `graph_component_instance_prototype` -/
def graphComponentInstancePrototype (label : String) :
    Except GraphHierarchyError GraphNodePrototype := do
  let (inputs, outputs) ← componentInstancePorts component
  let parameters ← graphComponentInstanceParameters component
  return ⟨⟨graphComponentInstanceKind, graphComponentInstanceVersion⟩, label, .hostExact, inputs,
    outputs, parameters⟩

/-- An instance node has the shape of its component; only labels and parameter values are its
own. -/
def validateInstanceNode (scope : GraphInstanceScope) (node : NodeDefinition) :
    Except GraphHierarchyError Unit := do
  let prototype ← graphComponentInstancePrototype component node.label
  failIf (node.kind ≠ prototype.kind) (.instanceShapeMismatch scope node.id "kind")
  failIf (node.domain ≠ prototype.domain) (.instanceShapeMismatch scope node.id "domain")
  failIf (node.inputs ≠ prototype.inputs) (.instanceShapeMismatch scope node.id "inputs")
  failIf (node.outputs ≠ prototype.outputs) (.instanceShapeMismatch scope node.id "outputs")
  failIf (node.parameters.length ≠ prototype.parameters.length ∨
    (node.parameters.zip prototype.parameters).any fun (actual, expected) =>
      actual.id ≠ expected.id ∨ actual.name ≠ expected.name ∨
        actual.value.valueType ≠ expected.value.valueType)
    (.instanceShapeMismatch scope node.id "parameters")

end Instances

/-! ## The library -/

/-- One component of a library, with its canonical bytes. -/
structure GraphHierarchyDependency [Sha256] where
  document : GraphComponentDocument
  encoding : CanonicalGraphComponentEncoding
  encoded : encodeGraphComponent document = .ok encoding

namespace GraphHierarchyDependency

variable [Sha256]

def tryNew (document : GraphComponentDocument) :
    Except GraphHierarchyError GraphHierarchyDependency :=
  match encoded : encodeGraphComponent document with
  | .ok encoding => .ok ⟨document, encoding, encoded⟩
  | .error error => .error (.component error)

def digest (dependency : GraphHierarchyDependency) : Digest := dependency.encoding.digest

def key (dependency : GraphHierarchyDependency) : List ℕ := digestKey dependency.digest

end GraphHierarchyDependency

/-- Sizes of an expansion: occurrences, nodes, wires and levels. -/
structure ComponentExpansion where
  instances : Nat
  nodes : Nat
  wires : Nat
  depth : Nat
  deriving DecidableEq

/-- Finished components, and those on the current path. -/
structure ExpansionState where
  memo : Digest → Option ComponentExpansion
  visiting : List Digest

/-- The fields of a hierarchy, before anything is known about them. -/
structure HierarchyTables [Sha256] where
  limits : GraphHierarchyLimits
  revision : UInt64
  root : GraphWorkspaceDocument
  dependencies : List GraphHierarchyDependency
  instances : List GraphComponentInstance

/-- `usize::checked_add` -/
def addCounts (a b : Nat) (name : String) : Except GraphHierarchyError Nat := do
  failIf (a + b ≥ 2 ^ 64) (.integerOverflow name)
  return a + b

/-- `usize::checked_sub` -/
def subCounts (a b : Nat) (name : String) : Except GraphHierarchyError Nat := do
  failIf (a < b) (.integerOverflow name)
  return a - b

namespace HierarchyTables

variable [Sha256] (tables : HierarchyTables)

/-- `dependency_by_digest` -/
def dependency (digest : Digest) : Option GraphHierarchyDependency :=
  (Table.binarySearch GraphHierarchyDependency.key (digestKey digest) tables.dependencies).bind
    (tables.dependencies[·]?)

def workspaceForScope : GraphInstanceScope → Except GraphHierarchyError GraphWorkspaceDocument
  | .root => .ok tables.root
  | .component component =>
    ((tables.dependency component).map fun dependency => dependency.document.workspace).okOr
      (.unknownInstanceScope component)

/-- The bindings of one scope. -/
def scopeInstances (scope : GraphInstanceScope) : List GraphComponentInstance :=
  tables.instances.filter fun binding => binding.scope = scope

def validateDependencyContext (dependency : GraphHierarchyDependency) :
    Except GraphHierarchyError Unit :=
  failIf (dependency.document.workspace.graph.schema.toSchemaTables ≠
      tables.root.graph.schema.toSchemaTables ∨
    dependency.document.workspace.graph.clocks ≠ tables.root.graph.clocks)
    (.semanticContextMismatch dependency.digest)

/-- One binding: its node is an instance node of its scope with the shape of its component. -/
def validateInstance (prior : Option (GraphInstanceScope × GraphNodeId))
    (binding : GraphComponentInstance) :
    Except GraphHierarchyError (Option (GraphInstanceScope × GraphNodeId)) := do
  failIf (binding.node = 0) (.unknownInstanceNode binding.scope binding.node)
  failIf (prior = some (binding.scope, binding.node))
    (.duplicateInstance binding.scope binding.node)
  let workspace ← tables.workspaceForScope binding.scope
  let node ← (workspace.graph.node binding.node).okOr
    (.unknownInstanceNode binding.scope binding.node)
  failIf (!node.isInstance) (.notComponentInstance binding.scope binding.node)
  failIf (node.kind.version ≠ graphComponentInstanceVersion)
    (.unsupportedInstanceVersion binding.scope binding.node node.kind.version)
  let dependency ← (tables.dependency binding.component).okOr
    (.unknownComponent binding.component)
  validateInstanceNode dependency.document binding.scope node
  return some (binding.scope, binding.node)

/-- Every instance node of a scope is bound (`validate_scope_placeholders`). -/
def validateScopePlaceholders (scope : GraphInstanceScope) (workspace : GraphWorkspaceDocument) :
    Except GraphHierarchyError Unit :=
  Except.forEach (fun node : NodeDefinition => do
    failIf (node.kind.version ≠ graphComponentInstanceVersion)
      (.unsupportedInstanceVersion scope node.id node.kind.version)
    failIf ((scope, node.id) ∉ tables.instances.map fun bound => (bound.scope, bound.node))
      (.missingInstanceBinding scope node.id))
    (workspace.graph.nodes.filter NodeDefinition.isInstance)

/-- Count a nested occurrence. -/
def addChild (expansion child : ComponentExpansion) :
    Except GraphHierarchyError ComponentExpansion := do
  let instances ← addCounts expansion.instances child.instances "expanded instance count"
  let nodes ← addCounts expansion.nodes child.nodes "component flattened node count"
  let wires ← addCounts expansion.wires child.wires "component flattened wire count"
  let depth ← addCounts child.depth 1 "nesting depth"
  return ⟨instances, nodes, wires, max expansion.depth depth⟩

/-- Size of a component's expansion, computed once for each component (`component_expansion`). The
path never repeats a component, so it is no longer than the library, which is what the first
argument counts down from. -/
def componentExpansion : Nat → Digest → ExpansionState →
    Except GraphHierarchyError (ComponentExpansion × ExpansionState)
  | 0, component, _ => .error (.dependencyCycle component)
  | steps + 1, component, state =>
    match state.memo component with
    | some expansion => .ok (expansion, state)
    | none => do
      failIf (component ∈ state.visiting) (.dependencyCycle component)
      let dependency ← (tables.dependency component).okOr (.unknownComponent component)
      let graph := dependency.document.workspace.graph
      let nested := tables.scopeInstances (.component component)
      let nodes ← subCounts graph.nodes.length nested.length "component flattened node count"
      let (expansion, state) ← nested.foldlM (fun (expansion, state) binding => do
        let (child, state) ← componentExpansion steps binding.component state
        return (← addChild expansion child, state))
        ((⟨1, nodes, graph.wires.length, 1⟩ : ComponentExpansion),
          { state with visiting := component :: state.visiting })
      return (expansion, ⟨Function.update state.memo component (some expansion),
        state.visiting.filter (· ≠ component)⟩)

/-- Expand every component of the library. -/
def expandLibrary : Except GraphHierarchyError ExpansionState :=
  tables.dependencies.foldlM (fun state dependency => do
    let (expansion, state) ← tables.componentExpansion (tables.dependencies.length + 1)
      dependency.digest state
    failIf (expansion.depth > tables.limits.maximumNestingDepth) (.limitExceeded "nesting depth")
    return state) ⟨fun _ => none, []⟩

/-- Occurrences, nodes and wires of the whole expansion. -/
structure FlattenedCounts where
  instances : Nat
  nodes : Nat
  wires : Nat
  deriving DecidableEq

def addRoot (memo : Digest → Option ComponentExpansion) (counts : FlattenedCounts)
    (binding : GraphComponentInstance) : Except GraphHierarchyError FlattenedCounts := do
  let expansion ← (memo binding.component).okOr (.unknownComponent binding.component)
  let instances ← addCounts counts.instances expansion.instances "expanded instance count"
  let nodes ← addCounts counts.nodes expansion.nodes "flattened node count"
  let wires ← addCounts counts.wires expansion.wires "flattened wire count"
  return ⟨instances, nodes, wires⟩

/-- The size of the expansion, within every limit that it will meet. -/
def flattenedCounts : Except GraphHierarchyError FlattenedCounts := do
  let expanded ← tables.expandLibrary
  let bindings := tables.scopeInstances .root
  let graph := tables.root.graph
  let nodes ← subCounts graph.nodes.length bindings.length "flattened node count"
  let counts ← bindings.foldlM (addRoot expanded.memo) ⟨0, nodes, graph.wires.length⟩
  failIf (counts.instances > tables.limits.maximumExpandedInstances)
    (.limitExceeded "expanded instance count")
  failIf (counts.nodes > tables.limits.maximumFlattenedNodes ∨
    counts.nodes > graph.schema.limits.maximumNodes ∨
    counts.nodes > tables.root.limits.maximumPlacements) (.limitExceeded "flattened node count")
  failIf (counts.wires > tables.limits.maximumFlattenedWires ∨
    counts.wires > graph.schema.limits.maximumWires) (.limitExceeded "flattened wire count")
  return counts

/-- `validate_hierarchy` -/
def validateHierarchy : Except GraphHierarchyError FlattenedCounts := do
  Except.forEach tables.validateDependencyContext tables.dependencies
  let _ ← tables.instances.foldlM tables.validateInstance none
  tables.validateScopePlaceholders .root tables.root
  Except.forEach (fun dependency : GraphHierarchyDependency =>
    tables.validateScopePlaceholders (.component dependency.digest) dependency.document.workspace)
    tables.dependencies
  tables.flattenedCounts

omit [Sha256] in
/-- The checks before anything is encoded. -/
def admitSizes (limits : GraphHierarchyLimits) (components instances : Nat) :
    Except GraphHierarchyError Unit := do
  limits.validate
  failIf (components > limits.maximumComponents) (.limitExceeded "component count")
  failIf (instances > limits.maximumInstanceBindings) (.limitExceeded "instance binding count")

/-- Components with equal digests are neighbours once sorted. -/
def validateDistinct : List GraphHierarchyDependency → Except GraphHierarchyError Unit
  | first :: second :: rest => do
    failIf (first.digest = second.digest) (.duplicateComponent first.digest)
    validateDistinct (second :: rest)
  | _ => .ok ()

/-- Every check of `GraphHierarchyDocument::try_new` on canonical tables. -/
def validate : Except GraphHierarchyError FlattenedCounts := do
  admitSizes tables.limits tables.dependencies.length tables.instances.length
  validateDistinct tables.dependencies
  tables.validateHierarchy

/-- Components by digest, bindings by scope and node. -/
def canonical : HierarchyTables :=
  { tables with
    dependencies := Table.sortByKey GraphHierarchyDependency.key tables.dependencies
    instances := Table.sortByKey GraphComponentInstance.key tables.instances }

/-- Tables in canonical order. -/
structure Canonical : Prop where
  dependencies : Table.Sorted GraphHierarchyDependency.key tables.dependencies
  instances : Table.Sorted GraphComponentInstance.key tables.instances

theorem canonical_canonical : tables.canonical.Canonical :=
  ⟨Table.sortByKey_sorted, Table.sortByKey_sorted⟩

end HierarchyTables

/-- Canonical hierarchy authoring document. -/
structure GraphHierarchyDocument [Sha256] extends HierarchyTables where
  rootDigest : Digest
  flattened : HierarchyTables.FlattenedCounts
  sorted : toHierarchyTables.Canonical
  valid : toHierarchyTables.validate = .ok flattened
  identified : (encodeGraphWorkspace root).map CanonicalGraphEncoding.digest = .ok rootDigest

namespace GraphHierarchyDocument

variable [Sha256]

/-- Validate and canonicalize one complete root, library and set of bindings. The limits are
checked before the components are encoded, and pass again with the rest. -/
def tryNew (limits : GraphHierarchyLimits) (revision : UInt64) (root : GraphWorkspaceDocument)
    (components : List GraphComponentDocument) (instances : List GraphComponentInstance) :
    Except GraphHierarchyError GraphHierarchyDocument := do
  HierarchyTables.admitSizes limits components.length instances.length
  match identified : (encodeGraphWorkspace root).map CanonicalGraphEncoding.digest with
  | .error error => .error (.workspace error)
  | .ok rootDigest => do
    let dependencies ← components.mapM GraphHierarchyDependency.tryNew
    let tables : HierarchyTables := ⟨limits, revision, root, dependencies, instances⟩
    match valid : tables.canonical.validate with
    | .error error => .error error
    | .ok flattened =>
      return ⟨tables.canonical, rootDigest, flattened, tables.canonical_canonical, valid,
        identified⟩

end GraphHierarchyDocument

end Alumina.Graph
