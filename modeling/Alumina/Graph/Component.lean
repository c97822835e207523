import Alumina.Graph.WorkspaceWire

/-!
# Graph components

A reusable component is a workspace with a connector pane of public inputs and outputs and a front
panel bound to them or to node parameters. `GraphComponentDocument.tryNew` sorts the three tables
and checks them against the workspace; the `ALGC` envelope embeds the workspace's `ALGW` bytes.
-/

namespace Alumina.Graph

open Codec
open Except (failIf)

/-! ## Limits, terminals and panel items -/

/-- Caller-owned and embedded bounds for one component package. -/
structure GraphComponentLimits where
  maximumComponentBytes : Nat
  maximumInputs : Nat
  maximumOutputs : Nat
  maximumPanelItems : Nat
  maximumPanelCoordinate : UInt32
  deriving DecidableEq, Repr

/-- Bounded first component-editor policy. -/
def GraphComponentLimits.interactive : GraphComponentLimits where
  maximumComponentBytes := 24 * 1024 * 1024
  maximumInputs := 128
  maximumOutputs := 128
  maximumPanelItems := 256
  maximumPanelCoordinate := 1000000

abbrev GraphComponentInputId := StableId .graphComponentInput
abbrev GraphComponentOutputId := StableId .graphComponentOutput
abbrev GraphFrontPanelItemId := StableId .graphFrontPanelItem

/-- One public input, mapped to an unowned internal input. -/
structure GraphComponentInput where
  id : GraphComponentInputId
  name : String
  target : WireEndpoint
  deriving DecidableEq

/-- One public output, mapped to an internal output. -/
structure GraphComponentOutput where
  id : GraphComponentOutputId
  name : String
  source : WireEndpoint
  deriving DecidableEq

/-- Presentation-only integer rectangle of a panel item. -/
structure GraphFrontPanelRect where
  x : Int32
  y : Int32
  width : UInt32
  height : UInt32
  deriving DecidableEq

/-- What a front-panel control or indicator is bound to. -/
inductive GraphFrontPanelBinding where
  | inputControl (input : GraphComponentInputId)
  | parameterControl (node : GraphNodeId) (parameter : UInt32)
  | outputIndicator (output : GraphComponentOutputId)
  deriving DecidableEq

structure GraphFrontPanelItem where
  id : GraphFrontPanelItemId
  name : String
  binding : GraphFrontPanelBinding
  rect : GraphFrontPanelRect
  deriving DecidableEq

/-- Rejection at the component authoring or canonical replay boundary. -/
inductive GraphComponentError where
  | zeroLimit
  | limitExceeded (name : String)
  | zeroComponentVersion
  | componentVersionRegression (current proposed : UInt32)
  | invalidMagic
  | unsupportedVersion (version : UInt16)
  | unsupportedFlags (flags : UInt16)
  | truncated
  | invalidUtf8 (name : String)
  | integerOverflow (name : String)
  | trailingBytes
  | nonCanonical
  | invalidName (kind : String)
  | zeroIdentifier (kind : String)
  | duplicateIdentifier (kind : String)
  | duplicateName (kind : String)
  | invalidIdentifierCursor (kind : String)
  | identifierExhausted (kind : String)
  | revisionOverflow
  | unknownInput (endpoint : WireEndpoint)
  | unknownOutput (endpoint : WireEndpoint)
  | connectedPublicInput (endpoint : WireEndpoint)
  | duplicateEndpoint (kind : String)
  | unknownComponentInput (input : GraphComponentInputId)
  | unknownComponentOutput (output : GraphComponentOutputId)
  | componentInputInUse (input : GraphComponentInputId)
  | componentOutputInUse (output : GraphComponentOutputId)
  | unknownNode (node : GraphNodeId)
  | unknownParameter (node : GraphNodeId) (parameter : UInt32)
  | unknownPanelItem (item : GraphFrontPanelItemId)
  | duplicatePanelBinding
  | invalidPanelRect (item : GraphFrontPanelItemId)
  | unsupportedBindingTag (tag : UInt8)
  | workspace (error : GraphWorkspaceWireError)
  deriving DecidableEq

def GraphComponentLimits.validate (limits : GraphComponentLimits) :
    Except GraphComponentError Unit :=
  failIf (limits.maximumComponentBytes = 0 ∨ limits.maximumInputs = 0 ∨
    limits.maximumOutputs = 0 ∨ limits.maximumPanelItems = 0 ∨
    limits.maximumPanelCoordinate = 0) .zeroLimit

/-! ## Checks -/

section Checks

variable [Sha256] (workspace : GraphWorkspaceDocument)

/-- `input_port` -/
def inputPort (endpoint : WireEndpoint) : Option PortDefinition :=
  (workspace.graph.node endpoint.node).bind fun node =>
    node.inputs.find? fun port => port.id = endpoint.port

/-- `output_port` -/
def outputPort (endpoint : WireEndpoint) : Option PortDefinition :=
  (workspace.graph.node endpoint.node).bind fun node =>
    node.outputs.find? fun port => port.id = endpoint.port

omit [Sha256] in
/-- A valid terminal name is new; the names of inputs and outputs are kept together. -/
def validateTerminalName (names : List String) (name : String) :
    Except GraphComponentError (List String) := do
  failIf (!validStableName name) (.invalidName "terminal")
  failIf (name ∈ names) (.duplicateName "terminal")
  return name :: names

/-- One public input: an internal input that no wire and no other public input owns. -/
def validateComponentInput (seen : List String × List WireEndpoint) (input : GraphComponentInput) :
    Except GraphComponentError (List String × List WireEndpoint) := do
  let names ← validateTerminalName seen.1 input.name
  failIf (inputPort workspace input.target).isNone (.unknownInput input.target)
  failIf (workspace.graph.wires.any fun wire => wire.target = input.target)
    (.connectedPublicInput input.target)
  failIf (input.target ∈ seen.2) (.duplicateEndpoint "public input")
  return (names, input.target :: seen.2)

/-- One public output: an internal output that no other public output names. -/
def validateComponentOutput (seen : List String × List WireEndpoint)
    (output : GraphComponentOutput) :
    Except GraphComponentError (List String × List WireEndpoint) := do
  let names ← validateTerminalName seen.1 output.name
  failIf (outputPort workspace output.source).isNone (.unknownOutput output.source)
  failIf (output.source ∈ seen.2) (.duplicateEndpoint "public output")
  return (names, output.source :: seen.2)

def validateBinding (inputs : List GraphComponentInput) (outputs : List GraphComponentOutput) :
    GraphFrontPanelBinding → Except GraphComponentError Unit
  | .inputControl input =>
    failIf (Table.binarySearch GraphComponentInput.id input inputs).isNone
      (.unknownComponentInput input)
  | .parameterControl node parameter => do
    let definition ← (workspace.graph.node node).okOr (.unknownNode node)
    failIf (parameter = 0 ∨ ¬ definition.parameters.any fun candidate => candidate.id = parameter)
      (.unknownParameter node parameter)
  | .outputIndicator output =>
    failIf (Table.binarySearch GraphComponentOutput.id output outputs).isNone
      (.unknownComponentOutput output)

omit [Sha256] in
/-- A rectangle has a nonnegative origin, a positive extent and edges within policy, computed
without wrapping around. -/
def validatePanelRect (item : GraphFrontPanelItemId) (rect : GraphFrontPanelRect)
    (limits : GraphComponentLimits) : Except GraphComponentError Unit := do
  failIf (rect.x.toInt < 0) (.invalidPanelRect item)
  failIf (rect.y.toInt < 0) (.invalidPanelRect item)
  let right := rect.x.toInt.toNat + rect.width.toNat
  failIf (right ≥ 2 ^ 32) (.invalidPanelRect item)
  let bottom := rect.y.toInt.toNat + rect.height.toNat
  failIf (bottom ≥ 2 ^ 32) (.invalidPanelRect item)
  failIf (rect.width = 0 ∨ rect.height = 0 ∨ right > limits.maximumPanelCoordinate.toNat ∨
    bottom > limits.maximumPanelCoordinate.toNat) (.invalidPanelRect item)

/-- One panel item; names and bindings are not repeated. -/
def validatePanelItem (inputs : List GraphComponentInput) (outputs : List GraphComponentOutput)
    (limits : GraphComponentLimits) (seen : List String × List GraphFrontPanelBinding)
    (item : GraphFrontPanelItem) :
    Except GraphComponentError (List String × List GraphFrontPanelBinding) := do
  failIf (!validStableName item.name) (.invalidName "front-panel item")
  failIf (item.name ∈ seen.1) (.duplicateName "front-panel item")
  failIf (item.binding ∈ seen.2) .duplicatePanelBinding
  validateBinding workspace inputs outputs item.binding
  validatePanelRect item.id item.rect limits
  return (item.name :: seen.1, item.binding :: seen.2)

def validateComponentShape (inputs : List GraphComponentInput)
    (outputs : List GraphComponentOutput) (panelItems : List GraphFrontPanelItem)
    (limits : GraphComponentLimits) : Except GraphComponentError Unit := do
  let (names, _) ← Table.walk (.zeroIdentifier "public input") (.duplicateIdentifier "public input")
    GraphComponentInput.id (validateComponentInput workspace) none ([], []) inputs
  let _ ← Table.walk (.zeroIdentifier "public output") (.duplicateIdentifier "public output")
    GraphComponentOutput.id (validateComponentOutput workspace) none (names, []) outputs
  let _ ← Table.walk (.zeroIdentifier "front-panel item") (.duplicateIdentifier "front-panel item")
    GraphFrontPanelItem.id (validatePanelItem workspace inputs outputs limits) none ([], [])
    panelItems

end Checks

/-- `validate_identity_cursor`, which makes the same checks as that of a workspace. -/
def validateComponentCursor (cursor : UInt64) (retained : List UInt64) (kind : String) :
    Except GraphComponentError Unit :=
  (validateIdentityCursor cursor retained kind).mapError fun _ => .invalidIdentifierCursor kind

/-! ## Components -/

/-- The fields of a component, before anything is known about them. -/
structure ComponentTables [Sha256] where
  limits : GraphComponentLimits
  revision : UInt64
  componentVersion : UInt32
  name : String
  nextInputId : UInt64
  nextOutputId : UInt64
  nextPanelItemId : UInt64
  workspace : GraphWorkspaceDocument
  inputs : List GraphComponentInput
  outputs : List GraphComponentOutput
  panelItems : List GraphFrontPanelItem

namespace ComponentTables

variable [Sha256] (tables : ComponentTables)

/-- Every check of `GraphComponentDocument::try_new` but the encoding of the workspace; the counts
do not depend on the order of the tables. -/
def validate : Except GraphComponentError Unit := do
  tables.limits.validate
  failIf (tables.componentVersion = 0) .zeroComponentVersion
  failIf (!validStableName tables.name) (.invalidName "component")
  failIf (tables.inputs.length > tables.limits.maximumInputs) (.limitExceeded "public input count")
  failIf (tables.outputs.length > tables.limits.maximumOutputs)
    (.limitExceeded "public output count")
  failIf (tables.panelItems.length > tables.limits.maximumPanelItems)
    (.limitExceeded "front-panel item count")
  validateComponentShape tables.workspace tables.inputs tables.outputs tables.panelItems
    tables.limits
  validateComponentCursor tables.nextInputId
    (tables.inputs.map fun input => input.id.get.toUInt64) "public input"
  validateComponentCursor tables.nextOutputId
    (tables.outputs.map fun output => output.id.get.toUInt64) "public output"
  validateComponentCursor tables.nextPanelItemId
    (tables.panelItems.map fun item => item.id.get.toUInt64) "front-panel item"

/-- Terminals and panel items in identity order. -/
def canonical : ComponentTables :=
  { tables with
    inputs := Table.sortByKey GraphComponentInput.id tables.inputs
    outputs := Table.sortByKey GraphComponentOutput.id tables.outputs
    panelItems := Table.sortByKey GraphFrontPanelItem.id tables.panelItems }

/-- Tables in identity order. -/
structure Canonical : Prop where
  inputs : Table.Sorted GraphComponentInput.id tables.inputs
  outputs : Table.Sorted GraphComponentOutput.id tables.outputs
  panelItems : Table.Sorted GraphFrontPanelItem.id tables.panelItems

theorem canonical_canonical : tables.canonical.Canonical :=
  ⟨Table.sortByKey_sorted, Table.sortByKey_sorted, Table.sortByKey_sorted⟩

end ComponentTables

/-- Canonical reusable component document. -/
structure GraphComponentDocument [Sha256] extends ComponentTables where
  workspaceDigest : Digest
  sorted : toComponentTables.Canonical
  valid : toComponentTables.validate = .ok ()
  identified : (encodeGraphWorkspace workspace).map CanonicalGraphEncoding.digest =
    .ok workspaceDigest

namespace GraphComponentDocument

variable [Sha256]

/-- Validate and canonicalize one complete component. -/
def tryNew (tables : ComponentTables) : Except GraphComponentError GraphComponentDocument := do
  let ⟨valid⟩ ← tables.canonical.validate.attest
  match identified : (encodeGraphWorkspace tables.workspace).map CanonicalGraphEncoding.digest with
  | .ok workspaceDigest =>
    return ⟨tables.canonical, workspaceDigest, tables.canonical_canonical, valid, identified⟩
  | .error error => .error (.workspace error)

variable (component : GraphComponentDocument)

def input (id : GraphComponentInputId) : Option GraphComponentInput :=
  (Table.binarySearch GraphComponentInput.id id component.inputs).bind (component.inputs[·]?)

def output (id : GraphComponentOutputId) : Option GraphComponentOutput :=
  (Table.binarySearch GraphComponentOutput.id id component.outputs).bind (component.outputs[·]?)

def panelItem (id : GraphFrontPanelItemId) : Option GraphFrontPanelItem :=
  (Table.binarySearch GraphFrontPanelItem.id id component.panelItems).bind
    (component.panelItems[·]?)

/-- The exact type supplied to one public input. -/
def inputValueType (id : GraphComponentInputId) : Option GraphTypeId :=
  (component.input id).bind fun input =>
    (inputPort component.workspace input.target).map PortDefinition.valueType

/-- The exact type produced by one public output. -/
def outputValueType (id : GraphComponentOutputId) : Option GraphTypeId :=
  (component.output id).bind fun output =>
    (outputPort component.workspace output.source).map PortDefinition.valueType

end GraphComponentDocument

/-! ## Encoding -/

/-- `b"ALGC"` -/
def graphComponentMagic : List UInt8 := [65, 76, 71, 67]

def graphComponentVersion : UInt16 := 1

def graphComponentFlags : UInt16 := 0

abbrev CanonicalGraphComponentEncoding := CanonicalGraphEncoding

abbrev ComponentEncoded := Except GraphComponentError (List UInt8)

def GraphComponentLimits.values (limits : GraphComponentLimits) : List Nat :=
  [limits.maximumComponentBytes, limits.maximumInputs, limits.maximumOutputs,
    limits.maximumPanelItems, limits.maximumPanelCoordinate.toNat]

/-- `Encoder::string` -/
def encodeComponentText (value name : String) : ComponentEncoded := do
  failIf (value.utf8ByteSize ≥ 2 ^ 16) (.integerOverflow name)
  return leBytes 2 value.utf8ByteSize ++ utf8Bytes value

def encodeBinding : GraphFrontPanelBinding → List UInt8
  | .inputControl input => 1 :: encodeId input
  | .parameterControl node parameter => 2 :: encodeId node ++ encodeU32 parameter
  | .outputIndicator output => 3 :: encodeId output

def encodeComponentInput (input : GraphComponentInput) : ComponentEncoded := do
  let name ← encodeComponentText input.name "public input name"
  return encodeId input.id ++ name ++ encodeEndpoint input.target

def encodeComponentOutput (output : GraphComponentOutput) : ComponentEncoded := do
  let name ← encodeComponentText output.name "public output name"
  return encodeId output.id ++ name ++ encodeEndpoint output.source

def encodePanelItem (item : GraphFrontPanelItem) : ComponentEncoded := do
  let name ← encodeComponentText item.name "front-panel item name"
  return encodeId item.id ++ name ++ encodeBinding item.binding ++
    Envelope.encodeI32 item.rect.x ++ Envelope.encodeI32 item.rect.y ++
    encodeU32 item.rect.width ++ encodeU32 item.rect.height

/-- The fields between the limits and the embedded workspace. -/
def encodeComponentIdentity [Sha256] (document : ComponentTables) : ComponentEncoded := do
  let name ← encodeComponentText document.name "component name"
  return encodeU64 document.revision ++ encodeU32 document.componentVersion ++ name ++
    encodeU64 document.nextInputId ++ encodeU64 document.nextOutputId ++
    encodeU64 document.nextPanelItemId

/-- A table behind its count. -/
def encodeTable {α : Type} (name : String) (encode : α → ComponentEncoded) (entries : List α) :
    ComponentEncoded := do
  let count ← Envelope.encodeLength (.integerOverflow name) entries.length
  let entries ← encodeAll encode entries
  return count ++ entries

/-- Encode one validated component and compute its content identity. -/
def encodeGraphComponent [Sha256] (document : GraphComponentDocument) :
    Except GraphComponentError CanonicalGraphComponentEncoding := do
  let workspace ← (encodeGraphWorkspace document.workspace).mapError .workspace
  failIf (workspace.digest ≠ document.workspaceDigest) .nonCanonical
  let limits ← Envelope.encodeLimits (.integerOverflow "limit value") document.limits.values
  let identity ← encodeComponentIdentity document.toComponentTables
  let embedded ← Envelope.encodePrefixed (.integerOverflow "embedded workspace length")
    workspace.bytes
  let inputs ← encodeTable "public input count" encodeComponentInput document.inputs
  let outputs ← encodeTable "public output count" encodeComponentOutput document.outputs
  let panelItems ← encodeTable "front-panel item count" encodePanelItem document.panelItems
  let bytes := graphComponentMagic ++ encodeU16 graphComponentVersion ++
    encodeU16 graphComponentFlags ++ limits ++ identity ++ embedded ++ inputs ++ outputs ++
    panelItems
  failIf (bytes.length > document.limits.maximumComponentBytes)
    (.limitExceeded "document byte length")
  return ⟨bytes, Sha256.sha256 bytes⟩

end Alumina.Graph
