import Alumina.Graph.Hierarchy

/-!
# The canonical hierarchy encoding

Encoder of the `ALGH` envelope: the root's `ALGW` bytes, the `ALGC` bytes of each component, and the
bindings.
-/

namespace Alumina.Graph

open Codec
open Except (failIf)

/-- `b"ALGH"` -/
def graphHierarchyMagic : List UInt8 := [65, 76, 71, 72]

def graphHierarchyVersion : UInt16 := 3

def graphHierarchyFlags : UInt16 := 0

abbrev CanonicalGraphHierarchyEncoding := CanonicalGraphEncoding

abbrev HierarchyEncoded := Except GraphHierarchyError (List UInt8)

def GraphHierarchyLimits.values (limits : GraphHierarchyLimits) : List Nat :=
  [limits.maximumHierarchyBytes, limits.maximumComponents, limits.maximumInstanceBindings,
    limits.maximumNestingDepth, limits.maximumExpandedInstances, limits.maximumFlattenedNodes,
    limits.maximumFlattenedWires]

def encodeScope : GraphInstanceScope → List UInt8
  | .root => [0]
  | .component digest => 1 :: digest.val

def encodeInstance (binding : GraphComponentInstance) : HierarchyEncoded :=
  return encodeScope binding.scope ++ encodeId binding.node ++ binding.component.val

section Encode

variable [Sha256]

/-- A library component, whose retained bytes must still be its own. -/
def encodeHierarchyComponent (dependency : GraphHierarchyDependency) : HierarchyEncoded := do
  let encoding ← (encodeGraphComponent dependency.document).mapError .component
  failIf (encoding ≠ dependency.encoding) .nonCanonical
  Envelope.encodePrefixed (.integerOverflow "component length") encoding.bytes

/-- Encode one validated hierarchy and compute its content identity. -/
def encodeGraphHierarchy (document : GraphHierarchyDocument) :
    Except GraphHierarchyError CanonicalGraphHierarchyEncoding := do
  let root ← (encodeGraphWorkspace document.root).mapError .workspace
  failIf (root.digest ≠ document.rootDigest) .nonCanonical
  let limits ← Envelope.encodeLimits (.integerOverflow "limit value") document.limits.values
  let embedded ← Envelope.encodePrefixed (.integerOverflow "root workspace length") root.bytes
  let componentCount ← Envelope.encodeLength (.integerOverflow "component count")
    document.dependencies.length
  let components ← encodeAll encodeHierarchyComponent document.dependencies
  let instanceCount ← Envelope.encodeLength (.integerOverflow "instance count")
    document.instances.length
  let instances ← encodeAll encodeInstance document.instances
  let bytes := graphHierarchyMagic ++ encodeU16 graphHierarchyVersion ++
    encodeU16 graphHierarchyFlags ++ limits ++ encodeU64 document.revision ++ embedded ++
    componentCount ++ components ++ instanceCount ++ instances
  failIf (bytes.length > document.limits.maximumHierarchyBytes)
    (.limitExceeded "document byte length")
  return ⟨bytes, Sha256.sha256 bytes⟩

end Encode

end Alumina.Graph
