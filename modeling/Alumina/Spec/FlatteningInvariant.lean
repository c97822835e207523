import Alumina.Spec.FlatteningStep

/-!
# The state of a flattening represents a partial expansion

The workspace of a flattening represents a partial expansion of the hierarchy at every moment: its
nodes are the nodes of the opened occurrences that are not opened themselves, and each wire of an
opened occurrence joins the nodes that its terminals resolve to. Replacing one instance opens one
more path.

Key result:
- `Represents.replaced`: one replacement opens one path
-/

namespace Alumina.Graph

open Except (failIf)
open Expansion

/-! ## Origins -/

/-- The origin record of a wire of an occurrence. -/
def wireOriginAt (path : List GraphNodeId) :
    GraphInstanceScope → GraphWireId → GraphHierarchyWireOrigin
  | .root, wire => .root wire
  | .component digest, wire => .component path digest wire

/-- The origin record of a node of an occurrence. -/
def nodeOriginAt (path : List GraphNodeId) :
    GraphInstanceScope → GraphNodeId → GraphHierarchyNodeOrigin
  | .root, node => .root node
  | .component digest, node => .component path digest node

/-- A wire of an occurrence. -/
structure WirePlace where
  path : List GraphNodeId
  wire : WireDefinition
  deriving DecidableEq

/-- The entry behind a key of a list of pairs. -/
def placeOf (tagged : List (WireDefinition × WirePlace)) (wire : WireDefinition) : WirePlace :=
  ((Table.lookup Prod.fst wire tagged).map Prod.snd).getD ⟨[], wire⟩

theorem placeOf_of_mem {tagged : List (WireDefinition × WirePlace)}
    (hnodup : (tagged.map Prod.fst).Nodup) {entry : WireDefinition × WirePlace}
    (h : entry ∈ tagged) : placeOf tagged entry.1 = entry.2 := by
  rw [placeOf, Table.lookup_of_mem hnodup h]
  rfl

section Representation

variable [Sha256] (hierarchy : GraphHierarchyDocument)

namespace GraphHierarchyDocument

/-- The component of an occurrence, or the root. -/
def scopeAt (path : List GraphNodeId) : GraphInstanceScope :=
  ((hierarchy.blocks.blockAt path).map GraphOccurrence.scope).getD .root

variable {hierarchy} in
theorem scopeAt_eq {path : List GraphNodeId} {occurrence : GraphOccurrence}
    (h : hierarchy.blocks.blockAt path = some occurrence) :
    hierarchy.scopeAt path = occurrence.scope := by
  rw [scopeAt, h]
  rfl

end GraphHierarchyDocument

/-- The wire origin that is recorded for a wire of an occurrence. -/
def WirePlace.origin (place : WirePlace) : GraphHierarchyWireOrigin :=
  wireOriginAt place.path (hierarchy.scopeAt place.path) place.wire.id

/-- The node origin that is recorded for a node of an occurrence. -/
def placeOrigin (place : Place GraphNodeId) : GraphHierarchyNodeOrigin :=
  nodeOriginAt place.path (hierarchy.scopeAt place.path) place.node

/-- An endpoint of a wire of an occurrence leads to an endpoint of the workspace. -/
def Leads (inner : GraphOccurrence → GraphPortId → Option (GraphNodeId × GraphPortId))
    (opened : Set (List GraphNodeId)) (placed : List (NodeDefinition × Place GraphNodeId))
    (path : List GraphNodeId) (inside endpoint : WireEndpoint) : Prop :=
  ∃ entry ∈ placed, entry.1.id = endpoint.node ∧
    Blocks.Resolves hierarchy.blocks inner opened (⟨path, inside.node⟩, inside.port)
      (entry.2, endpoint.port)

/-- The workspace represents a partial expansion: `placed` says which node of which occurrence each
node is, `tagged` which wire of which occurrence each wire is. -/
structure Represents (opened : Set (List GraphNodeId))
    (placed : List (NodeDefinition × Place GraphNodeId))
    (tagged : List (WireDefinition × WirePlace)) (state : FlattenState) : Prop where
  isOpened : hierarchy.blocks.Opened opened
  schema : state.workspace.graph.schema = hierarchy.root.graph.schema
  clocks : state.workspace.graph.clocks = hierarchy.root.graph.clocks
  nodes : state.workspace.graph.nodes = placed.map Prod.fst
  wires : state.workspace.graph.wires = tagged.map Prod.fst
  places_nodup : (placed.map Prod.snd).Nodup
  mem_places : ∀ place, place ∈ placed.map Prod.snd ↔ place ∈ hierarchy.blocks.places opened
  definition : ∀ entry ∈ placed, ∃ occurrence definition,
    hierarchy.blocks.blockAt entry.2.path = some occurrence ∧
      definition ∈ occurrence.nodes hierarchy ∧ definition.id = entry.2.node ∧
      entry.1 = definition.withId entry.1.id
  tags_nodup : (tagged.map Prod.snd).Nodup
  mem_tags : ∀ place : WirePlace, place ∈ tagged.map Prod.snd ↔ place.path ∈ opened ∧
    ∃ occurrence, hierarchy.blocks.blockAt place.path = some occurrence ∧
      place.wire ∈ occurrence.wires hierarchy
  source : ∀ entry ∈ tagged, Leads hierarchy GraphOccurrence.output opened placed entry.2.path
    entry.2.wire.source entry.1.source
  target : ∀ entry ∈ tagged, Leads hierarchy GraphOccurrence.input opened placed entry.2.path
    entry.2.wire.target entry.1.target
  origins : state.wireOrigins.Perm (tagged.map fun entry =>
    (entry.1.id, entry.2.origin hierarchy))

variable {hierarchy} {opened : Set (List GraphNodeId)}
  {placed : List (NodeDefinition × Place GraphNodeId)} {tagged : List (WireDefinition × WirePlace)}
  {state : FlattenState}

namespace Represents

section Entries

variable (h : Represents hierarchy opened placed tagged state)
include h

theorem ids_nodup : (placed.map fun entry => entry.1.id).Nodup := by
  have hnodup := state.workspace.graph.nodes_nodup
  rw [h.nodes, List.map_map] at hnodup
  exact hnodup

theorem entry_eq_of_id {entry other : NodeDefinition × Place GraphNodeId} (hentry : entry ∈ placed)
    (hother : other ∈ placed) (heq : entry.1.id = other.1.id) : entry = other :=
  List.inj_on_of_nodup_map h.ids_nodup hentry hother heq

theorem entry_eq_of_place {entry other : NodeDefinition × Place GraphNodeId}
    (hentry : entry ∈ placed) (hother : other ∈ placed) (heq : entry.2 = other.2) :
    entry = other :=
  List.inj_on_of_nodup_map h.places_nodup hentry hother heq

theorem wireIds_nodup : (tagged.map fun entry => entry.1.id).Nodup := by
  have hnodup := state.workspace.graph.wires_nodup
  rw [h.wires, List.map_map] at hnodup
  exact hnodup

theorem tagged_nodup : (tagged.map Prod.fst).Nodup := by
  refine List.Nodup.of_map WireDefinition.id ?_
  rw [List.map_map]
  exact h.wireIds_nodup

/-- The place of a wire is the one its recorded origin names. -/
theorem origin_of_mem {wire : WireDefinition} {origin : GraphHierarchyWireOrigin}
    (hwire : wire ∈ state.workspace.graph.wires) (hmem : (wire.id, origin) ∈ state.wireOrigins) :
    (placeOf tagged wire).origin hierarchy = origin := by
  rw [h.wires] at hwire
  obtain ⟨entry, hentry, rfl⟩ := List.mem_map.1 hwire
  obtain ⟨other, hother, heq⟩ := List.mem_map.1 (h.origins.mem_iff.1 hmem)
  rw [Prod.mk.injEq] at heq
  obtain rfl := List.inj_on_of_nodup_map h.wireIds_nodup hother hentry heq.1
  rw [placeOf_of_mem h.tagged_nodup hother]
  exact heq.2

/-- The node at a place is the node of the occurrence, under its own identity. -/
theorem definition_of_child {node : NodeDefinition} {place : Place GraphNodeId} {digest : Digest}
    {document : GraphComponentDocument} {parameters : List NodeParameter}
    (hmem : (node, place) ∈ placed)
    (hblock : hierarchy.blocks.blockAt place.below =
      some (.component digest document parameters)) : node.parameters = parameters := by
  obtain ⟨occurrence, definition, hoccurrence, hdefinition, hid, heq⟩ := h.definition _ hmem
  rw [Blocks.blockAt_below, hoccurrence] at hblock
  have hchild : occurrence.child hierarchy place.node =
    some (.component digest document parameters) := hblock
  simp only [GraphOccurrence.child, Option.bind_eq_bind, Option.bind_eq_some_iff] at hchild
  obtain ⟨_, _, _, _, found, hfound, hcomponent⟩ := hchild
  have hlookup := Table.lookup_of_mem GraphOccurrence.nodes_nodup hdefinition
  rw [hid, hfound] at hlookup
  obtain rfl := Option.some.inj hlookup
  have hparameters := Option.some.inj hcomponent
  rw [GraphOccurrence.component.injEq] at hparameters
  have hnode : node.parameters = (found.withId node.id).parameters :=
    congrArg NodeDefinition.parameters heq
  exact hnode.trans hparameters.2.2

end Entries

end Represents

/-! ## One replacement -/

/-- The nodes after one replacement. -/
def placedAfter (placed : List (NodeDefinition × Place GraphNodeId)) (instanceNode : GraphNodeId)
    (path : List GraphNodeId) (nodes : List NodeDefinition) (fresh : GraphNodeId → GraphNodeId) :
    List (NodeDefinition × Place GraphNodeId) :=
  placed.filter (fun entry => entry.1.id ≠ instanceNode) ++
    nodes.map fun node => (node.withId (fresh node.id), ⟨path, node.id⟩)

/-- The wires after one replacement. -/
def taggedAfter (tagged : List (WireDefinition × WirePlace)) (instanceNode : GraphNodeId)
    (path : List GraphNodeId) (copied : List (WireDefinition × WireDefinition))
    (moved : List ((WireDefinition × GraphHierarchyWireOrigin) × WireDefinition)) :
    List (WireDefinition × WirePlace) :=
  tagged.filter (fun entry => !entry.1.touches instanceNode) ++
    copied.map (fun entry => (entry.2, ⟨path, entry.1⟩)) ++
    moved.map fun entry => (entry.2, placeOf tagged entry.1.1)

section Replacement

variable {after : FlattenState} {instanceNode : GraphNodeId} {digest : Digest}
  {document : GraphComponentDocument} {nodeMap : EntryMap GraphNodeId GraphNodeId}
  {node : NodeDefinition} {fresh : GraphNodeId → GraphNodeId} {place : Place GraphNodeId}
  {parameters : List NodeParameter}
  {copied : List (WireDefinition × WireDefinition)}
  {moved : List ((WireDefinition × GraphHierarchyWireOrigin) × WireDefinition)}

namespace Represents

variable (h : Represents hierarchy opened placed tagged state)
  (hmem : (node, place) ∈ placed)
  (hblock : hierarchy.blocks.blockAt place.below = some (.component digest document parameters))
include h hmem

theorem place_mem : place ∈ hierarchy.blocks.places opened :=
  (h.mem_places place).1 (List.mem_map_of_mem hmem)

/-- Only the instance node has its place. -/
theorem ne_place_iff {entry : NodeDefinition × Place GraphNodeId} (hentry : entry ∈ placed) :
    entry.1.id ≠ node.id ↔ entry.2 ≠ place := by
  rw [not_iff_not]
  constructor
  · intro heq
    exact congrArg Prod.snd (h.entry_eq_of_id hentry hmem heq)
  · intro heq
    exact congrArg (fun entry => entry.1.id) (h.entry_eq_of_place hentry hmem heq)

theorem mem_placedAfter {nodes : List NodeDefinition} {entry : NodeDefinition × Place GraphNodeId} :
    entry ∈ placedAfter placed node.id place.below nodes fresh ↔
      (entry ∈ placed ∧ entry.2 ≠ place) ∨
        ∃ own ∈ nodes, entry = (own.withId (fresh own.id), ⟨place.below, own.id⟩) := by
  rw [placedAfter, List.mem_append, List.mem_filter, List.mem_map, decide_eq_true_eq]
  constructor
  · rintro (⟨hentry, hne⟩ | ⟨own, hown, rfl⟩)
    · exact .inl ⟨hentry, (h.ne_place_iff hmem hentry).1 hne⟩
    · exact .inr ⟨own, hown, rfl⟩
  · rintro (⟨hentry, hne⟩ | ⟨own, hown, rfl⟩)
    · exact .inl ⟨hentry, (h.ne_place_iff hmem hentry).2 hne⟩
    · exact .inr ⟨own, hown, rfl⟩

theorem places_nodup_after : ((placedAfter placed node.id place.below
    (configuredNodes document parameters) fresh).map Prod.snd).Nodup := by
  rw [placedAfter, List.map_append, List.map_map]
  refine List.Nodup.append ?_ ?_ ?_
  · exact h.places_nodup.sublist (List.filter_sublist.map Prod.snd)
  · have hnodup : ((configuredNodes document parameters).map NodeDefinition.id).Nodup := by
      rw [configuredNodes_map_id]
      exact GraphDocument.nodes_nodup _
    have hplaces := hnodup.map (f := fun id => (⟨place.below, id⟩ : Place GraphNodeId))
      fun _ _ heq => congrArg Place.node heq
    rwa [List.map_map] at hplaces
  · intro other hold hnew
    obtain ⟨own, _, rfl⟩ := List.mem_map.1 hnew
    obtain ⟨entry, hentry, heq⟩ := List.mem_map.1 hold
    have hplace := (h.mem_places entry.2).1 (List.mem_map_of_mem (List.mem_of_mem_filter hentry))
    rw [heq] at hplace
    exact (h.place_mem hmem).2.1 hplace.1

include hblock

theorem mem_places_after (place' : Place GraphNodeId) :
    place' ∈ (placedAfter placed node.id place.below (configuredNodes document parameters)
      fresh).map Prod.snd ↔ place' ∈ hierarchy.blocks.places (insert place.below opened) := by
  rw [Blocks.places_insert h.isOpened (h.place_mem hmem) hblock, List.mem_map]
  constructor
  · rintro ⟨entry, hentry, rfl⟩
    rcases (h.mem_placedAfter hmem).1 hentry with ⟨hold, hne⟩ | ⟨own, hown, rfl⟩
    · exact .inl ⟨(h.mem_places entry.2).1 (List.mem_map_of_mem hold), hne⟩
    · have hid : own.id ∈ (configuredNodes document parameters).map NodeDefinition.id :=
        List.mem_map_of_mem hown
      exact .inr ⟨rfl, hid⟩
  · rintro (⟨hold, hne⟩ | ⟨hpath, hnode⟩)
    · obtain ⟨entry, hentry, rfl⟩ := List.mem_map.1 ((h.mem_places place').2 hold)
      exact ⟨entry, (h.mem_placedAfter hmem).2 (.inl ⟨hentry, hne⟩), rfl⟩
    · obtain ⟨own, hown, hid⟩ := List.mem_map.1 hnode
      refine ⟨_, (h.mem_placedAfter hmem).2 (.inr ⟨own, hown, rfl⟩), ?_⟩
      exact Place.ext hpath.symm hid

theorem definition_after {entry : NodeDefinition × Place GraphNodeId}
    (hentry : entry ∈ placedAfter placed node.id place.below (configuredNodes document parameters)
      fresh) : ∃ occurrence definition,
      hierarchy.blocks.blockAt entry.2.path = some occurrence ∧
        definition ∈ occurrence.nodes hierarchy ∧ definition.id = entry.2.node ∧
        entry.1 = definition.withId entry.1.id := by
  rcases (h.mem_placedAfter hmem).1 hentry with ⟨hold, _⟩ | ⟨own, hown, rfl⟩
  · exact h.definition entry hold
  · exact ⟨_, own, hblock, hown, rfl, rfl⟩

end Represents

/-! ### Endpoints -/

section Endpoints

variable {inner : GraphOccurrence → GraphPortId → Option (GraphNodeId × GraphPortId)}
  {terminal : GraphPortId → Option WireEndpoint} {path : List GraphNodeId}
  {inside old new : WireEndpoint}

omit [Sha256] in
/-- The copy of a node of the component is in the workspace. -/
theorem exists_copy {nodes : List NodeDefinition}
    (hmapped : ∀ id, EntryMap.get nodeMap id =
      if id ∈ nodes.map NodeDefinition.id then some (fresh id) else none)
    (hcopy : CopyOf nodeMap inside new) :
    ∃ own ∈ nodes, own.id = inside.node ∧ fresh own.id = new.node := by
  have hget := hcopy.1
  rw [hmapped] at hget
  split at hget
  case isTrue hmem =>
    obtain ⟨own, hown, heq⟩ := List.mem_map.1 hmem
    exact ⟨own, hown, heq, by rw [heq]; exact Option.some.inj hget⟩
  case isFalse => cases hget

namespace Represents

variable (h : Represents hierarchy opened placed tagged state)
  (hmem : (node, place) ∈ placed)
  (hmapped : ∀ id, EntryMap.get nodeMap id =
    if id ∈ (configuredNodes document parameters).map NodeDefinition.id then some (fresh id)
    else none)
include h hmem

/-- An endpoint elsewhere stays where it is. -/
theorem leads_kept (hleads : Leads hierarchy inner opened placed path inside old)
    (hne : old.node ≠ node.id) :
    Leads hierarchy inner (insert place.below opened) (placedAfter placed node.id place.below
      (configuredNodes document parameters) fresh) path inside old := by
  obtain ⟨entry, hentry, hid, hresolves⟩ := hleads
  rw [← hid] at hne
  have hplace := (h.ne_place_iff hmem hentry).1 hne
  refine ⟨entry, (h.mem_placedAfter hmem).2 (.inl ⟨hentry, hplace⟩), hid, ?_⟩
  exact (hresolves.insert h.isOpened (h.place_mem hmem).2.1).1 fun heq =>
    hplace (Place.below_injective heq)

include hmapped

/-- An endpoint inside the component is at the copy of its node. -/
theorem leads_copied (hcopy : CopyOf nodeMap inside new) :
    Leads hierarchy inner (insert place.below opened) (placedAfter placed node.id place.below
      (configuredNodes document parameters) fresh) place.below inside new := by
  obtain ⟨own, hown, hid, hfresh⟩ := exists_copy hmapped hcopy
  refine ⟨_, (h.mem_placedAfter hmem).2 (.inr ⟨own, hown, rfl⟩), hfresh, ?_⟩
  rw [hid, hcopy.2]
  exact .here (h.isOpened.concat_notMem (h.place_mem hmem).2.1 inside.node)

/-- An endpoint at the instance moves to the copy of the node behind its terminal. -/
theorem leads_moved
    (hblock : hierarchy.blocks.blockAt place.below =
      some (.component digest document parameters))
    (hinner : ∀ port, inner (.component digest document parameters) port =
      (terminal port).map fun endpoint => (endpoint.node, endpoint.port))
    (hleads : Leads hierarchy inner opened placed path inside old)
    (hnew : Reconnected terminal node.id nodeMap old new) :
    Leads hierarchy inner (insert place.below opened) (placedAfter placed node.id place.below
      (configuredNodes document parameters) fresh) path inside new := by
  unfold Reconnected at hnew
  split at hnew
  case isFalse hne =>
    subst hnew
    exact h.leads_kept hmem hleads hne
  case isTrue heq =>
    obtain ⟨target, htarget, hcopy⟩ := hnew
    obtain ⟨entry, hentry, hid, hresolves⟩ := hleads
    obtain rfl := h.entry_eq_of_id hentry hmem (hid.trans heq)
    obtain ⟨own, hown, hown_id, hfresh⟩ := exists_copy hmapped hcopy
    refine ⟨_, (h.mem_placedAfter hmem).2 (.inr ⟨own, hown, rfl⟩), hfresh, ?_⟩
    rw [hown_id, hcopy.2]
    refine (hresolves.insert h.isOpened (h.place_mem hmem).2.1).2 _ _ _ rfl hblock ?_
    rw [hinner, htarget]
    rfl

end Represents

end Endpoints

/-! ### Wires -/

/-- The detached wires were in the workspace. -/
theorem Replaced.moved_mem {path : List GraphNodeId} {definition : NodeDefinition}
    (h : Replaced state after instanceNode digest path document nodeMap definition fresh copied
      moved)
    {entry : (WireDefinition × GraphHierarchyWireOrigin) × WireDefinition}
    (hentry : entry ∈ moved) : entry.1.1 ∈ state.workspace.graph.wires := by
  have hwire : entry.1.1 ∈ (moved.map Prod.fst).map Prod.fst :=
    List.mem_map_of_mem (List.mem_map_of_mem hentry)
  rw [h.moved_wires] at hwire
  exact List.mem_of_mem_filter hwire

namespace Represents

variable (h : Represents hierarchy opened placed tagged state)
  (hreplaced : Replaced state after node.id digest place.below document nodeMap node fresh copied
    moved)
include h hreplaced

/-- The detached wires keep their places. -/
theorem moved_places : (moved.map fun entry => placeOf tagged entry.1.1) =
    (tagged.filter fun entry => entry.1.touches node.id).map Prod.snd := by
  have hwires := hreplaced.moved_wires
  rw [h.wires, List.filter_map, List.map_map] at hwires
  have hplaces := congrArg (List.map (placeOf tagged)) hwires
  rw [List.map_map, List.map_map] at hplaces
  refine hplaces.trans (List.map_congr_left fun entry hentry => ?_)
  exact placeOf_of_mem h.tagged_nodup (List.mem_of_mem_filter hentry)

/-- One replacement adds the wires of the component to the places. -/
theorem tags_perm : ((taggedAfter tagged node.id place.below copied moved).map Prod.snd).Perm
    (tagged.map Prod.snd ++
      document.workspace.graph.wires.map fun wire => ⟨place.below, wire⟩) := by
  have hcopies : (copied.map fun entry => (⟨place.below, entry.1⟩ : WirePlace)) =
      document.workspace.graph.wires.map fun wire => ⟨place.below, wire⟩ := by
    rw [← hreplaced.copied_wires, List.map_map]
    rfl
  have hmoved := h.moved_places hreplaced
  have hsplit := (List.filter_append_perm (fun entry : WireDefinition × WirePlace =>
    entry.1.touches node.id) tagged).map Prod.snd
  rw [List.map_append] at hsplit
  simp only [taggedAfter, List.map_append, List.map_map, Function.comp_def]
  rw [hcopies, hmoved, List.append_assoc]
  refine (List.perm_append_comm_assoc _ _ _).trans ?_
  refine List.perm_append_comm.trans ?_
  refine List.Perm.append_right _ ?_
  exact List.perm_append_comm.trans hsplit

/-- The recorded origins name the places of the wires. -/
theorem origins_after
    (hblock : hierarchy.blocks.blockAt place.below =
      some (.component digest document parameters)) :
    after.wireOrigins.Perm ((taggedAfter tagged node.id place.below copied moved).map fun entry =>
      (entry.1.id, entry.2.origin hierarchy)) := by
  have hscope := GraphHierarchyDocument.scopeAt_eq hblock
  have hkept : (state.wireOrigins.filter fun entry => entry.1 ∉ (state.workspace.graph.wires.filter
      fun wire => wire.touches node.id).map WireDefinition.id).Perm
      ((tagged.filter fun entry => !entry.1.touches node.id).map fun entry =>
        (entry.1.id, entry.2.origin hierarchy)) := by
    refine (h.origins.filter _).trans (List.Perm.of_eq ?_)
    rw [List.filter_map]
    refine congrArg _ (List.filter_congr fun entry hentry => ?_)
    have hids : entry.1.id ∈ (state.workspace.graph.wires.filter fun wire =>
        wire.touches node.id).map WireDefinition.id ↔ entry.1.touches node.id = true := by
      have hwire : entry.1 ∈ state.workspace.graph.wires := by
        rw [h.wires]
        exact List.mem_map_of_mem hentry
      rw [List.mem_map]
      constructor
      · rintro ⟨wire, hfilter, heq⟩
        rw [List.mem_filter] at hfilter
        rw [← List.inj_on_of_nodup_map state.workspace.graph.wires_nodup hfilter.1 hwire heq]
        exact hfilter.2
      · intro htouches
        exact ⟨entry.1, List.mem_filter.2 ⟨hwire, htouches⟩, rfl⟩
    rw [Function.comp_apply, Bool.eq_iff_iff]
    simp [hids]
  have hcopies : (copied.map fun entry => (entry.2.id,
      GraphHierarchyWireOrigin.component place.below digest entry.1.id)) =
      copied.map fun entry => (entry.2.id, WirePlace.origin hierarchy ⟨place.below, entry.1⟩) := by
    refine List.map_congr_left fun entry _ => ?_
    rw [WirePlace.origin, hscope]
    rfl
  have hmoves : (moved.map fun entry => (entry.2.id, entry.1.2)) =
      moved.map fun entry => (entry.2.id, (placeOf tagged entry.1.1).origin hierarchy) := by
    refine List.map_congr_left fun entry hentry => ?_
    have hwire := hreplaced.moved_mem hentry
    rw [h.origin_of_mem hwire (hreplaced.moved_origins entry hentry)]
  refine hreplaced.origins.trans ?_
  simp only [taggedAfter, List.map_append, List.map_map, Function.comp_def]
  rw [hcopies, hmoves]
  exact (hkept.append_right _).append_right _

end Represents

/-- **One replacement opens one path.** -/
theorem Represents.replaced (h : Represents hierarchy opened placed tagged state)
    (hmem : (node, place) ∈ placed)
    (hblock : hierarchy.blocks.blockAt place.below = some (.component digest document parameters))
    (hreplaced : Replaced state after node.id digest place.below document nodeMap node fresh copied
      moved) :
    Represents hierarchy (insert place.below opened)
      (placedAfter placed node.id place.below (configuredNodes document parameters) fresh)
      (taggedAfter tagged node.id place.below copied moved) after := by
  have hparameters := h.definition_of_child hmem hblock
  have hmapped := hreplaced.mapped
  rw [← configuredNodes_map_id document parameters] at hmapped
  have htags := h.tags_perm hreplaced
  have hmoved : ∀ entry ∈ moved, (entry.1.1, placeOf tagged entry.1.1) ∈ tagged := by
    intro entry hentry
    have hwire := hreplaced.moved_mem hentry
    rw [h.wires] at hwire
    obtain ⟨other, hother, heq⟩ := List.mem_map.1 hwire
    rw [← heq, placeOf_of_mem h.tagged_nodup hother]
    exact hother
  constructor
  case isOpened => exact h.isOpened.insert (h.place_mem hmem).1 (by rw [hblock]; rfl)
  case schema => exact hreplaced.schema.trans h.schema
  case clocks => exact hreplaced.clocks.trans h.clocks
  case nodes =>
    rw [hreplaced.nodes, hparameters, h.nodes, placedAfter, List.map_append, List.map_map,
      List.filter_map]
    rfl
  case wires =>
    rw [hreplaced.wires, h.wires, List.filter_map]
    simp only [taggedAfter, List.map_append, List.map_map, Function.comp_def]
  case places_nodup => exact h.places_nodup_after hmem
  case mem_places => exact h.mem_places_after hmem hblock
  case definition => exact fun entry hentry => h.definition_after hmem hblock hentry
  case tags_nodup =>
    rw [htags.nodup_iff]
    refine h.tags_nodup.append ?_ ?_
    · refine List.Nodup.map (fun _ _ heq => congrArg WirePlace.wire heq) ?_
      exact List.Nodup.of_map WireDefinition.id (GraphDocument.wires_nodup _)
    · intro other hold hnew
      obtain ⟨wire, _, rfl⟩ := List.mem_map.1 hnew
      exact (h.place_mem hmem).2.1 ((h.mem_tags _).1 hold).1
  case mem_tags =>
    intro other
    rw [htags.mem_iff, List.mem_append, h.mem_tags, List.mem_map]
    constructor
    · rintro (⟨hpath, hwire⟩ | ⟨wire, hwire, rfl⟩)
      · exact ⟨.inr hpath, hwire⟩
      · exact ⟨.inl rfl, _, hblock, hwire⟩
    · rintro ⟨hpath | hpath, occurrence, hoccurrence, hwire⟩
      · rw [hpath, hblock] at hoccurrence
        obtain rfl := Option.some.inj hoccurrence
        exact .inr ⟨other.wire, hwire, by rw [← hpath]⟩
      · exact .inl ⟨hpath, occurrence, hoccurrence, hwire⟩
  case source =>
    intro entry hentry
    rw [taggedAfter, List.mem_append, List.mem_append, List.mem_filter, List.mem_map,
      List.mem_map] at hentry
    rcases hentry with (⟨hold, htouches⟩ | ⟨copy, hcopy, rfl⟩) | ⟨move, hmove, rfl⟩
    · refine h.leads_kept hmem (h.source entry hold) ?_
      rw [WireDefinition.touches] at htouches
      simp at htouches
      exact htouches.1
    · exact h.leads_copied hmem hmapped (hreplaced.copied_ends copy hcopy).1
    · have hold := h.source _ (hmoved move hmove)
      exact h.leads_moved hmem hmapped hblock (fun _ => rfl) hold
        (hreplaced.moved_ends move hmove).1
  case target =>
    intro entry hentry
    rw [taggedAfter, List.mem_append, List.mem_append, List.mem_filter, List.mem_map,
      List.mem_map] at hentry
    rcases hentry with (⟨hold, htouches⟩ | ⟨copy, hcopy, rfl⟩) | ⟨move, hmove, rfl⟩
    · refine h.leads_kept hmem (h.target entry hold) ?_
      rw [WireDefinition.touches] at htouches
      simp at htouches
      exact htouches.2
    · exact h.leads_copied hmem hmapped (hreplaced.copied_ends copy hcopy).2
    · have hold := h.target _ (hmoved move hmove)
      exact h.leads_moved hmem hmapped hblock (fun _ => rfl) hold
        (hreplaced.moved_ends move hmove).2
  case origins => exact h.origins_after hreplaced hblock

end Replacement

end Representation

end Alumina.Graph
