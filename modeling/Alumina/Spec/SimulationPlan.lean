import Alumina.Spec.SimulationTime

/-!
# The simulation plan

Classification sends every node of a document to the pass that evaluates it. This file says
which nodes the lists of a plan hold, and what `validateImplementation` has established about
the audited schema of a bound node.

Key results:
- `clockedShape_of_validate`: ports, clock and declared dependencies of a clocked node
- `planFacts`: a plan lists exactly the bound nodes of each kind, without repetition
- `PlanFacts.producer_of_wire`: what every wire leaves
-/

namespace Alumina.Graph

open Except (failIf)

/-! ## Bound nodes -/

private theorem validateImplementations_of_mem {semantic : RegistryTables}
    {previous : Option NodeKind} {implementations : List GraphSimulationImplementation}
    (h : validateImplementations semantic previous implementations = .ok ()) :
    ∀ implementation ∈ implementations, ∃ schema,
      semantic.schema implementation.kind = some schema ∧
        validateImplementation schema semantic.contextSchema.toSchemaTables
          implementation.behavior = .ok () := by
  induction implementations generalizing previous with
  | nil => simp
  | cons implementation implementations ih =>
    simp only [validateImplementations, Except.bind_eq_ok, Except.exists_unit,
      Option.okOr_eq_ok] at h
    obtain ⟨-, schema, hschema, hvalid, hrest⟩ := h
    intro other hother
    rcases List.mem_cons.mp hother with rfl | hother
    · exact ⟨schema, hschema, hvalid⟩
    · exact ih hrest other hother

/-- Kinds are determined by their name and version. -/
theorem NodeKind.key_injective : Function.Injective NodeKind.key := by
  intro left right h
  obtain ⟨hname, hversion⟩ := Prod.mk.inj (toLex.injective h)
  have hversion : left.version = right.version := UInt16.toNat_inj.mp hversion
  cases left
  cases right
  simp_all

section Bound

variable [Sha256] {registry : GraphSimulationRegistry}

/-- The registry implements a node's kind by `behavior`. -/
def Bound (registry : GraphSimulationRegistry) (node : NodeDefinition)
    (behavior : GraphSimulationNodeKind) : Prop :=
  (registry.implementation node.kind).map GraphSimulationImplementation.behavior = some behavior

/-- The audited schema of a bound node has the shape its behaviour needs. -/
theorem Bound.validate {node : NodeDefinition} {behavior : GraphSimulationNodeKind}
    (h : Bound registry node behavior) : ∃ schema,
      registry.semantic.schema node.kind = some schema ∧
        validateImplementation schema registry.semantic.contextSchema.toSchemaTables behavior =
          .ok () := by
  obtain ⟨implementation, hfound, rfl⟩ := Option.map_eq_some_iff.mp h
  have hlookup : Table.lookup (fun implementation : GraphSimulationImplementation =>
      implementation.kind.key) node.kind.key registry.implementations = some implementation := hfound
  have hkey := Table.key_of_lookup hlookup
  have hkind := NodeKind.key_injective hkey
  have hvalid := validateImplementations_of_mem registry.valid implementation
    (Table.mem_of_lookup hlookup)
  rwa [hkind] at hvalid

theorem Bound.unique {node : NodeDefinition} {left right : GraphSimulationNodeKind}
    (hleft : Bound registry node left) (hright : Bound registry node right) : left = right :=
  Option.some.inj (hleft.symm.trans hright)

end Bound

/-! ## Shapes of clocked nodes -/

/-- What `validateImplementation` establishes about a clocked behaviour: one output stream,
input streams on its clock, and the declared dependencies the behaviour has. -/
structure ClockedShape (schema : NodeSchema) (values : SchemaTables)
    (behavior : GraphSimulationNodeKind) (output : GraphPortId) : Prop where
  outputs_length : schema.outputs.length = 1
  clock : ∃ stream, outputStream schema values output = some stream ∧
    ∀ input ∈ clockedInputs behavior, ∃ source, inputStream schema values input = some source ∧
      source.clock = stream.clock
  queues : ∀ input ∈ clockedInputs behavior, requiredStreamQueue schema input = true
  dependency : dependencyMatches schema output
    (if behavior.isDelay then [] else clockedInputs behavior) = true

section Shape

variable {schema : NodeSchema} {values : SchemaTables}

private theorem of_filter_eq_some {stream : Option StreamPort} {test : StreamPort → Bool}
    {found : StreamPort} (h : stream.filter test = some found) : stream = some found :=
  (Option.filter_eq_some_iff.mp h).1

/-- Two operands and a result with one stream port. -/
private theorem shape_of_validateBinary {stream : GraphPortId → Option StreamPort}
    {result : Option StreamPort} {left right output : GraphPortId} {error : GraphSimulationError}
    (hstream : ∀ port found, stream port = some found → inputStream schema values port = some found)
    (hresult : ∀ found, result = some found → outputStream schema values output = some found)
    (h : validateBinary schema stream result left right output error = .ok ()) :
    schema.outputs.length = 1 ∧
      (∃ port, outputStream schema values output = some port ∧
        ∀ input ∈ [left, right], ∃ source, inputStream schema values input = some source ∧
          source.clock = port.clock) ∧
      (∀ input ∈ [left, right], requiredStreamQueue schema input = true) ∧
      dependencyMatches schema output [left, right] = true := by
  simp only [validateBinary, Except.failIf_eq_ok, not_or, not_not, ne_eq,
    Bool.not_eq_true', Bool.not_eq_false, Option.isNone_iff_eq_none] at h
  obtain ⟨-, houtputs, -, hsome, hright, hequal, hleftQueue, hrightQueue, hdependency, -⟩ := h
  obtain ⟨port, hport⟩ := Option.ne_none_iff_exists'.mp hsome
  rw [hport] at hright hequal
  refine ⟨houtputs, ⟨port, hresult port hequal.symm, ?_⟩, ?_, hdependency⟩
  · intro input hinput
    rcases List.mem_cons.mp hinput with rfl | hinput
    · exact ⟨port, hstream _ port hport, rfl⟩
    · obtain rfl := List.mem_singleton.mp hinput
      exact ⟨port, hstream _ port hright.symm, rfl⟩
  · intro input hinput
    rcases List.mem_cons.mp hinput with rfl | hinput
    · exact hleftQueue
    · obtain rfl := List.mem_singleton.mp hinput
      exact hrightQueue

/-- One operand and a result on its clock. -/
private theorem shape_of_validateRange {resultMatches : Prop} [Decidable resultMatches]
    {input output : GraphPortId} {minimum maximum : UInt32} {error : GraphSimulationError}
    (hresult : resultMatches → ∀ source, exactInputStream schema values input = some source →
      ∃ port, outputStream schema values output = some port ∧ source.clock = port.clock)
    (h : validateRange schema values resultMatches input minimum maximum output error = .ok ()) :
    schema.outputs.length = 1 ∧
      (∃ port, outputStream schema values output = some port ∧
        ∀ other ∈ [input], ∃ source, inputStream schema values other = some source ∧
          source.clock = port.clock) ∧
      (∀ other ∈ [input], requiredStreamQueue schema other = true) ∧
      dependencyMatches schema output [input] = true := by
  simp only [validateRange, Except.failIf_eq_ok, not_or, not_not, ne_eq,
    Bool.not_eq_true', Bool.not_eq_false, Option.isNone_iff_eq_none] at h
  obtain ⟨-, houtputs, -, hsome, hmatches, hqueue, hdependency, -⟩ := h
  obtain ⟨source, hsource⟩ := Option.ne_none_iff_exists'.mp hsome
  obtain ⟨port, hport, hclock⟩ := hresult hmatches source hsource
  refine ⟨houtputs, ⟨port, hport, ?_⟩, ?_, hdependency⟩
  · intro other hother
    obtain rfl := List.mem_singleton.mp hother
    exact ⟨source, of_filter_eq_some hsource, hclock⟩
  · intro other hother
    obtain rfl := List.mem_singleton.mp hother
    exact hqueue

/-- A validated clocked behaviour has the clocked shape: one case for each behaviour. -/
theorem clockedShape_of_validate {behavior : GraphSimulationNodeKind} {output : GraphPortId}
    (houtput : clockedOutput behavior = some output)
    (h : validateImplementation schema values behavior = .ok ()) :
    ClockedShape schema values behavior output := by
  cases behavior with
  | externalStreamSource | latestRateTransition | streamSink => cases houtput
  | exactAdd left right result | exactSubtract left right result =>
    obtain rfl : result = output := Option.some.inj houtput
    obtain ⟨houtputs, hclock, hqueues, hdependency⟩ := shape_of_validateBinary
      (fun _ _ hfound => of_filter_eq_some hfound) (fun _ hfound => of_filter_eq_some hfound) h
    exact ⟨houtputs, hclock, hqueues, hdependency⟩
  | booleanAnd left right result =>
    obtain rfl : result = output := Option.some.inj houtput
    obtain ⟨houtputs, hclock, hqueues, hdependency⟩ := shape_of_validateBinary
      (fun _ _ hfound => of_filter_eq_some hfound) (fun _ hfound => of_filter_eq_some hfound) h
    exact ⟨houtputs, hclock, hqueues, hdependency⟩
  | exactClamp input minimum maximum result =>
    obtain rfl : result = output := Option.some.inj houtput
    obtain ⟨houtputs, hclock, hqueues, hdependency⟩ := shape_of_validateRange (by
      intro hmatches source hsource
      rw [hsource] at hmatches
      exact ⟨source, of_filter_eq_some hmatches.symm, rfl⟩) h
    exact ⟨houtputs, hclock, hqueues, hdependency⟩
  | exactWithinInclusive input minimum maximum result =>
    obtain rfl : result = output := Option.some.inj houtput
    obtain ⟨houtputs, hclock, hqueues, hdependency⟩ := shape_of_validateRange (by
      intro hmatches source hsource
      rw [hsource] at hmatches
      obtain ⟨port, hport, hclock⟩ := Option.map_eq_some_iff.mp hmatches.symm
      exact ⟨port, of_filter_eq_some hport, hclock.symm⟩) h
    exact ⟨houtputs, hclock, hqueues, hdependency⟩
  | exactScale input factor result =>
    obtain rfl : result = output := Option.some.inj houtput
    simp only [validateImplementation, Except.failIf_eq_ok, not_or, not_not, ne_eq,
      Bool.not_eq_true', Bool.not_eq_false, Option.isNone_iff_eq_none] at h
    obtain ⟨-, houtputs, hsome, hequal, hqueue, hdependency, -⟩ := h
    obtain ⟨port, hport⟩ := Option.ne_none_iff_exists'.mp hsome
    rw [hport] at hequal
    refine ⟨houtputs, ⟨port, of_filter_eq_some hequal.symm, ?_⟩, ?_, hdependency⟩
    · intro other hother
      obtain rfl := List.mem_singleton.mp hother
      exact ⟨port, of_filter_eq_some hport, rfl⟩
    · intro other hother
      obtain rfl := List.mem_singleton.mp hother
      exact hqueue
  | typedConstant value result =>
    obtain rfl : result = output := Option.some.inj houtput
    simp only [validateImplementation, Except.failIf_eq_ok, not_or, not_not, ne_eq,
      Bool.not_eq_true', Bool.not_eq_false, Option.isNone_iff_eq_none] at h
    obtain ⟨-, -, houtputs, hsome, -, -, hdependency, -⟩ := h
    obtain ⟨port, hport⟩ := Option.ne_none_iff_exists'.mp hsome
    exact ⟨houtputs, ⟨port, hport, by simp [clockedInputs]⟩, by simp [clockedInputs], hdependency⟩
  | typedCase selector whenFalse whenTrue result =>
    obtain rfl : result = output := Option.some.inj houtput
    simp only [validateImplementation, Except.failIf_eq_ok, not_or, not_not, ne_eq,
      Bool.not_eq_true', Bool.not_eq_false, Option.isNone_iff_eq_none] at h
    obtain ⟨-, houtputs, -, -, -, hselector, hsome, htrue, hequal, hclock, hselectorQueue,
      hfalseQueue, htrueQueue, hdependency, -⟩ := h
    obtain ⟨port, hport⟩ := Option.ne_none_iff_exists'.mp hsome
    obtain ⟨choice, hchoice⟩ := Option.ne_none_iff_exists'.mp hselector
    rw [hport] at htrue hequal hclock
    rw [hchoice, Option.map_some, Option.map_some, Option.some.injEq] at hclock
    refine ⟨houtputs, ⟨port, hequal.symm, ?_⟩, ?_, hdependency⟩
    · intro other hother
      rcases List.mem_cons.mp hother with rfl | hother
      · exact ⟨choice, of_filter_eq_some hchoice, hclock⟩
      · rcases List.mem_cons.mp hother with rfl | hother
        · exact ⟨port, hport, rfl⟩
        · obtain rfl := List.mem_singleton.mp hother
          exact ⟨port, htrue.symm, rfl⟩
    · intro other hother
      rcases List.mem_cons.mp hother with rfl | hother
      · exact hselectorQueue
      · rcases List.mem_cons.mp hother with rfl | hother
        · exact hfalseQueue
        · obtain rfl := List.mem_singleton.mp hother
          exact htrueQueue
  | unitDelay input initial result =>
    obtain rfl : result = output := Option.some.inj houtput
    simp only [validateImplementation, Except.failIf_eq_ok, not_or, not_not, ne_eq,
      Bool.not_eq_true', Bool.not_eq_false, Option.isNone_iff_eq_none] at h
    obtain ⟨-, houtputs, hsome, hequal, hqueue, hdependency, -⟩ := h
    obtain ⟨port, hport⟩ := Option.ne_none_iff_exists'.mp hsome
    rw [hport] at hequal
    refine ⟨houtputs, ⟨port, hequal.symm, ?_⟩, ?_, hdependency⟩
    · intro other hother
      obtain rfl := List.mem_singleton.mp hother
      exact ⟨port, hport, rfl⟩
    · intro other hother
      obtain rfl := List.mem_singleton.mp hother
      exact hqueue
  | exactPermitGate value permit safe result =>
    obtain rfl : result = output := Option.some.inj houtput
    simp only [validateImplementation, Except.failIf_eq_ok, not_or, not_not, ne_eq,
      Bool.not_eq_true', Bool.not_eq_false, Option.isNone_iff_eq_none] at h
    obtain ⟨-, houtputs, -, hsome, hequal, hclock, hvalueQueue, hpermitQueue, hdependency, -⟩ := h
    obtain ⟨port, hport⟩ := Option.ne_none_iff_exists'.mp hsome
    rw [hport] at hequal hclock
    rw [Option.map_some] at hclock
    obtain ⟨choice, hchoice, hsame⟩ := Option.map_eq_some_iff.mp hclock
    refine ⟨houtputs, ⟨port, of_filter_eq_some hequal.symm, ?_⟩, ?_, hdependency⟩
    · intro other hother
      rcases List.mem_cons.mp hother with rfl | hother
      · exact ⟨port, of_filter_eq_some hport, rfl⟩
      · obtain rfl := List.mem_singleton.mp hother
        exact ⟨choice, of_filter_eq_some hchoice, hsame⟩
    · intro other hother
      rcases List.mem_cons.mp hother with rfl | hother
      · exact hvalueQueue
      · obtain rfl := List.mem_singleton.mp hother
        exact hpermitQueue

end Shape

/-! ## Classification -/

/-- Output of a node that produces a stream. -/
def producedOutput : GraphSimulationNodeKind → Option GraphPortId
  | .externalStreamSource output | .latestRateTransition _ output => some output
  | .streamSink _ => none
  | behavior => clockedOutput behavior

section Classification

variable [Sha256] (registry : GraphSimulationRegistry) (node : NodeDefinition)

def behaviorOf : Option GraphSimulationNodeKind :=
  (registry.implementation node.kind).map GraphSimulationImplementation.behavior

/-- The source endpoint a node adds to the plan. -/
def plannedSource : Option WireEndpoint :=
  (behaviorOf registry node).bind fun
    | .externalStreamSource output => some ⟨node.id, output⟩
    | _ => none

/-- The transition a node adds to the plan. -/
def plannedTransition : Option (GraphNodeId × GraphPortId × GraphPortId) :=
  (behaviorOf registry node).bind fun
    | .latestRateTransition input output => some (node.id, input, output)
    | _ => none

/-- The sink a node adds to the plan. -/
def plannedSink : Option WireEndpoint :=
  (behaviorOf registry node).bind fun
    | .streamSink input => some ⟨node.id, input⟩
    | _ => none

/-- The clocked node a node adds to the plan. -/
def plannedClocked : Option ClockedNode :=
  (behaviorOf registry node).bind fun behavior =>
    (clockedOutput behavior).map fun _ => ⟨node.id, behavior⟩

/-- What classifying a list of nodes has added to a plan. -/
structure Planned (context : SimulationContext) (nodes : List NodeDefinition)
    (start plan : SimulationPlan) : Prop where
  bound : ∀ node ∈ nodes, node.domain = .hostExact ∧ ∃ behavior, Bound registry node behavior
  sources : plan.sources.map Prod.fst =
    start.sources.map Prod.fst ++ nodes.filterMap (plannedSource registry)
  transitions : plan.transitions =
    start.transitions ++ nodes.filterMap (plannedTransition registry)
  sinks : plan.sinks = start.sinks ++ nodes.filterMap (plannedSink registry)
  clocked : plan.clocked = start.clocked ++ nodes.filterMap (plannedClocked registry)
  sourcePort : ∀ source ∈ plan.sources, source ∈ start.sources ∨
    streamOutput context.document source.1 = .ok source.2 ∧
      ∃ rate, clockRateInHorizon context.analysis context.rootRate source.2.clock = .ok rate

variable {registry node}

private theorem planned_nil {context : SimulationContext} {plan : SimulationPlan} :
    Planned registry context [] plan plan :=
  ⟨by simp, by simp, by simp, by simp, by simp, fun _ => .inl⟩

/-- One node: one case for each list it can be added to. -/
private theorem planned_singleton {context : SimulationContext} {start plan : SimulationPlan}
    (h : context.classifyNode registry.implementation start node = .ok plan) :
    Planned registry context [node] start plan := by
  simp only [SimulationContext.classifyNode, Except.bind_eq_ok, Except.exists_unit,
    Except.failIf_eq_ok, not_not, ne_eq, Option.okOr_eq_ok] at h
  obtain ⟨hdomain, found, hfound, h⟩ := h
  have hbehavior : behaviorOf registry node = some found.behavior := by
    rw [behaviorOf, hfound, Option.map_some]
  have hbound : ∀ other ∈ [node], other.domain = .hostExact ∧
      ∃ behavior, Bound registry other behavior := by
    intro other hother
    obtain rfl := List.mem_singleton.mp hother
    exact ⟨hdomain, found.behavior, hbehavior⟩
  cases hkind : found.behavior with
  | externalStreamSource output =>
    simp only [hkind, Except.bind_eq_ok, Except.pure_eq_ok] at h
    obtain ⟨port, hport, rate, hrate, rfl⟩ := h
    refine ⟨hbound, ?_, ?_, ?_, ?_, ?_⟩
    · simp [plannedSource, hbehavior, hkind]
    · simp [plannedTransition, hbehavior, hkind]
    · simp [plannedSink, hbehavior, hkind]
    · simp [plannedClocked, hbehavior, hkind, clockedOutput]
    · intro source hsource
      rcases List.mem_append.mp hsource with hsource | hsource
      · exact .inl hsource
      · obtain rfl := List.mem_singleton.mp hsource
        exact .inr ⟨hport, rate, hrate⟩
  | _ =>
    simp only [hkind, Except.pure_eq_ok] at h
    obtain rfl := h
    refine ⟨hbound, ?_, ?_, ?_, ?_, fun _ => .inl⟩
    · simp [plannedSource, hbehavior, hkind]
    · simp [plannedTransition, hbehavior, hkind]
    · simp [plannedSink, hbehavior, hkind]
    · simp [plannedClocked, hbehavior, hkind, clockedOutput]

private theorem Planned.append {context : SimulationContext} {xs ys : List NodeDefinition}
    {first middle last : SimulationPlan} (hx : Planned registry context xs first middle)
    (hy : Planned registry context ys middle last) :
    Planned registry context (xs ++ ys) first last := by
  refine ⟨?_, ?_, ?_, ?_, ?_, ?_⟩
  · intro node hnode
    rcases List.mem_append.mp hnode with hnode | hnode
    · exact hx.bound node hnode
    · exact hy.bound node hnode
  · rw [hy.sources, hx.sources, List.filterMap_append, List.append_assoc]
  · rw [hy.transitions, hx.transitions, List.filterMap_append, List.append_assoc]
  · rw [hy.sinks, hx.sinks, List.filterMap_append, List.append_assoc]
  · rw [hy.clocked, hx.clocked, List.filterMap_append, List.append_assoc]
  · intro source hsource
    rcases hy.sourcePort source hsource with hsource | hport
    · exact hx.sourcePort source hsource
    · exact .inr hport

private theorem planned_of_classify {context : SimulationContext} {nodes : List NodeDefinition}
    {start plan : SimulationPlan}
    (h : nodes.foldlM (context.classifyNode registry.implementation) start = .ok plan) :
    Planned registry context nodes start plan := by
  induction nodes generalizing start with
  | nil =>
    obtain rfl : start = plan := by simpa using h
    exact planned_nil
  | cons node nodes ih =>
    rw [List.foldlM_cons, Except.bind_eq_ok] at h
    obtain ⟨middle, hnode, hrest⟩ := h
    exact (planned_singleton hnode).append (ih hrest)

/-- What the plan of a whole document holds. -/
structure PlanFacts [Sha256] (document : GraphDocument) (registry : GraphSimulationRegistry)
    (context : SimulationContext) (plan : SimulationPlan) : Prop where
  bound : ∀ node ∈ document.nodes,
    node.domain = .hostExact ∧ ∃ behavior, Bound registry node behavior
  sources : plan.sources.map Prod.fst = document.nodes.filterMap (plannedSource registry)
  transitions : plan.transitions = document.nodes.filterMap (plannedTransition registry)
  sinks : plan.sinks = document.nodes.filterMap (plannedSink registry)
  clocked : plan.clocked = document.nodes.filterMap (plannedClocked registry)
  sourcePort : ∀ source ∈ plan.sources, streamOutput context.document source.1 = .ok source.2 ∧
    ∃ rate, clockRateInHorizon context.analysis context.rootRate source.2.clock = .ok rate

theorem planFacts {document : GraphDocument} {context : SimulationContext} {plan : SimulationPlan}
    (h : document.nodes.foldlM (context.classifyNode registry.implementation) {} = .ok plan) :
    PlanFacts document registry context plan := by
  have hplanned := planned_of_classify h
  refine ⟨hplanned.bound, ?_, ?_, ?_, ?_, ?_⟩
  · simpa using hplanned.sources
  · simpa using hplanned.transitions
  · simpa using hplanned.sinks
  · simpa using hplanned.clocked
  · intro source hsource
    exact (hplanned.sourcePort source hsource).resolve_left (by simp)

end Classification

namespace PlanFacts

variable [Sha256] {document : GraphDocument} {registry : GraphSimulationRegistry}
  {context : SimulationContext} {plan : SimulationPlan}

theorem mem_clocked (facts : PlanFacts document registry context plan) {node : ClockedNode} :
    node ∈ plan.clocked ↔ (clockedOutput node.behavior).isSome = true ∧
      ∃ definition ∈ document.nodes, definition.id = node.node ∧
        Bound registry definition node.behavior := by
  rw [facts.clocked, List.mem_filterMap]
  constructor
  · rintro ⟨definition, hmem, h⟩
    obtain ⟨behavior, hbehavior, h⟩ := Option.bind_eq_some_iff.mp h
    obtain ⟨output, houtput, rfl⟩ := Option.map_eq_some_iff.mp h
    exact ⟨Option.isSome_of_eq_some houtput, definition, hmem, rfl, hbehavior⟩
  · rintro ⟨houtput, definition, hmem, hid, hbound⟩
    obtain ⟨output, houtput⟩ := Option.isSome_iff_exists.mp houtput
    refine ⟨definition, hmem, Option.bind_eq_some_iff.mpr ⟨node.behavior, hbound, ?_⟩⟩
    rw [houtput, Option.map_some, hid]

theorem mem_transitions (facts : PlanFacts document registry context plan)
    {item : GraphNodeId × GraphPortId × GraphPortId} :
    item ∈ plan.transitions ↔ ∃ definition ∈ document.nodes, definition.id = item.1 ∧
      Bound registry definition (.latestRateTransition item.2.1 item.2.2) := by
  rw [facts.transitions, List.mem_filterMap]
  constructor
  · rintro ⟨definition, hmem, h⟩
    obtain ⟨behavior, hbehavior, h⟩ := Option.bind_eq_some_iff.mp h
    cases behavior with
    | latestRateTransition input output =>
      obtain rfl : (definition.id, input, output) = item := Option.some.inj h
      exact ⟨definition, hmem, rfl, hbehavior⟩
    | _ => cases h
  · rintro ⟨definition, hmem, hid, hbound⟩
    refine ⟨definition, hmem, Option.bind_eq_some_iff.mpr ⟨_, hbound, ?_⟩⟩
    simp only [hid]

theorem mem_sources (facts : PlanFacts document registry context plan)
    {endpoint : WireEndpoint} :
    endpoint ∈ plan.sources.map Prod.fst ↔ ∃ definition ∈ document.nodes,
      definition.id = endpoint.node ∧
        Bound registry definition (.externalStreamSource endpoint.port) := by
  rw [facts.sources, List.mem_filterMap]
  constructor
  · rintro ⟨definition, hmem, h⟩
    obtain ⟨behavior, hbehavior, h⟩ := Option.bind_eq_some_iff.mp h
    cases behavior with
    | externalStreamSource output =>
      obtain rfl : (⟨definition.id, output⟩ : WireEndpoint) = endpoint := Option.some.inj h
      exact ⟨definition, hmem, rfl, hbehavior⟩
    | _ => cases h
  · rintro ⟨definition, hmem, hid, hbound⟩
    refine ⟨definition, hmem, Option.bind_eq_some_iff.mpr ⟨_, hbound, ?_⟩⟩
    simp only [hid]

omit [Sha256] in
theorem sourcePort_isSome {endpoint : WireEndpoint} :
    (plan.sourcePort endpoint).isSome = true ↔ endpoint ∈ plan.sources.map Prod.fst := by
  rw [SimulationPlan.sourcePort, Option.isSome_map, Table.lookup_isSome, List.mem_map]

omit [Sha256] in
/-- Nodes that are planned together have different identifiers. -/
private theorem nodup_filterMap {β : Type} {f : NodeDefinition → Option β} {id : β → GraphNodeId}
    (hid : ∀ node item, f node = some item → id item = node.id) :
    ((document.nodes.filterMap f).map id).Nodup := by
  refine document.nodes_nodup.sublist ?_
  generalize document.nodes = nodes
  induction nodes with
  | nil => exact .slnil
  | cons node nodes ih =>
    cases hf : f node with
    | none =>
      rw [List.filterMap_cons_none hf]
      exact ih.cons _
    | some item =>
      rw [List.filterMap_cons_some hf, List.map_cons, List.map_cons, hid node item hf]
      exact ih.cons_cons _

theorem clocked_nodup (facts : PlanFacts document registry context plan) :
    (plan.clocked.map ClockedNode.node).Nodup := by
  rw [facts.clocked]
  refine nodup_filterMap fun node item h => ?_
  obtain ⟨behavior, -, h⟩ := Option.bind_eq_some_iff.mp h
  obtain ⟨-, -, rfl⟩ := Option.map_eq_some_iff.mp h
  rfl

theorem transitions_nodup (facts : PlanFacts document registry context plan) :
    (plan.transitions.map Prod.fst).Nodup := by
  rw [facts.transitions]
  refine nodup_filterMap fun node item h => ?_
  obtain ⟨behavior, -, h⟩ := Option.bind_eq_some_iff.mp h
  cases behavior with
  | latestRateTransition input output =>
    obtain rfl := Option.some.inj h
    rfl
  | _ => cases h

/-- A node of the document is planned by one behaviour only. -/
theorem behavior_unique {left right : NodeDefinition} (hleft : left ∈ document.nodes)
    (hright : right ∈ document.nodes) (hid : left.id = right.id)
    {behavior behavior' : GraphSimulationNodeKind} (hbound : Bound registry left behavior)
    (hbound' : Bound registry right behavior') : behavior = behavior' := by
  obtain rfl := List.inj_on_of_nodup_map document.nodes_nodup hleft hright hid
  exact hbound.unique hbound'

/-- A clocked node produces neither a caller's stream nor a transition's. -/
theorem output_of_clocked (facts : PlanFacts document registry context plan)
    {node : ClockedNode} (h : node ∈ plan.clocked) :
    node.output ∉ plan.sources.map Prod.fst ∧
      ∀ item ∈ plan.transitions, item.1 ≠ node.node := by
  obtain ⟨hclocked, definition, hmem, hid, hbound⟩ := facts.mem_clocked.mp h
  constructor
  · intro hsource
    obtain ⟨other, hother, hotherId, hotherBound⟩ := facts.mem_sources.mp hsource
    have hbehavior := behavior_unique hmem hother (hid.trans hotherId.symm) hbound hotherBound
    rw [hbehavior] at hclocked
    cases hclocked
  · intro item hitem hnode
    obtain ⟨other, hother, hotherId, hotherBound⟩ := facts.mem_transitions.mp hitem
    have hbehavior := behavior_unique hmem hother (hid.trans (hnode.symm.trans hotherId.symm))
      hbound hotherBound
    rw [hbehavior] at hclocked
    cases hclocked

/-! ## Ports of planned nodes -/

section Ports

variable {analysis : GraphAnalysis}

omit [Sha256] in
private theorem streamOutput_of_schema {definition : NodeDefinition} {schema : NodeSchema}
    {semantic : GraphNodeRegistry} (hmem : definition ∈ document.nodes)
    (houtputs : definition.outputs = schema.outputs)
    (hschema : document.schema = semantic.contextSchema) {output : GraphPortId} {port : StreamPort}
    (h : outputStream schema semantic.contextSchema.toSchemaTables output = some port) :
    streamOutput document.toDocumentTables ⟨definition.id, output⟩ = .ok port := by
  obtain ⟨found, hfound, hport⟩ := Option.bind_eq_some_iff.mp h
  have hfind : findPort definition.outputs output = some found := by
    rw [houtputs]
    exact hfound
  simp only [streamOutput, document.node_of_mem hmem, Option.okOr_some, hfind, hschema, hport,
    bind, Except.bind]

omit [Sha256] in
private theorem streamInput_of_schema {definition : NodeDefinition} {schema : NodeSchema}
    {semantic : GraphNodeRegistry} (hmem : definition ∈ document.nodes)
    (hinputs : definition.inputs = schema.inputs)
    (hschema : document.schema = semantic.contextSchema) {input : GraphPortId} {port : StreamPort}
    (h : inputStream schema semantic.contextSchema.toSchemaTables input = some port) :
    streamInput document.toDocumentTables ⟨definition.id, input⟩ = .ok port := by
  obtain ⟨found, hfound, hport⟩ := Option.bind_eq_some_iff.mp h
  have hfind : findPort definition.inputs input = some found := by
    rw [hinputs]
    exact hfound
  simp only [streamInput, document.node_of_mem hmem, Option.okOr_some, hfind, hschema, hport,
    bind, Except.bind]

/-- The schema a bound node is an instance of. -/
theorem schema_of_bound (facts : AnalysisFacts document registry.semantic analysis)
    {definition : NodeDefinition} {behavior : GraphSimulationNodeKind}
    (hmem : definition ∈ document.nodes) (hbound : Bound registry definition behavior) :
    ∃ schema, registry.semantic.schema definition.kind = some schema ∧
      definition.inputs = schema.inputs ∧ definition.outputs = schema.outputs ∧
      validateImplementation schema registry.semantic.contextSchema.toSchemaTables behavior =
        .ok () := by
  obtain ⟨schema, hschema, hvalid⟩ := hbound.validate
  obtain ⟨other, own, allocations, hadmitted, -⟩ := facts.node definition hmem
  obtain rfl := Option.some.inj (hschema.symm.trans hadmitted.schema_eq)
  obtain ⟨hinputs, houtputs⟩ := validateInstance_ports hadmitted.instance_ok
  exact ⟨schema, hschema, hinputs, houtputs, hvalid⟩

/-- A clocked node and its inputs are streams on one clock. -/
theorem clocked_ports (facts : AnalysisFacts document registry.semantic analysis)
    (hplan : PlanFacts document registry context plan) {node : ClockedNode}
    (h : node ∈ plan.clocked) :
    ∃ port, streamOutput document.toDocumentTables node.output = .ok port ∧
      ∀ input ∈ clockedInputs node.behavior, ∃ source,
        streamInput document.toDocumentTables ⟨node.node, input⟩ = .ok source ∧
          source.clock = port.clock := by
  obtain ⟨hclocked, definition, hmem, hid, hbound⟩ := hplan.mem_clocked.mp h
  obtain ⟨output, houtput⟩ := Option.isSome_iff_exists.mp hclocked
  obtain ⟨schema, -, hinputs, houtputs, hvalid⟩ := schema_of_bound facts hmem hbound
  obtain ⟨port, hport, hsources⟩ := (clockedShape_of_validate houtput hvalid).clock
  refine ⟨port, ?_, ?_⟩
  · rw [ClockedNode.output, houtput, Option.getD_some, ← hid]
    exact streamOutput_of_schema hmem houtputs facts.schema_eq hport
  · intro input hinput
    obtain ⟨source, hsource, hclock⟩ := hsources input hinput
    refine ⟨source, ?_, hclock⟩
    rw [← hid]
    exact streamInput_of_schema hmem hinputs facts.schema_eq hsource

/-- A combinational node ranks below its inputs. -/
theorem clocked_rank (facts : AnalysisFacts document registry.semantic analysis)
    (hplan : PlanFacts document registry context plan) {rank : WireEndpoint → Nat}
    (hrank : ∀ node ∈ document.nodes, ∀ schema, registry.semantic.schema node.kind = some schema →
      ∀ dependency ∈ schema.outputDependencies, ∀ input ∈ dependency.inputs,
        rank ⟨node.id, dependency.output⟩ < rank ⟨node.id, input⟩) {node : ClockedNode}
    (h : node ∈ plan.clocked) (hdelay : node.behavior.isDelay = false) :
    ∀ input ∈ clockedInputs node.behavior, rank node.output < rank ⟨node.node, input⟩ := by
  obtain ⟨hclocked, definition, hmem, hid, hbound⟩ := hplan.mem_clocked.mp h
  obtain ⟨output, houtput⟩ := Option.isSome_iff_exists.mp hclocked
  obtain ⟨schema, hschema, -, -, hvalid⟩ := schema_of_bound facts hmem hbound
  have hdependency := (clockedShape_of_validate houtput hvalid).dependency
  rw [hdelay, if_neg (by decide), dependencyMatches] at hdependency
  intro input hinput
  split at hdependency
  · cases hdependency
  · next dependency hfound =>
    have hinputs := of_decide_eq_true hdependency
    have hname : dependency.output = output := by simpa using List.find?_some hfound
    have hlower := hrank definition hmem schema hschema dependency
      (List.mem_of_find?_eq_some hfound) input (by rw [hinputs]; simpa using hinput)
    rw [hname, hid] at hlower
    rwa [ClockedNode.output, houtput, Option.getD_some]

/-- The node behind an output port produces it. -/
theorem producedOutput_of_mem (facts : AnalysisFacts document registry.semantic analysis)
    {definition : NodeDefinition} {behavior : GraphSimulationNodeKind}
    (hmem : definition ∈ document.nodes) (hbound : Bound registry definition behavior)
    {port : PortDefinition} (hport : port ∈ definition.outputs) :
    producedOutput behavior = some port.id := by
  obtain ⟨schema, -, -, houtputs, hvalid⟩ := schema_of_bound facts hmem hbound
  rw [houtputs] at hport
  have hsingle : ∀ output : GraphPortId, schema.outputs.map PortDefinition.id = [output] →
      some output = some port.id := by
    intro output hids
    have hid := List.mem_map_of_mem (f := PortDefinition.id) hport
    rw [hids] at hid
    rw [List.mem_singleton.mp hid]
  have hclocked : ∀ output, clockedOutput behavior = some output → some output = some port.id := by
    intro output houtput
    have hshape := clockedShape_of_validate houtput hvalid
    obtain ⟨stream, hstream, -⟩ := hshape.clock
    obtain ⟨found, hfound, -⟩ := Option.bind_eq_some_iff.mp hstream
    obtain ⟨only, honly⟩ := List.length_eq_one_iff.mp hshape.outputs_length
    have hfoundMem := List.mem_of_find?_eq_some hfound
    have hname : found.id = output := by simpa using List.find?_some hfound
    rw [honly, List.mem_singleton] at hport hfoundMem
    rw [hport, ← hname, hfoundMem]
  cases behavior with
  | externalStreamSource output =>
    simp only [validateImplementation, Except.failIf_eq_ok, not_or, not_not, ne_eq] at hvalid
    exact hsingle output hvalid.2.1
  | latestRateTransition input output =>
    simp only [validateImplementation, Except.failIf_eq_ok, not_or, not_not, ne_eq] at hvalid
    exact hsingle output hvalid.2.1
  | streamSink input =>
    simp only [validateImplementation, Except.failIf_eq_ok, not_or, not_not, ne_eq,
      Bool.not_eq_true', Bool.not_eq_false, List.isEmpty_iff] at hvalid
    rw [hvalid.2.2.2.1] at hport
    cases hport
  | _ => exact hclocked _ rfl

omit [Sha256] in
/-- A wired input carries the stream of its source. -/
theorem streamOutput_of_wireInto {target : WireEndpoint} {wire : WireDefinition}
    {port : StreamPort} (hwire : document.wireInto target = some wire)
    (h : streamInput document.toDocumentTables target = .ok port) :
    streamOutput document.toDocumentTables wire.source = .ok port := by
  have htarget : wire.target = target := Table.key_of_lookup hwire
  have hresolve := document.resolveWire_of_mem (Table.mem_of_lookup hwire)
  simp only [DocumentTables.resolveWire, Except.bind_eq_ok, Option.okOr_eq_ok,
    Except.failIf_eq_ok, not_not, ne_eq, htarget] at hresolve
  obtain ⟨sourceNode, hsourceNode, targetNode, htargetNode, source, hsource, input, hinput,
    htype⟩ := hresolve
  simp only [streamInput, Except.bind_eq_ok, Option.okOr_eq_ok] at h
  obtain ⟨node, hnode, found, hfound, hport⟩ := h
  obtain rfl := Option.some.inj (htargetNode.symm.trans hnode)
  obtain rfl := Option.some.inj (hinput.symm.trans hfound)
  simp only [streamOutput, hsourceNode, hsource, htype, hport, Option.okOr_some, bind, Except.bind]

/-- Every wire leaves an external source, a transition or a clocked node. -/
theorem producer_of_wire (facts : AnalysisFacts document registry.semantic analysis)
    (hplan : PlanFacts document registry context plan) {wire : WireDefinition}
    (h : wire ∈ document.wires) :
    wire.source ∈ plan.sources.map Prod.fst ∨
      (∃ item ∈ plan.transitions, wire.source = ⟨item.1, item.2.2⟩) ∨
      ∃ node ∈ plan.clocked, wire.source = node.output := by
  obtain ⟨definition, hmem, port, hport, hsource⟩ := document.wire_source h
  obtain ⟨-, behavior, hbound⟩ := hplan.bound definition hmem
  have hproduced := producedOutput_of_mem facts hmem hbound hport
  have hclocked : ∀ output, clockedOutput behavior = some output → output = port.id →
      ∃ node ∈ plan.clocked, wire.source = node.output := by
    intro output houtput hname
    refine ⟨⟨definition.id, behavior⟩, hplan.mem_clocked.mpr ?_, ?_⟩
    · exact ⟨Option.isSome_of_eq_some houtput, definition, hmem, rfl, hbound⟩
    · rw [hsource, ClockedNode.output, houtput, Option.getD_some, hname]
  cases behavior with
  | externalStreamSource output =>
    obtain rfl : output = port.id := Option.some.inj hproduced
    left
    rw [hsource]
    exact hplan.mem_sources.mpr ⟨definition, hmem, rfl, hbound⟩
  | latestRateTransition input output =>
    obtain rfl : output = port.id := Option.some.inj hproduced
    exact .inr (.inl ⟨(definition.id, input, port.id),
      hplan.mem_transitions.mpr ⟨definition, hmem, rfl, hbound⟩, hsource⟩)
  | streamSink input => cases hproduced
  | _ => exact .inr (.inr (hclocked _ rfl (Option.some.inj hproduced)))

end Ports

end PlanFacts

end Alumina.Graph
