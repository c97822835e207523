import Alumina.Spec.RateTransition
import Alumina.Spec.Scheduling

/-!
# Runs of a clock domain

The loop of `simulateClockedGroup`, tick by tick. A tick ends with one value for every source the
domain reads or writes, and no value of a tick is ever replaced. So a node computes the same value
again from what its tick has ended with, whatever the order of the nodes was.

Key results:
- `evaluateClockedNode_mono`: more values do not change what a node computes
- `tickRun_of_clockedTick`: what one tick adds
- `groupRun_of_group`: what a clock domain adds, at every tick up to the horizon
-/

namespace Alumina.Graph

open SimulationContext (ClockedState sampleAtTick)

/-! ## Values of a tick -/

/-- No value of a tick is lost or replaced. -/
def KeepsValues (values later : TickValues) : Prop :=
  ∀ source value, values source = some value → later source = some value

theorem KeepsValues.refl (values : TickValues) : KeepsValues values values := fun _ _ h => h

theorem KeepsValues.trans {values middle later : TickValues} (hfirst : KeepsValues values middle)
    (hsecond : KeepsValues middle later) : KeepsValues values later :=
  fun source value h => hsecond source value (hfirst source value h)

/-- Writing a source that has no value yet. -/
theorem keepsValues_update {values : TickValues} {source : RuntimeStreamSource}
    {value : TypedGraphValue} (hfresh : values source = none) :
    KeepsValues values (Function.update values source (some value)) := by
  intro other found hfound
  by_cases hother : other = source
  · rw [hother, hfresh] at hfound
    cases hfound
  · rwa [Function.update_of_ne hother]

section Evaluate

variable {tables : DocumentTables} {injected : List WireEndpoint} {tick : Nat}
  {values later : TickValues} (hkept : KeepsValues values later)

include hkept

theorem typedInput_mono {node : GraphNodeId} {port : GraphPortId} {value : TypedGraphValue}
    (h : typedInput tables injected node tick values port = .ok value) :
    typedInput tables injected node tick later port = .ok value := by
  simp only [typedInput, Except.bind_eq_ok, Option.okOr_eq_ok] at h ⊢
  obtain ⟨source, hsource, hvalue⟩ := h
  exact ⟨source, hsource, hkept source value hvalue⟩

theorem rationalInput_mono {node : GraphNodeId} {port : GraphPortId} {value : ℚ}
    (h : rationalInput tables injected node tick values port = .ok value) :
    rationalInput tables injected node tick later port = .ok value := by
  simp only [rationalInput, Except.bind_eq_ok] at h ⊢
  obtain ⟨typed, htyped, hvalue⟩ := h
  exact ⟨typed, typedInput_mono hkept htyped, hvalue⟩

theorem booleanInput_mono {node : GraphNodeId} {port : GraphPortId} {value : Bool}
    (h : booleanInput tables injected node tick values port = .ok value) :
    booleanInput tables injected node tick later port = .ok value := by
  simp only [booleanInput, Except.bind_eq_ok] at h ⊢
  obtain ⟨typed, htyped, hvalue⟩ := h
  exact ⟨typed, typedInput_mono hkept htyped, hvalue⟩

/-- One case for each behaviour: each reads its inputs, and nothing else of the values. -/
theorem computeClockedNode_mono {node : GraphNodeId} {behavior : GraphSimulationNodeKind}
    {value : GraphValue}
    (h : computeClockedNode tables injected node tick values behavior = .ok value) :
    computeClockedNode tables injected node tick later behavior = .ok value := by
  cases behavior with
  | exactAdd left right _ | exactSubtract left right _ =>
    simp only [computeClockedNode, Except.bind_eq_ok] at h ⊢
    obtain ⟨a, ha, b, hb, hvalue⟩ := h
    exact ⟨a, rationalInput_mono hkept ha, b, rationalInput_mono hkept hb, hvalue⟩
  | exactScale input factor _ =>
    simp only [computeClockedNode, Except.bind_eq_ok] at h ⊢
    obtain ⟨a, ha, hvalue⟩ := h
    exact ⟨a, rationalInput_mono hkept ha, hvalue⟩
  | exactClamp input minimum maximum _ | exactWithinInclusive input minimum maximum _ =>
    simp only [computeClockedNode, Except.bind_eq_ok] at h ⊢
    obtain ⟨a, ha, hvalue⟩ := h
    exact ⟨a, rationalInput_mono hkept ha, hvalue⟩
  | booleanAnd left right _ =>
    simp only [computeClockedNode, Except.bind_eq_ok] at h ⊢
    obtain ⟨a, ha, b, hb, hvalue⟩ := h
    exact ⟨a, booleanInput_mono hkept ha, b, booleanInput_mono hkept hb, hvalue⟩
  | typedConstant _ _ => exact h
  | typedCase selector whenFalse whenTrue _ =>
    simp only [computeClockedNode, Except.bind_eq_ok] at h ⊢
    obtain ⟨choice, hchoice, typed, htyped, hvalue⟩ := h
    exact ⟨choice, booleanInput_mono hkept hchoice, typed, typedInput_mono hkept htyped, hvalue⟩
  | exactPermitGate input permit safe _ =>
    simp only [computeClockedNode, Except.bind_eq_ok] at h ⊢
    obtain ⟨open_, hopen, hvalue⟩ := h
    refine ⟨open_, booleanInput_mono hkept hopen, ?_⟩
    cases open_ with
    | false => exact hvalue
    | true =>
      simp only [if_true, Except.bind_eq_ok] at hvalue ⊢
      obtain ⟨a, ha, hvalue⟩ := hvalue
      exact ⟨a, rationalInput_mono hkept ha, hvalue⟩
  | externalStreamSource | latestRateTransition | streamSink | unitDelay =>
    cases h

theorem evaluateClockedNode_mono {node : ClockedNode} {value : TypedGraphValue}
    (h : evaluateClockedNode tables injected node tick values = .ok value) :
    evaluateClockedNode tables injected node tick later = .ok value := by
  simp only [evaluateClockedNode, Except.bind_eq_ok] at h ⊢
  obtain ⟨port, hport, computed, hcomputed, hvalue⟩ := h
  exact ⟨port, hport, computed, computeClockedNode_mono hkept hcomputed, hvalue⟩

end Evaluate

/-! ## Emitting the values of some nodes -/

/-- The sample a clock domain emits at a tick. -/
def tickSample (tick : Nat) (value : TypedGraphValue) : RuntimeSample :=
  ⟨.ofNat tick, .ofNat tick, value⟩

/-- The trace entry of a value that a node emits at a tick. -/
def tickEntry (clock : GraphClockId) (tick : Nat) (node : ClockedNode) (value : TypedGraphValue) :
    GraphTraceEntry :=
  ⟨.nodeOutput, node.output, clock, .ofNat tick, .ofNat tick, value⟩

/-- The trace entries of some nodes at a tick. -/
def tickEntries (clock : GraphClockId) (tick : Nat) (values : TickValues)
    (nodes : List ClockedNode) : List GraphTraceEntry :=
  nodes.filterMap fun node => (values node.source).map (tickEntry clock tick node)

section Domain

variable {context : SimulationContext} {clock : GraphClockId} {tick : Nat}

theorem emitClockedValue_eq_ok {node : ClockedNode} {value : TypedGraphValue}
    {state next : ClockedState × TickValues}
    (h : context.emitClockedValue clock tick node value state = .ok next) :
    next.1.delays = state.1.delays ∧
      next.1.generated = Function.update state.1.generated node.output
        (state.1.generated node.output ++ [tickSample tick value]) ∧
      next.1.entries = state.1.entries ++ [tickEntry clock tick node value] ∧
      next.2 = Function.update state.2 node.source (some value) := by
  simp only [SimulationContext.emitClockedValue, Except.bind_eq_ok, pushTrace_eq_ok,
    Except.pure_eq_ok] at h
  obtain ⟨_, ⟨-, rfl⟩, rfl⟩ := h
  exact ⟨rfl, rfl, rfl, rfl⟩

/-- What emitting some nodes has added to a tick. `rule` relates the values of the tick, a node
and the value it emits. -/
structure Emitted (clock : GraphClockId) (tick : Nat)
    (rule : TickValues → ClockedNode → TypedGraphValue → Prop) (nodes : List ClockedNode)
    (start final : ClockedState × TickValues) : Prop where
  delays : final.1.delays = start.1.delays
  kept : KeepsValues start.2 final.2
  value : ∀ node ∈ nodes, ∃ value, final.2 node.source = some value ∧ rule final.2 node value ∧
    final.1.generated node.output = start.1.generated node.output ++ [tickSample tick value]
  unwritten : ∀ source, source ∉ nodes.map ClockedNode.source → final.2 source = start.2 source
  idle : ∀ endpoint, endpoint ∉ nodes.map ClockedNode.output →
    final.1.generated endpoint = start.1.generated endpoint
  entries : final.1.entries = start.1.entries ++ tickEntries clock tick final.2 nodes

theorem mem_map_source {nodes : List ClockedNode} {node : ClockedNode} :
    node.source ∈ nodes.map ClockedNode.source ↔ node.output ∈ nodes.map ClockedNode.output := by
  simp only [List.mem_map, ClockedNode.source, RuntimeStreamSource.output.injEq]

/-- A value that a node emits stays its value until the tick ends, so what it was computed from
still computes it then. -/
theorem emitted_of_foldlM (rule : TickValues → ClockedNode → TypedGraphValue → Prop)
    (compute : ClockedState × TickValues → ClockedNode →
      Except GraphSimulationError TypedGraphValue)
    {delays : GraphNodeId → Option TypedGraphValue}
    (hrule : ∀ state node value later, state.1.delays = delays →
      compute state node = .ok value → KeepsValues state.2 later → rule later node value)
    {nodes : List ClockedNode} (hnodup : (nodes.map ClockedNode.output).Nodup)
    {start final : ClockedState × TickValues} (hdelays : start.1.delays = delays)
    (hfresh : ∀ node ∈ nodes, start.2 node.source = none)
    (h : nodes.foldlM (fun state node => do
      let value ← compute state node
      context.emitClockedValue clock tick node value state) start = .ok final) :
    Emitted clock tick rule nodes start final := by
  induction nodes generalizing start with
  | nil =>
    obtain rfl : start = final := by simpa using h
    exact ⟨rfl, .refl _, by simp, by simp, by simp, by simp [tickEntries]⟩
  | cons node nodes ih =>
    simp only [List.foldlM_cons, Except.bind_eq_ok] at h
    obtain ⟨middle, ⟨value, hvalue, hemit⟩, hrest⟩ := h
    rw [List.map_cons, List.nodup_cons] at hnodup
    obtain ⟨hsameDelays, hgenerated, hentries, hvalues⟩ := emitClockedValue_eq_ok hemit
    have hother : ∀ other ∈ nodes, other.source ≠ node.source := by
      intro other hmem hsame
      apply hnodup.1
      rw [← RuntimeStreamSource.output.inj hsame]
      exact List.mem_map_of_mem hmem
    have hfresh' : ∀ other ∈ nodes, middle.2 other.source = none := by
      intro other hmem
      rw [hvalues, Function.update_of_ne (hother other hmem)]
      exact hfresh other (List.mem_cons_of_mem _ hmem)
    have htail := ih hnodup.2 (hsameDelays.trans hdelays) hfresh'
      (by simpa only [Except.bind_eq_ok] using hrest)
    have hkept : KeepsValues start.2 middle.2 := by
      rw [hvalues]
      exact keepsValues_update (hfresh node List.mem_cons_self)
    have hnode : final.2 node.source = some value := by
      apply htail.kept
      rw [hvalues, Function.update_self]
    refine ⟨htail.delays.trans hsameDelays, hkept.trans htail.kept, ?_, ?_, ?_, ?_⟩
    · intro other hmem
      rcases List.mem_cons.mp hmem with rfl | hmem
      · refine ⟨value, hnode, ?_, ?_⟩
        · exact hrule start other value final.2 hdelays hvalue (hkept.trans htail.kept)
        · rw [htail.idle _ hnodup.1, hgenerated, Function.update_self]
      · obtain ⟨found, hfound, hholds, hlater⟩ := htail.value other hmem
        refine ⟨found, hfound, hholds, ?_⟩
        have hne : other.output ≠ node.output := fun hsame =>
          hother other hmem (congrArg RuntimeStreamSource.output hsame)
        rw [hlater, hgenerated, Function.update_of_ne hne]
    · intro source hsource
      rw [List.map_cons, List.mem_cons, not_or] at hsource
      rw [htail.unwritten source hsource.2, hvalues, Function.update_of_ne hsource.1]
    · intro endpoint hendpoint
      rw [List.map_cons, List.mem_cons, not_or] at hendpoint
      rw [htail.idle endpoint hendpoint.2, hgenerated, Function.update_of_ne hendpoint.1]
    · have hfirst : tickEntries clock tick final.2 (node :: nodes) =
          tickEntry clock tick node value :: tickEntries clock tick final.2 nodes := by
        apply List.filterMap_cons_some
        rw [hnode, Option.map_some]
      rw [htail.entries, hentries, hfirst, List.append_assoc, List.singleton_append]

/-! ## One tick -/

/-- The value a stream carries at a tick. -/
def streamValue (streams : RuntimeStreams) (source : RuntimeStreamSource) (tick : Nat) :
    Option TypedGraphValue :=
  ((streams source).bind fun samples => sampleAtTick samples tick).map RuntimeSample.value

/-- Steps that each write one key. Every item has written its own value at the end, since items
that share a key write the same one. -/
private theorem written_of_foldlM {α ι β ε : Type} [DecidableEq ι]
    {f : (ι → Option β) → α → Except ε (ι → Option β)} (key : α → ι) (rule : α → β → Prop)
    {xs : List α} (hstep : ∀ s, ∀ a ∈ xs, ∀ s', f s a = .ok s' →
      ∃ b, rule a b ∧ s' = Function.update s (key a) (some b)) (hagree : ∀ a ∈ xs, ∀ a' ∈ xs, key a = key a' → ∀ b b', rule a b →
      rule a' b' → b = b') {s s' : ι → Option β} (h : xs.foldlM f s = .ok s') :
    (∀ a ∈ xs, ∃ b, rule a b ∧ s' (key a) = some b) ∧ ∀ i, i ∉ xs.map key → s' i = s i := by
  induction xs generalizing s with
  | nil =>
    obtain rfl : s = s' := by simpa using h
    exact ⟨by simp, fun _ _ => rfl⟩
  | cons a xs ih =>
    rw [List.foldlM_cons, Except.bind_eq_ok] at h
    obtain ⟨middle, ha, hrest⟩ := h
    obtain ⟨b, hb, rfl⟩ := hstep s a List.mem_cons_self middle ha
    obtain ⟨hwritten, hkept⟩ := ih (fun s x hx => hstep s x (List.mem_cons_of_mem _ hx)) (fun x hx y hy => hagree x (List.mem_cons_of_mem _ hx) y
      (List.mem_cons_of_mem _ hy)) hrest
    constructor
    · intro x hx
      rcases List.mem_cons.mp hx with rfl | hx
      · by_cases hlater : key x ∈ xs.map key
        · obtain ⟨y, hy, hsame⟩ := List.mem_map.mp hlater
          obtain ⟨b', hb', hfinal⟩ := hwritten y hy
          obtain rfl := hagree x List.mem_cons_self y (List.mem_cons_of_mem _ hy) hsame.symm b b'
            hb hb'
          exact ⟨b, hb, hsame ▸ hfinal⟩
        · exact ⟨b, hb, by rw [hkept _ hlater, Function.update_self]⟩
      · exact hwritten x hx
    · intro i hi
      rw [List.map_cons, List.mem_cons, not_or] at hi
      rw [hkept i hi.2, Function.update_of_ne hi.1]

/-- The work of a clock domain: the inputs it reads from elsewhere, and its nodes in the order a
tick emits them. -/
structure DomainOrder where
  inputs : List (WireEndpoint × RuntimeStreamSource)
  delays : List ClockedNode
  ordered : List ClockedNode

/-- Delays are emitted before anything else. -/
def DomainOrder.nodes (order : DomainOrder) : List ClockedNode := order.delays ++ order.ordered

/-- The endpoint of a delay's input. -/
def ClockedNode.delayInput (node : ClockedNode) : WireEndpoint :=
  ⟨node.node, (clockedInputs node.behavior).headD 0⟩

/-- What one tick of a clock domain has read, computed, latched and emitted. -/
structure TickRun (context : SimulationContext) (clock : GraphClockId) (streams : RuntimeStreams)
    (order : DomainOrder) (tick : Nat) (start final : ClockedState) (values : TickValues) :
    Prop where
  read : ∀ source, source ∈ order.inputs.map Prod.snd →
    values source = streamValue streams source tick
  written : ∀ source, source ∉ order.inputs.map Prod.snd →
    source ∉ order.nodes.map ClockedNode.source → values source = none
  shown : ∀ node ∈ order.delays, values node.source = start.delays node.node
  computed : ∀ node ∈ order.ordered, ∃ value, values node.source = some value ∧
    evaluateClockedNode context.document context.injected node tick values = .ok value
  latched : ∀ node ∈ order.delays, ∃ source, context.sourceForInput node.delayInput = .ok source ∧
    (values source).isSome = true ∧ final.delays node.node = values source
  emitted : ∀ node ∈ order.nodes, ∃ value, values node.source = some value ∧
    final.generated node.output = start.generated node.output ++ [tickSample tick value]
  entries : final.entries = start.entries ++ tickEntries clock tick values order.nodes

variable {streams : RuntimeStreams} {order : DomainOrder} {start final : ClockedState}

private theorem nodup_output {nodes : List ClockedNode}
    (h : (nodes.map ClockedNode.node).Nodup) : (nodes.map ClockedNode.output).Nodup := by
  apply List.Nodup.of_map WireEndpoint.node
  rw [List.map_map]
  exact h

/-- The values a tick reads from other streams. -/
private theorem read_of_foldlM {values : TickValues}
    (h : order.inputs.foldlM (SimulationContext.readExternalInput streams tick) (fun _ => none) =
      .ok values) (source : RuntimeStreamSource) :
    (source ∈ order.inputs.map Prod.snd → values source = streamValue streams source tick) ∧
      (source ∉ order.inputs.map Prod.snd → values source = none) := by
  obtain ⟨hread, hunread⟩ := written_of_foldlM Prod.snd
    (fun input value => streamValue streams input.2 tick = some value)
    (fun values input _ next hstep => by
      simp only [SimulationContext.readExternalInput, Except.bind_eq_ok, Option.okOr_eq_ok,
        Except.pure_eq_ok] at hstep
      obtain ⟨sample, hsample, rfl⟩ := hstep
      exact ⟨sample.value, by rw [streamValue, hsample, Option.map_some], rfl⟩)
    (fun a _ a' _ hsame b b' hb hb' => by
      rw [hsame, hb'] at hb
      exact (Option.some.inj hb).symm) h
  constructor
  · intro hmem
    obtain ⟨input, hinput, rfl⟩ := List.mem_map.mp hmem
    obtain ⟨value, hvalue, hfinal⟩ := hread input hinput
    rw [hfinal, hvalue]
  · exact hunread source

private theorem latched_of_foldlM {values : TickValues} {nodes : List ClockedNode}
    (hnodup : (nodes.map ClockedNode.node).Nodup) {delays next : GraphNodeId → Option TypedGraphValue}
    (h : nodes.foldlM (context.latchDelay tick values) delays = .ok next) :
    ∀ node ∈ nodes, ∃ source, context.sourceForInput node.delayInput = .ok source ∧
      (values source).isSome = true ∧ next node.node = values source := by
  have hwritten := (written_of_foldlM ClockedNode.node
    (fun node value => ∃ source, context.sourceForInput node.delayInput = .ok source ∧
      values source = some value)
    (fun delays node _ next hstep => by
      simp only [SimulationContext.latchDelay, Except.bind_eq_ok, Option.okOr_eq_ok,
        Except.pure_eq_ok] at hstep
      obtain ⟨source, hsource, value, hvalue, rfl⟩ := hstep
      exact ⟨value, ⟨source, hsource, hvalue⟩, rfl⟩)
    (fun a ha a' ha' hsame b b' hb hb' => by
      obtain rfl := List.inj_on_of_nodup_map hnodup ha ha' hsame
      obtain ⟨source, hsource, hvalue⟩ := hb
      obtain ⟨source', hsource', hvalue'⟩ := hb'
      obtain rfl := Except.ok.inj (hsource.symm.trans hsource')
      exact Option.some.inj (hvalue.symm.trans hvalue')) h).1
  intro node hnode
  obtain ⟨value, ⟨source, hsource, hvalue⟩, hnext⟩ := hwritten node hnode
  exact ⟨source, hsource, Option.isSome_of_eq_some hvalue, hnext.trans hvalue.symm⟩

/-- One tick of a clock domain whose nodes differ, and which reads none of its own outputs from
elsewhere. -/
theorem tickRun_of_clockedTick (hnodup : (order.nodes.map ClockedNode.node).Nodup)
    (hforeign : ∀ input ∈ order.inputs, input.2 ∉ order.nodes.map ClockedNode.source)
    (h : context.clockedTick clock streams order.inputs order.delays order.ordered tick start =
      .ok final) : ∃ values, TickRun context clock streams order tick start final values := by
  simp only [SimulationContext.clockedTick, Except.bind_eq_ok, Except.pure_eq_ok] at h
  obtain ⟨read, hread, shown, hshown, computed, hcomputed, next, hnext, rfl⟩ := h
  have hreads := read_of_foldlM hread
  have houtputs := nodup_output hnodup
  rw [DomainOrder.nodes, List.map_append] at hnodup houtputs
  obtain ⟨hdelayIds, -, -⟩ := List.nodup_append.mp hnodup
  obtain ⟨hdelayOutputs, horderedOutputs, hdisjoint⟩ := List.nodup_append.mp houtputs
  have hunread : ∀ node ∈ order.nodes, read node.source = none := by
    intro node hnode
    apply (hreads node.source).2
    intro hmem
    obtain ⟨input, hinput, hsame⟩ := List.mem_map.mp hmem
    exact hforeign input hinput (hsame ▸ List.mem_map_of_mem hnode)
  have hdelays := emitted_of_foldlM
    (fun _ node value => start.delays node.node = some value)
    (fun state node =>
      (state.1.delays node.node).okOr (.missingClockedSample node.output tick))
    (fun state node value later hsame hvalue _ => by
      rwa [← hsame, ← Option.okOr_eq_ok])
    hdelayOutputs rfl (fun node hnode => hunread node (List.mem_append_left _ hnode)) hshown
  have hunwritten : ∀ node ∈ order.ordered, node.source ∉ order.delays.map ClockedNode.source := by
    intro node hnode hmem
    exact hdisjoint _ (mem_map_source.mp hmem) _ (List.mem_map_of_mem hnode) rfl
  have hordered := emitted_of_foldlM
    (fun values node value =>
      evaluateClockedNode context.document context.injected node tick values = .ok value)
    (fun state node =>
      evaluateClockedNode context.document context.injected node tick state.2)
    (fun state node value later _ hvalue hkept => evaluateClockedNode_mono hkept hvalue)
    horderedOutputs rfl
    (fun node hnode => by
      rw [hdelays.unwritten _ (hunwritten node hnode)]
      exact hunread node (List.mem_append_right _ hnode)) hcomputed
  have hdelayValue : ∀ node ∈ order.delays, computed.2 node.source = start.delays node.node := by
    intro node hnode
    obtain ⟨value, hvalue, hdelay, -⟩ := hdelays.value node hnode
    rw [hordered.kept _ _ hvalue, hdelay]
  refine ⟨computed.2, ?_, ?_, hdelayValue, ?_, ?_, ?_, ?_⟩
  · intro source hsource
    obtain ⟨input, hinput, rfl⟩ := List.mem_map.mp hsource
    have hforeignInput := hforeign input hinput
    rw [DomainOrder.nodes, List.map_append, List.mem_append, not_or] at hforeignInput
    rw [hordered.unwritten _ hforeignInput.2, hdelays.unwritten _ hforeignInput.1]
    exact (hreads input.2).1 hsource
  · intro source hsource hnode
    rw [DomainOrder.nodes, List.map_append, List.mem_append, not_or] at hnode
    rw [hordered.unwritten _ hnode.2, hdelays.unwritten _ hnode.1]
    exact (hreads source).2 hsource
  · intro node hnode
    obtain ⟨value, hvalue, hrule, -⟩ := hordered.value node hnode
    exact ⟨value, hvalue, hrule⟩
  · exact latched_of_foldlM hdelayIds hnext
  · intro node hnode
    rcases List.mem_append.mp hnode with hnode | hnode
    · obtain ⟨value, hvalue, -, hgenerated⟩ := hdelays.value node hnode
      refine ⟨value, hordered.kept _ _ hvalue, ?_⟩
      rw [← hgenerated]
      apply hordered.idle
      intro hmem
      exact hdisjoint _ (List.mem_map_of_mem hnode) _ hmem rfl
    · obtain ⟨value, hvalue, -, hgenerated⟩ := hordered.value node hnode
      refine ⟨value, hvalue, ?_⟩
      rw [← hdelays.idle node.output (fun hmem =>
        hdisjoint _ hmem _ (List.mem_map_of_mem hnode) rfl)]
      exact hgenerated
  · have hshownEntries : tickEntries clock tick shown.2 order.delays =
        tickEntries clock tick computed.2 order.delays := by
      apply List.filterMap_congr
      intro node hnode
      obtain ⟨value, hvalue, -⟩ := hdelays.value node hnode
      rw [hvalue, hordered.kept _ _ hvalue]
    show computed.1.entries = _
    have hall := hordered.entries
    rw [hdelays.entries, hshownEntries, List.append_assoc] at hall
    rw [hall, DomainOrder.nodes, tickEntries, tickEntries, tickEntries, List.filterMap_append]

/-! ## All ticks -/

section Ticks

variable {rate : GraphClockRate} {count : Nat}
  (hrate : clockRateInHorizon context.analysis context.rootRate clock = .ok rate)
  (hcount : ∀ t, t < count ↔ tickTime context.rootRate rate t ≤ context.horizon.time)
  (hnodup : (order.nodes.map ClockedNode.node).Nodup)
  (hforeign : ∀ input ∈ order.inputs, input.2 ∉ order.nodes.map ClockedNode.source)

include hrate hcount hnodup hforeign in
/-- The loop runs every tick within the horizon, and no other. -/
theorem ticks_of_clockedTicks {allowed : Nat} (htick : tick ≤ count)
    (h : context.clockedTicks clock streams order.inputs order.delays order.ordered allowed tick
      start = .ok final) :
    count ≤ tick + allowed ∧ ∃ (states : Nat → ClockedState) (values : Nat → TickValues),
      states tick = start ∧ states count = final ∧ ∀ t, tick ≤ t → t < count →
        TickRun context clock streams order t (states t) (states (t + 1)) (values t) := by
  have htime : context.rootTime clock tick = .ok (tickTime context.rootRate rate tick) :=
    rootTime_of_rate hrate tick
  induction allowed generalizing tick start with
  | zero =>
    rw [SimulationContext.clockedTicks, Except.bind_of_ok htime] at h
    by_cases hlater : tickTime context.rootRate rate tick > context.horizon.time
    · rw [if_pos hlater] at h
      obtain rfl : start = final := Except.ok.inj h
      have hend : count ≤ tick := not_lt.mp fun hlt => not_le.mpr hlater ((hcount tick).mp hlt)
      obtain rfl : tick = count := le_antisymm htick hend
      exact ⟨by omega, fun _ => start, fun _ _ => none, rfl, rfl, by omega⟩
    · rw [if_neg hlater] at h
      cases h
  | succ allowed ih =>
    rw [SimulationContext.clockedTicks, Except.bind_of_ok htime] at h
    by_cases hlater : tickTime context.rootRate rate tick > context.horizon.time
    · rw [if_pos hlater] at h
      obtain rfl : start = final := Except.ok.inj h
      have hend : count ≤ tick := not_lt.mp fun hlt => not_le.mpr hlater ((hcount tick).mp hlt)
      obtain rfl : tick = count := le_antisymm htick hend
      exact ⟨by omega, fun _ => start, fun _ _ => none, rfl, rfl, by omega⟩
    · rw [if_neg hlater, Except.bind_eq_ok] at h
      obtain ⟨middle, hmiddle, hrest⟩ := h
      have hlt : tick < count := (hcount tick).mpr (not_lt.mp hlater)
      obtain ⟨now, hnow⟩ := tickRun_of_clockedTick hnodup hforeign hmiddle
      obtain ⟨hallowed, states, values, hfirst, hlast, hsteps⟩ := ih hlt hrest
        (rootTime_of_rate hrate (tick + 1))
      -- the state and the values of this tick come before those of the later ones
      refine ⟨by omega, Function.update states tick start, Function.update values tick now,
        Function.update_self .., ?_, ?_⟩
      · rw [Function.update_of_ne (by omega), hlast]
      · intro t hfrom hto
        rcases Nat.eq_or_lt_of_le hfrom with rfl | hafter
        · rw [Function.update_self, Function.update_self, Function.update_of_ne (by omega), hfirst]
          exact hnow
        · rw [Function.update_of_ne (by omega), Function.update_of_ne (by omega),
            Function.update_of_ne (by omega)]
          exact hsteps t hafter hto

end Ticks

end Domain

/-! ## Streams with a sample at every tick -/

/-- A stream with one sample at each tick below `count`, and no other. -/
structure TickStream (samples : List RuntimeSample) (count : Nat)
    (value : Nat → Option TypedGraphValue) : Prop where
  fits : count ≤ 2 ^ 64
  samples_eq : samples.map some =
    (List.range count).map fun tick => (value tick).map (tickSample tick)

namespace TickStream

variable {samples : List RuntimeSample} {count : Nat} {value : Nat → Option TypedGraphValue}

theorem nil (value : Nat → Option TypedGraphValue) : TickStream [] 0 value :=
  ⟨by omega, rfl⟩

theorem snoc {found : TypedGraphValue} (h : TickStream samples count value)
    (hfits : count + 1 ≤ 2 ^ 64) (hvalue : value count = some found) :
    TickStream (samples ++ [tickSample count found]) (count + 1) value := by
  refine ⟨hfits, ?_⟩
  rw [List.map_append, List.range_succ, List.map_append, h.samples_eq, List.map_singleton,
    List.map_singleton, hvalue, Option.map_some]

/-- A longer stream is a shorter one and its last sample. -/
theorem exists_snoc (h : TickStream samples (count + 1) value) :
    ∃ init found, TickStream init count value ∧ value count = some found ∧
      samples = init ++ [tickSample count found] := by
  obtain ⟨hfits, h⟩ := h
  rw [List.range_succ, List.map_append, List.map_singleton, List.map_eq_append_iff] at h
  obtain ⟨init, last, rfl, hinit, hlast⟩ := h
  cases hvalue : value count with
  | none =>
    rw [hvalue, Option.map_none, List.map_eq_singleton_iff] at hlast
    obtain ⟨_, -, hnone⟩ := hlast
    cases hnone
  | some found =>
    rw [hvalue, Option.map_some, List.map_eq_singleton_iff] at hlast
    obtain ⟨sample, rfl, hsample⟩ := hlast
    exact ⟨init, found, ⟨by omega, hinit⟩, rfl, by rw [Option.some.inj hsample]⟩

theorem nil_of_zero (h : TickStream samples 0 value) : samples = [] := by
  simpa using h.samples_eq

/-- The samples of the stream are those of its ticks. -/
theorem mem_iff (h : TickStream samples count value) {sample : RuntimeSample} :
    sample ∈ samples ↔ ∃ tick < count, ∃ found, value tick = some found ∧
      sample = tickSample tick found := by
  have hmem : sample ∈ samples ↔ some sample ∈ samples.map some := by simp
  rw [hmem, h.samples_eq, List.mem_map]
  simp only [List.mem_range, Option.map_eq_some_iff]
  constructor
  · rintro ⟨tick, htick, found, hfound, hsample⟩
    exact ⟨tick, htick, found, hfound, hsample.symm⟩
  · rintro ⟨tick, htick, found, hfound, hsample⟩
    exact ⟨tick, htick, found, hfound, hsample.symm⟩

theorem isSome (h : TickStream samples count value) {tick : Nat} (htick : tick < count) :
    (value tick).isSome = true := by
  induction count generalizing samples with
  | zero => omega
  | succ count ih =>
    obtain ⟨init, found, hinit, hfound, -⟩ := h.exists_snoc
    rcases Nat.lt_succ_iff_lt_or_eq.mp htick with hlt | rfl
    · exact ih hinit hlt
    · exact Option.isSome_of_eq_some hfound

/-- Ticks that fit the counter are the ticks of their samples. -/
theorem toNat_tickSample {tick : Nat} {found : TypedGraphValue} (h : tick < 2 ^ 64) :
    (tickSample tick found).clockTick.toNat = tick := by
  show (UInt64.ofNat tick).toNat = tick
  rw [UInt64.toNat_ofNat', Nat.mod_eq_of_lt h]

theorem sampleAtTick_eq (h : TickStream samples count value) (tick : Nat) :
    sampleAtTick samples tick =
      if tick < count then (value tick).map (tickSample tick) else none := by
  induction count generalizing samples with
  | zero => rw [h.nil_of_zero, if_neg (by omega), sampleAtTick, List.find?_nil]
  | succ count ih =>
    have hfits := h.fits
    obtain ⟨init, found, hinit, hfound, rfl⟩ := h.exists_snoc
    have hrest := ih hinit
    have htick : (tickSample count found).clockTick.toNat = count := toNat_tickSample (by omega)
    rw [sampleAtTick] at hrest ⊢
    rw [List.find?_append, hrest]
    by_cases hearlier : tick < count
    · obtain ⟨now, hnow⟩ := Option.isSome_iff_exists.mp (hinit.isSome hearlier)
      rw [if_pos hearlier, if_pos (by omega), hnow, Option.map_some, Option.some_or]
    · rw [if_neg hearlier, Option.none_or]
      by_cases hlast : tick = count
      · rw [hlast, if_pos (by omega), hfound, Option.map_some, List.find?_singleton, htick]
        simp
      · rw [if_neg (by omega), List.find?_singleton, htick]
        simp [Ne.symm hlast]

theorem ticksIncrease (h : TickStream samples count value) : TicksIncrease samples := by
  induction count generalizing samples with
  | zero =>
    rw [h.nil_of_zero]
    exact .nil
  | succ count ih =>
    have hfits := h.fits
    obtain ⟨init, found, hinit, hfound, rfl⟩ := h.exists_snoc
    refine List.pairwise_append.mpr ⟨ih hinit, List.pairwise_singleton _ _, ?_⟩
    intro sample hsample last hlast
    obtain ⟨tick, htick, earlier, -, rfl⟩ := hinit.mem_iff.mp hsample
    obtain rfl := List.mem_singleton.mp hlast
    rw [toNat_tickSample (by omega), toNat_tickSample (by omega)]
    exact htick

end TickStream

/-! ## Whole domains -/

section Group

variable {context : SimulationContext} {clock : GraphClockId}

/-- Streams with the same samples at a source carry the same values there. -/
theorem streamValue_congr {streams streams' : RuntimeStreams} {source : RuntimeStreamSource}
    (h : streams source = streams' source) (tick : Nat) :
    streamValue streams source tick = streamValue streams' source tick := by
  rw [streamValue, streamValue, h]

theorem streamValue_of_tickStream {streams : RuntimeStreams} {source : RuntimeStreamSource}
    {samples : List RuntimeSample} {count : Nat} {value : Nat → Option TypedGraphValue}
    (hstream : streams source = some samples) (h : TickStream samples count value)
    {tick : Nat} (htick : tick < count) : streamValue streams source tick = value tick := by
  rw [streamValue, hstream, Option.bind_some, h.sampleAtTick_eq, if_pos htick, Option.map_map]
  cases value tick <;> rfl

/-- The number of ticks of a clock up to the horizon. -/
def SimulationContext.ticks (context : SimulationContext) (rate : GraphClockRate) : Nat :=
  tickCount context.rootRate rate context.horizon.time

/-- What a clock domain adds to a run: at every tick up to the horizon, one value for each of its
nodes, and the values they are computed from. -/
structure GroupRun (context : SimulationContext) (clock : GraphClockId) (group : List ClockedNode)
    (before after : SimulationState) (rate : GraphClockRate) (values : Nat → TickValues) :
    Prop where
  rate_ok : clockRateInHorizon context.analysis context.rootRate clock = .ok rate
  allowed : context.ticks rate ≤ context.limits.maximumTicksPerTransition.toNat
  stream : ∀ node ∈ group, ∃ samples, after.streams node.source = some samples ∧
    TickStream samples (context.ticks rate) fun tick => values tick node.source
  other : ∀ source, source ∉ group.map ClockedNode.source →
    after.streams source = before.streams source
  known : ∀ tick < context.ticks rate,
    KeepsValues (values tick) fun source => streamValue after.streams source tick
  initial : ∀ node ∈ group, node.behavior.isDelay = true → ∃ input parameter output value,
    node.behavior = .unitDelay input parameter output ∧
      parameterValue context.document node.node parameter = .ok value ∧
      values 0 node.source = some value
  latched : ∀ node ∈ group, node.behavior.isDelay = true → ∃ source,
    context.sourceForInput node.delayInput = .ok source ∧ ∀ tick < context.ticks rate,
      (values tick source).isSome = true ∧
      (tick + 1 < context.ticks rate → values (tick + 1) node.source = values tick source)
  computed : ∀ node ∈ group, node.behavior.isDelay = false → ∀ tick < context.ticks rate,
    ∃ value, values tick node.source = some value ∧
      evaluateClockedNode context.document context.injected node tick (values tick) = .ok value
  entries : ∃ nodes, nodes.Perm group ∧ after.entries = before.entries ++
    (List.range (context.ticks rate)).flatMap fun tick => tickEntries clock tick (values tick) nodes

theorem rate_of_clockedTicks {streams : RuntimeStreams}
    {inputs : List (WireEndpoint × RuntimeStreamSource)} {delays ordered : List ClockedNode}
    {allowed tick : Nat} {start final : ClockedState}
    (h : context.clockedTicks clock streams inputs delays ordered allowed tick start = .ok final) :
    ∃ rate, clockRateInHorizon context.analysis context.rootRate clock = .ok rate := by
  cases allowed <;>
  · rw [SimulationContext.clockedTicks, Except.bind_eq_ok] at h
    obtain ⟨time, htime, -⟩ := h
    obtain ⟨rate, hrate, -⟩ := rootTime_eq_ok htime
    exact ⟨rate, hrate⟩

/-- The ordering loop permutes the combinational nodes. -/
theorem combinationalOrder_perm {streams : RuntimeStreams} {nodes ordered : List ClockedNode}
    (h : context.combinationalOrder streams nodes = .ok ordered) :
    ordered.Perm (nodes.filter fun node => !node.behavior.isDelay) := by
  simp only [SimulationContext.combinationalOrder, Except.bind_eq_ok, Except.pure_eq_ok] at h
  obtain ⟨⟨available, found⟩, hsolve, rfl⟩ := h
  obtain ⟨order, horder, hsteps⟩ := Worklist.steps_of_solve hsolve
  have hplaced : ∀ {first last : (RuntimeStreamSource → Bool) × List ClockedNode}
      {placed : List ClockedNode}, Worklist.Steps context.attemptOrder first placed last →
        last.2 = first.2 ++ placed := by
    intro first last placed hplaced
    induction hplaced with
    | nil => simp
    | cons hattempt _ ih =>
      rw [SimulationContext.attemptOrder] at hattempt
      split at hattempt
      · rw [ih, ← Option.some.inj (Except.ok.inj hattempt), List.append_assoc,
          List.singleton_append]
      · cases hattempt
  have hfound := hplaced hsteps
  rw [List.nil_append] at hfound
  rw [hfound]
  exact horder

/-- A clock domain reads its own outputs within the tick, and never as the streams of others. -/
theorem foreign_of_externalInputs {streams : RuntimeStreams} {nodes : List ClockedNode}
    {inputs : List (WireEndpoint × RuntimeStreamSource)}
    (h : context.externalInputs clock streams nodes = .ok inputs) :
    ∀ input ∈ inputs, input.2 ∉ nodes.map ClockedNode.source := by
  simp only [SimulationContext.externalInputs, Except.bind_eq_ok, Except.pure_eq_ok] at h
  obtain ⟨found, hfound, rfl⟩ := h
  have hforeign : ∀ input ∈ found, input.2 ∉ nodes.map ClockedNode.source := by
    refine Except.foldlM_invariant (P := fun inputs => ∀ input ∈ inputs,
      input.2 ∉ nodes.map ClockedNode.source) ?_ (by simp) hfound
    intro inputs node _ next hinputs hnode
    refine Except.foldlM_invariant (P := fun inputs => ∀ input ∈ inputs,
      input.2 ∉ nodes.map ClockedNode.source) ?_ hinputs hnode
    intro inputs port _ next hinputs hport
    simp only [SimulationContext.externalInputsOf, Except.bind_eq_ok] at hport
    obtain ⟨source, -, hport⟩ := hport
    split at hport
    · obtain rfl : inputs = next := Except.ok.inj hport
      exact hinputs
    · next hsource =>
      simp only [Except.bind_eq_ok, Except.exists_unit, Except.pure_eq_ok] at hport
      obtain ⟨_, -, -, rfl⟩ := hport
      intro input hinput
      rcases List.mem_append.mp hinput with hinput | hinput
      · exact hinputs input hinput
      · obtain rfl := List.mem_singleton.mp hinput
        rwa [List.map_map] at hsource
  intro input hinput
  exact hforeign input (Table.mem_sortByKey.mp (List.mem_dedup.mp hinput))

private theorem initial_of_foldlM {nodes : List ClockedNode}
    (hnodup : (nodes.map ClockedNode.node).Nodup)
    (hdelay : ∀ node ∈ nodes, node.behavior.isDelay = true)
    {delays next : GraphNodeId → Option TypedGraphValue}
    (h : nodes.foldlM context.initialDelay delays = .ok next) :
    ∀ node ∈ nodes, ∃ input parameter output value,
      node.behavior = .unitDelay input parameter output ∧
        parameterValue context.document node.node parameter = .ok value ∧
        next node.node = some value := by
  have hwritten := (written_of_foldlM ClockedNode.node
    (fun node value => ∃ input parameter output,
      node.behavior = .unitDelay input parameter output ∧
        parameterValue context.document node.node parameter = .ok value)
    (fun delays node hnode next hstep => by
      have hkind := hdelay node hnode
      rw [SimulationContext.initialDelay] at hstep
      split at hstep
      · next input parameter output hbehavior =>
        simp only [Except.bind_eq_ok, Except.pure_eq_ok] at hstep
        obtain ⟨value, hvalue, rfl⟩ := hstep
        exact ⟨value, ⟨input, parameter, output, hbehavior, hvalue⟩, rfl⟩
      · next hother =>
        cases hbehavior : node.behavior with
        | unitDelay input parameter output => exact absurd hbehavior (hother input parameter output)
        | _ =>
          rw [hbehavior] at hkind
          cases hkind)
    (fun a ha a' ha' hsame b b' hb hb' => by
      obtain rfl := List.inj_on_of_nodup_map hnodup ha ha' hsame
      obtain ⟨input, parameter, output, hbehavior, hvalue⟩ := hb
      obtain ⟨input', parameter', output', hbehavior', hvalue'⟩ := hb'
      rw [hbehavior] at hbehavior'
      cases hbehavior'
      exact Except.ok.inj (hvalue.symm.trans hvalue')) h).1
  intro node hnode
  obtain ⟨value, ⟨input, parameter, output, hbehavior, hvalue⟩, hnext⟩ := hwritten node hnode
  exact ⟨input, parameter, output, value, hbehavior, hvalue, hnext⟩

/-- A clock domain that succeeds has run every tick up to the horizon. -/
theorem groupRun_of_group {group : List ClockedNode} {before after : SimulationState}
    (hroot : 0 < context.rootRate.ticksPerSecond)
    (hpos : ∀ rate, clockRateInHorizon context.analysis context.rootRate clock = .ok rate →
      0 < rate.ticksPerSecond)
    (hnodup : (group.map ClockedNode.node).Nodup)
    (h : context.simulateClockedGroup clock before group = .ok after) :
    ∃ rate values, GroupRun context clock group before after rate values := by
  simp only [SimulationContext.simulateClockedGroup, Except.bind_eq_ok, Except.pure_eq_ok] at h
  obtain ⟨ordered, hordered, inputs, hinputs, initial, hinitial, final, hticks, rfl⟩ := h
  obtain ⟨rate, hrate⟩ := rate_of_clockedTicks hticks
  have hcount : ∀ t, t < context.ticks rate ↔
      tickTime context.rootRate rate t ≤ context.horizon.time := fun t =>
    lt_tickCount_iff hroot (hpos rate hrate) (horizon_nonneg context.horizon)
  have horder := combinationalOrder_perm hordered
  let order : DomainOrder := ⟨inputs, group.filter fun node => node.behavior.isDelay, ordered⟩
  have hperm : order.nodes.Perm group := by
    have hsplit := List.filter_append_perm (fun node : ClockedNode => node.behavior.isDelay) group
    exact (horder.append_left _).trans hsplit
  have hnodes : (order.nodes.map ClockedNode.node).Nodup :=
    (hperm.map ClockedNode.node).nodup_iff.mpr hnodup
  have hsources : ∀ source, source ∈ order.nodes.map ClockedNode.source ↔
      source ∈ group.map ClockedNode.source := fun source =>
    (hperm.map ClockedNode.source).mem_iff
  have hforeign : ∀ input ∈ order.inputs, input.2 ∉ order.nodes.map ClockedNode.source := by
    intro input hinput
    rw [hsources]
    exact foreign_of_externalInputs hinputs input hinput
  obtain ⟨hallowed, states, values, hfirst, hlast, hsteps⟩ :=
    ticks_of_clockedTicks hrate hcount hnodes hforeign (Nat.zero_le _) hticks
  rw [Nat.zero_add] at hallowed
  have hwidth : context.ticks rate ≤ 2 ^ 64 :=
    hallowed.trans (UInt64.toNat_lt _).le
  have hdelays : ∀ node, node ∈ order.delays ↔ node ∈ group ∧ node.behavior.isDelay = true :=
    fun node => List.mem_filter
  have hcomb : ∀ node, node ∈ order.ordered ↔ node ∈ group ∧ node.behavior.isDelay = false := by
    intro node
    rw [horder.mem_iff, List.mem_filter, Bool.not_eq_true']
  -- induction over the ticks: what has been generated and recorded before each of them
  have hruns : ∀ n ≤ context.ticks rate, (∀ node ∈ order.nodes,
      TickStream ((states n).generated node.output) n fun tick => values tick node.source) ∧
      (states n).entries = before.entries ++
        (List.range n).flatMap fun tick => tickEntries clock tick (values tick) order.nodes := by
    intro n hn
    induction n with
    | zero =>
      rw [hfirst]
      exact ⟨fun _ _ => .nil _, by simp⟩
    | succ n ih =>
      obtain ⟨hstreams, hentries⟩ := ih (by omega)
      have hstep := hsteps n (Nat.zero_le n) (by omega)
      constructor
      · intro node hnode
        obtain ⟨value, hvalue, hgenerated⟩ := hstep.emitted node hnode
        rw [hgenerated]
        exact (hstreams node hnode).snoc (by omega) hvalue
      · rw [hstep.entries, hentries, List.range_succ, List.flatMap_append,
          List.flatMap_singleton, List.append_assoc]
  obtain ⟨hstreams, hentries⟩ := hruns _ le_rfl
  rw [hlast] at hstreams hentries
  have hpublished : ∀ node ∈ group, SimulationContext.publish before.streams
      (group.map ClockedNode.output) final.generated node.source =
        some (final.generated node.output) := fun node hnode =>
    publish_output (List.mem_map_of_mem hnode)
  have hkept : ∀ source, source ∉ group.map ClockedNode.source →
      SimulationContext.publish before.streams (group.map ClockedNode.output) final.generated
        source = before.streams source := by
    intro source hsource
    apply publish_of_not_mem
    rintro endpoint hendpoint rfl
    obtain ⟨node, hnode, rfl⟩ := List.mem_map.mp hendpoint
    exact hsource (List.mem_map_of_mem hnode)
  refine ⟨rate, values, hrate, hallowed, ?_, hkept, ?_, ?_, ?_, ?_, order.nodes, hperm, hentries⟩
  · intro node hnode
    exact ⟨_, hpublished node hnode, hstreams node (hperm.mem_iff.mpr hnode)⟩
  · intro tick htick source value hvalue
    have hstep := hsteps tick (Nat.zero_le tick) htick
    show streamValue (SimulationContext.publish before.streams (group.map ClockedNode.output)
      final.generated) source tick = some value
    by_cases hread : source ∈ order.inputs.map Prod.snd
    · obtain ⟨input, hinput, rfl⟩ := List.mem_map.mp hread
      have hother := hkept input.2 (by
        rw [← hsources]
        exact hforeign input hinput)
      rw [streamValue_congr hother, ← hstep.read _ hread, hvalue]
    · by_cases hown : source ∈ order.nodes.map ClockedNode.source
      · obtain ⟨node, hnode, rfl⟩ := List.mem_map.mp hown
        rw [streamValue_of_tickStream (hpublished node (hperm.mem_iff.mp hnode))
          (hstreams node hnode) htick, hvalue]
      · rw [hstep.written source hread hown] at hvalue
        cases hvalue
  · intro node hnode hkind
    have hmem := (hdelays node).mpr ⟨hnode, hkind⟩
    have hids : (order.delays.map ClockedNode.node).Nodup := by
      rw [DomainOrder.nodes, List.map_append] at hnodes
      exact (List.nodup_append.mp hnodes).1
    obtain ⟨input, parameter, output, value, hbehavior, hvalue, hstate⟩ :=
      initial_of_foldlM hids (fun node hnode => ((hdelays node).mp hnode).2) hinitial node hmem
    have hzero : 0 < context.ticks rate := Nat.succ_pos _
    refine ⟨input, parameter, output, value, hbehavior, hvalue, ?_⟩
    rw [(hsteps 0 le_rfl hzero).shown node hmem, hfirst]
    exact hstate
  · intro node hnode hkind
    have hmem := (hdelays node).mpr ⟨hnode, hkind⟩
    have hzero : 0 < context.ticks rate := Nat.succ_pos _
    obtain ⟨source, hsource, -, -⟩ := (hsteps 0 le_rfl hzero).latched node hmem
    refine ⟨source, hsource, fun tick htick => ?_⟩
    obtain ⟨found, hfound, hsome, hnext⟩ := (hsteps tick (Nat.zero_le _) htick).latched node hmem
    obtain rfl := Except.ok.inj (hsource.symm.trans hfound)
    refine ⟨hsome, fun hlater => ?_⟩
    rw [(hsteps (tick + 1) (Nat.zero_le _) hlater).shown node hmem, hnext]
  · intro node hnode hkind tick htick
    exact (hsteps tick (Nat.zero_le _) htick).computed node ((hcomb node).mpr ⟨hnode, hkind⟩)

end Group

end Alumina.Graph
