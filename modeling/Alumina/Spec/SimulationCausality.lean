import Alumina.Spec.SimulationMeaning

/-!
# Simulation is causal

A value at a tick depends on values at earlier times, and at the same time only on values that
rank above it: a combinational node and a rate transition rank below their inputs, and a delay
reads an earlier tick. There are finitely many ticks up to a horizon, so solutions whose caller
samples agree up to a time agree up to that time. Two horizons are compared in one argument; one
horizon gives uniqueness.

Key results:
- `causal_induction`: induction over finitely many events in the order of their causes
- `agree_upTo`: solutions with the same caller samples up to a time agree up to it
- `simulation_meaning`: a returned trace records the one solution of the document's equations
-/

/-- Induction over finitely many events: an event may rely on all events of earlier times, and on
the events of its own time that rank above it. -/
theorem causal_induction {ε τ : Type} [LinearOrder τ] (time : ε → τ) (rank : ε → Nat)
    {P : ε → Prop} {events : List ε}
    (hstep : ∀ e ∈ events, (∀ e' ∈ events,
      time e' < time e ∨ time e' = time e ∧ rank e < rank e' → P e') → P e) :
    ∀ e ∈ events, P e := by
  let causes : {e // e ∈ events} → {e // e ∈ events} → Prop := fun e' e =>
    time e'.1 < time e.1 ∨ time e'.1 = time e.1 ∧ rank e.1 < rank e'.1
  have : Finite {e // e ∈ events} := events.finite_toSet
  have : IsTrans _ causes := ⟨fun a b c hab hbc => by
    rcases hab with hab | ⟨hab, hrank⟩
    · rcases hbc with hbc | ⟨hbc, -⟩
      · exact .inl (hab.trans hbc)
      · exact .inl (hab.trans_eq hbc)
    · rcases hbc with hbc | ⟨hbc, hrank'⟩
      · exact .inl (hab.trans_lt hbc)
      · exact .inr ⟨hab.trans hbc, hrank'.trans hrank⟩⟩
  have : Std.Irrefl causes := ⟨fun a ha => by
    rcases ha with ha | ⟨-, ha⟩
    · exact lt_irrefl _ ha
    · exact lt_irrefl _ ha⟩
  have hwell := Finite.wellFounded_of_trans_of_irrefl causes
  intro e he
  exact hwell.induction (C := fun e => P e.1) ⟨e, he⟩ fun e ih =>
    hstep e.1 e.2 fun e' he' hcause => ih ⟨e', he'⟩ hcause

namespace Alumina.Graph

open Except (failIf)
open SimulationContext (sampleAtTick)

/-! ## Behaviours are functions -/

section Behaviours

variable {tables : DocumentTables} {node : GraphNodeId}
  {input input' : GraphPortId → Option GraphValue} {behavior : GraphSimulationNodeKind}
  {value value' : GraphValue}

/-- A behaviour reads no input but its own. -/
theorem Computes.congr (hsame : ∀ port ∈ clockedInputs behavior, input port = input' port)
    (h : Computes tables node input behavior value) :
    Computes tables node input' behavior value := by
  cases h with
  | exactAdd hleft hright =>
    exact .exactAdd ((hsame _ (by simp [clockedInputs])).symm.trans hleft)
      ((hsame _ (by simp [clockedInputs])).symm.trans hright)
  | exactSubtract hleft hright =>
    exact .exactSubtract ((hsame _ (by simp [clockedInputs])).symm.trans hleft)
      ((hsame _ (by simp [clockedInputs])).symm.trans hright)
  | exactScale hport hfactor =>
    exact .exactScale ((hsame _ (by simp [clockedInputs])).symm.trans hport) hfactor
  | exactClamp hport hlow hhigh hrange =>
    exact .exactClamp ((hsame _ (by simp [clockedInputs])).symm.trans hport) hlow hhigh hrange
  | exactWithinInclusive hport hlow hhigh hrange =>
    exact .exactWithinInclusive ((hsame _ (by simp [clockedInputs])).symm.trans hport) hlow hhigh
      hrange
  | booleanAnd hleft hright =>
    exact .booleanAnd ((hsame _ (by simp [clockedInputs])).symm.trans hleft)
      ((hsame _ (by simp [clockedInputs])).symm.trans hright)
  | typedConstant hparameter => exact .typedConstant hparameter
  | @typedCase selector whenFalse whenTrue output choice value hselector hchosen =>
    refine .typedCase ((hsame _ (by simp [clockedInputs])).symm.trans hselector)
      ((hsame _ ?_).symm.trans hchosen)
    cases choice <;> simp [clockedInputs]
  | exactPermitGate_permitted hpermit hport =>
    exact .exactPermitGate_permitted ((hsame _ (by simp [clockedInputs])).symm.trans hpermit)
      ((hsame _ (by simp [clockedInputs])).symm.trans hport)
  | exactPermitGate_refused hpermit hsafe =>
    exact .exactPermitGate_refused ((hsame _ (by simp [clockedInputs])).symm.trans hpermit) hsafe

/-- The inputs of a behaviour determine its value. -/
theorem Computes.unique (h : Computes tables node input behavior value)
    (h' : Computes tables node input behavior value') : value = value' := by
  cases h with
  | exactAdd hleft hright =>
    cases h' with
    | exactAdd hleft' hright' =>
      rw [hleft] at hleft'
      rw [hright] at hright'
      cases hleft'
      cases hright'
      rfl
  | exactSubtract hleft hright =>
    cases h' with
    | exactSubtract hleft' hright' =>
      rw [hleft] at hleft'
      rw [hright] at hright'
      cases hleft'
      cases hright'
      rfl
  | exactScale hport hfactor =>
    cases h' with
    | exactScale hport' hfactor' =>
      rw [hport] at hport'
      rw [hfactor] at hfactor'
      cases hport'
      cases hfactor'
      rfl
  | exactClamp hport hlow hhigh hrange =>
    cases h' with
    | exactClamp hport' hlow' hhigh' hrange' =>
      rw [hport] at hport'
      rw [hlow] at hlow'
      rw [hhigh] at hhigh'
      cases hport'
      cases hlow'
      cases hhigh'
      rfl
  | exactWithinInclusive hport hlow hhigh hrange =>
    cases h' with
    | exactWithinInclusive hport' hlow' hhigh' hrange' =>
      rw [hport] at hport'
      rw [hlow] at hlow'
      rw [hhigh] at hhigh'
      cases hport'
      cases hlow'
      cases hhigh'
      rfl
  | booleanAnd hleft hright =>
    cases h' with
    | booleanAnd hleft' hright' =>
      rw [hleft] at hleft'
      rw [hright] at hright'
      cases hleft'
      cases hright'
      rfl
  | typedConstant hparameter =>
    cases h' with
    | typedConstant hparameter' =>
      rw [hparameter] at hparameter'
      cases hparameter'
      rfl
  | typedCase hselector hchosen =>
    cases h' with
    | typedCase hselector' hchosen' =>
      rw [hselector] at hselector'
      cases hselector'
      exact Option.some.inj (hchosen.symm.trans hchosen')
  | exactPermitGate_permitted hpermit hport =>
    cases h' with
    | exactPermitGate_permitted hpermit' hport' => exact Option.some.inj (hport.symm.trans hport')
    | exactPermitGate_refused hpermit' hsafe' =>
      rw [hpermit] at hpermit'
      cases hpermit'
  | exactPermitGate_refused hpermit hsafe =>
    cases h' with
    | exactPermitGate_permitted hpermit' hport' =>
      rw [hpermit] at hpermit'
      cases hpermit'
    | exactPermitGate_refused hpermit' hsafe' =>
      rw [hsafe] at hsafe'
      cases hsafe'
      rfl

end Behaviours

/-! ## Streams of ticks -/

section Streams

variable {samples samples' : List RuntimeSample} {count : Nat}
  {value value' : Nat → Option TypedGraphValue}

theorem TickStream.unique (h : TickStream samples count value)
    (h' : TickStream samples' count value') (hsame : ∀ tick < count, value tick = value' tick) :
    samples = samples' := by
  have hmap : samples.map some = samples'.map some := by
    rw [h.samples_eq, h'.samples_eq]
    apply List.map_congr_left
    intro tick htick
    rw [hsame tick (List.mem_range.mp htick)]
  exact (List.map_injective_iff.mpr (Option.some_injective _)) hmap

/-- The samples due by a time, as a stream over the ticks due by it. -/
theorem TickStream.map_dueBy {rootRate rate : GraphClockRate} {time : ℚ}
    (h : TickStream samples count value) : (dueBy rootRate rate time samples).map some =
      ((List.range count).filter fun tick => tickTime rootRate rate tick ≤ time).map
        fun tick => (value tick).map (tickSample tick) := by
  induction count generalizing samples with
  | zero =>
    rw [h.nil_of_zero]
    rfl
  | succ count ih =>
    have hfits := h.fits
    obtain ⟨init, found, hinit, hfound, rfl⟩ := h.exists_snoc
    have htick : (tickSample count found).clockTick.toNat = count :=
      TickStream.toNat_tickSample (by omega)
    rw [List.range_succ, List.filter_append, List.map_append, ← ih hinit, dueBy, dueBy,
      List.filter_append, List.map_append, List.filter_singleton, List.filter_singleton, htick]
    by_cases hdue : tickTime rootRate rate count ≤ time
    · simp [hdue, hfound]
    · simp [hdue]

/-- Ticks that are not due do not count. -/
theorem filter_range_of_le {due : Nat → Prop} [DecidablePred due] {few many : Nat}
    (hle : few ≤ many) (hdue : ∀ tick, due tick → tick < few) :
    (List.range many).filter due = (List.range few).filter due := by
  induction many, hle using Nat.le_induction with
  | base => rfl
  | succ many hle ih =>
    have hlate : ¬ due many := fun hmany => absurd (hdue many hmany) (by omega)
    rw [List.range_succ, List.filter_append, ih, List.filter_singleton, decide_eq_false hlate]
    simp

theorem filter_range_congr {due : Nat → Prop} [DecidablePred due] {count count' : Nat}
    (hdue : ∀ tick, due tick → tick < count) (hdue' : ∀ tick, due tick → tick < count') :
    (List.range count).filter due = (List.range count').filter due := by
  rcases Nat.le_total count count' with hle | hle
  · exact (filter_range_of_le hle hdue).symm
  · exact filter_range_of_le hle hdue'

/-- The samples due by a time depend on the values of the ticks due by it. -/
theorem dueBy_congr {rootRate rate : GraphClockRate} {time : ℚ} {count' : Nat}
    (h : TickStream samples count value) (h' : TickStream samples' count' value')
    (hdue : ∀ tick, tickTime rootRate rate tick ≤ time → tick < count)
    (hdue' : ∀ tick, tickTime rootRate rate tick ≤ time → tick < count')
    (hsame : ∀ tick, tickTime rootRate rate tick ≤ time → value tick = value' tick) :
    dueBy rootRate rate time samples = dueBy rootRate rate time samples' := by
  have hmap : (dueBy rootRate rate time samples).map some =
      (dueBy rootRate rate time samples').map some := by
    rw [h.map_dueBy, h'.map_dueBy, filter_range_congr hdue hdue']
    apply List.map_congr_left
    intro tick htick
    rw [hsame tick (of_decide_eq_true (List.mem_filter.mp htick).2)]
  exact (List.map_injective_iff.mpr (Option.some_injective _)) hmap

/-- Samples due by an earlier time are due by a later one. -/
theorem dueBy_dueBy {rootRate rate : GraphClockRate} {earlier later : ℚ} (h : earlier ≤ later) :
    dueBy rootRate rate earlier (dueBy rootRate rate later samples) =
      dueBy rootRate rate earlier samples := by
  rw [dueBy, dueBy, List.filter_filter, dueBy]
  apply List.filter_congr
  intro sample _
  rw [Bool.and_eq_left_iff_imp, decide_eq_true_iff, decide_eq_true_iff]
  exact fun hdue => hdue.trans h

theorem sampleAtTick_dueBy {rootRate rate : GraphClockRate} {time : ℚ} {tick : Nat}
    (h : tickTime rootRate rate tick ≤ time) :
    sampleAtTick (dueBy rootRate rate time samples) tick = sampleAtTick samples tick := by
  rw [sampleAtTick, sampleAtTick, dueBy, List.find?_filter]
  congr 1
  funext sample
  rw [decide_eq_decide, decide_eq_true_iff, decide_eq_true_iff, and_iff_right_iff_imp]
  rintro rfl
  exact h

end Streams

/-! ## Two solutions -/

/-- Endpoints whose streams the equations determine. -/
def SimulationPlan.generated (plan : SimulationPlan) : List WireEndpoint :=
  plan.transitions.map transitionTarget ++ plan.clocked.map ClockedNode.output

/-- The ticks of the generated streams up to the horizon. -/
def generatedTicks (context : SimulationContext) (plan : SimulationPlan) :
    List (WireEndpoint × Nat) :=
  plan.generated.flatMap fun endpoint =>
    match clockRateInHorizon context.analysis context.rootRate
        (streamClock context.document (.output endpoint)) with
    | .ok rate => (List.range (context.ticks rate)).map fun tick => (endpoint, tick)
    | .error _ => []

/-- Exact time of a tick of a source's stream. -/
def SimulationContext.sourceTime (context : SimulationContext) (source : RuntimeStreamSource)
    (tick : Nat) : ℚ :=
  match context.rootTime (streamClock context.document source) tick with
  | .ok time => time
  | .error _ => 0

/-- The same run up to another horizon, under other limits. -/
def SimulationContext.retarget (context : SimulationContext) (horizon : GraphSimulationHorizon)
    (limits : GraphSimulationLimits) : SimulationContext :=
  { context with horizon := horizon, limits := limits }

section Solutions

variable {context : SimulationContext} {plan : SimulationPlan}
  {external : List ExternalStreamSample} {injected : List InjectedInputSample}
  {streams : RuntimeStreams}

theorem sourceTime_eq {source : RuntimeStreamSource} {tick : Nat} {rate : GraphClockRate}
    (h : clockRateInHorizon context.analysis context.rootRate
      (streamClock context.document source) = .ok rate) :
    context.sourceTime source tick = tickTime context.rootRate rate tick := by
  have htime : context.rootTime (streamClock context.document source) tick =
      .ok (tickTime context.rootRate rate tick) := rootTime_of_rate h tick
  simp only [SimulationContext.sourceTime, htime]

theorem mem_generatedTicks {endpoint : WireEndpoint} {tick : Nat} {rate : GraphClockRate}
    (h : clockRateInHorizon context.analysis context.rootRate
      (streamClock context.document (.output endpoint)) = .ok rate) :
    (endpoint, tick) ∈ generatedTicks context plan ↔
      endpoint ∈ plan.generated ∧ tick < context.ticks rate := by
  simp only [generatedTicks, List.mem_flatMap]
  constructor
  · rintro ⟨other, hother, hmem⟩
    split at hmem
    · next found hfound =>
      obtain ⟨t, ht, heq⟩ := List.mem_map.mp hmem
      obtain ⟨rfl, rfl⟩ := Prod.mk.inj heq
      obtain rfl := Except.ok.inj (hfound.symm.trans h)
      exact ⟨hother, List.mem_range.mp ht⟩
    · cases hmem
  · rintro ⟨hendpoint, htick⟩
    refine ⟨endpoint, hendpoint, ?_⟩
    simp only [h]
    exact List.mem_map.mpr ⟨tick, List.mem_range.mpr htick, rfl⟩

theorem mem_generated_of_tick {endpoint : WireEndpoint} {tick : Nat}
    (h : (endpoint, tick) ∈ generatedTicks context plan) : endpoint ∈ plan.generated := by
  obtain ⟨other, hother, hfound⟩ := List.mem_flatMap.mp h
  split at hfound
  · obtain ⟨_, -, heq⟩ := List.mem_map.mp hfound
    exact (Prod.mk.inj heq).1 ▸ hother
  · cases hfound

/-- A generated stream has a sample at every tick of its clock. -/
theorem SolvesEquations.generated (h : SolvesEquations context streams plan external injected)
    {endpoint : WireEndpoint} (hmem : endpoint ∈ plan.generated) :
    ∃ rate samples value, clockRateInHorizon context.analysis context.rootRate
        (streamClock context.document (.output endpoint)) = .ok rate ∧
      streams (.output endpoint) = some samples ∧
      TickStream samples (context.ticks rate) value := by
  rcases List.mem_append.mp hmem with hmem | hmem
  · obtain ⟨item, hitem, rfl⟩ := List.mem_map.mp hmem
    obtain ⟨_, _, _, rate, generated, -, -, -, hrate, hgenerated, hstream⟩ := h.transition item hitem
    exact ⟨rate, generated, _, hrate, hgenerated, hstream⟩
  · obtain ⟨node, hnode, rfl⟩ := List.mem_map.mp hmem
    obtain ⟨rate, samples, value, hrate, hsamples, hstream, -⟩ := h.clocked node hnode
    exact ⟨rate, samples, value, hrate, hsamples, hstream⟩

/-- Ticks of a clock up to a time within the horizon. -/
theorem ContextFacts.tick_lt {document : GraphDocument} {registry : GraphNodeRegistry}
    (facts : ContextFacts document registry context) {clock : GraphClockId} {rate : GraphClockRate}
    (h : clockRateInHorizon context.analysis context.rootRate clock = .ok rate)
    {horizon : GraphSimulationHorizon} {tick : Nat} :
    tick < tickCount context.rootRate rate horizon.time ↔
      tickTime context.rootRate rate tick ≤ horizon.time :=
  lt_tickCount_iff facts.root_pos (facts.rate_pos h) (horizon_nonneg horizon)

end Solutions

/-- A source of the caller, whose stream the equations give. -/
def CallerSource (plan : SimulationPlan) (injected : List InjectedInputSample) :
    RuntimeStreamSource → Prop
  | .output endpoint => endpoint ∈ plan.sources.map Prod.fst
  | .injectedInput endpoint => endpoint ∈ injected.map InjectedInputSample.input

/-- The caller's streams agree up to a time. -/
def CallersAgree (context : SimulationContext) (plan : SimulationPlan)
    (injected : List InjectedInputSample) (time : ℚ) (streams streams' : RuntimeStreams) : Prop :=
  ∀ source rate, CallerSource plan injected source →
    clockRateInHorizon context.analysis context.rootRate (streamClock context.document source) =
      .ok rate →
    ∃ samples samples', streams source = some samples ∧ streams' source = some samples' ∧
      dueBy context.rootRate rate time samples = dueBy context.rootRate rate time samples'

/-- Solutions agree at a tick of a generated stream. -/
def AgreeAt (streams streams' : RuntimeStreams) (event : WireEndpoint × Nat) : Prop :=
  streamValue streams (.output event.1) event.2 = streamValue streams' (.output event.1) event.2

section Agree

variable [Sha256] {document : GraphDocument} {registry : GraphSimulationRegistry}
  {context : SimulationContext} {plan : SimulationPlan}
  {external external' : List ExternalStreamSample} {injected injected' : List InjectedInputSample}
  {streams streams' : RuntimeStreams} {horizon : GraphSimulationHorizon}
  {limits : GraphSimulationLimits} {time : ℚ}
  (facts : ContextFacts document registry.semantic context)
  (hplan : PlanFacts document registry context plan)
  (hinjected : ∀ input ∈ context.injected, input ∈ injected.map InjectedInputSample.input)

include facts hplan in
/-- A rate transition ranks below its input. -/
theorem transition_rank {rank : WireEndpoint → Nat}
    (hrank : ∀ node ∈ document.nodes, ∀ schema, registry.semantic.schema node.kind = some schema →
      ∀ dependency ∈ schema.outputDependencies, ∀ input ∈ dependency.inputs,
        rank ⟨node.id, dependency.output⟩ < rank ⟨node.id, input⟩)
    {item : GraphNodeId × GraphPortId × GraphPortId} (hitem : item ∈ plan.transitions) :
    rank (transitionTarget item) < rank ⟨item.1, item.2.1⟩ := by
  obtain ⟨definition, hmem, hid, hbound⟩ := hplan.mem_transitions.mp hitem
  obtain ⟨schema, hschema, -, -, hvalid⟩ :=
    PlanFacts.schema_of_bound facts.analysis hmem hbound
  simp only [validateImplementation, Except.failIf_eq_ok, not_or, not_not, ne_eq] at hvalid
  obtain ⟨-, -, hcontracts, -⟩ := hvalid
  have hregistered := GraphNodeRegistry.validate_of_schema hschema
  simp only [NodeSchema.validate, NodeSchema.validateRateTransitionContracts, Except.bind_eq_ok,
    Except.exists_unit] at hregistered
  obtain ⟨-, -, -, -, -, -, -, -, -, -, ⟨pairs, hpairs, -⟩, -⟩ := hregistered
  have hdependency := Except.foldlM_forall
    (Q := fun contract => schema.validateTransitionDependency contract = .ok ()) (by
      intro pairs contract next hstep
      simp only [NodeSchema.validateTransition, Except.bind_eq_ok, Except.exists_unit,
        Option.okOr_eq_ok, Except.failIf_eq_ok] at hstep
      obtain ⟨-, _, -, _, -, _, -, _, -, -, -, hdependency, -⟩ := hstep
      exact hdependency) hpairs ⟨item.2.1, item.2.2, .latestAtOrBeforeSourceFirst⟩
      (by rw [hcontracts]; exact List.mem_singleton_self _)
  rw [NodeSchema.validateTransitionDependency] at hdependency
  split at hdependency
  · next dependency hfound =>
    rw [Except.failIf_eq_ok, not_not] at hdependency
    have hname : dependency.output = item.2.2 := by simpa using List.find?_some hfound
    have hlower := hrank definition hmem schema hschema dependency
      (List.mem_of_find?_eq_some hfound) item.2.1 hdependency
    rwa [hname, hid] at hlower
  · cases hdependency

include facts hplan hinjected in
/-- What feeds an input: the caller, or a generated stream that ranks above the input. -/
theorem source_of_input {rank : WireEndpoint → Nat}
    (hwires : ∀ wire ∈ document.wires, rank wire.target < rank wire.source) {input : WireEndpoint}
    {source : RuntimeStreamSource} (h : context.sourceForInput input = .ok source) :
    CallerSource plan injected source ∨ ∃ endpoint ∈ plan.generated, source = .output endpoint ∧
      rank input < rank endpoint := by
  have h := sourceForInput_eq_ok.mp h
  rw [facts.document_eq] at h
  rcases h with ⟨wire, hwire, rfl⟩ | ⟨-, hmem, rfl⟩
  · have hwireMem := Table.mem_of_lookup hwire
    have htarget : wire.target = input := Table.key_of_lookup hwire
    have hlower := hwires wire hwireMem
    rw [htarget] at hlower
    rcases PlanFacts.producer_of_wire facts.analysis hplan hwireMem with
      hsource | ⟨item, hitem, hsource⟩ | ⟨node, hnode, hsource⟩
    · exact .inl hsource
    · refine .inr ⟨wire.source, List.mem_append_left _ ?_, rfl, hlower⟩
      exact List.mem_map.mpr ⟨item, hitem, hsource.symm⟩
    · refine .inr ⟨wire.source, List.mem_append_right _ ?_, rfl, hlower⟩
      exact List.mem_map.mpr ⟨node, hnode, hsource.symm⟩
  · exact .inl (hinjected input hmem)

include facts hplan in
/-- The streams a clocked node reads are on its own clock. -/
theorem clock_of_clocked_input {node : ClockedNode} (hnode : node ∈ plan.clocked)
    {input : GraphPortId} (hinput : input ∈ clockedInputs node.behavior)
    {source : RuntimeStreamSource} (h : context.sourceForInput ⟨node.node, input⟩ = .ok source) :
    streamClock context.document source = streamClock context.document node.source := by
  obtain ⟨port, hport, hinputs⟩ := PlanFacts.clocked_ports facts.analysis hplan hnode
  obtain ⟨sourcePort, hsourcePort, hclock⟩ := hinputs input hinput
  have hstream := runtimeStreamPort_of_source facts.document_eq h hsourcePort
  have hown : runtimeStreamPort context.document node.source = .ok port := by
    rw [facts.document_eq]
    exact hport
  rw [streamClock_of_ok hstream, streamClock_of_ok hown, hclock]

variable (hstreams : SolvesEquations context streams plan external injected)
  (hstreams' : SolvesEquations (context.retarget horizon limits) streams' plan external' injected')
  (hcallers : CallersAgree context plan injected time streams streams')
  (hnear : time ≤ context.horizon.time) (hfar : time ≤ horizon.time)

include facts hplan hinjected hstreams hstreams' hcallers hnear hfar in
/-- Solutions agree at a tick of a clocked node when they agree at its causes. -/
private theorem agreeAt_clocked {rank : WireEndpoint → Nat}
    (hwires : ∀ wire ∈ document.wires, rank wire.target < rank wire.source)
    (hnodes : ∀ node ∈ document.nodes, ∀ schema,
      registry.semantic.schema node.kind = some schema →
      ∀ dependency ∈ schema.outputDependencies, ∀ input ∈ dependency.inputs,
        rank ⟨node.id, dependency.output⟩ < rank ⟨node.id, input⟩)
    {node : ClockedNode} (hnode : node ∈ plan.clocked) {tick : Nat} {rate : GraphClockRate}
    (hrate : clockRateInHorizon context.analysis context.rootRate
      (streamClock context.document node.source) = .ok rate)
    (hdue : tickTime context.rootRate rate tick ≤ time)
    (hcauses : ∀ endpoint ∈ plan.generated, ∀ sourceRate, clockRateInHorizon context.analysis
        context.rootRate (streamClock context.document (.output endpoint)) = .ok sourceRate →
      ∀ t, tickTime context.rootRate sourceRate t < tickTime context.rootRate rate tick ∨
        tickTime context.rootRate sourceRate t = tickTime context.rootRate rate tick ∧
          rank node.output < rank endpoint → AgreeAt streams streams' (endpoint, t)) :
    AgreeAt streams streams' (node.output, tick) := by
  obtain ⟨rate₁, samples, value, hrate₁, hsamples, hstream, hequation⟩ :=
    hstreams.clocked node hnode
  obtain ⟨rate₂, samples', value', hrate₂, hsamples', hstream', hequation'⟩ :=
    hstreams'.clocked node hnode
  obtain rfl := Except.ok.inj (hrate₁.symm.trans hrate)
  obtain rfl := Except.ok.inj (hrate₂.symm.trans hrate₁)
  have hroot := facts.root_pos
  have hpos := facts.rate_pos hrate
  have htick : tick < context.ticks rate₂ := (facts.tick_lt hrate).mpr (hdue.trans hnear)
  have htick' : tick < (context.retarget horizon limits).ticks rate₂ :=
    (facts.tick_lt hrate).mpr (hdue.trans hfar)
  show streamValue streams node.source tick = streamValue streams' node.source tick
  rw [streamValue_of_tickStream hsamples hstream htick,
    streamValue_of_tickStream hsamples' hstream' htick']
  -- a source on the node's clock, no later than the tick
  have hsourceValue : ∀ {input source t}, input ∈ clockedInputs node.behavior →
      context.sourceForInput ⟨node.node, input⟩ = .ok source →
      (t < tick ∨ t = tick ∧ rank node.output < rank ⟨node.node, input⟩) →
      streamValue streams source t = streamValue streams' source t := by
    intro input source t hinput hsource hearlier
    have hclock := clock_of_clocked_input facts hplan hnode hinput hsource
    have hrateSource : clockRateInHorizon context.analysis context.rootRate
        (streamClock context.document source) = .ok rate₂ := by
      rw [hclock]
      exact hrate
    have hle : t ≤ tick := by omega
    have hdueSource : tickTime context.rootRate rate₂ t ≤ time :=
      ((tickTime_le_tickTime hroot hpos).mpr hle).trans hdue
    rcases source_of_input facts hplan hinjected hwires hsource with
      hcaller | ⟨endpoint, hendpoint, rfl, habove⟩
    · obtain ⟨read, read', hread, hread', hsame⟩ := hcallers source rate₂ hcaller hrateSource
      rw [streamValue, streamValue, hread, hread', Option.bind_some, Option.bind_some,
        ← sampleAtTick_dueBy hdueSource, hsame, sampleAtTick_dueBy hdueSource]
    · refine hcauses endpoint hendpoint rate₂ hrateSource t ?_
      rcases hearlier with hlt | ⟨rfl, hlower⟩
      · exact .inl ((tickTime_lt_tickTime hroot hpos).mpr hlt)
      · exact .inr ⟨rfl, hlower.trans habove⟩
  cases hequation with
  | @delay input output parameter initial source hbehavior hsource hinitial hfirst hnext =>
    cases hequation' with
    | @delay input' output' parameter' initial' source' hbehavior' hsource' hinitial' hfirst'
        hnext' =>
      rw [hbehavior] at hbehavior'
      cases hbehavior'
      obtain rfl := Except.ok.inj (hsource.symm.trans hsource')
      obtain rfl := Except.ok.inj (hinitial.symm.trans hinitial')
      cases tick with
      | zero => rw [hfirst, hfirst']
      | succ t =>
        have hinput : input ∈ clockedInputs node.behavior := by
          rw [hbehavior]
          exact List.mem_singleton_self _
        rw [hnext t htick, hnext' t htick']
        exact hsourceValue hinput hsource (.inl (by omega))
    | combinational hkind' =>
      rw [hbehavior] at hkind'
      cases hkind'
  | combinational hkind hport hvalue =>
    cases hequation' with
    | delay hbehavior' =>
      rw [hbehavior'] at hkind
      cases hkind
    | combinational hkind' hport' hvalue' =>
      obtain rfl := Except.ok.inj (hport.symm.trans hport')
      obtain ⟨found, hfound, htype, hcomputes⟩ := hvalue tick htick
      obtain ⟨found', hfound', htype', hcomputes'⟩ := hvalue' tick htick'
      have hinputs : ∀ input ∈ clockedInputs node.behavior,
          inputValue context streams node.node tick input =
            inputValue (context.retarget horizon limits) streams' node.node tick input := by
        intro input hinput
        have hretarget : (context.retarget horizon limits).sourceForInput ⟨node.node, input⟩ =
            context.sourceForInput ⟨node.node, input⟩ := rfl
        rw [inputValue, inputValue, hretarget]
        cases hsource : context.sourceForInput ⟨node.node, input⟩ with
        | error error => rfl
        | ok source =>
          dsimp only
          rw [hsourceValue hinput hsource (.inr ⟨rfl,
            PlanFacts.clocked_rank facts.analysis hplan hnodes hnode hkind input hinput⟩)]
      have hsame := (hcomputes.congr hinputs).unique hcomputes'
      rw [hfound, hfound']
      cases found
      cases found'
      simp_all

include facts hplan hinjected hstreams hstreams' hcallers hnear hfar in
/-- Solutions agree at a tick of a transition when they agree at its causes. -/
private theorem agreeAt_transition {rank : WireEndpoint → Nat}
    (hwires : ∀ wire ∈ document.wires, rank wire.target < rank wire.source)
    (hnodes : ∀ node ∈ document.nodes, ∀ schema,
      registry.semantic.schema node.kind = some schema →
      ∀ dependency ∈ schema.outputDependencies, ∀ input ∈ dependency.inputs,
        rank ⟨node.id, dependency.output⟩ < rank ⟨node.id, input⟩)
    {item : GraphNodeId × GraphPortId × GraphPortId} (hitem : item ∈ plan.transitions) {tick : Nat}
    {rate : GraphClockRate} (hrate : clockRateInHorizon context.analysis context.rootRate
      (streamClock context.document (.output (transitionTarget item))) = .ok rate)
    (hdue : tickTime context.rootRate rate tick ≤ time)
    (hcauses : ∀ endpoint ∈ plan.generated, ∀ sourceRate, clockRateInHorizon context.analysis
        context.rootRate (streamClock context.document (.output endpoint)) = .ok sourceRate →
      ∀ t, tickTime context.rootRate sourceRate t < tickTime context.rootRate rate tick ∨
        tickTime context.rootRate sourceRate t = tickTime context.rootRate rate tick ∧
          rank (transitionTarget item) < rank endpoint → AgreeAt streams streams' (endpoint, t)) :
    AgreeAt streams streams' (transitionTarget item, tick) := by
  obtain ⟨source, samples, sourceRate, rate₁, generated, hsource, hsamples, hsourceRate, hrate₁,
    hgenerated, hstream⟩ := hstreams.transition item hitem
  obtain ⟨source', samples', sourceRate', rate₂, generated', hsource', hsamples', hsourceRate',
    hrate₂, hgenerated', hstream'⟩ := hstreams'.transition item hitem
  obtain rfl := Except.ok.inj (hsource.symm.trans hsource')
  obtain rfl := Except.ok.inj (hsourceRate.symm.trans hsourceRate')
  obtain rfl := Except.ok.inj (hrate₁.symm.trans hrate)
  obtain rfl := Except.ok.inj (hrate₂.symm.trans hrate₁)
  have htick : tick < context.ticks rate₂ := (facts.tick_lt hrate).mpr (hdue.trans hnear)
  have htick' : tick < (context.retarget horizon limits).ticks rate₂ :=
    (facts.tick_lt hrate).mpr (hdue.trans hfar)
  have hread : dueBy context.rootRate sourceRate (tickTime context.rootRate rate₂ tick) samples =
      dueBy context.rootRate sourceRate (tickTime context.rootRate rate₂ tick) samples' := by
    rcases source_of_input facts hplan hinjected hwires hsource with
      hcaller | ⟨endpoint, hendpoint, rfl, habove⟩
    · obtain ⟨read, read', hread, hread', hsame⟩ := hcallers source sourceRate hcaller hsourceRate
      obtain rfl := Option.some.inj (hread.symm.trans hsamples)
      obtain rfl := Option.some.inj (hread'.symm.trans hsamples')
      rw [← dueBy_dueBy hdue, hsame, dueBy_dueBy hdue]
    · -- a source sample is due no later than the tick, and its stream ranks above the target
      obtain ⟨found, read, value, hfound, hread, hticks⟩ := hstreams.generated hendpoint
      obtain ⟨found', read', value', hfound', hread', hticks'⟩ := hstreams'.generated hendpoint
      obtain rfl := Except.ok.inj (hfound.symm.trans hsourceRate)
      obtain rfl := Except.ok.inj (hfound'.symm.trans hfound)
      obtain rfl := Option.some.inj (hread.symm.trans hsamples)
      obtain rfl := Option.some.inj (hread'.symm.trans hsamples')
      have hbelow := transition_rank facts hplan hnodes hitem
      have hlate : ∀ t, tickTime context.rootRate found' t ≤ tickTime context.rootRate rate₂ tick →
          t < context.ticks found' := fun t ht =>
        (facts.tick_lt hfound).mpr (ht.trans (hdue.trans hnear))
      have hlate' : ∀ t, tickTime context.rootRate found' t ≤ tickTime context.rootRate rate₂ tick →
          t < (context.retarget horizon limits).ticks found' := fun t ht =>
        (facts.tick_lt hfound).mpr (ht.trans (hdue.trans hfar))
      refine dueBy_congr hticks hticks' hlate hlate' fun t htime => ?_
      have hagree : AgreeAt streams streams' (endpoint, t) := by
        refine hcauses endpoint hendpoint found' hfound t ?_
        rcases htime.lt_or_eq with hlt | heq
        · exact .inl hlt
        · exact .inr ⟨heq, hbelow.trans habove⟩
      have hagree : streamValue streams (.output endpoint) t =
          streamValue streams' (.output endpoint) t := hagree
      rwa [streamValue_of_tickStream hread hticks (hlate t htime),
        streamValue_of_tickStream hread' hticks' (hlate' t htime)] at hagree
  show streamValue streams _ tick = streamValue streams' _ tick
  rw [streamValue_of_tickStream hgenerated hstream htick,
    streamValue_of_tickStream hgenerated' hstream' htick', hread]
  rfl

include facts hplan hinjected hstreams hstreams' hcallers hnear hfar in
/-- Solutions with the same caller samples up to a time agree up to it. -/
theorem agree_upTo {endpoint : WireEndpoint} (hmem : endpoint ∈ plan.generated)
    {rate : GraphClockRate} (hrate : clockRateInHorizon context.analysis context.rootRate
      (streamClock context.document (.output endpoint)) = .ok rate) {tick : Nat}
    (hdue : tickTime context.rootRate rate tick ≤ time) :
    streamValue streams (.output endpoint) tick = streamValue streams' (.output endpoint) tick := by
  obtain ⟨rank, hwires, hnodes⟩ := facts.analysis.acyclic
  have hagree : ∀ event ∈ generatedTicks context plan,
      context.sourceTime (.output event.1) event.2 ≤ time → AgreeAt streams streams' event := by
    refine causal_induction (fun event => context.sourceTime (.output event.1) event.2)
      (fun event => rank event.1) ?_
    rintro ⟨endpoint, tick⟩ hevent hcauses hdue
    have hmem := mem_generated_of_tick hevent
    obtain ⟨rate, _, _, hrate, -⟩ := hstreams.generated hmem
    have htime : context.sourceTime (.output endpoint) tick = tickTime context.rootRate rate tick :=
      sourceTime_eq hrate
    dsimp only at hcauses hdue
    rw [htime] at hdue hcauses
    -- causes are due, so they are ticks of the horizon
    have hcauses : ∀ endpoint' ∈ plan.generated, ∀ sourceRate, clockRateInHorizon context.analysis
          context.rootRate (streamClock context.document (.output endpoint')) = .ok sourceRate →
        ∀ t, tickTime context.rootRate sourceRate t < tickTime context.rootRate rate tick ∨
          tickTime context.rootRate sourceRate t = tickTime context.rootRate rate tick ∧
            rank endpoint < rank endpoint' → AgreeAt streams streams' (endpoint', t) := by
      intro endpoint' hendpoint' sourceRate hsourceRate t hearlier
      have hle : tickTime context.rootRate sourceRate t ≤ tickTime context.rootRate rate tick := by
        rcases hearlier with hlt | ⟨heq, -⟩
        · exact hlt.le
        · exact heq.le
      have htick := (facts.tick_lt hsourceRate).mpr (hle.trans (hdue.trans hnear))
      have htime' : context.sourceTime (.output endpoint') t =
          tickTime context.rootRate sourceRate t := sourceTime_eq hsourceRate
      have hcause := hcauses (endpoint', t)
        ((mem_generatedTicks hsourceRate).mpr ⟨hendpoint', htick⟩)
      dsimp only at hcause
      rw [htime'] at hcause
      exact hcause hearlier (hle.trans hdue)
    rcases List.mem_append.mp hmem with hmem | hmem
    · obtain ⟨item, hitem, rfl⟩ := List.mem_map.mp hmem
      exact agreeAt_transition facts hplan hinjected hstreams hstreams' hcallers hnear hfar hwires
        hnodes hitem hrate hdue hcauses
    · obtain ⟨node, hnode, rfl⟩ := List.mem_map.mp hmem
      exact agreeAt_clocked facts hplan hinjected hstreams hstreams' hcallers hnear hfar hwires
        hnodes hnode hrate hdue hcauses
  refine hagree (endpoint, tick) ((mem_generatedTicks hrate).mpr ⟨hmem, ?_⟩) ?_
  · exact (facts.tick_lt hrate).mpr (hdue.trans hnear)
  · dsimp only
    rw [sourceTime_eq hrate]
    exact hdue

include facts hplan hinjected hstreams hstreams' hcallers hnear hfar in
/-- Solutions with the same caller samples up to a time have the same samples up to it. -/
theorem dueBy_agree {source : RuntimeStreamSource} (hsource : PlannedSource plan injected source)
    {rate : GraphClockRate} (hrate : clockRateInHorizon context.analysis context.rootRate
      (streamClock context.document source) = .ok rate) :
    ∃ samples samples', streams source = some samples ∧ streams' source = some samples' ∧
      dueBy context.rootRate rate time samples = dueBy context.rootRate rate time samples' := by
  have hgenerated : ∀ endpoint ∈ plan.generated, source = .output endpoint →
      ∃ samples samples', streams source = some samples ∧ streams' source = some samples' ∧
        dueBy context.rootRate rate time samples = dueBy context.rootRate rate time samples' := by
    rintro endpoint hendpoint rfl
    obtain ⟨found, samples, value, hfound, hsamples, hstream⟩ := hstreams.generated hendpoint
    obtain ⟨found', samples', value', hfound', hsamples', hstream'⟩ := hstreams'.generated hendpoint
    obtain rfl := Except.ok.inj (hfound.symm.trans hrate)
    obtain rfl := Except.ok.inj (hfound'.symm.trans hfound)
    have hdue : ∀ t, tickTime context.rootRate found' t ≤ time → t < context.ticks found' :=
      fun t ht => (facts.tick_lt hfound).mpr (ht.trans hnear)
    have hdue' : ∀ t, tickTime context.rootRate found' t ≤ time →
        t < (context.retarget horizon limits).ticks found' :=
      fun t ht => (facts.tick_lt hfound).mpr (ht.trans hfar)
    refine ⟨samples, samples', hsamples, hsamples',
      dueBy_congr hstream hstream' hdue hdue' fun t ht => ?_⟩
    have hagree := agree_upTo facts hplan hinjected hstreams hstreams' hcallers hnear hfar hendpoint
      hfound ht
    rwa [streamValue_of_tickStream hsamples hstream (hdue t ht),
      streamValue_of_tickStream hsamples' hstream' (hdue' t ht)] at hagree
  cases source with
  | injectedInput endpoint => exact hcallers _ rate hsource hrate
  | output endpoint =>
    rcases hsource with hsource | ⟨item, hitem, rfl⟩ | ⟨node, hnode, rfl⟩
    · exact hcallers _ rate hsource hrate
    · exact hgenerated _ (List.mem_append_left _ (List.mem_map_of_mem hitem)) rfl
    · exact hgenerated _ (List.mem_append_right _ (List.mem_map_of_mem hnode)) rfl

end Agree

/-! ## One solution -/

section Unique

variable [Sha256] {document : GraphDocument} {registry : GraphSimulationRegistry}
  {context : SimulationContext} {plan : SimulationPlan}
  {external : List ExternalStreamSample} {injected : List InjectedInputSample}
  {streams streams' : RuntimeStreams}

omit [Sha256] in
theorem SolvesEquations.caller (h : SolvesEquations context streams plan external injected)
    (h' : SolvesEquations context streams' plan external injected) {source : RuntimeStreamSource}
    (hsource : CallerSource plan injected source) : streams source = streams' source := by
  cases source with
  | output endpoint => rw [h.external endpoint hsource, h'.external endpoint hsource]
  | injectedInput endpoint => rw [h.injected endpoint hsource, h'.injected endpoint hsource]

omit [Sha256] in
/-- A caller's source has a stream. -/
theorem SolvesEquations.caller_stream (h : SolvesEquations context streams plan external injected)
    {source : RuntimeStreamSource} (hsource : CallerSource plan injected source) :
    ∃ samples, streams source = some samples := by
  cases source with
  | output endpoint => exact ⟨_, h.external endpoint hsource⟩
  | injectedInput endpoint => exact ⟨_, h.injected endpoint hsource⟩

/-- Two solutions of the equations of a plan agree at every source that they determine. -/
theorem solution_unique (facts : ContextFacts document registry.semantic context)
    (hplan : PlanFacts document registry context plan)
    (hinjected : ∀ input ∈ context.injected, input ∈ injected.map InjectedInputSample.input)
    (hstreams : SolvesEquations context streams plan external injected)
    (hstreams' : SolvesEquations context streams' plan external injected)
    {source : RuntimeStreamSource} (hsource : PlannedSource plan injected source) :
    streams source = streams' source := by
  have hcallers : CallersAgree context plan injected context.horizon.time streams streams' := by
    intro source rate hsource hrate
    obtain ⟨samples, hsamples⟩ := hstreams.caller_stream hsource
    refine ⟨samples, samples, hsamples, ?_, rfl⟩
    rw [← hstreams.caller hstreams' hsource]
    exact hsamples
  have hself : SolvesEquations (context.retarget context.horizon context.limits) streams' plan
      external injected := hstreams'
  have hgenerated : ∀ endpoint ∈ plan.generated,
      streams (.output endpoint) = streams' (.output endpoint) := by
    intro endpoint hendpoint
    obtain ⟨rate, samples, value, hrate, hsamples, hstream⟩ := hstreams.generated hendpoint
    obtain ⟨rate', samples', value', hrate', hsamples', hstream'⟩ := hstreams'.generated hendpoint
    obtain rfl := Except.ok.inj (hrate'.symm.trans hrate)
    rw [hsamples, hsamples']
    congr 1
    refine hstream.unique hstream' fun tick htick => ?_
    have hagree := agree_upTo facts hplan hinjected hstreams hself hcallers le_rfl le_rfl hendpoint
      hrate ((facts.tick_lt hrate).mp htick)
    rwa [streamValue_of_tickStream hsamples hstream htick,
      streamValue_of_tickStream hsamples' hstream' htick] at hagree
  cases source with
  | injectedInput endpoint => exact hstreams.caller hstreams' hsource
  | output endpoint =>
    rcases hsource with hsource | ⟨item, hitem, rfl⟩ | ⟨node, hnode, rfl⟩
    · exact hstreams.caller hstreams' hsource
    · exact hgenerated _ (List.mem_append_left _ (List.mem_map_of_mem hitem))
    · exact hgenerated _ (List.mem_append_right _ (List.mem_map_of_mem hnode))

end Unique

/-- The caller's endpoints in a context are those of its injected samples. -/
theorem injected_of_context [Sha256] {document : GraphDocument}
    {registry : GraphSimulationRegistry} {horizon : GraphSimulationHorizon}
    {external : List ExternalStreamSample} {injected : List InjectedInputSample}
    {limits : GraphSimulationLimits} {context : SimulationContext}
    (h : simulationContext document registry horizon external injected limits = .ok context)
    {input : WireEndpoint} :
    input ∈ context.injected ↔ input ∈ injected.map InjectedInputSample.input := by
  simp only [simulationContext, Except.bind_eq_ok, Except.exists_unit, Except.pure_eq_ok] at h
  obtain ⟨-, -, -, _, -, _, -, rfl⟩ := h
  exact Table.mem_distinct

/-- **Meaning of a simulation.** When a document simulates, its synchronous equations up to the
horizon have a solution, with a stream for every source, transition and clocked node and for every
injected input and for nothing else; every solution agrees with it on these, and the returned trace
records each of its samples exactly once, and nothing else, in strictly increasing order of exact
time, kind and endpoint. -/
theorem simulation_meaning [Sha256] (document : GraphDocument) (registry : GraphSimulationRegistry)
    (horizon : GraphSimulationHorizon) (external : List ExternalStreamSample)
    (injected : List InjectedInputSample) (limits : GraphSimulationLimits)
    (simulation : GraphSimulation)
    (h : simulateGraphWithInputs document registry horizon external injected limits =
      .ok simulation) :
    ∃ context plan streams,
      simulationContext document registry horizon external injected limits = .ok context ∧
      document.nodes.foldlM (context.classifyNode registry.implementation) {} = .ok plan ∧
      SolvesEquations context streams plan external injected ∧
      (∀ source, (streams source).isSome = true ↔ PlannedSource plan injected source) ∧
      (∀ other, SolvesEquations context other plan external injected →
        ∀ source, PlannedSource plan injected source → other source = streams source) ∧
      RecordsStreams context plan streams simulation.entries := by
  obtain ⟨context, plan, streams, hcontext, hplan, hsolves, hexists, hrecords⟩ :=
    simulation_solves h
  exact ⟨context, plan, streams, hcontext, hplan, hsolves, hexists, fun other hother source =>
    solution_unique (contextFacts hcontext) (planFacts hplan)
      (fun input => (injected_of_context hcontext).mp) hother hsolves, hrecords⟩

section Relay

open HostLibrary

private theorem relayRun_isSome :
    (simulationContext relayDocument relayRegistry ⟨⟨1⟩, 2⟩ relaySamples []
      .interactive).toOption.isSome = true := by
  decide +kernel

theorem relayContext_eq :
    simulationContext relayDocument relayRegistry ⟨⟨1⟩, 2⟩ relaySamples [] .interactive =
      .ok relayContext := Except.eq_ok_get relayRun_isSome

private theorem relaySimulation_isSome :
    (simulateGraphWithInputs relayDocument relayRegistry ⟨⟨1⟩, 2⟩ relaySamples []
      .interactive).toOption.isSome = true := by
  decide +kernel

/-- What the relay simulates to. -/
def relaySimulation : GraphSimulation := Option.get _ relaySimulation_isSome

theorem relaySimulation_eq :
    simulateGraphWithInputs relayDocument relayRegistry ⟨⟨1⟩, 2⟩ relaySamples [] .interactive =
      .ok relaySimulation := Except.eq_ok_get relaySimulation_isSome

theorem simulation_meaning_relay : ∃ context plan streams,
    SolvesEquations context streams plan relaySamples [] ∧
      RecordsStreams context plan streams relaySimulation.entries := by
  obtain ⟨context, plan, streams, -, -, hsolves, -, -, hrecords⟩ :=
    simulation_meaning relayDocument relayRegistry ⟨⟨1⟩, 2⟩ relaySamples [] .interactive
      relaySimulation relaySimulation_eq
  exact ⟨context, plan, streams, hsolves, hrecords⟩

end Relay

end Alumina.Graph
