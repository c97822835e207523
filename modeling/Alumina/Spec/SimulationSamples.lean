import Alumina.Spec.SimulationCausality

/-!
# The caller's samples

A simulation sorts the samples of its caller, so their order does not matter, and it is causal:
samples after a time change nothing in the trace up to that time, whatever the horizon.

Key results:
- `simulateGraphWithInputs_perm`: the order of the caller's samples changes nothing
- `simulation_causal`: samples after a time change nothing in the trace up to it
-/

/-- Dropping entries of a sorted table leaves the rest sorted. -/
theorem Table.filter_sortByKey {α ι : Type} [LinearOrder ι] {key : α → ι} {xs : List α}
    {p : α → Bool} (hnodup : (xs.map key).Nodup) :
    (Table.sortByKey key xs).filter p = Table.sortByKey key (xs.filter p) := by
  refine Table.eq_of_perm_of_sorted ?_ ?_ Table.sortByKey_sorted ?_
  · exact (Table.sortByKey_perm.filter p).trans Table.sortByKey_perm.symm
  · exact Table.sortByKey_sorted.sublist List.filter_sublist
  · have hsorted : ((Table.sortByKey key xs).map key).Nodup :=
      (Table.sortByKey_perm.map key).nodup_iff.mpr hnodup
    exact hsorted.sublist (List.filter_sublist.map key)

namespace Alumina.Graph

open SimulationContext (sortExternal sortInjected)

/-! ## Keys of samples -/

/-- The place of an external sample in the order of admission. -/
def ExternalStreamSample.key (sample : ExternalStreamSample) : WireEndpoint ×ₗ ℕ ×ₗ ℕ :=
  toLex (sample.source, toLex (sample.clockTick.toNat, sample.sequence.toNat))

def InjectedInputSample.key (sample : InjectedInputSample) : WireEndpoint ×ₗ ℕ ×ₗ ℕ :=
  toLex (sample.input, toLex (sample.clockTick.toNat, sample.sequence.toNat))

section Keys

variable {context : SimulationContext} {plan : SimulationPlan}
  {external external' : List ExternalStreamSample} {injected injected' : List InjectedInputSample}
  {callers : SimulationState}

/-- Admitted samples of one source have different ticks. -/
theorem CallersAdmitted.external_nodup
    (h : CallersAdmitted context plan external injected callers) :
    (external.map ExternalStreamSample.key).Nodup := by
  have hsorted : ((sortExternal external).map ExternalStreamSample.key).Nodup := by
    rw [List.Nodup, List.pairwise_map]
    refine h.orderExternal.imp fun {a b} horder heq => ?_
    obtain ⟨hsource, hrest⟩ := Prod.mk.inj (toLex.injective heq)
    obtain ⟨htick, -⟩ := Prod.mk.inj (toLex.injective hrest)
    have hbefore : a.clockTick.toNat < b.clockTick.toNat := (horder hsource).1
    omega
  exact (Table.sortByKey_perm.map _).nodup_iff.mp hsorted

theorem CallersAdmitted.injected_nodup
    (h : CallersAdmitted context plan external injected callers) :
    (injected.map InjectedInputSample.key).Nodup := by
  have hsorted : ((sortInjected injected).map InjectedInputSample.key).Nodup := by
    rw [List.Nodup, List.pairwise_map]
    refine h.orderInjected.imp fun {a b} horder heq => ?_
    obtain ⟨hsource, hrest⟩ := Prod.mk.inj (toLex.injective heq)
    obtain ⟨htick, -⟩ := Prod.mk.inj (toLex.injective hrest)
    have hbefore : a.clockTick.toNat < b.clockTick.toNat := (horder hsource).1
    omega
  exact (Table.sortByKey_perm.map _).nodup_iff.mp hsorted

theorem sortExternal_congr (hperm : external.Perm external')
    (hnodup : (external.map ExternalStreamSample.key).Nodup) :
    sortExternal external = sortExternal external' := Table.sortByKey_congr hperm hnodup

theorem sortInjected_congr (hperm : injected.Perm injected')
    (hnodup : (injected.map InjectedInputSample.key).Nodup) :
    sortInjected injected = sortInjected injected' := Table.sortByKey_congr hperm hnodup

end Keys

section Samples

variable [Sha256] {document : GraphDocument} {registry : GraphSimulationRegistry}
  {horizon : GraphSimulationHorizon} {external external' : List ExternalStreamSample}
  {injected injected' : List InjectedInputSample} {limits : GraphSimulationLimits}
  {context : SimulationContext} {simulation : GraphSimulation}

/-- A simulation has admitted its caller's samples. -/
theorem callers_of_simulation
    (hcontext : simulationContext document registry horizon external injected limits = .ok context)
    (h : simulateGraphWithInputs document registry horizon external injected limits =
      .ok simulation) :
    ∃ plan callers, document.nodes.foldlM (context.classifyNode registry.implementation) {} =
      .ok plan ∧ CallersAdmitted context plan external injected callers := by
  simp only [simulateGraphWithInputs, SimulationContext.simulatePlan, Except.bind_eq_ok,
    Except.pure_eq_ok] at h
  obtain ⟨found, hfound, _, -, plan, hplan, _, ⟨callers, hcallers, -⟩, -⟩ := h
  obtain rfl := Except.ok.inj (hfound.symm.trans hcontext)
  exact ⟨plan, callers, hplan,
    callersAdmitted (fun source hsource => ((planFacts hplan).sourcePort source hsource).1) hcallers⟩

theorem simulationContext_perm (hexternal : external.Perm external')
    (hinjected : injected.Perm injected') :
    simulationContext document registry horizon external injected limits =
      simulationContext document registry horizon external' injected' limits := by
  have hinputs : Table.distinct (injected.map InjectedInputSample.input) =
      Table.distinct (injected'.map InjectedInputSample.input) :=
    Table.distinct_congr fun _ => (hinjected.map _).mem_iff
  simp only [simulationContext, hexternal.length_eq, hinjected.length_eq, hinputs]

private theorem simulation_of_perm (hexternal : external.Perm external')
    (hinjected : injected.Perm injected')
    (h : simulateGraphWithInputs document registry horizon external injected limits =
      .ok simulation) :
    simulateGraphWithInputs document registry horizon external' injected' limits =
      .ok simulation := by
  have hrun := h
  simp only [simulateGraphWithInputs, Except.bind_eq_ok] at hrun
  obtain ⟨context, hcontext, -⟩ := hrun
  obtain ⟨plan, callers, -, hadmitted⟩ := callers_of_simulation hcontext h
  have hsame : ∀ plan, context.simulatePlan plan external injected =
      context.simulatePlan plan external' injected' := by
    intro plan
    rw [SimulationContext.simulatePlan, SimulationContext.simulatePlan,
      SimulationContext.admitCallers, SimulationContext.admitCallers,
      sortExternal_congr hexternal hadmitted.external_nodup,
      sortInjected_congr hinjected hadmitted.injected_nodup]
  rw [← h, simulateGraphWithInputs, simulateGraphWithInputs,
    ← simulationContext_perm hexternal hinjected, hcontext, Except.bind_of_ok rfl,
    Except.bind_of_ok rfl]
  simp only [hsame]

end Samples

/-- **Order of the samples.** A simulation sorts the samples of its caller: listing the external
and the injected samples in another order gives the same simulation, or none for either. -/
theorem simulateGraphWithInputs_perm [Sha256] (document : GraphDocument)
    (registry : GraphSimulationRegistry) (horizon : GraphSimulationHorizon)
    (external external' : List ExternalStreamSample)
    (injected injected' : List InjectedInputSample) (limits : GraphSimulationLimits)
    (hexternal : external.Perm external') (hinjected : injected.Perm injected') :
    ∀ simulation, simulateGraphWithInputs document registry horizon external injected limits =
        .ok simulation ↔
      simulateGraphWithInputs document registry horizon external' injected' limits =
        .ok simulation := fun _ =>
  ⟨simulation_of_perm hexternal hinjected, simulation_of_perm hexternal.symm hinjected.symm⟩

/-! ## Samples after a time -/

section Causal

variable {context : SimulationContext} {plan : SimulationPlan} {streams : RuntimeStreams}
  {entries : List GraphTraceEntry} {time : ℚ}

/-- The external samples due by a time. -/
def SimulationContext.externalUpTo (context : SimulationContext) (time : ℚ)
    (external : List ExternalStreamSample) : List ExternalStreamSample :=
  external.filter fun sample =>
    context.sourceTime (.output sample.source) sample.clockTick.toNat ≤ time

/-- The injected samples due by a time. -/
def SimulationContext.injectedUpTo (context : SimulationContext) (time : ℚ)
    (injected : List InjectedInputSample) : List InjectedInputSample :=
  injected.filter fun sample =>
    context.sourceTime (.injectedInput sample.input) sample.clockTick.toNat ≤ time

/-- The entries of a trace up to a time. -/
def SimulationContext.entriesUpTo (context : SimulationContext) (time : ℚ)
    (entries : List GraphTraceEntry) : List GraphTraceEntry :=
  entries.filter fun entry => entryTime context entry ≤ time

/-- A trace up to a time records the samples due by it. -/
theorem RecordsStreams.mem_entriesUpTo (h : RecordsStreams context plan streams entries)
    {entry : GraphTraceEntry} : entry ∈ context.entriesUpTo time entries ↔
      ∃ source rate samples sample, clockRateInHorizon context.analysis context.rootRate
          (streamClock context.document source) = .ok rate ∧ streams source = some samples ∧
        sample ∈ dueBy context.rootRate rate time samples ∧
        entry = plan.entry context.document source sample := by
  simp only [SimulationContext.entriesUpTo, dueBy, List.mem_filter, decide_eq_true_iff]
  constructor
  · rintro ⟨hentry, hdue⟩
    obtain ⟨rate, hrate, -⟩ := h.within entry hentry
    obtain ⟨source, samples, sample, hsamples, hsample, rfl⟩ := (h.mem entry).mp hentry
    rw [entryTime_of_within hrate, SimulationPlan.entry_clockTick] at hdue
    rw [SimulationPlan.entry_clock] at hrate
    exact ⟨source, rate, samples, sample, hrate, hsamples, ⟨hsample, hdue⟩, rfl⟩
  · rintro ⟨source, rate, samples, sample, hrate, hsamples, ⟨hsample, hdue⟩, rfl⟩
    refine ⟨(h.mem _).mpr ⟨source, samples, sample, hsamples, hsample, rfl⟩, ?_⟩
    rw [entryTime_of_within (by rwa [SimulationPlan.entry_clock]), SimulationPlan.entry_clockTick]
    exact hdue

/-- Samples with one list of due samples give a stream with one list of due samples. -/
private theorem dueBy_filter_map {α : Type} {rootRate rate : GraphClockRate}
    {sample : α → RuntimeSample} {samples : List α} :
    dueBy rootRate rate time (samples.map sample) =
      (samples.filter fun item =>
        tickTime rootRate rate (sample item).clockTick.toNat ≤ time).map sample := by
  rw [dueBy, List.filter_map]
  rfl

theorem dueBy_external {external : List ExternalStreamSample} {endpoint : WireEndpoint}
    {rate : GraphClockRate} (hnodup : (external.map ExternalStreamSample.key).Nodup)
    (hrate : clockRateInHorizon context.analysis context.rootRate
      (streamClock context.document (.output endpoint)) = .ok rate) :
    dueBy context.rootRate rate time (((sortExternal external).filter (·.source = endpoint)).map
        fun sample => sample.caller.sample) =
      ((sortExternal (context.externalUpTo time external)).filter (·.source = endpoint)).map
        fun sample => sample.caller.sample := by
  have hsort : sortExternal (context.externalUpTo time external) =
      (sortExternal external).filter fun sample =>
        context.sourceTime (.output sample.source) sample.clockTick.toNat ≤ time :=
    (Table.filter_sortByKey hnodup).symm
  rw [dueBy_filter_map, hsort, List.filter_filter, List.filter_filter]
  congr 1
  apply List.filter_congr
  intro sample _
  by_cases hsource : sample.source = endpoint
  · subst hsource
    simp only [sourceTime_eq hrate, ExternalStreamSample.caller, decide_true, Bool.and_true,
      Bool.true_and]
    exact decide_eq_decide.mpr Iff.rfl
  · simp [hsource]

theorem dueBy_injected {injected : List InjectedInputSample} {endpoint : WireEndpoint}
    {rate : GraphClockRate} (hnodup : (injected.map InjectedInputSample.key).Nodup)
    (hrate : clockRateInHorizon context.analysis context.rootRate
      (streamClock context.document (.injectedInput endpoint)) = .ok rate) :
    dueBy context.rootRate rate time (((sortInjected injected).filter (·.input = endpoint)).map
        fun sample => sample.caller.sample) =
      ((sortInjected (context.injectedUpTo time injected)).filter (·.input = endpoint)).map
        fun sample => sample.caller.sample := by
  have hsort : sortInjected (context.injectedUpTo time injected) =
      (sortInjected injected).filter fun sample =>
        context.sourceTime (.injectedInput sample.input) sample.clockTick.toNat ≤ time :=
    (Table.filter_sortByKey hnodup).symm
  rw [dueBy_filter_map, hsort, List.filter_filter, List.filter_filter]
  congr 1
  apply List.filter_congr
  intro sample _
  by_cases hinput : sample.input = endpoint
  · subst hinput
    simp only [sourceTime_eq hrate, InjectedInputSample.caller, decide_true, Bool.and_true,
      Bool.true_and]
    exact decide_eq_decide.mpr Iff.rfl
  · simp [hinput]

/-- Samples that agree up to a time give caller streams that do. -/
theorem callersAgree {external external' : List ExternalStreamSample}
    {injected injected' : List InjectedInputSample} {streams' : RuntimeStreams}
    {horizon : GraphSimulationHorizon} {limits : GraphSimulationLimits}
    (hstreams : SolvesEquations context streams plan external injected)
    (hstreams' : SolvesEquations (context.retarget horizon limits) streams' plan external' injected')
    (hnodup : (external.map ExternalStreamSample.key).Nodup)
    (hnodup' : (external'.map ExternalStreamSample.key).Nodup)
    (hinjectedNodup : (injected.map InjectedInputSample.key).Nodup)
    (hinjectedNodup' : (injected'.map InjectedInputSample.key).Nodup)
    (hinputs : ∀ input, input ∈ injected.map InjectedInputSample.input ↔
      input ∈ injected'.map InjectedInputSample.input)
    (hexternal : (context.externalUpTo time external).Perm (context.externalUpTo time external'))
    (hinjected : (context.injectedUpTo time injected).Perm (context.injectedUpTo time injected')) :
    CallersAgree context plan injected time streams streams' := by
  intro source rate hsource hrate
  cases source with
  | output endpoint =>
    refine ⟨_, _, hstreams.external endpoint hsource, hstreams'.external endpoint hsource, ?_⟩
    rw [dueBy_external hnodup hrate, dueBy_external hnodup' hrate,
      sortExternal_congr hexternal (hnodup.sublist (List.filter_sublist.map _))]
  | injectedInput endpoint =>
    refine ⟨_, _, hstreams.injected endpoint hsource,
      hstreams'.injected endpoint ((hinputs endpoint).mp hsource), ?_⟩
    rw [dueBy_injected hinjectedNodup hrate, dueBy_injected hinjectedNodup' hrate,
      sortInjected_congr hinjected (hinjectedNodup.sublist (List.filter_sublist.map _))]

/-- Entries of a strictly ordered trace are determined by its members. -/
theorem entriesUpTo_ext {entries entries' : List GraphTraceEntry}
    (h : entries.Pairwise fun a b => traceKey context a < traceKey context b)
    (h' : entries'.Pairwise fun a b => traceKey context a < traceKey context b)
    (hmem : ∀ entry, entry ∈ context.entriesUpTo time entries ↔
      entry ∈ context.entriesUpTo time entries') :
    context.entriesUpTo time entries = context.entriesUpTo time entries' := by
  have hsorted : (context.entriesUpTo time entries).Pairwise fun a b =>
      traceKey context a < traceKey context b := h.sublist List.filter_sublist
  have hsorted' : (context.entriesUpTo time entries').Pairwise fun a b =>
      traceKey context a < traceKey context b := h'.sublist List.filter_sublist
  have hperm : (context.entriesUpTo time entries).Perm (context.entriesUpTo time entries') := by
    refine (List.perm_ext_iff_of_nodup ?_ ?_).mpr hmem
    · exact hsorted.imp fun hlt => ne_of_apply_ne _ hlt.ne
    · exact hsorted'.imp fun hlt => ne_of_apply_ne _ hlt.ne
  exact hperm.eq_of_pairwise (fun a b _ _ hab hba => absurd hab (lt_asymm hba)) hsorted hsorted'

end Causal

/-- Contexts of one document, root clock and set of injected inputs differ in horizon and policy
alone. -/
theorem simulationContext_retarget [Sha256] {document : GraphDocument}
    {registry : GraphSimulationRegistry} {horizon horizon' : GraphSimulationHorizon}
    {external external' : List ExternalStreamSample} {injected injected' : List InjectedInputSample}
    {limits limits' : GraphSimulationLimits} {context context' : SimulationContext}
    (hroot : horizon.rootClock = horizon'.rootClock)
    (hinputs : ∀ input, input ∈ injected.map InjectedInputSample.input ↔
      input ∈ injected'.map InjectedInputSample.input)
    (h : simulationContext document registry horizon external injected limits = .ok context)
    (h' : simulationContext document registry horizon' external' injected' limits' =
      .ok context') : context' = context.retarget horizon' limits' := by
  simp only [simulationContext, Except.bind_eq_ok, Except.exists_unit, Except.pure_eq_ok,
    Table.distinct_congr hinputs, hroot] at h
  simp only [simulationContext, Except.bind_eq_ok, Except.exists_unit, Except.pure_eq_ok] at h'
  obtain ⟨-, -, -, analysis, hanalysis, rootRate, hrate, rfl⟩ := h
  obtain ⟨-, -, -, analysis', hanalysis', rootRate', hrate', rfl⟩ := h'
  obtain rfl := Except.ok.inj (hanalysis.symm.trans hanalysis')
  obtain rfl := Except.ok.inj (hrate.symm.trans hrate')
  rfl

theorem horizon_of_context [Sha256] {document : GraphDocument} {registry : GraphSimulationRegistry}
    {horizon : GraphSimulationHorizon} {external : List ExternalStreamSample}
    {injected : List InjectedInputSample} {limits : GraphSimulationLimits}
    {context : SimulationContext}
    (h : simulationContext document registry horizon external injected limits = .ok context) :
    context.horizon = horizon := by
  simp only [simulationContext, Except.bind_eq_ok, Except.exists_unit, Except.pure_eq_ok] at h
  obtain ⟨-, -, -, _, -, _, -, rfl⟩ := h
  rfl

/-- **Causality.** Two simulations of one document over one root clock, each to its own horizon and
under its own policy, whose caller samples are the same up to a time within both horizons, have the
same trace up to that time: samples after it change nothing. -/
theorem simulation_causal [Sha256] (document : GraphDocument) (registry : GraphSimulationRegistry)
    (horizon horizon' : GraphSimulationHorizon) (external external' : List ExternalStreamSample)
    (injected injected' : List InjectedInputSample) (limits limits' : GraphSimulationLimits)
    (simulation simulation' : GraphSimulation) (context : SimulationContext) (time : ℚ)
    (hcontext : simulationContext document registry horizon external injected limits = .ok context)
    (h : simulateGraphWithInputs document registry horizon external injected limits =
      .ok simulation)
    (h' : simulateGraphWithInputs document registry horizon' external' injected' limits' =
      .ok simulation')
    (hroot : horizon.rootClock = horizon'.rootClock)
    (hinputs : ∀ input, input ∈ injected.map InjectedInputSample.input ↔
      input ∈ injected'.map InjectedInputSample.input)
    (hnear : time ≤ horizon.time) (hfar : time ≤ horizon'.time)
    (hexternal : (context.externalUpTo time external).Perm (context.externalUpTo time external'))
    (hinjected : (context.injectedUpTo time injected).Perm (context.injectedUpTo time injected')) :
    context.entriesUpTo time simulation.entries = context.entriesUpTo time simulation'.entries := by
  obtain ⟨found, plan, streams, hfound, hplan, hsolves, hexists, hrecords⟩ := simulation_solves h
  obtain rfl := Except.ok.inj (hcontext.symm.trans hfound)
  obtain ⟨context', plan', streams', hcontext', hplan', hsolves', hexists', hrecords'⟩ :=
    simulation_solves h'
  obtain ⟨_, callers, hfoundPlan, hadmitted⟩ := callers_of_simulation hcontext h
  obtain ⟨_, callers', hfoundPlan', hadmitted'⟩ := callers_of_simulation hcontext' h'
  obtain rfl := simulationContext_retarget hroot hinputs hcontext hcontext'
  obtain rfl := Except.ok.inj (hplan.symm.trans hfoundPlan)
  obtain rfl := Except.ok.inj (hplan'.symm.trans hfoundPlan')
  obtain rfl := Except.ok.inj (hplan.symm.trans hplan')
  have hhorizon : context.horizon = horizon := horizon_of_context hcontext
  have hagree := callersAgree hsolves hsolves' hadmitted.external_nodup hadmitted'.external_nodup
    hadmitted.injected_nodup hadmitted'.injected_nodup hinputs hexternal hinjected
  have hdue : ∀ source, PlannedSource plan injected source → ∀ rate,
      clockRateInHorizon context.analysis context.rootRate (streamClock context.document source) =
        .ok rate → ∃ samples samples', streams source = some samples ∧
        streams' source = some samples' ∧
        dueBy context.rootRate rate time samples = dueBy context.rootRate rate time samples' :=
    fun source hsource rate hrate => dueBy_agree (contextFacts hcontext) (planFacts hplan)
      (fun input => (injected_of_context hcontext).mp) hsolves hsolves' hagree
      (hnear.trans_eq (congrArg _ hhorizon.symm)) hfar hsource hrate
  have hplanned : ∀ source, (streams' source).isSome = true → PlannedSource plan injected source := by
    intro source hsome
    have hsource := (hexists' source).mp hsome
    cases source with
    | output endpoint => exact hsource
    | injectedInput endpoint => exact (hinputs endpoint).mpr hsource
  refine entriesUpTo_ext hrecords.ordered hrecords'.ordered fun entry => ?_
  have hmem' : entry ∈ context.entriesUpTo time simulation'.entries ↔
      ∃ source rate samples sample, clockRateInHorizon context.analysis context.rootRate
          (streamClock context.document source) = .ok rate ∧ streams' source = some samples ∧
        sample ∈ dueBy context.rootRate rate time samples ∧
        entry = plan.entry context.document source sample := hrecords'.mem_entriesUpTo
  rw [hrecords.mem_entriesUpTo, hmem']
  constructor
  · rintro ⟨source, rate, samples, sample, hrate, hsamples, hsample, rfl⟩
    have hsource := (hexists source).mp (by rw [hsamples]; rfl)
    obtain ⟨read, read', hread, hread', hsame⟩ := hdue source hsource rate hrate
    obtain rfl := Option.some.inj (hread.symm.trans hsamples)
    exact ⟨source, rate, read', sample, hrate, hread', hsame ▸ hsample, rfl⟩
  · rintro ⟨source, rate, samples, sample, hrate, hsamples, hsample, rfl⟩
    have hsource := hplanned source (by rw [hsamples]; rfl)
    obtain ⟨read, read', hread, hread', hsame⟩ := hdue source hsource rate hrate
    obtain rfl := Option.some.inj (hread'.symm.trans hsamples)
    exact ⟨source, rate, read, sample, hrate, hread, hsame.symm ▸ hsample, rfl⟩

/-! ## The relay -/

section Relay

open HostLibrary

theorem simulateGraphWithInputs_perm_relay :
    simulateGraphWithInputs relayDocument relayRegistry ⟨⟨1⟩, 2⟩ relaySamples.reverse []
      .interactive = .ok relaySimulation :=
  (simulateGraphWithInputs_perm relayDocument relayRegistry ⟨⟨1⟩, 2⟩ relaySamples
    relaySamples.reverse [] [] .interactive (List.reverse_perm _).symm (.refl _)
    relaySimulation).mp relaySimulation_eq

private theorem relayPrefix_isSome :
    (simulateGraphWithInputs relayDocument relayRegistry ⟨⟨1⟩, 1⟩ (relaySamples.take 2) []
      .interactive).toOption.isSome = true := by
  decide +kernel

/-- The relay's third sample comes after root tick one. -/
private theorem relaySamples_upTo :
    relayContext.externalUpTo 1 relaySamples =
      relayContext.externalUpTo 1 (relaySamples.take 2) := by
  have hlate : relayContext.externalUpTo 1 (relaySamples.drop 2) = [] :=
    List.filter_eq_nil_iff.mpr (by decide +kernel)
  have hsplit : relayContext.externalUpTo 1 (relaySamples.take 2 ++ relaySamples.drop 2) =
      relayContext.externalUpTo 1 (relaySamples.take 2) := by
    rw [SimulationContext.externalUpTo, List.filter_append]
    exact (congrArg _ hlate).trans (List.append_nil _)
  rwa [List.take_append_drop] at hsplit

theorem simulation_causal_relay : ∃ simulation,
    simulateGraphWithInputs relayDocument relayRegistry ⟨⟨1⟩, 1⟩ (relaySamples.take 2) []
      .interactive = .ok simulation ∧
    relayContext.entriesUpTo 1 relaySimulation.entries =
      relayContext.entriesUpTo 1 simulation.entries :=
  ⟨_, Except.eq_ok_get relayPrefix_isSome, simulation_causal relayDocument relayRegistry
    ⟨⟨1⟩, 2⟩ ⟨⟨1⟩, 1⟩ relaySamples (relaySamples.take 2) [] [] .interactive .interactive
    relaySimulation _ relayContext 1 relayContext_eq relaySimulation_eq
    (Except.eq_ok_get relayPrefix_isSome) rfl (fun _ => Iff.rfl) (by decide +kernel)
    (by decide +kernel) (by rw [relaySamples_upTo]) (.refl _)⟩

end Relay

end Alumina.Graph
