import Alumina.Spec.SimulationPlan

/-!
# Steps of the simulator

One inversion lemma for each step of a run: what a caller sample, a rate transition and a
clock domain add to the streams and to the trace. The later files derive their invariants
from these lemmas and never unfold a step again.

Key results:
- `callersAdmitted`: the streams and the trace of the caller samples
- `attemptTransition_eq_some`: one evaluated rate transition
- `publish_isSome`: the streams a clock domain adds
-/

namespace Alumina.Graph

open Except (failIf)

/-! ## Sources of trace entries -/

/-- The stream an entry of a kind belongs to. -/
def GraphTraceEntryKind.source (kind : GraphTraceEntryKind) (endpoint : WireEndpoint) :
    RuntimeStreamSource :=
  match kind with
  | .injectedInput => .injectedInput endpoint
  | .externalSource | .nodeOutput => .output endpoint

def GraphTraceEntry.source (entry : GraphTraceEntry) : RuntimeStreamSource :=
  entry.kind.source entry.endpoint

def GraphTraceEntry.sample (entry : GraphTraceEntry) : RuntimeSample :=
  ⟨entry.clockTick, entry.sequence, entry.value⟩

/-- Clock of the stream behind a source. -/
def streamClock (tables : DocumentTables) (source : RuntimeStreamSource) : GraphClockId :=
  match runtimeStreamPort tables source with
  | .ok port => port.clock
  | .error _ => 0

theorem streamClock_of_ok {tables : DocumentTables} {source : RuntimeStreamSource}
    {port : StreamPort} (h : runtimeStreamPort tables source = .ok port) :
    streamClock tables source = port.clock := by
  rw [streamClock, h]

/-- The entry that records a sample of an endpoint's stream. -/
def sampleEntry (tables : DocumentTables) (kind : GraphTraceEntryKind) (endpoint : WireEndpoint)
    (sample : RuntimeSample) : GraphTraceEntry :=
  ⟨kind, endpoint, streamClock tables (kind.source endpoint), sample.clockTick, sample.sequence,
    sample.value⟩

@[simp] theorem sampleEntry_source {tables : DocumentTables} {kind : GraphTraceEntryKind}
    {endpoint : WireEndpoint} {sample : RuntimeSample} :
    (sampleEntry tables kind endpoint sample).source = kind.source endpoint := rfl

@[simp] theorem sampleEntry_sample {tables : DocumentTables} {kind : GraphTraceEntryKind}
    {endpoint : WireEndpoint} {sample : RuntimeSample} :
    (sampleEntry tables kind endpoint sample).sample = sample := rfl

@[simp] theorem pushTrace_eq_ok {limits : GraphSimulationLimits}
    {entries entries' : List GraphTraceEntry} {entry : GraphTraceEntry} :
    pushTrace limits entries entry = .ok entries' ↔
      entries.length < limits.maximumTraceEntries ∧ entries ++ [entry] = entries' := by
  simp [pushTrace]

theorem sourceForInput_eq_ok {tables : DocumentTables} {injected : List WireEndpoint}
    {input : WireEndpoint} {source : RuntimeStreamSource} :
    sourceForInput tables injected input = .ok source ↔
      (∃ wire, tables.wireInto input = some wire ∧ source = .output wire.source) ∨
        tables.wireInto input = none ∧ input ∈ injected ∧ source = .injectedInput input := by
  rw [sourceForInput]
  cases tables.wireInto input with
  | some wire => simp [eq_comm]
  | none =>
    by_cases hmem : input ∈ injected
    · simp [hmem, eq_comm]
    · simp [hmem]

section Steps

variable {context : SimulationContext}

/-! ## Caller samples -/

/-- A sample from the caller, of either kind. -/
structure CallerSample where
  kind : GraphTraceEntryKind
  endpoint : WireEndpoint
  sample : RuntimeSample

def CallerSample.source (caller : CallerSample) : RuntimeStreamSource :=
  caller.kind.source caller.endpoint

def CallerSample.entry (tables : DocumentTables) (caller : CallerSample) : GraphTraceEntry :=
  sampleEntry tables caller.kind caller.endpoint caller.sample

def ExternalStreamSample.caller (sample : ExternalStreamSample) : CallerSample :=
  ⟨.externalSource, sample.source, ⟨sample.clockTick, sample.sequence, sample.value⟩⟩

def InjectedInputSample.caller (sample : InjectedInputSample) : CallerSample :=
  ⟨.injectedInput, sample.input, ⟨sample.clockTick, sample.sequence, sample.value⟩⟩

/-- Samples of one stream, each after the one before in tick and in sequence. -/
def SampleBefore (first second : RuntimeSample) : Prop :=
  first.clockTick.toNat < second.clockTick.toNat ∧ first.sequence.toNat < second.sequence.toNat

/-- A sample that fits the stream it is meant for and is within the horizon. -/
structure CallerFits (context : SimulationContext) (caller : CallerSample) : Prop where
  port : ∃ port, runtimeStreamPort context.document caller.source = .ok port ∧
    caller.sample.value.valueType = port.sampleType
  time : ∃ rate, clockRateInHorizon context.analysis context.rootRate
      (streamClock context.document caller.source) = .ok rate ∧
    tickTime context.rootRate rate caller.sample.clockTick.toNat ≤ context.horizon.time

/-- One admitted sample: it fits, follows the sample before it at its endpoint, and ends its
stream and the trace. -/
structure Admitted (context : SimulationContext) (caller : CallerSample)
    (progress next : SimulationContext.SampleProgress) : Prop where
  fits : CallerFits context caller
  fresh : ∀ prior, progress.prior caller.endpoint = some prior →
    prior.1.toNat < caller.sample.clockTick.toNat ∧ prior.2.toNat < caller.sample.sequence.toNat
  room : progress.entries.length < context.limits.maximumTraceEntries
  streams : next.streams = Function.update progress.streams caller.source
    (some ((progress.streams caller.source).getD [] ++ [caller.sample]))
  entries : next.entries = progress.entries ++ [caller.entry context.document]
  prior : next.prior = Function.update progress.prior caller.endpoint
    (some (caller.sample.clockTick, caller.sample.sequence))

theorem admitSample_eq_ok {caller : CallerSample} {port : StreamPort}
    {progress next : SimulationContext.SampleProgress}
    (hport : runtimeStreamPort context.document caller.source = .ok port)
    (h : context.admitSample caller.kind caller.source caller.endpoint port caller.sample progress =
      .ok next) : Admitted context caller progress next := by
  simp only [SimulationContext.admitSample, SimulationContext.rootTime, Except.bind_eq_ok,
    Except.exists_unit, Except.failIf_eq_ok, not_not, ne_eq, pushTrace_eq_ok,
    Except.pure_eq_ok] at h
  obtain ⟨htype, horder, time, htime, hhorizon, entries, ⟨hroom, rfl⟩, rfl⟩ := h
  obtain ⟨rate, hrate, rfl⟩ := rootTime_eq_ok htime
  have hclock := streamClock_of_ok hport
  refine ⟨⟨⟨port, hport, htype⟩, ⟨rate, ?_, not_lt.mp hhorizon⟩⟩, ?_, hroom, rfl, ?_, rfl⟩
  · rw [hclock]
    exact hrate
  · intro prior hprior
    rw [hprior, Option.any_some, Bool.not_eq_true, Bool.or_eq_false_iff] at horder
    have htick := of_decide_eq_false horder.1
    have hsequence := of_decide_eq_false horder.2
    rw [UInt64.le_iff_toNat_le] at htick hsequence
    omega
  · rw [CallerSample.entry, sampleEntry]
    change _ = progress.entries ++ [⟨caller.kind, caller.endpoint,
      streamClock context.document caller.source, _, _, _⟩]
    rw [hclock]

theorem admitExternal_eq_ok {plan : SimulationPlan}
    {progress next : SimulationContext.SampleProgress} {sample : ExternalStreamSample}
    (hports : ∀ source ∈ plan.sources, streamOutput context.document source.1 = .ok source.2)
    (h : context.admitExternal plan progress sample = .ok next) :
    (plan.sourcePort sample.source).isSome ∧ Admitted context sample.caller progress next := by
  simp only [SimulationContext.admitExternal, Except.bind_eq_ok, Option.okOr_eq_ok] at h
  obtain ⟨port, hport, h⟩ := h
  refine ⟨Option.isSome_of_eq_some hport, ?_⟩
  obtain ⟨found, hfound, rfl⟩ := Option.map_eq_some_iff.mp hport
  have hname := Table.key_of_lookup hfound
  have hstream := hports found (Table.mem_of_lookup hfound)
  rw [hname] at hstream
  exact show Admitted context sample.caller progress next from admitSample_eq_ok hstream h

theorem admitInjected_eq_ok {progress next : SimulationContext.SampleProgress}
    {sample : InjectedInputSample} (h : context.admitInjected progress sample = .ok next) :
    context.document.wireInto sample.input = none ∧
      Admitted context sample.caller progress next := by
  simp only [SimulationContext.admitInjected, Except.bind_eq_ok, Except.exists_unit,
    Except.failIf_eq_ok, Bool.not_eq_true, Option.isSome_eq_false_iff,
    Option.isNone_iff_eq_none] at h
  obtain ⟨hunwired, port, hport, _, -, h⟩ := h
  have hadmitted : Admitted context sample.caller progress next := admitSample_eq_ok hport h
  exact ⟨hunwired, hadmitted⟩

/-- A stream after more samples; the first sample of a stream creates it. -/
def extendStream (old : Option (List RuntimeSample)) (new : List RuntimeSample) :
    Option (List RuntimeSample) :=
  if new = [] then old else some (old.getD [] ++ new)

@[simp] theorem extendStream_nil {old : Option (List RuntimeSample)} :
    extendStream old [] = old := by
  rw [extendStream, if_pos rfl]

theorem extendStream_cons {old : Option (List RuntimeSample)} {sample : RuntimeSample}
    {new : List RuntimeSample} : extendStream old (sample :: new) =
      extendStream (some (old.getD [] ++ [sample])) new := by
  cases new with
  | nil => simp [extendStream]
  | cons => simp [extendStream]

/-- A list of admitted samples. -/
structure CallerRun (context : SimulationContext) (callers : List CallerSample)
    (start final : SimulationContext.SampleProgress) : Prop where
  fits : ∀ caller ∈ callers, CallerFits context caller
  order : callers.Pairwise fun a b => a.endpoint = b.endpoint → SampleBefore a.sample b.sample
  fresh : ∀ caller ∈ callers, ∀ prior, start.prior caller.endpoint = some prior →
    prior.1.toNat < caller.sample.clockTick.toNat ∧ prior.2.toNat < caller.sample.sequence.toNat
  streams : ∀ source, final.streams source = extendStream (start.streams source)
    ((callers.filter (·.source = source)).map CallerSample.sample)
  entries : final.entries = start.entries ++ callers.map (CallerSample.entry context.document)

/-- The state `prior` carries the order of the samples: each sample is compared with the last
one at its endpoint, which all earlier ones precede. -/
theorem callerRun_of_foldlM {α : Type} {caller : α → CallerSample}
    {f : SimulationContext.SampleProgress → α →
      Except GraphSimulationError SimulationContext.SampleProgress}
    (hstep : ∀ progress item next, f progress item = .ok next →
      Admitted context (caller item) progress next) {items : List α}
    {start final : SimulationContext.SampleProgress} (h : items.foldlM f start = .ok final) :
    CallerRun context (items.map caller) start final := by
  induction items generalizing start with
  | nil =>
    obtain rfl : start = final := by simpa using h
    exact ⟨by simp, .nil, by simp, by simp, by simp⟩
  | cons item items ih =>
    rw [List.foldlM_cons, Except.bind_eq_ok] at h
    obtain ⟨middle, hitem, hrest⟩ := h
    have hhead := hstep start item middle hitem
    have htail := ih hrest
    have hprior : middle.prior (caller item).endpoint =
        some ((caller item).sample.clockTick, (caller item).sample.sequence) := by
      rw [hhead.prior, Function.update_self]
    rw [List.map_cons]
    refine ⟨?_, .cons ?_ htail.order, ?_, ?_, ?_⟩
    · intro other hother
      rcases List.mem_cons.mp hother with rfl | hother
      · exact hhead.fits
      · exact htail.fits other hother
    · intro other hother hsame
      exact htail.fresh other hother _ (hsame ▸ hprior)
    · intro other hother prior hfound
      rcases List.mem_cons.mp hother with rfl | hother
      · exact hhead.fresh prior hfound
      · by_cases hsame : (caller item).endpoint = other.endpoint
        · have hbefore := htail.fresh other hother _ (hsame ▸ hprior)
          have hearlier := hhead.fresh prior (hsame ▸ hfound)
          exact ⟨hearlier.1.trans hbefore.1, hearlier.2.trans hbefore.2⟩
        · refine htail.fresh other hother prior ?_
          rw [hhead.prior, Function.update_of_ne (Ne.symm hsame)]
          exact hfound
    · intro source
      rw [htail.streams, hhead.streams]
      by_cases hsource : (caller item).source = source
      · rw [List.filter_cons_of_pos (by simpa using hsource), List.map_cons, extendStream_cons,
          hsource, Function.update_self]
      · rw [List.filter_cons_of_neg (by simpa using hsource),
          Function.update_of_ne (Ne.symm hsource)]
    · rw [htail.entries, hhead.entries, List.map_cons, List.append_assoc, List.singleton_append]

/-- Streams and trace of the caller samples alone. -/
structure CallersAdmitted (context : SimulationContext) (plan : SimulationPlan)
    (external : List ExternalStreamSample) (injected : List InjectedInputSample)
    (callers : SimulationState) : Prop where
  source : ∀ sample ∈ external, (plan.sourcePort sample.source).isSome
  unwired : ∀ sample ∈ injected, context.document.wireInto sample.input = none
  fitsExternal : ∀ sample ∈ external, CallerFits context sample.caller
  fitsInjected : ∀ sample ∈ injected, CallerFits context sample.caller
  orderExternal : (SimulationContext.sortExternal external).Pairwise fun a b =>
    a.source = b.source → SampleBefore a.caller.sample b.caller.sample
  orderInjected : (SimulationContext.sortInjected injected).Pairwise fun a b =>
    a.input = b.input → SampleBefore a.caller.sample b.caller.sample
  output : ∀ endpoint, callers.streams (.output endpoint) =
    if (plan.sourcePort endpoint).isSome then
      some (((SimulationContext.sortExternal external).filter (·.source = endpoint)).map
        fun sample => sample.caller.sample)
    else none
  input : ∀ endpoint, callers.streams (.injectedInput endpoint) =
    if endpoint ∈ injected.map InjectedInputSample.input then
      some (((SimulationContext.sortInjected injected).filter (·.input = endpoint)).map
        fun sample => sample.caller.sample)
    else none
  entries : callers.entries =
    (SimulationContext.sortExternal external).map (fun s => s.caller.entry context.document) ++
      (SimulationContext.sortInjected injected).map (fun s => s.caller.entry context.document)

section Filters

variable (external : List ExternalStreamSample) (injected : List InjectedInputSample)
  (endpoint : WireEndpoint)

private theorem filter_external_output :
    ((external.map ExternalStreamSample.caller).filter (·.source = .output endpoint)).map
        CallerSample.sample =
      (external.filter (·.source = endpoint)).map fun sample => sample.caller.sample := by
  rw [List.filter_map, List.map_map]
  simp [Function.comp_def, CallerSample.source, ExternalStreamSample.caller,
    GraphTraceEntryKind.source]

private theorem filter_external_input :
    ((external.map ExternalStreamSample.caller).filter (·.source = .injectedInput endpoint)).map
        CallerSample.sample = [] := by
  rw [List.filter_map, List.map_map]
  simp [Function.comp_def, CallerSample.source, ExternalStreamSample.caller,
    GraphTraceEntryKind.source]

private theorem filter_injected_output :
    ((injected.map InjectedInputSample.caller).filter (·.source = .output endpoint)).map
        CallerSample.sample = [] := by
  rw [List.filter_map, List.map_map]
  simp [Function.comp_def, CallerSample.source, InjectedInputSample.caller,
    GraphTraceEntryKind.source]

private theorem filter_injected_input :
    ((injected.map InjectedInputSample.caller).filter (·.source = .injectedInput endpoint)).map
        CallerSample.sample =
      (injected.filter (·.input = endpoint)).map fun sample => sample.caller.sample := by
  rw [List.filter_map, List.map_map]
  simp [Function.comp_def, CallerSample.source, InjectedInputSample.caller,
    GraphTraceEntryKind.source]

end Filters

theorem callersAdmitted {plan : SimulationPlan} {external : List ExternalStreamSample}
    {injected : List InjectedInputSample} {callers : SimulationState}
    (hports : ∀ source ∈ plan.sources, streamOutput context.document source.1 = .ok source.2)
    (h : context.admitCallers plan external injected = .ok callers) :
    CallersAdmitted context plan external injected callers := by
  simp only [SimulationContext.admitCallers, Except.bind_eq_ok, Except.pure_eq_ok] at h
  obtain ⟨sources, hexternal, final, hinjected, rfl⟩ := h
  have hadmitExternal : ∀ progress sample next, context.admitExternal plan progress sample =
      .ok next → Admitted context (ExternalStreamSample.caller sample) progress next :=
    fun _ _ _ hstep => (admitExternal_eq_ok hports hstep).2
  have hadmitInjected : ∀ progress sample next, context.admitInjected progress sample =
      .ok next → Admitted context (InjectedInputSample.caller sample) progress next :=
    fun _ _ _ hstep => (admitInjected_eq_ok hstep).2
  have hfirst := callerRun_of_foldlM hadmitExternal hexternal
  have hsecond := callerRun_of_foldlM hadmitInjected hinjected
  have hsource := Except.foldlM_forall (Q := fun sample => (plan.sourcePort sample.source).isSome)
    (fun _ _ _ hstep => (admitExternal_eq_ok hports hstep).1) hexternal
  have hunwired := Except.foldlM_forall
    (Q := fun sample => context.document.wireInto sample.input = none)
    (fun _ _ _ hstep => (admitInjected_eq_ok hstep).1) hinjected
  have hexternalOrder := List.pairwise_map.mp hfirst.order
  have hinjectedOrder := List.pairwise_map.mp hsecond.order
  refine ⟨?_, ?_, ?_, ?_, hexternalOrder, hinjectedOrder, ?_, ?_, ?_⟩
  · exact fun sample hsample => hsource sample (Table.mem_sortByKey.mpr hsample)
  · exact fun sample hsample => hunwired sample (Table.mem_sortByKey.mpr hsample)
  · exact fun sample hsample =>
      hfirst.fits _ (List.mem_map_of_mem (Table.mem_sortByKey.mpr hsample))
  · exact fun sample hsample =>
      hsecond.fits _ (List.mem_map_of_mem (Table.mem_sortByKey.mpr hsample))
  · intro endpoint
    rw [hsecond.streams, filter_injected_output, extendStream_nil]
    change sources.streams _ = _
    rw [hfirst.streams, filter_external_output]
    by_cases hport : (plan.sourcePort endpoint).isSome
    · simp [SimulationContext.initialStreams, extendStream, hport]
    · -- no sample is admitted at an endpoint that is no external source
      have hnone : (SimulationContext.sortExternal external).filter
          (·.source = endpoint) = [] := by
        rw [List.filter_eq_nil_iff]
        intro sample hsample hname
        exact hport (of_decide_eq_true hname ▸ hsource sample hsample)
      simp [SimulationContext.initialStreams, hnone, hport]
  · intro endpoint
    rw [hsecond.streams, filter_injected_input]
    change extendStream (sources.streams _) _ = _
    rw [hfirst.streams, filter_external_input, extendStream_nil]
    by_cases hmem : endpoint ∈ injected.map InjectedInputSample.input
    · have hne : (SimulationContext.sortInjected injected).filter (·.input = endpoint) ≠ [] := by
        obtain ⟨sample, hsample, hname⟩ := List.mem_map.mp hmem
        exact List.ne_nil_of_mem (List.mem_filter.mpr
          ⟨Table.mem_sortByKey.mpr hsample, decide_eq_true hname⟩)
      rw [if_pos hmem, extendStream, if_neg (by simpa using hne)]
      rfl
    · have hnone : (SimulationContext.sortInjected injected).filter (·.input = endpoint) = [] := by
        rw [List.filter_eq_nil_iff]
        intro sample hsample hname
        exact hmem (List.mem_map.mpr
          ⟨sample, Table.mem_sortByKey.mp hsample, of_decide_eq_true hname⟩)
      rw [if_neg hmem, hnone]
      rfl
  · rw [hsecond.entries]
    change sources.entries ++ _ = _
    rw [hfirst.entries, List.map_map, List.map_map]
    rfl

/-! ## Rate transitions -/

/-- The output endpoint of a planned transition. -/
def transitionTarget (item : GraphNodeId × GraphPortId × GraphPortId) : WireEndpoint :=
  ⟨item.1, item.2.2⟩

/-- One evaluated rate transition. -/
structure TransitionRun (context : SimulationContext)
    (item : GraphNodeId × GraphPortId × GraphPortId) (source : RuntimeStreamSource)
    (samples generated : List RuntimeSample) (report : GraphRateTransition) (capacity : UInt32)
    (state next : SimulationState) : Prop where
  source_ok : context.sourceForInput ⟨item.1, item.2.1⟩ = .ok source
  samples_eq : state.streams source = some samples
  report_mem : report ∈ context.analysis.rateTransitions
  report_node : report.node = item.1 ∧ report.input = item.2.1 ∧ report.output = item.2.2
  capacity_ok : ∃ definition schema, context.document.node item.1 = some definition ∧
    context.semantic.schema definition.kind = some schema ∧
    schema.streamCapacity item.2.1 = some capacity
  generated_ok : context.simulateTransition ⟨item.1, item.2.1⟩ report capacity samples =
    .ok generated
  streams_eq : next.streams =
    Function.update state.streams (.output (transitionTarget item)) (some generated)
  entries_eq : next.entries = state.entries ++ generated.map fun sample =>
    ⟨.nodeOutput, transitionTarget item, report.targetClock, sample.clockTick, sample.sequence,
      sample.value⟩

/-- Pushing a list of entries appends them. -/
theorem foldlM_pushTrace {α : Type} {limits : GraphSimulationLimits} {entry : α → GraphTraceEntry}
    {items : List α} {entries entries' : List GraphTraceEntry}
    (h : items.foldlM (fun entries item => pushTrace limits entries (entry item)) entries =
      .ok entries') : entries' = entries ++ items.map entry := by
  induction items generalizing entries with
  | nil =>
    obtain rfl : entries = entries' := by simpa using h
    simp
  | cons item items ih =>
    simp only [List.foldlM_cons, Except.bind_eq_ok, pushTrace_eq_ok] at h
    obtain ⟨_, ⟨-, rfl⟩, hrest⟩ := h
    rw [ih hrest, List.map_cons, List.append_assoc, List.singleton_append]

theorem attemptTransition_eq_some {state next : SimulationState}
    {item : GraphNodeId × GraphPortId × GraphPortId}
    (h : context.attemptTransition state item = .ok (some next)) :
    ∃ source samples generated report capacity,
      TransitionRun context item source samples generated report capacity state next := by
  obtain ⟨node, input, output⟩ := item
  simp only [SimulationContext.attemptTransition, Except.bind_eq_ok] at h
  obtain ⟨source, hsource, h⟩ := h
  cases hsamples : state.streams source with
  | none =>
    rw [hsamples] at h
    cases h
  | some samples =>
    simp only [hsamples, Except.bind_eq_ok, Option.okOr_eq_ok, Except.pure_eq_ok,
      Option.some.injEq] at h
    obtain ⟨report, hreport, definition, hdefinition, schema, hschema, capacity, hcapacity,
      generated, hgenerated, entries, hentries, rfl⟩ := h
    have hfound := List.find?_some hreport
    rw [decide_eq_true_eq] at hfound
    exact ⟨source, samples, generated, report, capacity, hsource, hsamples,
      List.mem_of_find?_eq_some hreport, hfound, ⟨definition, schema, hdefinition, hschema,
      hcapacity⟩, hgenerated, rfl, foldlM_pushTrace hentries⟩

/-- Streams that transitions add, after any number of them. -/
theorem transitions_isSome {order : List (GraphNodeId × GraphPortId × GraphPortId)}
    {first last : SimulationState}
    (h : Worklist.Steps context.attemptTransition first order last)
    (source : RuntimeStreamSource) :
    (last.streams source).isSome = true ↔ (first.streams source).isSome = true ∨
      ∃ item ∈ order, source = .output (transitionTarget item) := by
  induction h with
  | nil => simp
  | cons hattempt _ ih =>
    obtain ⟨_, _, generated, _, _, hrun⟩ := attemptTransition_eq_some hattempt
    rw [ih, hrun.streams_eq]
    by_cases hsource : source = .output (transitionTarget ‹_›)
    · simp [hsource]
    · rw [Function.update_of_ne hsource]
      simp [hsource]

/-! ## Clock domains -/

theorem publish_output {streams : RuntimeStreams} {outputs : List WireEndpoint}
    {generated : WireEndpoint → List RuntimeSample} {endpoint : WireEndpoint}
    (h : endpoint ∈ outputs) : SimulationContext.publish streams outputs generated
      (.output endpoint) = some (generated endpoint) := by
  rw [SimulationContext.publish, if_pos h]

theorem publish_of_not_mem {streams : RuntimeStreams} {outputs : List WireEndpoint}
    {generated : WireEndpoint → List RuntimeSample} {source : RuntimeStreamSource}
    (h : ∀ endpoint ∈ outputs, source ≠ .output endpoint) :
    SimulationContext.publish streams outputs generated source = streams source := by
  cases source with
  | output endpoint => rw [SimulationContext.publish, if_neg fun hmem => h endpoint hmem rfl]
  | injectedInput endpoint => rfl

/-- A clock domain adds the streams of its outputs. -/
theorem publish_isSome {streams : RuntimeStreams} {outputs : List WireEndpoint}
    {generated : WireEndpoint → List RuntimeSample} {source : RuntimeStreamSource} :
    (SimulationContext.publish streams outputs generated source).isSome = true ↔
      (streams source).isSome = true ∨ ∃ endpoint ∈ outputs, source = .output endpoint := by
  by_cases hmem : ∃ endpoint ∈ outputs, source = .output endpoint
  · obtain ⟨endpoint, hmem, rfl⟩ := hmem
    simp [publish_output hmem, hmem]
  · rw [publish_of_not_mem fun endpoint hendpoint hsource => hmem ⟨endpoint, hendpoint, hsource⟩]
    simp [hmem]

/-- Streams after any number of clock domains. -/
theorem groups_isSome {groups : List (GraphClockId × List ClockedNode)}
    {first last : SimulationState}
    (h : groups.foldlM (fun state group => context.simulateClockedGroup group.1 state group.2)
      first = .ok last) (source : RuntimeStreamSource) :
    (last.streams source).isSome = true ↔ (first.streams source).isSome = true ∨
      ∃ group ∈ groups, ∃ node ∈ group.2, source = node.source := by
  induction groups generalizing first with
  | nil =>
    obtain rfl : first = last := by simpa using h
    simp
  | cons group groups ih =>
    rw [List.foldlM_cons, Except.bind_eq_ok] at h
    obtain ⟨middle, hgroup, hrest⟩ := h
    simp only [SimulationContext.simulateClockedGroup, Except.bind_eq_ok, Except.pure_eq_ok]
      at hgroup
    obtain ⟨_, -, _, -, _, -, final, -, rfl⟩ := hgroup
    rw [ih hrest, publish_isSome]
    simp [ClockedNode.source, or_assoc]

end Steps

end Alumina.Graph
