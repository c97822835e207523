import Alumina.Spec.SimulationSteps
import Alumina.Spec.StorageCeiling

/-!
# Scheduling of combinational nodes

Analysis rejects a cycle of wires and declared feedthroughs, and `validateImplementation`
makes a clocked node's declared feedthroughs its inputs. So the analysed rank orders the
combinational nodes of a clock domain: the pending node of largest rank never waits for
another pending node, and the ordering loop always makes progress.

Key results:
- `source_of_clocked_input`: what feeds an input of a clocked node
- `combinationalOrder_complete`: every combinational node is ordered, after the ones it reads
-/

namespace Alumina.Graph

section Clocks

variable {context : SimulationContext}

/-- Every input of a clocked node is wired or injected. -/
def InputsSupplied (context : SimulationContext) (plan : SimulationPlan) : Prop :=
  ∀ node ∈ plan.clocked, ∀ input ∈ clockedInputs node.behavior,
    (context.document.wireInto ⟨node.node, input⟩).isSome ∨ ⟨node.node, input⟩ ∈ context.injected

/-- A clocked node belongs to the domain of a clock. -/
def OnClock (context : SimulationContext) (clock : GraphClockId) (node : ClockedNode) : Prop :=
  context.clockOf node = .ok clock

theorem clockOf_eq_ok {node : ClockedNode} {clock : GraphClockId}
    (h : OnClock context clock node) : ∃ port,
      streamOutput context.document node.output = .ok port ∧ port.clock = clock ∧
        ∃ rate, clockRateInHorizon context.analysis context.rootRate clock = .ok rate := by
  simp only [OnClock, SimulationContext.clockOf, Except.bind_eq_ok, Option.okOr_eq_ok,
    Except.pure_eq_ok] at h
  obtain ⟨output, houtput, port, hport, rate, hrate, rfl⟩ := h
  refine ⟨port, ?_, rfl, rate, hrate⟩
  rwa [ClockedNode.output, houtput, Option.getD_some]

/-- Groups hold the nodes of their clock, and nothing else. -/
theorem mem_clockGroups {clocked : List (GraphClockId × ClockedNode)} {clock : GraphClockId}
    {group : List ClockedNode} (h : (clock, group) ∈ SimulationContext.clockGroups clocked) :
    group = (clocked.filter (·.1 = clock)).map Prod.snd := by
  obtain ⟨other, -, heq⟩ := List.mem_map.mp h
  obtain ⟨rfl, rfl⟩ := Prod.mk.inj heq
  rfl

end Clocks

section Scheduling

variable [Sha256] {document : GraphDocument} {registry : GraphSimulationRegistry}
  {context : SimulationContext} {plan : SimulationPlan}

/-- What feeds an input of a clocked node: the caller, an external source, a transition, or
a clocked node of the same clock domain. -/
theorem source_of_clocked_input
    (hdocument : context.document = document.toDocumentTables)
    (facts : AnalysisFacts document registry.semantic context.analysis)
    (hplan : PlanFacts document registry context plan) {node : ClockedNode}
    (hnode : node ∈ plan.clocked) {input : GraphPortId} (hinput : input ∈ clockedInputs node.behavior)
    {source : RuntimeStreamSource} (h : context.sourceForInput ⟨node.node, input⟩ = .ok source) :
    (source = .injectedInput ⟨node.node, input⟩ ∧ ⟨node.node, input⟩ ∈ context.injected) ∨
      ∃ wire, document.wireInto ⟨node.node, input⟩ = some wire ∧ source = .output wire.source ∧
        (wire.source ∈ plan.sources.map Prod.fst ∨
          (∃ item ∈ plan.transitions, wire.source = transitionTarget item) ∨
          ∃ other ∈ plan.clocked, wire.source = other.output ∧
            ∀ clock, OnClock context clock node → OnClock context clock other) := by
  rcases sourceForInput_eq_ok.mp h with ⟨wire, hwire, rfl⟩ | ⟨-, hinjected, rfl⟩
  · right
    rw [hdocument] at hwire
    refine ⟨wire, hwire, rfl, ?_⟩
    rcases PlanFacts.producer_of_wire facts hplan (Table.mem_of_lookup hwire) with
      hsource | htransition | ⟨other, hother, hproduced⟩
    · exact .inl hsource
    · exact .inr (.inl htransition)
    · refine .inr (.inr ⟨other, hother, hproduced, fun clock hclock => ?_⟩)
      obtain ⟨port, hport, rfl, rate, hrate⟩ := clockOf_eq_ok hclock
      obtain ⟨stream, hstream, hinputs⟩ := PlanFacts.clocked_ports facts hplan hnode
      rw [hdocument, hstream] at hport
      obtain rfl := Except.ok.inj hport
      obtain ⟨sourcePort, hsourcePort, hsame⟩ := hinputs input hinput
      have hotherPort := PlanFacts.streamOutput_of_wireInto hwire hsourcePort
      rw [hproduced] at hotherPort
      have hclocked := (hplan.mem_clocked.mp hother).1
      obtain ⟨output, houtput⟩ := Option.isSome_iff_exists.mp hclocked
      rw [ClockedNode.output, houtput, Option.getD_some] at hotherPort
      rw [OnClock, SimulationContext.clockOf, houtput, Option.okOr_some, hdocument]
      simp only [bind, Except.bind, hotherPort, hsame, hrate, pure, Except.pure]
  · exact .inl ⟨rfl, hinjected⟩

/-! ## Streams at the start of a clock domain -/

/-- The clocked nodes of a plan with their clocks, as `simulateClockedControl` groups them. -/
def clockedOf (context : SimulationContext) (plan : SimulationPlan) :
    Except GraphSimulationError (List (GraphClockId × ClockedNode)) :=
  plan.clocked.mapM fun node => do return (← context.clockOf node, node)

/-- A run that has evaluated the transitions and the clock domains in `done`. -/
structure DomainsDone (context : SimulationContext) (plan : SimulationPlan)
    (external : List ExternalStreamSample) (injected : List InjectedInputSample)
    (done : List (GraphClockId × List ClockedNode)) (state : SimulationState) : Prop where
  run : ∃ callers transitioned, context.admitCallers plan external injected = .ok callers ∧
    Worklist.solve context.attemptTransition SimulationContext.transitionStuck plan.transitions
      callers = .ok transitioned ∧
    done.foldlM (fun state group => context.simulateClockedGroup group.1 state group.2)
      transitioned = .ok state

omit [Sha256] in
theorem mem_clockedOf {clocked : List (GraphClockId × ClockedNode)}
    (h : clockedOf context plan = .ok clocked) {clock : GraphClockId} {node : ClockedNode} :
    (clock, node) ∈ clocked ↔ node ∈ plan.clocked ∧ OnClock context clock node := by
  have hpairs := Except.mapM_eq_ok h
  constructor
  · intro hmem
    obtain ⟨other, hother, hpair⟩ := hpairs.exists_of_mem_right hmem
    simp only [Except.bind_eq_ok, Except.pure_eq_ok, Prod.mk.injEq] at hpair
    obtain ⟨found, hfound, rfl, rfl⟩ := hpair
    exact ⟨hother, hfound⟩
  · rintro ⟨hmem, hclock⟩
    obtain ⟨pair, hpair, heq⟩ := hpairs.exists_of_mem_left hmem
    simp only [Except.bind_eq_ok, Except.pure_eq_ok] at heq
    obtain ⟨found, hfound, rfl⟩ := heq
    obtain rfl := Except.ok.inj (hclock.symm.trans hfound)
    exact hpair

omit [Sha256] in
/-- The nodes of a group are the clocked nodes of its clock. -/
theorem mem_group {clocked : List (GraphClockId × ClockedNode)}
    (h : clockedOf context plan = .ok clocked) {clock : GraphClockId} {group : List ClockedNode}
    (hgroup : (clock, group) ∈ SimulationContext.clockGroups clocked) {node : ClockedNode} :
    node ∈ group ↔ node ∈ plan.clocked ∧ OnClock context clock node := by
  rw [mem_clockGroups hgroup, List.mem_map, ← mem_clockedOf h]
  constructor
  · rintro ⟨⟨other, found⟩, hfiltered, rfl⟩
    obtain ⟨hmem, hclock⟩ := List.mem_filter.mp hfiltered
    have hsame : other = clock := of_decide_eq_true hclock
    exact hsame ▸ hmem
  · intro hmem
    exact ⟨(clock, node), List.mem_filter.mpr ⟨hmem, decide_eq_true rfl⟩, rfl⟩

omit [Sha256] in
/-- Different groups have different clocks. -/
theorem clockGroups_nodup {clocked : List (GraphClockId × ClockedNode)} :
    ((SimulationContext.clockGroups clocked).map Prod.fst).Nodup := by
  rw [SimulationContext.clockGroups, List.map_map]
  have hid : (Prod.fst ∘ fun clock : GraphClockId =>
      (clock, (clocked.filter (·.1 = clock)).map Prod.snd)) = id := rfl
  rw [hid, List.map_id]
  exact Table.sortByKey_perm.nodup_iff.mpr (List.nodup_dedup _)

theorem stream_isSome_iff (hplan : PlanFacts document registry context plan)
    {external : List ExternalStreamSample} {injected : List InjectedInputSample}
    {done : List (GraphClockId × List ClockedNode)} {state : SimulationState}
    (h : DomainsDone context plan external injected done state) (source : RuntimeStreamSource) :
    (state.streams source).isSome = true ↔ match source with
      | .output endpoint => endpoint ∈ plan.sources.map Prod.fst ∨
          (∃ item ∈ plan.transitions, endpoint = transitionTarget item) ∨
          ∃ group ∈ done, ∃ node ∈ group.2, endpoint = node.output
      | .injectedInput endpoint => endpoint ∈ injected.map InjectedInputSample.input := by
  obtain ⟨callers, transitioned, hcallers, htransitioned, hdone⟩ := h.run
  have hadmitted := callersAdmitted (fun source hsource => (hplan.sourcePort source hsource).1)
    hcallers
  obtain ⟨order, horder, hsteps⟩ := Worklist.steps_of_solve htransitioned
  rw [groups_isSome hdone, transitions_isSome hsteps]
  cases source with
  | output endpoint =>
    rw [hadmitted.output]
    have hsome : (if (plan.sourcePort endpoint).isSome then
        some (((SimulationContext.sortExternal external).filter (·.source = endpoint)).map
          fun sample => sample.caller.sample) else none).isSome = true ↔
        endpoint ∈ plan.sources.map Prod.fst := by
      rw [← PlanFacts.sourcePort_isSome]
      split <;> simp_all
    rw [hsome, or_assoc]
    simp only [RuntimeStreamSource.output.injEq, horder.mem_iff, ClockedNode.source]
  | injectedInput endpoint =>
    rw [hadmitted.input]
    split <;> simp_all [ClockedNode.source]

/-! ## The ordering loop -/

/-- Availability after the loop has placed some nodes. -/
def availableAfter (available : RuntimeStreamSource → Bool) (placed : List ClockedNode) :
    RuntimeStreamSource → Bool :=
  fun source => available source || source ∈ placed.map ClockedNode.source

omit [Sha256] in
@[simp] theorem availableAfter_nil {available : RuntimeStreamSource → Bool} :
    availableAfter available [] = available := by
  funext source
  simp [availableAfter]

omit [Sha256] in
/-- The loop places nodes that are ready, and makes their outputs available. -/
private theorem order_steps {placed : List ClockedNode}
    {first last : (RuntimeStreamSource → Bool) × List ClockedNode}
    (h : Worklist.Steps context.attemptOrder first placed last) :
    last.1 = availableAfter first.1 placed ∧ last.2 = first.2 ++ placed ∧
      ∀ before node after, placed = before ++ node :: after →
        context.isReady (availableAfter first.1 before) node = true := by
  induction h with
  | nil => exact ⟨by simp, by simp, by simp⟩
  | @cons state next final item items hattempt _ ih =>
    rw [SimulationContext.attemptOrder] at hattempt
    split at hattempt
    · next hready =>
      obtain rfl : (Function.update state.1 item.source true, state.2 ++ [item]) = next :=
        Option.some.inj (Except.ok.inj hattempt)
      -- the node just placed is available to the ones after it
      have hshift : ∀ before, availableAfter (Function.update state.1 item.source true) before =
          availableAfter state.1 (item :: before) := by
        intro before
        funext source
        by_cases hsource : source = item.source
        · simp [availableAfter, hsource]
        · simp [availableAfter, hsource]
      obtain ⟨havailable, hordered, hall⟩ := ih
      refine ⟨?_, ?_, ?_⟩
      · rw [havailable, hshift]
      · rw [hordered, List.append_assoc, List.singleton_append]
      · intro before node after hsplit
        cases before with
        | nil =>
          obtain ⟨rfl, -⟩ := List.cons.inj hsplit
          simpa using hready
        | cons head before =>
          obtain ⟨rfl, htail⟩ := List.cons.inj hsplit
          have hlater := hall before node after htail
          rwa [hshift] at hlater
    · cases hattempt

omit [Sha256] in
theorem isReady_iff {available : RuntimeStreamSource → Bool} {node : ClockedNode} :
    context.isReady available node = true ↔ ∀ input ∈ clockedInputs node.behavior,
      ∃ source, context.sourceForInput ⟨node.node, input⟩ = .ok source ∧
        available source = true := by
  rw [SimulationContext.isReady, List.all_eq_true]
  refine forall₂_congr fun input _ => ?_
  cases context.sourceForInput ⟨node.node, input⟩ with
  | ok source => simp
  | error error => simp

/-- A clocked node of a plan is determined by its output. -/
theorem eq_of_output_eq (hplan : PlanFacts document registry context plan)
    {left right : ClockedNode} (hleft : left ∈ plan.clocked) (hright : right ∈ plan.clocked)
    (h : left.output = right.output) : left = right :=
  List.inj_on_of_nodup_map hplan.clocked_nodup hleft hright (congrArg WireEndpoint.node h)

section Group

variable {external : List ExternalStreamSample} {injected : List InjectedInputSample}
  {clocked : List (GraphClockId × ClockedNode)} {done rest : List (GraphClockId × List ClockedNode)}
  {clock : GraphClockId} {group : List ClockedNode} {state : SimulationState}
  (hdocument : context.document = document.toDocumentTables)
  (facts : AnalysisFacts document registry.semantic context.analysis)
  (hplan : PlanFacts document registry context plan)
  (hclocked : clockedOf context plan = .ok clocked)
  (hgroups : SimulationContext.clockGroups clocked = done ++ (clock, group) :: rest)
  (hdone : DomainsDone context plan external injected done state)

include hclocked hgroups in
omit [Sha256] in
private theorem mem_group_of_split {node : ClockedNode} :
    node ∈ group ↔ node ∈ plan.clocked ∧ OnClock context clock node :=
  mem_group hclocked (hgroups ▸ List.mem_append_right _ List.mem_cons_self)

include hplan hclocked hgroups hdone in
/-- The streams of a clock domain's own nodes do not exist before it runs. -/
theorem stream_none_of_group {node : ClockedNode} (hnode : node ∈ group) :
    state.streams node.source = none := by
  have hmem := (mem_group_of_split hclocked hgroups).mp hnode
  rw [← Option.not_isSome_iff_eq_none, ClockedNode.source, stream_isSome_iff hplan hdone]
  obtain ⟨hsource, htransition⟩ := hplan.output_of_clocked hmem.1
  rintro (h | ⟨item, hitem, h⟩ | ⟨⟨other, nodes⟩, hother, found, hfound, h⟩)
  · exact hsource h
  · exact htransition item hitem (congrArg WireEndpoint.node h).symm
  · -- a node of an earlier group is on another clock
    have hearlier : (other, nodes) ∈ SimulationContext.clockGroups clocked :=
      hgroups ▸ List.mem_append_left _ hother
    have hfoundMem := (mem_group hclocked hearlier).mp hfound
    obtain rfl := eq_of_output_eq hplan hmem.1 hfoundMem.1 h
    have hclock := Except.ok.inj (hmem.2.symm.trans hfoundMem.2)
    have hnodup : ((SimulationContext.clockGroups clocked).map Prod.fst).Nodup :=
      clockGroups_nodup
    rw [hgroups, List.map_append, List.map_cons] at hnodup
    exact (List.nodup_append.mp hnodup).2.2 other (List.mem_map_of_mem hother) clock
      List.mem_cons_self hclock.symm

/-- Sources available before the loop: streams that exist, and delays of the group. -/
private def availableBefore (state : SimulationState) (group : List ClockedNode)
    (source : RuntimeStreamSource) : Bool :=
  (state.streams source).isSome ||
    source ∈ (group.filter fun node => node.behavior.isDelay).map ClockedNode.source

include hdocument facts hplan hclocked hgroups hdone in
/-- An input of a pending node is available, or fed by a combinational node of its group that
ranks above it. -/
private theorem available_or_above (hinjected : ∀ input ∈ context.injected,
      input ∈ injected.map InjectedInputSample.input)
    (hsupplied : InputsSupplied context plan) {rank : WireEndpoint → Nat}
    (hwires : ∀ wire ∈ document.wires, rank wire.target < rank wire.source)
    (hnodes : ∀ node ∈ document.nodes, ∀ schema,
      registry.semantic.schema node.kind = some schema →
      ∀ dependency ∈ schema.outputDependencies, ∀ input ∈ dependency.inputs,
        rank ⟨node.id, dependency.output⟩ < rank ⟨node.id, input⟩)
    {node : ClockedNode} (hnode : node ∈ group) (hdelay : node.behavior.isDelay = false)
    {input : GraphPortId} (hinput : input ∈ clockedInputs node.behavior) :
    ∃ source, context.sourceForInput ⟨node.node, input⟩ = .ok source ∧
      (availableBefore state group source = true ∨
        ∃ other ∈ group, other.behavior.isDelay = false ∧ source = other.source ∧
          rank node.output < rank other.output) := by
  have hmem := (mem_group_of_split hclocked hgroups).mp hnode
  have hsource : ∃ source, context.sourceForInput ⟨node.node, input⟩ = .ok source := by
    rcases hsupplied node hmem.1 input hinput with hwired | hcaller
    · obtain ⟨wire, hwire⟩ := Option.isSome_iff_exists.mp hwired
      exact ⟨.output wire.source, sourceForInput_eq_ok.mpr (.inl ⟨wire, hwire, rfl⟩)⟩
    · cases hwire : context.document.wireInto ⟨node.node, input⟩ with
      | some wire => exact ⟨.output wire.source, sourceForInput_eq_ok.mpr (.inl ⟨wire, hwire, rfl⟩)⟩
      | none => exact ⟨_, sourceForInput_eq_ok.mpr (.inr ⟨hwire, hcaller, rfl⟩)⟩
  obtain ⟨source, hsource⟩ := hsource
  refine ⟨source, hsource, ?_⟩
  have hstream := stream_isSome_iff hplan hdone
  rcases source_of_clocked_input hdocument facts hplan hmem.1 hinput hsource with
    ⟨rfl, hcaller⟩ | ⟨wire, hwire, rfl, hexternal | htransition | ⟨other, hother, hproduced, hsame⟩⟩
  · left
    rw [availableBefore, (hstream _).mpr (hinjected _ hcaller), Bool.true_or]
  · left
    rw [availableBefore, (hstream (.output wire.source)).mpr (Or.inl hexternal), Bool.true_or]
  · left
    rw [availableBefore, (hstream (.output wire.source)).mpr
      (Or.inr (Or.inl htransition)), Bool.true_or]
  · have hotherGroup := (mem_group_of_split hclocked hgroups).mpr ⟨hother, hsame clock hmem.2⟩
    rw [hproduced]
    cases hkind : other.behavior.isDelay with
    | true =>
      left
      have hdelays : other.source ∈ (group.filter fun node => node.behavior.isDelay).map
          ClockedNode.source :=
        List.mem_map_of_mem (List.mem_filter.mpr ⟨hotherGroup, hkind⟩)
      rw [availableBefore, show RuntimeStreamSource.output other.output = other.source from rfl,
        decide_eq_true hdelays, Bool.or_true]
    | false =>
      -- the feedthrough of the node, then the wire into it
      refine .inr ⟨other, hotherGroup, hkind, rfl, ?_⟩
      have hfeedthrough := PlanFacts.clocked_rank facts hplan hnodes hmem.1 hdelay input hinput
      have hwireRank := hwires wire (Table.mem_of_lookup hwire)
      have htarget : wire.target = ⟨node.node, input⟩ := Table.key_of_lookup hwire
      rw [htarget, hproduced] at hwireRank
      exact hfeedthrough.trans hwireRank

end Group

/-- **Analysis acceptance implies schedulability.** Once the transitions and any number of
clock domains have been evaluated, the ordering loop of the next domain orders all of its
combinational nodes, each after the combinational nodes of the domain it reads. -/
theorem combinationalOrder_complete (document : GraphDocument)
    (registry : GraphSimulationRegistry) (policy : RequiredInputPolicy) (context : SimulationContext)
    (missing : List WireEndpoint)
    (hanalysis : analyzeGraphWithRequiredInputPolicy document registry.semantic policy =
      .ok (context.analysis, missing))
    (hdocument : context.document = document.toDocumentTables) (plan : SimulationPlan)
    (hplan : document.nodes.foldlM (context.classifyNode registry.implementation) {} = .ok plan)
    (external : List ExternalStreamSample) (injected : List InjectedInputSample)
    (hinjected : ∀ input ∈ context.injected, input ∈ injected.map InjectedInputSample.input)
    (hsupplied : InputsSupplied context plan) (clocked : List (GraphClockId × ClockedNode))
    (hclocked : clockedOf context plan = .ok clocked)
    (done rest : List (GraphClockId × List ClockedNode)) (clock : GraphClockId)
    (group : List ClockedNode)
    (hgroups : SimulationContext.clockGroups clocked = done ++ (clock, group) :: rest)
    (state : SimulationState) (hdone : DomainsDone context plan external injected done state) :
    ∃ ordered, context.combinationalOrder state.streams group = .ok ordered ∧
      ordered.Perm (group.filter fun node => !node.behavior.isDelay) ∧
      ∀ before node after, ordered = before ++ node :: after →
        ∀ input ∈ clockedInputs node.behavior, ∀ other ∈ group, other.behavior.isDelay = false →
          context.sourceForInput ⟨node.node, input⟩ = .ok other.source → other ∈ before := by
  have facts := analysisFacts hanalysis
  have hplanned := planFacts hplan
  obtain ⟨rank, hwires, hnodes⟩ := facts.acyclic
  have hinput : ∀ node ∈ group, node.behavior.isDelay = false →
      ∀ input ∈ clockedInputs node.behavior,
        ∃ source, context.sourceForInput ⟨node.node, input⟩ = .ok source ∧
          (availableBefore state group source = true ∨
            ∃ other ∈ group, other.behavior.isDelay = false ∧ source = other.source ∧
              rank node.output < rank other.output) := by
    intro node hnode hdelay input hmemInput
    exact available_or_above hdocument facts hplanned hclocked hgroups hdone hinjected hsupplied
      hwires hnodes hnode hdelay hmemInput
  have hpending : ∀ {node}, node ∈ group.filter (fun node => !node.behavior.isDelay) ↔
      node ∈ group ∧ node.behavior.isDelay = false := by
    intro node
    rw [List.mem_filter, Bool.not_eq_true']
  obtain ⟨⟨available, ordered⟩, hsolve⟩ : ∃ final,
      Worklist.solve context.attemptOrder SimulationContext.orderStuck
        (group.filter fun node => !node.behavior.isDelay)
        (availableBefore state group, []) = .ok final := by
    apply Worklist.solve_of_progress
    · intro done pending state' hsteps hperm node hnode
      rw [SimulationContext.attemptOrder]
      split
      · exact ⟨_, rfl⟩
      · exact ⟨_, rfl⟩
    · intro done pending state' hsteps hperm hne
      -- the pending node of largest rank does not wait for a pending node
      obtain ⟨node, hnodeSet, hmax⟩ := Finset.exists_max_image pending.toFinset
        (fun n => rank n.output) (List.toFinset_nonempty_iff pending |>.mpr hne)
      have hnode := List.mem_toFinset.mp hnodeSet
      refine ⟨node, hnode, ?_⟩
      have hmem := hpending.mp (hperm.mem_iff.mp (List.mem_append_right done hnode))
      have hready : context.isReady state'.1 node = true := by
        rw [isReady_iff, (order_steps hsteps).1]
        intro input hmemInput
        obtain ⟨source, hsource, havailable | ⟨other, hother, hcombinational, rfl, habove⟩⟩ :=
          hinput node hmem.1 hmem.2 _ hmemInput
        · exact ⟨source, hsource, by simp [availableAfter, havailable]⟩
        · refine ⟨_, hsource, ?_⟩
          have hplaced : other ∈ done := by
            rcases List.mem_append.mp (hperm.mem_iff.mpr (hpending.mpr ⟨hother, hcombinational⟩))
              with hplaced | hwaiting
            · exact hplaced
            · have hle := hmax other (List.mem_toFinset.mpr hwaiting)
              omega
          rw [availableAfter, decide_eq_true (List.mem_map_of_mem hplaced), Bool.or_true]
      rw [SimulationContext.attemptOrder, if_pos hready]
      intro hcontra
      cases hcontra
  refine ⟨ordered, ?_, ?_⟩
  · rw [SimulationContext.combinationalOrder]
    exact Except.bind_of_ok hsolve
  · obtain ⟨order, horder, hsteps⟩ := Worklist.steps_of_solve hsolve
    obtain ⟨-, hordered, hall⟩ := order_steps hsteps
    obtain rfl : ordered = order := by simpa using hordered
    refine ⟨horder, ?_⟩
    intro before node after hsplit input hmemInput other hother hcombinational hsource
    have hready := isReady_iff.mp (hall before node after hsplit) input hmemInput
    obtain ⟨source, hfound, havailable⟩ := hready
    obtain rfl := Except.ok.inj (hsource.symm.trans hfound)
    have hmem := (mem_group_of_split hclocked hgroups).mp hother
    -- the output of a combinational node only becomes available when it is placed
    have hbefore : availableBefore state group other.source = false := by
      rw [availableBefore, stream_none_of_group hplanned hclocked hgroups hdone hother]
      simp only [Option.isSome_none, Bool.false_or, decide_eq_false_iff_not, List.mem_map,
        not_exists, not_and]
      intro delay hdelay hsame
      obtain ⟨hdelayGroup, hkind⟩ := List.mem_filter.mp hdelay
      have hdelayMem := (mem_group_of_split hclocked hgroups).mp hdelayGroup
      obtain rfl := eq_of_output_eq hplanned hdelayMem.1 hmem.1
        (RuntimeStreamSource.output.inj hsame)
      rw [hcombinational] at hkind
      cases hkind
    have havailable : (availableBefore state group other.source ||
        decide (other.source ∈ before.map ClockedNode.source)) = true := havailable
    rw [hbefore, Bool.false_or] at havailable
    obtain ⟨placed, hplaced, hsame⟩ := List.mem_map.mp (of_decide_eq_true havailable)
    have hplacedGroup := (hpending.mp (horder.mem_iff.mp
      (hsplit ▸ List.mem_append_left _ hplaced))).1
    have hplacedMem := (mem_group_of_split hclocked hgroups).mp hplacedGroup
    obtain rfl := eq_of_output_eq hplanned hplacedMem.1 hmem.1
      (RuntimeStreamSource.output.inj hsame)
    exact hplaced

end Scheduling

/-! ## The relay -/

section Relay

open HostLibrary

/-- Behaviours of the four relay kinds. -/
def relayImplementations : List GraphSimulationImplementation := [
  ⟨⟨"relay.hold", 1⟩, .unitDelay ⟨1⟩ 1 ⟨2⟩⟩,
  ⟨⟨"relay.rate", 1⟩, .latestRateTransition ⟨1⟩ ⟨2⟩⟩,
  ⟨⟨"relay.source", 1⟩, .externalStreamSource ⟨1⟩⟩,
  ⟨⟨"relay.sum", 1⟩, .exactAdd ⟨1⟩ ⟨2⟩ ⟨3⟩⟩]

private theorem relayDigest_isSome :
    (simulationRegistryDigest relayNodeRegistry.toRegistryTables
      relayImplementations).toOption.isSome = true := by
  decide +kernel

def relayRegistry : GraphSimulationRegistry where
  semantic := relayNodeRegistry
  implementations := relayImplementations
  digest := _
  valid := by decide +kernel
  digest_eq := Except.eq_ok_get relayDigest_isSome

/-- A sample at every tick of the relay's source up to root tick two. -/
def relaySamples : List ExternalStreamSample :=
  [⟨⟨⟨1⟩, ⟨1⟩⟩, 0, 0, ⟨⟨1⟩, .exactRational 1⟩⟩, ⟨⟨⟨1⟩, ⟨1⟩⟩, 1, 1, ⟨⟨1⟩, .exactRational 2⟩⟩,
    ⟨⟨⟨1⟩, ⟨1⟩⟩, 2, 2, ⟨⟨1⟩, .exactRational 3⟩⟩]

private theorem relayContext_isSome :
    (simulationContext relayDocument relayRegistry ⟨⟨1⟩, 2⟩ relaySamples []
      .interactive).toOption.isSome = true := by
  decide +kernel

def relayContext : SimulationContext := Option.get _ relayContext_isSome

private theorem relayPlan_isSome :
    (relayDocument.nodes.foldlM (relayContext.classifyNode relayRegistry.implementation)
      {}).toOption.isSome = true := by
  decide +kernel

def relayPlan : SimulationPlan := Option.get _ relayPlan_isSome

private theorem relayCallers_isSome :
    (relayContext.admitCallers relayPlan relaySamples []).toOption.isSome = true := by
  decide +kernel

def relayCallers : SimulationState := Option.get _ relayCallers_isSome

private theorem relayTransitioned_isSome :
    (Worklist.solve relayContext.attemptTransition SimulationContext.transitionStuck
      relayPlan.transitions relayCallers).toOption.isSome = true := by
  decide +kernel

def relayTransitioned : SimulationState := Option.get _ relayTransitioned_isSome

theorem combinationalOrder_complete_relay :
    ∃ ordered, relayContext.combinationalOrder relayTransitioned.streams
        [⟨⟨3⟩, .exactAdd ⟨1⟩ ⟨2⟩ ⟨3⟩⟩, ⟨⟨4⟩, .unitDelay ⟨1⟩ 1 ⟨2⟩⟩] = .ok ordered ∧
      ordered.Perm [⟨⟨3⟩, .exactAdd ⟨1⟩ ⟨2⟩ ⟨3⟩⟩] := by
  have hdone : DomainsDone relayContext relayPlan relaySamples [] [] relayTransitioned :=
    ⟨relayCallers, relayTransitioned, Except.eq_ok_get relayCallers_isSome,
      Except.eq_ok_get relayTransitioned_isSome, rfl⟩
  obtain ⟨ordered, hordered, hperm, -⟩ := combinationalOrder_complete relayDocument relayRegistry
    .retain relayContext [] (by decide +kernel)
    (contextFacts (Except.eq_ok_get relayContext_isSome)).document_eq relayPlan (Except.eq_ok_get relayPlan_isSome)
    relaySamples [] (by decide +kernel) (by unfold InputsSupplied; decide +kernel)
    [(⟨2⟩, ⟨⟨3⟩, .exactAdd ⟨1⟩ ⟨2⟩ ⟨3⟩⟩), (⟨2⟩, ⟨⟨4⟩, .unitDelay ⟨1⟩ 1 ⟨2⟩⟩)] (by decide +kernel)
    [] [] ⟨2⟩ [⟨⟨3⟩, .exactAdd ⟨1⟩ ⟨2⟩ ⟨3⟩⟩, ⟨⟨4⟩, .unitDelay ⟨1⟩ 1 ⟨2⟩⟩] (by decide +kernel)
    relayTransitioned hdone
  exact ⟨ordered, hordered, hperm⟩

end Relay

end Alumina.Graph
