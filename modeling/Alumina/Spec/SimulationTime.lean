import Alumina.Graph.Simulation
import Alumina.Spec.AnalysisFacts

/-!
# Exact tick times

Times of a clock's ticks in ticks of the root clock. A clock that resolves within the horizon
has a positive rate, so its tick times increase strictly, and the ticks up to a horizon are
the numbers below `tickCount`.

Key results:
- `rootTime_of_rate`: the simulator's time is `tickTime`
- `lt_tickCount_iff`: which ticks are within a horizon
- `ContextFacts`: what the simulator has established before any node runs
-/

namespace Alumina.Graph

/-- Time of a tick at `rate`, in ticks of `rootRate`. -/
def tickTime (rootRate rate : GraphClockRate) (tick : Nat) : ℚ :=
  (tick : ℚ) * rootRate.ticksPerSecond / rate.ticksPerSecond

/-- The number of ticks at `rate` up to a horizon. -/
def tickCount (rootRate rate : GraphClockRate) (horizon : ℚ) : Nat :=
  ⌊horizon * rate.ticksPerSecond / rootRate.ticksPerSecond⌋₊ + 1

section Times

variable {rootRate rate : GraphClockRate}

@[simp] theorem tickTime_zero : tickTime rootRate rate 0 = 0 := by simp [tickTime]

theorem tickTime_le_iff (hroot : 0 < rootRate.ticksPerSecond) (hrate : 0 < rate.ticksPerSecond)
    {tick : Nat} {horizon : ℚ} :
    tickTime rootRate rate tick ≤ horizon ↔
      (tick : ℚ) ≤ horizon * rate.ticksPerSecond / rootRate.ticksPerSecond := by
  rw [tickTime, div_le_iff₀ hrate, le_div_iff₀ hroot]

theorem tickTime_lt_tickTime (hroot : 0 < rootRate.ticksPerSecond)
    (hrate : 0 < rate.ticksPerSecond) {s t : Nat} :
    tickTime rootRate rate s < tickTime rootRate rate t ↔ s < t := by
  rw [tickTime, tickTime, div_lt_div_iff_of_pos_right hrate, mul_lt_mul_iff_left₀ hroot,
    Nat.cast_lt]

theorem tickTime_le_tickTime (hroot : 0 < rootRate.ticksPerSecond)
    (hrate : 0 < rate.ticksPerSecond) {s t : Nat} :
    tickTime rootRate rate s ≤ tickTime rootRate rate t ↔ s ≤ t := by
  rw [← not_lt, tickTime_lt_tickTime hroot hrate, not_lt]

theorem lt_tickCount_iff (hroot : 0 < rootRate.ticksPerSecond) (hrate : 0 < rate.ticksPerSecond)
    {tick : Nat} {horizon : ℚ} (hhorizon : 0 ≤ horizon) :
    tick < tickCount rootRate rate horizon ↔ tickTime rootRate rate tick ≤ horizon := by
  rw [tickTime_le_iff hroot hrate, tickCount, Nat.lt_succ_iff, Nat.le_floor_iff]
  exact div_nonneg (mul_nonneg hhorizon hrate.le) hroot.le

/-- Ticks of two clocks compare by the reduced ratio of their rates. -/
theorem tickTime_le_iff_mul {source target : GraphClockRate} {p q : Nat}
    (hroot : 0 < rootRate.ticksPerSecond) (hsource : 0 < source.ticksPerSecond)
    (htarget : 0 < target.ticksPerSecond) (hq : 0 < q)
    (hratio : source.ticksPerSecond / target.ticksPerSecond = p / q) {s k : Nat} :
    tickTime rootRate source s ≤ tickTime rootRate target k ↔ s * q ≤ k * p := by
  have hq' : (0 : ℚ) < q := by exact_mod_cast hq
  rw [div_eq_div_iff htarget.ne' hq'.ne'] at hratio
  rw [tickTime, tickTime, div_le_div_iff₀ hsource htarget, mul_right_comm, mul_right_comm (k : ℚ),
    mul_le_mul_iff_left₀ hroot]
  have hleft : (s : ℚ) * target.ticksPerSecond * q = s * q * target.ticksPerSecond := by ring
  have hright : (k : ℚ) * source.ticksPerSecond * q = k * p * target.ticksPerSecond := by
    rw [mul_assoc, hratio, mul_assoc]
  calc (s : ℚ) * target.ticksPerSecond ≤ k * source.ticksPerSecond
      ↔ (s : ℚ) * target.ticksPerSecond * q ≤ k * source.ticksPerSecond * q :=
        (mul_le_mul_iff_left₀ hq').symm
    _ ↔ (s : ℚ) * q ≤ k * p := by rw [hleft, hright, mul_le_mul_iff_left₀ htarget]
    _ ↔ s * q ≤ k * p := by exact_mod_cast Iff.rfl

end Times

/-! ## Times of the simulator -/

theorem rootTime_of_rate {analysis : GraphAnalysis} {rootRate rate : GraphClockRate}
    {clock : GraphClockId} (h : clockRateInHorizon analysis rootRate clock = .ok rate)
    (tick : Nat) : rootTime analysis rootRate clock tick = .ok (tickTime rootRate rate tick) := by
  rw [rootTime, Except.bind_of_ok h]
  rfl

theorem rootTime_eq_ok {analysis : GraphAnalysis} {rootRate : GraphClockRate}
    {clock : GraphClockId} {tick : Nat} {time : ℚ}
    (h : rootTime analysis rootRate clock tick = .ok time) :
    ∃ rate, clockRateInHorizon analysis rootRate clock = .ok rate ∧
      time = tickTime rootRate rate tick := by
  simp only [rootTime, Except.bind_eq_ok, Except.pure_eq_ok] at h
  obtain ⟨rate, hrate, rfl⟩ := h
  exact ⟨rate, hrate, rfl⟩

/-- A clock resolves within the horizon exactly when its root is the horizon's. -/
theorem clockRateInHorizon_eq_ok {analysis : GraphAnalysis} {rootRate rate : GraphClockRate}
    {clock : GraphClockId} : clockRateInHorizon analysis rootRate clock = .ok rate ↔
      analysis.clockRate clock = some rate ∧ rate.root = rootRate.clock := by
  simp only [clockRateInHorizon, Except.bind_eq_ok, Except.exists_unit, Option.okOr_eq_ok,
    Except.failIf_eq_ok, not_not, ne_eq, Except.pure_eq_ok]
  constructor
  · rintro ⟨found, hfound, hroot, rfl⟩
    exact ⟨hfound, hroot⟩
  · rintro ⟨hfound, hroot⟩
    exact ⟨rate, hfound, hroot, rfl⟩

/-- What holds of a context that `simulationContext` returns. -/
structure ContextFacts (document : GraphDocument) (registry : GraphNodeRegistry)
    (context : SimulationContext) : Prop where
  document_eq : context.document = document.toDocumentTables
  semantic_eq : context.semantic = registry.toRegistryTables
  analysis : AnalysisFacts document registry context.analysis
  rootRate_mem : context.rootRate ∈ context.analysis.clockRates

namespace ContextFacts

variable {document : GraphDocument} {registry : GraphNodeRegistry} {context : SimulationContext}

theorem root_pos (facts : ContextFacts document registry context) :
    0 < context.rootRate.ticksPerSecond :=
  facts.analysis.rate_pos facts.rootRate_mem

theorem rate_pos (facts : ContextFacts document registry context) {clock : GraphClockId}
    {rate : GraphClockRate}
    (h : clockRateInHorizon context.analysis context.rootRate clock = .ok rate) :
    0 < rate.ticksPerSecond :=
  facts.analysis.rate_pos (Table.mem_of_lookup (clockRateInHorizon_eq_ok.mp h).1)

end ContextFacts

theorem horizon_nonneg (horizon : GraphSimulationHorizon) : 0 ≤ horizon.time := Nat.cast_nonneg _

/-- The checks before any node runs have established the context's facts. -/
theorem contextFacts [Sha256] {document : GraphDocument} {registry : GraphSimulationRegistry}
    {horizon : GraphSimulationHorizon} {external : List ExternalStreamSample}
    {injected : List InjectedInputSample} {limits : GraphSimulationLimits}
    {context : SimulationContext}
    (h : simulationContext document registry horizon external injected limits = .ok context) :
    ContextFacts document registry.semantic context := by
  simp only [simulationContext, Except.bind_eq_ok, Except.exists_unit, Except.mapError_eq_ok,
    Option.okOr_eq_ok, Except.pure_eq_ok] at h
  obtain ⟨-, -, -, analysis, hanalysis, rootRate, hroot, rfl⟩ := h
  have hfound := (Option.filter_eq_some_iff.mp hroot).1
  exact ⟨rfl, rfl, analysisFacts_of_suppliedInputs hanalysis, Table.mem_of_lookup hfound⟩

end Alumina.Graph
