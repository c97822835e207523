import Alumina.ForStd.Run

/-!
# A client, its device and a lossy link

A client has at most one request under way. The link carries the request to the device and the
response back, and may lose either of them; the client is told of a loss and abandons its
request. What a client was ordered to reach is its intent.

The question answered here is whether a client recovers: once nothing is lost any more, every
way to go on reaches the intent after finitely many steps.

## Key results

- `Run.Inevitable.of_rank`: a rank that every step lowers makes a goal inevitable
- `Run.Inevitable.reaches`: an inevitable goal is reached by a run
- `Exchange.Certificate.recoverable_iff`: a client recovers after a history exactly when no
  request was lost that it never repeats
-/

namespace Run

variable {σ ε : Type*} {step : σ → ε → σ → Prop} {goal : σ → Prop} {s : σ}

/-- Every way to go on reaches the goal, after finitely many steps. -/
inductive Inevitable (step : σ → ε → σ → Prop) (goal : σ → Prop) : σ → Prop
  | now {s : σ} (reached : goal s) : Inevitable step goal s
  | later {s : σ} (enabled : ∃ e t, step s e t)
      (next : ∀ e t, step s e t → Inevitable step goal t) : Inevitable step goal s

/-- An inevitable goal is reached by a run. -/
theorem Inevitable.reaches (h : Inevitable step goal s) : ∃ es t, Run step s es t ∧ goal t := by
  induction h with
  | now reached => exact ⟨[], _, .nil _, reached⟩
  | later enabled next ih =>
    obtain ⟨e, t, hstep⟩ := enabled
    obtain ⟨es, u, hrun, hgoal⟩ := ih e t hstep
    exact ⟨e :: es, u, .cons hstep hrun, hgoal⟩

/-- A goal is inevitable if, short of it, a step is enabled and each step lowers the rank. -/
theorem Inevitable.of_rank {p : σ → Prop} (rank : σ → Nat)
    (henabled : ∀ s, p s → ¬ goal s → ∃ e t, step s e t)
    (hlower : ∀ s e t, p s → ¬ goal s → step s e t → p t ∧ (goal t ∨ rank t < rank s)) (h : p s) :
    Inevitable step goal s := by
  induction hrank : rank s using Nat.strong_induction_on generalizing s with
  | _ n ih =>
    subst hrank
    by_cases hgoal : goal s
    · exact .now hgoal
    · refine .later (henabled s h hgoal) fun e t hstep => ?_
      obtain ⟨hkept, hreached | hless⟩ := hlower s e t h hgoal hstep
      · exact .now hreached
      · exact ih (rank t) hless hkept rfl

/-- A goal is not inevitable where a predicate that excludes it is kept for good. -/
theorem not_inevitable {p : σ → Prop} (hkeep : ∀ s e t, step s e t → p s → p t)
    (hmissed : ∀ s, p s → ¬ goal s) (h : p s) : ¬ Inevitable step goal s := by
  intro hinevitable
  obtain ⟨es, t, hrun, hgoal⟩ := hinevitable.reaches
  exact hmissed t (hrun.invariant hkeep h) hgoal

end Run

/-- A client and its device: `ask` emits a request, `serve` answers one, `accept` and `abandon`
settle it, `push` is a step of both without a request, `order` is the user's. -/
structure Exchange (Machine Device Request Response Intent : Type*) where
  ask : Machine → Request → Machine → Prop
  serve : Device → Request → Device × Response
  accept : Machine → Response → Machine
  abandon : Machine → Machine
  push : Machine → Device → Machine → Device → Prop
  order : Machine → Intent → Machine → Prop
  /-- What the user's order is about. -/
  goal : Intent → Machine → Prop

namespace Exchange

/-- What is under way between the client and the device. -/
inductive Link (Request Response : Type*) where
  | idle
  | request (request : Request)
  | response (response : Response)

structure System (Machine Device Request Response Intent : Type*) where
  intent : Intent
  machine : Machine
  device : Device
  link : Link Request Response

inductive Event (Request Intent : Type*) where
  | asked | served | accepted | pushed
  | requestLost (request : Request)
  | responseLost
  | ordered (intent : Intent)

/-- Nothing is lost and the user waits. -/
def Event.Lossless {Request Intent : Type*} : Event Request Intent → Prop
  | .asked | .served | .accepted | .pushed => True
  | .requestLost _ | .responseLost | .ordered _ => False

variable {Machine Device Request Response Intent : Type*}
  {X : Exchange Machine Device Request Response Intent}

/-- One step of the client, the device, the link or the user. -/
inductive Step (X : Exchange Machine Device Request Response Intent) :
    System Machine Device Request Response Intent → Event Request Intent →
      System Machine Device Request Response Intent → Prop
  | asked {i m d q m'} (asks : X.ask m q m') :
      Step X ⟨i, m, d, .idle⟩ .asked ⟨i, m', d, .request q⟩
  | served {i m d q} :
      Step X ⟨i, m, d, .request q⟩ .served ⟨i, m, (X.serve d q).1, .response (X.serve d q).2⟩
  | accepted {i m d r} : Step X ⟨i, m, d, .response r⟩ .accepted ⟨i, X.accept m r, d, .idle⟩
  | pushed {i m d l m' d'} (pushes : X.push m d m' d') :
      Step X ⟨i, m, d, l⟩ .pushed ⟨i, m', d', l⟩
  | requestLost {i m d q} :
      Step X ⟨i, m, d, .request q⟩ (.requestLost q) ⟨i, X.abandon m, d, .idle⟩
  | responseLost {i m d r} :
      Step X ⟨i, m, d, .response r⟩ .responseLost ⟨i, X.abandon m, d, .idle⟩
  | ordered {i m d l j m'} (orders : X.order m j m') :
      Step X ⟨i, m, d, l⟩ (.ordered j) ⟨j, m', d, l⟩

/-- If nothing is lost from here on, the client reaches its intent whatever happens. -/
def Recoverable (X : Exchange Machine Device Request Response Intent)
    (s : System Machine Device Request Response Intent) : Prop :=
  Run.Inevitable (fun s e t => X.Step s e t ∧ e.Lossless) (fun s => X.goal s.intent s.machine) s

/-- A predicate that every step keeps, if of the requests only those in `lost` get lost. -/
structure Preserved (X : Exchange Machine Device Request Response Intent)
    (p : Intent → Machine → Device → Link Request Response → Prop) (lost : Request → Prop) :
    Prop where
  asked : ∀ {i m d q m'}, p i m d .idle → X.ask m q m' → p i m' d (.request q)
  served : ∀ {i m d q}, p i m d (.request q) →
    p i m (X.serve d q).1 (.response (X.serve d q).2)
  accepted : ∀ {i m d r}, p i m d (.response r) → p i (X.accept m r) d .idle
  pushed : ∀ {i m d l m' d'}, p i m d l → X.push m d m' d' → p i m' d' l
  requestLost : ∀ {i m d q}, p i m d (.request q) → lost q → p i (X.abandon m) d .idle
  responseLost : ∀ {i m d r}, p i m d (.response r) → p i (X.abandon m) d .idle
  ordered : ∀ {i m d l j m'}, p i m d l → X.order m j m' → p j m' d l

variable {p trap : Intent → Machine → Device → Link Request Response → Prop}
  {lost : Request → Prop} {s t start : System Machine Device Request Response Intent}
  {e : Event Request Intent} {history : List (Event Request Intent)}

theorem Preserved.step (hp : X.Preserved p lost) (h : X.Step s e t)
    (hlost : ∀ request, e = .requestLost request → lost request)
    (hs : p s.intent s.machine s.device s.link) : p t.intent t.machine t.device t.link := by
  cases h with
  | asked asks => exact hp.asked hs asks
  | served => exact hp.served hs
  | accepted => exact hp.accepted hs
  | pushed pushes => exact hp.pushed hs pushes
  | requestLost => exact hp.requestLost hs (hlost _ rfl)
  | responseLost => exact hp.responseLost hs
  | ordered orders => exact hp.ordered hs orders

/-- Why a client recovers as long as no harmful request is lost: `sound` is kept until then and
`trap` is kept afterwards; an exchange that starts sound and short of the goal lowers the
level. -/
structure Certificate (X : Exchange Machine Device Request Response Intent)
    (sound trap : Intent → Machine → Device → Link Request Response → Prop)
    (harmful : Request → Prop) (level : Machine → Nat) : Prop where
  kept : X.Preserved sound fun request => ¬ harmful request
  trapped : X.Preserved trap fun _ => True
  falls : ∀ {i m d q}, sound i m d (.request q) → harmful q → trap i (X.abandon m) d .idle
  missed : ∀ {i m d l}, trap i m d l → ¬ X.goal i m
  enabled : ∀ {i m d}, sound i m d .idle → ¬ X.goal i m → ∃ q m', X.ask m q m'
  asks : ∀ {i m d q m'}, sound i m d .idle → ¬ X.goal i m → X.ask m q m' → level m' = level m
  settles : ∀ {i m d r}, sound i m d (.response r) → ¬ X.goal i m →
    X.goal i (X.accept m r) ∨ level (X.accept m r) < level m
  pushes : ∀ {i m d l m' d'}, sound i m d l → ¬ X.goal i m → ¬ X.push m d m' d'

/-- How far the link is from the next response. -/
def Link.distance : Link Request Response → Nat
  | .idle => 2
  | .request _ => 1
  | .response _ => 0

/-- A sound client recovers. -/
theorem Certificate.recoverable {harmful : Request → Prop} {level : Machine → Nat}
    (h : X.Certificate p trap harmful level) (hs : p s.intent s.machine s.device s.link) :
    X.Recoverable s := by
  -- three steps make an exchange, and an exchange lowers the level
  apply Run.Inevitable.of_rank (p := fun s => p s.intent s.machine s.device s.link)
    (fun s => 3 * level s.machine + s.link.distance) _ _ hs
  · intro s hs hgoal
    obtain ⟨i, m, d, l⟩ := s
    cases l with
    | idle =>
      obtain ⟨q, m', hasks⟩ := h.enabled hs hgoal
      exact ⟨_, _, .asked hasks, trivial⟩
    | request q => exact ⟨_, _, .served, trivial⟩
    | response r => exact ⟨_, _, .accepted, trivial⟩
  · rintro s e t hs hgoal ⟨hstep, hlossless⟩
    have hkept : p t.intent t.machine t.device t.link := by
      apply h.kept.step hstep _ hs
      rintro request rfl
      exact hlossless.elim
    refine ⟨hkept, ?_⟩
    cases hstep with
    | @asked i m d q m' asks =>
      right
      have hlevel : level m' = level m := h.asks hs hgoal asks
      show 3 * level m' + 1 < 3 * level m + 2
      omega
    | @served i m d q =>
      right
      show 3 * level m + 0 < 3 * level m + 1
      omega
    | @accepted i m d r =>
      have hsettled : X.goal i (X.accept m r) ∨ level (X.accept m r) < level m :=
        h.settles hs hgoal
      rcases hsettled with hreached | hless
      · exact Or.inl hreached
      · right
        show 3 * level (X.accept m r) + 2 < 3 * level m + 0
        omega
    | pushed pushes => exact absurd pushes (h.pushes hs hgoal)
    | requestLost => exact hlossless.elim
    | responseLost => exact hlossless.elim
    | ordered orders => exact hlossless.elim

/-- A trapped client does not recover. -/
theorem Certificate.not_recoverable {harmful : Request → Prop} {level : Machine → Nat}
    (h : X.Certificate p trap harmful level) (hs : trap s.intent s.machine s.device s.link) :
    ¬ X.Recoverable s := by
  apply Run.not_inevitable (p := fun s => trap s.intent s.machine s.device s.link) _ _ hs
  · rintro s e t ⟨hstep, -⟩ hs
    exact h.trapped.step hstep (fun _ _ => trivial) hs
  · intro s hs
    exact h.missed hs

/-- A history keeps a client sound or has trapped it. -/
inductive Verdict (sound trap : Intent → Machine → Device → Link Request Response → Prop)
    (harmful : Request → Prop) (history : List (Event Request Intent))
    (s : System Machine Device Request Response Intent) : Prop
  | kept (holds : sound s.intent s.machine s.device s.link)
      (harmless : ∀ request, .requestLost request ∈ history → ¬ harmful request)
  | fallen (holds : trap s.intent s.machine s.device s.link) {request : Request}
      (lost : .requestLost request ∈ history) (harm : harmful request)

theorem Certificate.verdict_step {harmful : Request → Prop} {level : Machine → Nat}
    (h : X.Certificate p trap harmful level) (hstep : X.Step s e t)
    (hs : Verdict p trap harmful history s) : Verdict p trap harmful (history ++ [e]) t := by
  cases hs with
  | fallen holds lost harm =>
    have hkept := h.trapped.step hstep (fun _ _ => trivial) holds
    exact .fallen hkept (List.mem_append_left _ lost) harm
  | kept holds harmless =>
    by_cases hfalls : ∃ request, e = .requestLost request ∧ harmful request
    · obtain ⟨request, rfl, harm⟩ := hfalls
      have htrapped : trap t.intent t.machine t.device t.link := by
        cases hstep with
        | requestLost => exact h.falls holds harm
      exact .fallen htrapped (by simp) harm
    · have hsafe : ∀ request, e = .requestLost request → ¬ harmful request :=
        fun request heq harm => hfalls ⟨request, heq, harm⟩
      refine .kept (h.kept.step hstep hsafe holds) fun request hmem => ?_
      rw [List.mem_append, List.mem_singleton] at hmem
      rcases hmem with hmem | heq
      · exact harmless request hmem
      · exact hsafe request heq.symm

/-- **Recovery.** After any history a client recovers exactly when no harmful request was lost
on the way to the device. -/
theorem Certificate.recoverable_iff {harmful : Request → Prop} {level : Machine → Nat}
    (h : X.Certificate p trap harmful level)
    (hstart : p start.intent start.machine start.device start.link)
    (hrun : Run X.Step start history s) :
    X.Recoverable s ↔ ∀ request, .requestLost request ∈ history → ¬ harmful request := by
  have hinitial : Verdict p trap harmful [] start := .kept hstart (by simp)
  have hverdict : Verdict p trap harmful history s :=
    hrun.along_history (fun _ _ _ _ hstep => h.verdict_step hstep) hinitial
  cases hverdict with
  | kept holds harmless => exact ⟨fun _ => harmless, fun _ => h.recoverable holds⟩
  | @fallen holds request lost harm =>
    constructor
    · intro hrecovers
      exact absurd hrecovers (h.not_recoverable holds)
    · intro hharmless
      exact absurd harm (hharmless request lost)

end Exchange
