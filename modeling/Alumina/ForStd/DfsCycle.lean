import Alumina.ForStd.Dfs

/-!
# Cycles found by the depth-first search

What the search means for the graph: it finishes exactly on graphs without cycles, and the edge
that stops it closes a cycle whose other links are read off the parents.

## Key results

- `not_isCycle_of_search`: a search that finishes has seen no cycle
- `Stopped.cycle`: an edge that reaches a gray vertex closes a cycle along the stack
- `search_cases`: enough fuel for every vertex and edge always gives one of the two
-/

namespace Dfs

variable {V L : Type}

/-! ## Walks -/

/-- The edges lead from one vertex to another. -/
def IsWalk (follows : V → Edge V L → Prop) : V → List (V × Edge V L) → V → Prop
  | first, [], last => first = last
  | first, (source, edge) :: walk, last =>
    source = first ∧ follows source edge ∧ IsWalk follows edge.target walk last

/-- A closed walk that leaves each of its vertices once. -/
structure IsCycle (follows : V → Edge V L → Prop) (walk : List (V × Edge V L)) : Prop where
  nonempty : walk ≠ []
  closed : ∃ vertex, IsWalk follows vertex walk vertex
  once : (walk.map Prod.fst).Nodup

section Walks

variable {follows : V → Edge V L → Prop} {first middle last : V} {walk walk' : List (V × Edge V L)}

theorem IsWalk.append (h : IsWalk follows first walk middle)
    (h' : IsWalk follows middle walk' last) : IsWalk follows first (walk ++ walk') last := by
  induction walk generalizing first with
  | nil =>
    obtain rfl : first = middle := h
    exact h'
  | cons step walk ih => exact ⟨h.1, h.2.1, ih h.2.2⟩

theorem IsWalk.mem (h : IsWalk follows first walk last) :
    ∀ step ∈ walk, follows step.1 step.2 := by
  induction walk generalizing first with
  | nil => simp
  | cons step walk ih =>
    intro other hother
    obtain rfl | hother := List.mem_cons.1 hother
    · exact h.2.1
    · exact ih h.2.2 other hother

/-- Along a walk a rank that every edge lowers goes down by at least its length. -/
theorem IsWalk.rank_le {rank : V → Nat} (h : IsWalk follows first walk last)
    (hrank : ∀ step ∈ walk, rank step.2.target < rank step.1) :
    rank last + walk.length ≤ rank first := by
  induction walk generalizing first with
  | nil =>
    obtain rfl : first = last := h
    simp
  | cons step walk ih =>
    obtain ⟨rfl, -, hrest⟩ := h
    have hlower := hrank step List.mem_cons_self
    have hlater := ih hrest fun other hother => hrank other (List.mem_cons_of_mem _ hother)
    rw [List.length_cons]
    omega

end Walks

variable {adjacency : V → List (Edge V L)}

/-- The edges of an adjacency function. -/
def Follows (adjacency : V → List (Edge V L)) (source : V) (edge : Edge V L) : Prop :=
  edge ∈ adjacency source

/-! ## The stack is a walk -/

/-- The parent of each stacked vertex is the vertex stacked below it, by an edge of the graph. -/
def Linked (adjacency : V → List (Edge V L)) (parent : V → Option (V × L))
    (above below : V × List (Edge V L)) : Prop :=
  ∃ label, parent above.1 = some (below.1, label) ∧ ⟨above.1, label⟩ ∈ adjacency below.1

/-- The stack is linked, and the edges still to follow are edges of the graph. -/
structure Traced (adjacency : V → List (Edge V L)) (machine : Machine V L) : Prop where
  chain : machine.stack.IsChain (Linked adjacency machine.parent)
  edges : ∀ frame ∈ machine.stack, ∀ edge ∈ frame.2, edge ∈ adjacency frame.1

section Steps

variable [DecidableEq V] {machine final : Machine V L} {source vertex : V} {edge : Edge V L}
  {rest : List (Edge V L)} {below : List (V × List (Edge V L))}

theorem Traced.enter (hempty : machine.stack = []) :
    Traced adjacency (machine.enter adjacency vertex) := by
  unfold Machine.enter
  rw [hempty]
  constructor
  · exact List.isChain_singleton _
  · intro frame hframe
    obtain rfl := List.mem_singleton.1 hframe
    exact fun _ hedge => hedge

theorem Traced.leave (h : Traced adjacency machine) (hstack : machine.stack = (vertex, []) :: below) :
    Traced adjacency (machine.leave vertex below) := by
  have hchain := h.chain
  rw [hstack] at hchain
  constructor
  · exact hchain.tail
  · intro frame hframe
    apply h.edges frame
    rw [hstack]
    exact List.mem_cons_of_mem _ hframe

omit [DecidableEq V] in
/-- The frames of a stack whose top has one edge less to follow. -/
theorem Traced.skip (h : Traced adjacency machine)
    (hstack : machine.stack = (source, edge :: rest) :: below) :
    Traced adjacency { machine with stack := (source, rest) :: below } := by
  have hchain := h.chain
  rw [hstack] at hchain
  constructor
  · cases below with
    | nil => exact List.isChain_singleton _
    | cons frame below =>
      rw [List.isChain_cons_cons] at hchain ⊢
      exact hchain
  · intro frame hframe
    obtain rfl | hframe := List.mem_cons.1 hframe
    · intro other hother
      apply h.edges (source, edge :: rest)
      · rw [hstack]
        exact List.mem_cons_self
      · exact List.mem_cons_of_mem _ hother
    · apply h.edges frame
      rw [hstack]
      exact List.mem_cons_of_mem _ hframe

theorem Traced.descend (h : Traced adjacency machine)
    (hstack : machine.stack = (source, edge :: rest) :: below)
    (hunseen : edge.target ∉ machine.stack.map Prod.fst) :
    Traced adjacency (machine.descend adjacency source edge rest below) := by
  have hskip := h.skip hstack
  have hedge : edge ∈ adjacency source := by
    apply h.edges (source, edge :: rest)
    · rw [hstack]
      exact List.mem_cons_self
    · exact List.mem_cons_self
  constructor
  · show ((edge.target, adjacency edge.target) :: (source, rest) :: below).IsChain
      (Linked adjacency (Function.update machine.parent edge.target (some (source, edge.label))))
    rw [List.isChain_cons_cons]
    constructor
    · exact ⟨edge.label, Function.update_self _ _ _, hedge⟩
    · -- the parents of the vertices below are as they were
      apply List.IsChain.imp_of_mem_imp _ hskip.chain
      intro above frame habove hframe hlinked
      obtain ⟨label, hparent, hlabel⟩ := hlinked
      refine ⟨label, ?_, hlabel⟩
      have hstacked : above.1 ∈ machine.stack.map Prod.fst := by
        rw [hstack]
        have hmem : above.1 ∈ ((source, rest) :: below).map Prod.fst := List.mem_map_of_mem habove
        exact hmem
      have hne : above.1 ≠ edge.target := fun heq => hunseen (heq ▸ hstacked)
      rw [Function.update_of_ne hne]
      exact hparent
  · intro frame hframe
    obtain rfl | hframe := List.mem_cons.1 hframe
    · exact fun _ hother => hother
    · exact hskip.edges frame hframe

/-! ## The edge that stops the search -/

/-- An exploration that is stopped left a linked stack whose top edge reaches a gray vertex. -/
structure Stopped (adjacency : V → List (Edge V L)) (source : V) (edge : Edge V L)
    (machine : Machine V L) : Prop where
  invariant : Invariant adjacency machine
  traced : Traced adjacency machine
  stack : ∃ rest below, machine.stack = (source, edge :: rest) :: below
  gray : machine.color edge.target = .gray

theorem explore_backEdge {fuel : Nat} (h : Invariant adjacency machine)
    (htraced : Traced adjacency machine)
    (hrun : explore adjacency fuel machine = .backEdge source edge final) :
    Stopped adjacency source edge final := by
  induction fuel generalizing machine with
  | zero => simp [explore] at hrun
  | succ fuel ih =>
    rw [explore] at hrun
    split at hrun
    · cases hrun
    · next vertex below hstack => exact ih (h.leave hstack) (htraced.leave hstack) hrun
    · next source' edge' rest below hstack =>
      split at hrun
      · next hwhite =>
        have hunseen : edge'.target ∉ machine.stack.map Prod.fst := by
          rw [← h.gray, hwhite]
          simp
        exact ih (h.descend hstack hwhite) (htraced.descend hstack hunseen) hrun
      · next hgray =>
        obtain ⟨rfl, rfl, rfl⟩ := by simpa using hrun
        exact ⟨h, htraced, ⟨rest, below, hstack⟩, hgray⟩
      · next hblack => exact ih (h.skip hstack hblack) (htraced.skip hstack) hrun

theorem search_backEdge {fuel : Nat} {starts : List V} (h : Invariant adjacency machine)
    (hempty : machine.stack = [])
    (hrun : search adjacency fuel starts machine = .backEdge source edge final) :
    Stopped adjacency source edge final := by
  induction starts generalizing machine with
  | nil => simp [search] at hrun
  | cons start starts ih =>
    rw [search] at hrun
    split at hrun
    · next hwhite =>
      split at hrun
      · next middle hexplore =>
        obtain ⟨hinv, hempty', -⟩ := explore_finished (h.enter hempty hwhite) hexplore
        exact ih hinv hempty' hrun
      · exact explore_backEdge (h.enter hempty hwhite) (Traced.enter hempty) hrun
    · exact ih h hempty hrun

end Steps

/-- Reading the parents back from a vertex to `target`; the walk leads from `target` to it. -/
inductive Traces (parent : V → Option (V × L)) (target : V) : V → List (V × Edge V L) → Prop
  | here : Traces parent target target []
  | back {cursor previous : V} {label : L} {walk : List (V × Edge V L)} (away : cursor ≠ target)
      (known : parent cursor = some (previous, label)) (rest : Traces parent target previous walk) :
      Traces parent target cursor (walk ++ [(previous, ⟨cursor, label⟩)])

/-- From the top of a linked stack the parents lead to every vertex on it. -/
theorem traces_of_chain {parent : V → Option (V × L)} {cursor target : V}
    {rest : List (Edge V L)} {below : List (V × List (Edge V L))}
    (hchain : ((cursor, rest) :: below).IsChain (Linked adjacency parent))
    (hnodup : (((cursor, rest) :: below).map Prod.fst).Nodup)
    (hmem : target ∈ ((cursor, rest) :: below).map Prod.fst) :
    ∃ walk, Traces parent target cursor walk ∧ IsWalk (Follows adjacency) target walk cursor ∧
      (walk.map Prod.fst).Nodup ∧ ∀ vertex ∈ walk.map Prod.fst, vertex ∈ below.map Prod.fst := by
  induction below generalizing cursor rest with
  | nil =>
    obtain rfl : target = cursor := by simpa using hmem
    exact ⟨[], .here, rfl, by simp, by simp⟩
  | cons frame below ih =>
    obtain ⟨previous, edges⟩ := frame
    by_cases htarget : cursor = target
    · subst htarget
      exact ⟨[], .here, rfl, by simp, by simp⟩
    · rw [List.isChain_cons_cons] at hchain
      obtain ⟨⟨label, hparent, hlabel⟩, hchain⟩ := hchain
      rw [List.map_cons, List.nodup_cons] at hnodup
      have hmem' : target ∈ ((previous, edges) :: below).map Prod.fst := by
        rw [List.map_cons, List.mem_cons] at hmem
        exact hmem.resolve_left fun heq => htarget heq.symm
      obtain ⟨walk, htraces, hwalk, honce, hbelow⟩ := ih hchain hnodup.2 hmem'
      have hfresh : previous ∉ walk.map Prod.fst := by
        intro hagain
        have hprevious := hnodup.2
        rw [List.map_cons, List.nodup_cons] at hprevious
        exact hprevious.1 (hbelow previous hagain)
      have hlast : IsWalk (Follows adjacency) previous [(previous, ⟨cursor, label⟩)] cursor :=
        ⟨rfl, hlabel, rfl⟩
      refine ⟨walk ++ [(previous, ⟨cursor, label⟩)], .back htarget hparent htraces,
        hwalk.append hlast, ?_, ?_⟩
      · rw [List.map_append, List.map_singleton, List.nodup_append]
        refine ⟨honce, by simp, ?_⟩
        intro vertex hvertex other hother heq
        obtain rfl := List.mem_singleton.1 hother
        exact hfresh (heq ▸ hvertex)
      · intro vertex hvertex
        rw [List.map_append, List.mem_append] at hvertex
        rw [List.map_cons, List.mem_cons]
        obtain hvertex | hvertex := hvertex
        · exact Or.inr (hbelow vertex hvertex)
        · exact Or.inl (by simpa using hvertex)

section Cycles

variable [DecidableEq V] {final : Machine V L} {source : V} {edge : Edge V L} {starts : List V}
  {fuel : Nat}

omit [DecidableEq V] in
/-- The edge that stopped the search closes a cycle with the walk that the parents give. -/
theorem Stopped.cycle (h : Stopped adjacency source edge final) :
    ∃ walk, Traces final.parent edge.target source walk ∧
      IsCycle (Follows adjacency) (walk ++ [(source, edge)]) := by
  obtain ⟨rest, below, hstack⟩ := h.stack
  have hchain := h.traced.chain
  have hnodup := h.invariant.nodup
  have hmem := (h.invariant.gray edge.target).1 h.gray
  rw [hstack] at hchain hnodup hmem
  obtain ⟨walk, htraces, hwalk, honce, hbelow⟩ := traces_of_chain hchain hnodup hmem
  have hedge : edge ∈ adjacency source := by
    apply h.traced.edges (source, edge :: rest)
    · rw [hstack]
      exact List.mem_cons_self
    · exact List.mem_cons_self
  refine ⟨walk, htraces, by simp, ⟨edge.target, hwalk.append ⟨rfl, hedge, rfl⟩⟩, ?_⟩
  rw [List.map_cons, List.nodup_cons] at hnodup
  rw [List.map_append, List.map_singleton, List.nodup_append]
  refine ⟨honce, by simp, ?_⟩
  intro vertex hvertex other hother heq
  obtain rfl := List.mem_singleton.1 hother
  exact hnodup.1 (hbelow _ (heq ▸ hvertex))

/-- A graph that the search has finished has no cycle through its start vertices. -/
theorem not_isCycle_of_search (hrun : search adjacency fuel starts .initial = .finished final)
    {walk : List (V × Edge V L)} (hstarts : ∀ step ∈ walk, step.1 ∈ starts) :
    ¬ IsCycle (Follows adjacency) walk := by
  intro hcycle
  obtain ⟨rank, hrank⟩ := rank_of_search hrun
  obtain ⟨vertex, hwalk⟩ := hcycle.closed
  have hlowers : ∀ step ∈ walk, rank step.2.target < rank step.1 := fun step hstep =>
    hrank step.1 (hstarts step hstep) step.2 (hwalk.mem step hstep)
  have hlower := hwalk.rank_le hlowers
  have hlength := List.length_pos_of_ne_nil hcycle.nonempty
  omega

/-- A search from all vertices with fuel for every vertex and edge finds that the graph has no
cycle, or is stopped by an edge. -/
theorem search_cases (hclosed : ∀ vertex, ∀ edge ∈ adjacency vertex,
      vertex ∈ starts ∧ edge.target ∈ starts)
    (hfuel : ∑ vertex ∈ starts.toFinset, (1 + (adjacency vertex).length) < fuel) :
    (∃ final, search adjacency fuel starts .initial = .finished final ∧
        ∀ walk, ¬ IsCycle (Follows adjacency) walk) ∨
      ∃ source edge machine, search adjacency fuel starts .initial =
        .backEdge source edge machine ∧ Stopped adjacency source edge machine := by
  have hpotential : potential adjacency starts.toFinset .initial < fuel := by
    simpa [potential, Machine.initial, unseenCost] using hfuel
  have hterminates : search adjacency fuel starts .initial ≠ .outOfFuel :=
    search_ne_outOfFuel (fun vertex hvertex => List.mem_toFinset.2 hvertex)
      (fun vertex edge hedge => List.mem_toFinset.2 (hclosed vertex edge hedge).2)
      Invariant.initial rfl hpotential
  cases hrun : search adjacency fuel starts .initial with
  | outOfFuel => exact absurd hrun hterminates
  | finished final =>
    refine Or.inl ⟨final, rfl, ?_⟩
    intro walk hcycle
    obtain ⟨vertex, hwalk⟩ := hcycle.closed
    exact not_isCycle_of_search hrun
      (fun step hstep => (hclosed step.1 step.2 (hwalk.mem step hstep)).1) hcycle
  | backEdge source edge machine =>
    exact Or.inr ⟨source, edge, machine, rfl, search_backEdge Invariant.initial rfl hrun⟩

end Cycles

end Dfs
