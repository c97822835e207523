import Mathlib

/-!
# Depth-first cycle search

An iterative three-colour depth-first search over an adjacency function, as an explicit
machine: a stack of vertices with the edges still to follow, a colour and a parent for each
vertex. The search stops at the first edge to a vertex that is still on the stack.

Key results:
- `rank_of_search`: a search that finishes ranks its start vertices along every edge
- `search_ne_outOfFuel`: one unit of fuel per vertex and edge, and one more, is enough
-/

namespace Dfs

/-- A labelled edge out of some vertex. -/
structure Edge (V L : Type) where
  target : V
  label : L
  deriving DecidableEq, Repr

/-- White vertices are unseen, gray ones are on the stack, black ones are finished. -/
inductive Color where
  | white
  | gray
  | black
  deriving DecidableEq, Repr

structure Machine (V L : Type) where
  color : V → Color
  parent : V → Option (V × L)
  stack : List (V × List (Edge V L))

/-- How a search ends. -/
inductive Outcome (V L : Type) where
  | finished (machine : Machine V L)
  | backEdge (source : V) (edge : Edge V L) (machine : Machine V L)
  | outOfFuel

section Search

variable {V L : Type} [DecidableEq V]

namespace Machine

/-- Nothing seen yet. -/
def initial : Machine V L := ⟨fun _ => .white, fun _ => none, []⟩

variable (adjacency : V → List (Edge V L)) (machine : Machine V L)

/-- Put `vertex` on the stack with all its edges still to follow. -/
def enter (vertex : V) : Machine V L :=
  { machine with
    color := Function.update machine.color vertex .gray
    stack := (vertex, adjacency vertex) :: machine.stack }

/-- Pop the finished `vertex`. -/
def leave (vertex : V) (below : List (V × List (Edge V L))) : Machine V L :=
  { machine with
    color := Function.update machine.color vertex .black
    stack := below }

/-- Follow `edge` out of `source` to an unseen vertex. -/
def descend (source : V) (edge : Edge V L) (rest : List (Edge V L))
    (below : List (V × List (Edge V L))) : Machine V L :=
  enter adjacency { machine with
    parent := Function.update machine.parent edge.target (some (source, edge.label))
    stack := (source, rest) :: below } edge.target

end Machine

variable (adjacency : V → List (Edge V L))

/-- Run the machine until its stack is empty or an edge reaches a gray vertex. -/
def explore : Nat → Machine V L → Outcome V L
  | 0, _ => .outOfFuel
  | fuel + 1, machine =>
    match machine.stack with
    | [] => .finished machine
    | (vertex, []) :: below => explore fuel (machine.leave vertex below)
    | (source, edge :: rest) :: below =>
      match machine.color edge.target with
      | .white => explore fuel (machine.descend adjacency source edge rest below)
      | .gray => .backEdge source edge machine
      | .black => explore fuel { machine with stack := (source, rest) :: below }

/-- Explore from each start vertex that is still unseen. -/
def search (fuel : Nat) : List V → Machine V L → Outcome V L
  | [], machine => .finished machine
  | start :: starts, machine =>
    if machine.color start = .white then
      match explore adjacency fuel (machine.enter adjacency start) with
      | .finished machine => search fuel starts machine
      | outcome => outcome
    else search fuel starts machine

/-! ## The search ranks the graph -/

/-- Black vertices are ranked below `bound`, and their edges go to black vertices of
smaller rank. -/
def Ranked (color : V → Color) (rank : V → Nat) (bound : Nat) : Prop :=
  ∀ v, color v = .black →
    rank v < bound ∧ ∀ e ∈ adjacency v, color e.target = .black ∧ rank e.target < rank v

/-- Every edge of a stacked vertex is still to follow, or goes to a black vertex or to the
vertex stacked just above. -/
def Framed (color : V → Color) : Option V → List (V × List (Edge V L)) → Prop
  | _, [] => True
  | above, (v, rest) :: below =>
    (∀ e ∈ adjacency v, e ∈ rest ∨ color e.target = .black ∨ above = some e.target) ∧
      Framed color (some v) below

/-- What holds of the machine between two steps. -/
structure Invariant (machine : Machine V L) : Prop where
  ranked : ∃ rank bound, Ranked adjacency machine.color rank bound
  gray : ∀ v, machine.color v = .gray ↔ v ∈ machine.stack.map Prod.fst
  nodup : (machine.stack.map Prod.fst).Nodup
  framed : Framed adjacency machine.color none machine.stack

variable {adjacency}

omit [DecidableEq V] in
/-- Frames stay framed when black vertices stay black and the vertex above becomes black. -/
private theorem Framed.mono {color color' : V → Color} {above above' : Option V}
    {stack : List (V × List (Edge V L))}
    (hblack : ∀ v, color v = .black → color' v = .black)
    (habove : ∀ v, above = some v → color' v = .black ∨ above' = some v)
    (h : Framed adjacency color above stack) : Framed adjacency color' above' stack := by
  induction stack generalizing above above' with
  | nil => trivial
  | cons frame below ih =>
    obtain ⟨v, rest⟩ := frame
    refine ⟨fun e he => ?_, ih (fun w hw => Or.inr hw) h.2⟩
    rcases h.1 e he with hrest | hb | ha
    · exact Or.inl hrest
    · exact Or.inr (Or.inl (hblack _ hb))
    · exact Or.inr (habove _ ha)

omit [DecidableEq V] in
theorem Invariant.initial : Invariant adjacency (Machine.initial : Machine V L) where
  ranked := ⟨fun _ => 0, 0, fun v hv => by simp [Machine.initial] at hv⟩
  gray := by simp [Machine.initial]
  nodup := by simp [Machine.initial]
  framed := trivial

/-- Painting a white vertex gray keeps the black vertices and their ranks. -/
private theorem ranked_gray {color : V → Color} {vertex : V} (hwhite : color vertex = .white)
    (h : ∃ rank bound, Ranked adjacency color rank bound) :
    ∃ rank bound, Ranked adjacency (Function.update color vertex .gray) rank bound := by
  obtain ⟨rank, bound, h⟩ := h
  refine ⟨rank, bound, fun v hv => ?_⟩
  have hne : v ≠ vertex := by rintro rfl; simp at hv
  rw [Function.update_of_ne hne] at hv
  obtain ⟨hlt, hedges⟩ := h v hv
  refine ⟨hlt, fun e he => ?_⟩
  have htarget := hedges e he
  have hne' : e.target ≠ vertex := by
    intro heq
    rw [heq, hwhite] at htarget
    simp at htarget
  rwa [Function.update_of_ne hne']

private theorem black_update_gray {color : V → Color} {vertex : V}
    (hwhite : color vertex = .white) (v : V) (h : color v = .black) :
    Function.update color vertex .gray v = .black := by
  have hne : v ≠ vertex := by rintro rfl; simp [hwhite] at h
  rwa [Function.update_of_ne hne]

/-- Entering an unseen vertex keeps the invariant, once the stack below allows it. -/
private theorem Invariant.enter_of_white {machine : Machine V L} {vertex : V}
    (hwhite : machine.color vertex = .white)
    (hranked : ∃ rank bound, Ranked adjacency machine.color rank bound)
    (hgray : ∀ v, machine.color v = .gray ↔ v ∈ machine.stack.map Prod.fst)
    (hnodup : (machine.stack.map Prod.fst).Nodup)
    (hframed : Framed adjacency machine.color (some vertex) machine.stack) :
    Invariant adjacency (machine.enter adjacency vertex) where
  ranked := ranked_gray hwhite hranked
  gray v := by
    by_cases hv : v = vertex
    · simp [Machine.enter, hv]
    · simp only [Machine.enter, Function.update_of_ne hv, List.map_cons, List.mem_cons, hv,
        false_or, hgray]
  nodup := by
    have hnotMem : vertex ∉ machine.stack.map Prod.fst := by
      rw [← hgray, hwhite]
      simp
    exact List.nodup_cons.mpr ⟨hnotMem, hnodup⟩
  framed := ⟨fun e he => Or.inl he,
    hframed.mono (black_update_gray hwhite) fun v hv => Or.inr hv⟩

theorem Invariant.enter {machine : Machine V L} (h : Invariant adjacency machine) {vertex : V}
    (hempty : machine.stack = []) (hwhite : machine.color vertex = .white) :
    Invariant adjacency (machine.enter adjacency vertex) := by
  refine .enter_of_white hwhite h.ranked h.gray h.nodup ?_
  rw [hempty]
  trivial

/-- The finished vertex gets the next rank. -/
theorem Invariant.leave {machine : Machine V L} (h : Invariant adjacency machine) {vertex : V}
    {below : List (V × List (Edge V L))} (hstack : machine.stack = (vertex, []) :: below) :
    Invariant adjacency (machine.leave vertex below) := by
  have hgray := h.gray
  have hnodup := h.nodup
  have hframed := h.framed
  rw [hstack] at hgray hnodup hframed
  obtain ⟨hnotMem, hnodup⟩ := List.nodup_cons.mp hnodup
  have hblack : ∀ v, machine.color v = .black →
      Function.update machine.color vertex .black v = .black := by
    intro v hv
    by_cases heq : v = vertex
    · simp [heq]
    · rwa [Function.update_of_ne heq]
  have hvertex : machine.color vertex = .gray := (hgray vertex).mpr (by simp)
  constructor
  case ranked =>
    obtain ⟨rank, bound, hranked⟩ := h.ranked
    have hne : ∀ v, machine.color v = .black → v ≠ vertex := by
      rintro v hv rfl
      simp [hvertex] at hv
    refine ⟨Function.update rank vertex bound, bound + 1, fun v hv => ?_⟩
    by_cases heq : v = vertex
    · subst heq
      refine ⟨by simp, fun e he => ?_⟩
      have hdone : machine.color e.target = .black := by
        simpa using hframed.1 e he
      have hlt := (hranked _ hdone).1
      exact ⟨hblack _ hdone, by simpa [Function.update_of_ne (hne _ hdone)] using hlt⟩
    · simp only [Machine.leave, Function.update_of_ne heq] at hv ⊢
      obtain ⟨hlt, hedges⟩ := hranked v hv
      refine ⟨by omega, fun e he => ?_⟩
      obtain ⟨hdone, hrank⟩ := hedges e he
      exact ⟨hblack _ hdone, by rwa [Function.update_of_ne (hne _ hdone)]⟩
  case gray =>
    intro v
    by_cases heq : v = vertex
    · subst heq
      simpa [Machine.leave] using hnotMem
    · simp only [Machine.leave, Function.update_of_ne heq, hgray, List.map_cons, List.mem_cons,
        heq, false_or]
  case nodup => exact hnodup
  case framed =>
    refine hframed.2.mono hblack fun v hv => Or.inl ?_
    obtain rfl : vertex = v := by simpa using hv
    simp [Machine.leave]

theorem Invariant.descend {machine : Machine V L} (h : Invariant adjacency machine)
    {source : V} {edge : Edge V L} {rest : List (Edge V L)}
    {below : List (V × List (Edge V L))} (hstack : machine.stack = (source, edge :: rest) :: below)
    (hwhite : machine.color edge.target = .white) :
    Invariant adjacency (machine.descend adjacency source edge rest below) := by
  have hgray := h.gray
  have hnodup := h.nodup
  have hframed := h.framed
  rw [hstack] at hgray hnodup hframed
  refine .enter_of_white hwhite h.ranked hgray hnodup ⟨fun e he => ?_, hframed.2⟩
  rcases hframed.1 e he with hmem | hb | ha
  · rcases List.mem_cons.mp hmem with rfl | hrest
    · exact Or.inr (Or.inr rfl)
    · exact Or.inl hrest
  · exact Or.inr (Or.inl hb)
  · cases ha

omit [DecidableEq V] in
/-- An edge to a black vertex can be dropped. -/
theorem Invariant.skip {machine : Machine V L} (h : Invariant adjacency machine)
    {source : V} {edge : Edge V L} {rest : List (Edge V L)}
    {below : List (V × List (Edge V L))} (hstack : machine.stack = (source, edge :: rest) :: below)
    (hblack : machine.color edge.target = .black) :
    Invariant adjacency { machine with stack := (source, rest) :: below } := by
  have hgray := h.gray
  have hnodup := h.nodup
  have hframed := h.framed
  rw [hstack] at hgray hnodup hframed
  refine ⟨h.ranked, hgray, hnodup, fun e he => ?_, hframed.2⟩
  rcases hframed.1 e he with hmem | hb | ha
  · rcases List.mem_cons.mp hmem with rfl | hrest
    · exact Or.inr (Or.inl hblack)
    · exact Or.inl hrest
  · exact Or.inr (Or.inl hb)
  · cases ha

/-- A finished exploration keeps the invariant, empties the stack and forgets no vertex. -/
theorem explore_finished {fuel : Nat} {machine final : Machine V L}
    (h : Invariant adjacency machine) (hrun : explore adjacency fuel machine = .finished final) :
    Invariant adjacency final ∧ final.stack = [] ∧
      ∀ v, machine.color v ≠ .white → final.color v ≠ .white := by
  induction fuel generalizing machine with
  | zero => simp [explore] at hrun
  | succ fuel ih =>
    rw [explore] at hrun
    split at hrun
    · next hstack =>
      obtain rfl : machine = final := by simpa using hrun
      exact ⟨h, hstack, fun v hv => hv⟩
    · next vertex below hstack =>
      obtain ⟨hinv, hempty, hseen⟩ := ih (h.leave hstack) hrun
      refine ⟨hinv, hempty, fun v hv => hseen v ?_⟩
      by_cases heq : v = vertex
      · simp [Machine.leave, heq]
      · simpa [Machine.leave, Function.update_of_ne heq] using hv
    · next source edge rest below hstack =>
      split at hrun
      · next hwhite =>
        obtain ⟨hinv, hempty, hseen⟩ := ih (h.descend hstack hwhite) hrun
        refine ⟨hinv, hempty, fun v hv => hseen v ?_⟩
        by_cases heq : v = edge.target
        · simp [Machine.descend, Machine.enter, heq]
        · simpa [Machine.descend, Machine.enter, Function.update_of_ne heq] using hv
      · simp at hrun
      · next hblack =>
        obtain ⟨hinv, hempty, hseen⟩ := ih (h.skip hstack hblack) hrun
        exact ⟨hinv, hempty, hseen⟩

theorem search_finished {fuel : Nat} {starts : List V} {machine final : Machine V L}
    (h : Invariant adjacency machine) (hempty : machine.stack = [])
    (hrun : search adjacency fuel starts machine = .finished final) :
    Invariant adjacency final ∧ final.stack = [] ∧
      (∀ v, machine.color v ≠ .white → final.color v ≠ .white) ∧
      ∀ v ∈ starts, final.color v ≠ .white := by
  induction starts generalizing machine with
  | nil =>
    obtain rfl : machine = final := by simpa [search] using hrun
    exact ⟨h, hempty, fun v hv => hv, by simp⟩
  | cons start starts ih =>
    rw [search] at hrun
    split at hrun
    · next hwhite =>
      split at hrun
      · next middle hexplore =>
        obtain ⟨hinv, hempty', hseen⟩ := explore_finished (h.enter hempty hwhite) hexplore
        obtain ⟨hinv, hdone, hkeep, hstarts⟩ := ih hinv hempty' hrun
        have hkeep' : ∀ v, machine.color v ≠ .white ∨ v = start → final.color v ≠ .white := by
          intro v hv
          apply hkeep
          apply hseen
          by_cases heq : v = start
          · simp [Machine.enter, heq]
          · simpa [Machine.enter, Function.update_of_ne heq, heq] using hv
        refine ⟨hinv, hdone, fun v hv => hkeep' v (Or.inl hv), fun v hv => ?_⟩
        rcases List.mem_cons.mp hv with rfl | hv
        · exact hkeep' v (Or.inr rfl)
        · exact hstarts v hv
      · next hexplore => exact absurd hrun (by simpa using hexplore final)
    · next hseen =>
      obtain ⟨hinv, hdone, hkeep, hstarts⟩ := ih h hempty hrun
      refine ⟨hinv, hdone, hkeep, fun v hv => ?_⟩
      rcases List.mem_cons.mp hv with rfl | hv
      · exact hkeep v hseen
      · exact hstarts v hv

/-- A search that finishes without a back edge ranks its start vertices: every edge out of
one goes to a vertex of smaller rank. -/
theorem rank_of_search {fuel : Nat} {starts : List V} {final : Machine V L}
    (hrun : search adjacency fuel starts .initial = .finished final) :
    ∃ rank : V → Nat, ∀ v ∈ starts, ∀ e ∈ adjacency v, rank e.target < rank v := by
  obtain ⟨hinv, hempty, -, hstarts⟩ := search_finished Invariant.initial rfl hrun
  obtain ⟨rank, bound, hranked⟩ := hinv.ranked
  refine ⟨rank, fun v hv e he => ((hranked v ?_).2 e he).2⟩
  -- with an empty stack no vertex is gray
  have hgray : final.color v ≠ .gray := by
    intro hgray
    have hmem := (hinv.gray v).mp hgray
    rw [hempty] at hmem
    simp at hmem
  have hwhite := hstarts v hv
  cases hcolor : final.color v with
  | white => contradiction
  | gray => contradiction
  | black => rfl

/-! ## Fuel -/

/-- Steps an unseen vertex still costs. -/
def unseenCost (adjacency : V → List (Edge V L)) (v : V) : Color → Nat
  | .white => 1 + (adjacency v).length
  | _ => 0

/-- Work left: an unseen vertex costs one step and one for each edge, a frame one step and
one for each edge still to follow. -/
def potential (adjacency : V → List (Edge V L)) (vertices : Finset V) (machine : Machine V L) :
    Nat :=
  (∑ v ∈ vertices, unseenCost adjacency v (machine.color v)) +
    (machine.stack.map fun frame => 1 + frame.2.length).sum

private theorem potential_enter {vertices : Finset V} {machine : Machine V L} {vertex : V}
    (hmem : vertex ∈ vertices) (hwhite : machine.color vertex = .white) :
    potential adjacency vertices (machine.enter adjacency vertex) =
      potential adjacency vertices machine := by
  have hrest : ∀ v ∈ vertices.erase vertex,
      unseenCost adjacency v (Function.update machine.color vertex Color.gray v) =
        unseenCost adjacency v (machine.color v) := by
    intro v hv
    rw [Function.update_of_ne (Finset.ne_of_mem_erase hv)]
  simp only [potential, Machine.enter, List.map_cons, List.sum_cons]
  rw [← Finset.add_sum_erase _ _ hmem, ← Finset.add_sum_erase _ _ hmem, Finset.sum_congr rfl hrest]
  simp only [Function.update_self, hwhite, unseenCost]
  omega

/-- Leaving a gray vertex costs one step. -/
private theorem potential_leave {vertices : Finset V} {machine : Machine V L} {vertex : V}
    {below : List (V × List (Edge V L))} (hstack : machine.stack = (vertex, []) :: below)
    (hgray : machine.color vertex = .gray) :
    potential adjacency vertices (machine.leave vertex below) + 1 =
      potential adjacency vertices machine := by
  have hsame : ∀ v ∈ vertices,
      unseenCost adjacency v (Function.update machine.color vertex Color.black v) =
        unseenCost adjacency v (machine.color v) := by
    intro v _
    by_cases heq : v = vertex
    · simp [heq, hgray, unseenCost]
    · rw [Function.update_of_ne heq]
  simp only [potential, Machine.leave, hstack, List.map_cons, List.sum_cons, List.length_nil,
    Finset.sum_congr rfl hsame]
  omega

/-- Every step lowers the potential, so that much fuel and one more is enough; what is left
of the potential only shrinks. -/
theorem explore_of_potential {vertices : Finset V} {fuel : Nat} {machine : Machine V L}
    (hclosed : ∀ v, ∀ e ∈ adjacency v, e.target ∈ vertices)
    (hframes : ∀ frame ∈ machine.stack, ∀ e ∈ frame.2, e ∈ adjacency frame.1)
    (h : Invariant adjacency machine) (hfuel : potential adjacency vertices machine < fuel) :
    explore adjacency fuel machine ≠ .outOfFuel ∧
      ∀ final, explore adjacency fuel machine = .finished final →
        potential adjacency vertices final ≤ potential adjacency vertices machine := by
  induction fuel generalizing machine with
  | zero => omega
  | succ fuel ih =>
    rw [explore]
    split
    · simp
    · next vertex below hstack =>
      have hgray : machine.color vertex = .gray := (h.gray vertex).mpr (by simp [hstack])
      have hstep : potential adjacency vertices (machine.leave vertex below) + 1 =
          potential adjacency vertices machine := potential_leave hstack hgray
      have hbelow : ∀ frame ∈ (machine.leave vertex below).stack, ∀ e ∈ frame.2,
          e ∈ adjacency frame.1 := by
        intro frame hframe
        exact hframes frame (by simp [hstack, show frame ∈ below from hframe])
      obtain ⟨hne, hle⟩ := ih hbelow
        (h.leave hstack) (by omega)
      exact ⟨hne, fun final hfinal => by have := hle final hfinal; omega⟩
    · next source edge rest below hstack =>
      have hedge := hframes _ (by rw [hstack]; exact List.mem_cons_self) edge (by simp)
      have hbelow : ∀ frame ∈ (source, rest) :: below, ∀ e ∈ frame.2, e ∈ adjacency frame.1 := by
        intro frame hframe e he
        rcases List.mem_cons.mp hframe with rfl | hframe
        · exact hframes (source, edge :: rest) (by simp [hstack]) e (by simp [show e ∈ rest from he])
        · exact hframes frame (by simp [hstack, hframe]) e he
      have hdrop : ∀ parent, potential adjacency vertices
          { machine with parent := parent, stack := (source, rest) :: below } + 1 =
            potential adjacency vertices machine := by
        intro parent
        simp only [potential, hstack, List.map_cons, List.sum_cons, List.length_cons]
        omega
      split
      · next hwhite =>
        have hstep : potential adjacency vertices (machine.descend adjacency source edge rest below)
            + 1 = potential adjacency vertices machine := by
          have hmem := hclosed _ _ hedge
          rw [Machine.descend, potential_enter hmem (by exact hwhite)]
          exact hdrop _
        have hframes' : ∀ frame ∈ (machine.descend adjacency source edge rest below).stack,
            ∀ e ∈ frame.2, e ∈ adjacency frame.1 := by
          intro frame hframe e he
          rcases List.mem_cons.mp hframe with rfl | hframe
          · exact he
          · exact hbelow frame hframe e he
        obtain ⟨hne, hle⟩ := ih hframes' (h.descend hstack hwhite) (by omega)
        exact ⟨hne, fun final hfinal => by have := hle final hfinal; omega⟩
      · simp
      · next hblack =>
        have hstep := hdrop machine.parent
        obtain ⟨hne, hle⟩ := ih hbelow (h.skip hstack hblack) (by omega)
        exact ⟨hne, fun final hfinal => by have := hle final hfinal; omega⟩

/-- A search with more fuel than vertices and edges together never runs out. -/
theorem search_ne_outOfFuel {vertices : Finset V} {fuel : Nat} {starts : List V}
    {machine : Machine V L} (hstarts : ∀ v ∈ starts, v ∈ vertices)
    (hclosed : ∀ v, ∀ e ∈ adjacency v, e.target ∈ vertices)
    (h : Invariant adjacency machine) (hempty : machine.stack = [])
    (hfuel : potential adjacency vertices machine < fuel) :
    search adjacency fuel starts machine ≠ .outOfFuel := by
  induction starts generalizing machine with
  | nil => simp [search]
  | cons start starts ih =>
    rw [search]
    split
    · next hwhite =>
      have hmem := hstarts start (by simp)
      have hinv := h.enter hempty hwhite
      have henter : potential adjacency vertices (machine.enter adjacency start) =
          potential adjacency vertices machine := potential_enter hmem hwhite
      obtain ⟨hne, hle⟩ := explore_of_potential hclosed (by
          intro frame hframe
          obtain rfl : frame = (start, adjacency start) := by
            simpa [Machine.enter, hempty] using hframe
          exact fun e he => he)
        hinv (by rw [henter]; exact hfuel)
      split
      · next middle hexplore =>
        obtain ⟨hinv, hempty', -⟩ := explore_finished hinv hexplore
        have hshrink := hle middle hexplore
        exact ih (fun v hv => hstarts v (by simp [hv])) hinv hempty' (by omega)
      · exact hne
    · exact ih (fun v hv => hstarts v (by simp [hv])) h hempty hfuel

end Search

end Dfs
