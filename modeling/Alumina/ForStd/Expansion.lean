import Mathlib

/-!
# Expansion of nested blocks

A block has nodes, and some nodes stand for whole blocks. Replacing such a node by the nodes of its
block, and so on, expands the outermost block; a node of the expansion is a path of nodes. This
file says what a partial expansion consists of, where the terminals of a replaced node lead, and
how both change when one more node is replaced. The order of the replacements does not matter: a
partial expansion is the set of the paths that have been opened.

Key results:
- `places_insert`: the nodes after one more replacement
- `Resolves.insert`: the terminals after one more replacement
- `descendants_eq`: everything below a path, by the nodes of its block
-/

namespace Expansion

/-- Nested blocks, from the outermost one. -/
structure Blocks (β ν : Type*) where
  root : β
  nodes : β → Set ν
  child : β → ν → Option β

/-- A node of an expansion: the path of its block, and its name there. -/
@[ext]
structure Place (ν : Type*) where
  path : List ν
  node : ν
  deriving DecidableEq

/-- The path of the block that stands behind a node. -/
def Place.below {ν : Type*} (place : Place ν) : List ν := place.path ++ [place.node]

theorem Place.below_injective {ν : Type*} : Function.Injective (Place.below (ν := ν)) := by
  intro p q h
  obtain ⟨hpath, hnode⟩ := List.append_inj' h rfl
  exact Place.ext hpath (by simpa using hnode)

variable {β ν τ : Type*} (B : Blocks β ν)

namespace Blocks

/-- The block at the end of a path. -/
def blockAt (path : List ν) : Option β := path.foldlM B.child B.root

@[simp] theorem blockAt_nil : B.blockAt [] = some B.root := rfl

theorem blockAt_concat (path : List ν) (node : ν) :
    B.blockAt (path ++ [node]) = (B.blockAt path).bind fun block => B.child block node := by
  rw [blockAt, List.foldlM_append, blockAt]
  simp

theorem blockAt_below (place : Place ν) :
    B.blockAt place.below = (B.blockAt place.path).bind fun block => B.child block place.node :=
  B.blockAt_concat place.path place.node

/-- Every prefix of a path to a block leads to a block. -/
theorem blockAt_of_prefix {path longer : List ν} (hbelow : path <+: longer)
    (h : (B.blockAt longer).isSome) : (B.blockAt path).isSome := by
  obtain ⟨rest, rfl⟩ := hbelow
  rw [blockAt, List.foldlM_append] at h
  rw [blockAt]
  cases hpath : List.foldlM B.child B.root path with
  | none =>
    rw [hpath] at h
    simp at h
  | some block => rfl

/-! ## Partial expansions -/

/-- The paths opened so far lead to blocks, and are closed under going up. -/
structure Opened (opened : Set (List ν)) : Prop where
  root : [] ∈ opened
  block : ∀ path ∈ opened, (B.blockAt path).isSome
  up : ∀ place : Place ν, place.below ∈ opened → place.path ∈ opened

/-- The nodes of a partial expansion: those of opened blocks that are not opened themselves. -/
def places (opened : Set (List ν)) : Set (Place ν) :=
  {place | place.path ∈ opened ∧ place.below ∉ opened ∧
    ∃ block, B.blockAt place.path = some block ∧ place.node ∈ B.nodes block}

variable {B} {opened : Set (List ν)}

theorem Opened.singleton : B.Opened {[]} where
  root := rfl
  block := by simp
  up := by simp [Place.below]

/-- Nothing below an unopened path is opened. -/
theorem Opened.concat_notMem (h : B.Opened opened) {path : List ν} (hpath : path ∉ opened)
    (node : ν) : path ++ [node] ∉ insert path opened := by
  rintro (heq | hmem)
  · simpa using congrArg List.length heq
  · exact hpath (h.up ⟨path, node⟩ hmem)

/-- One more path, below one that is opened, may be opened. -/
theorem Opened.insert (h : B.Opened opened) {place : Place ν} (hpath : place.path ∈ opened)
    (hblock : (B.blockAt place.below).isSome) : B.Opened (insert place.below opened) where
  root := .inr h.root
  block := by
    rintro path (rfl | hmem)
    · exact hblock
    · exact h.block path hmem
  up := by
    rintro other (heq | hmem)
    · rw [Place.below_injective heq]
      exact .inr hpath
    · exact .inr (h.up other hmem)

/-- **Opening a node.** The node goes, and the nodes of its block come. -/
theorem places_insert (h : B.Opened opened) {place : Place ν} {block : β}
    (hplace : place ∈ B.places opened) (hblock : B.blockAt place.below = some block) :
    B.places (insert place.below opened) =
      (B.places opened \ {place}) ∪
        {other | other.path = place.below ∧ other.node ∈ B.nodes block} := by
  obtain ⟨hpath, hbelow, -⟩ := hplace
  ext other
  constructor
  · rintro ⟨hpath', hbelow', hnode⟩
    rw [Set.mem_insert_iff, not_or] at hbelow'
    rcases hpath' with heq | hmem
    · obtain ⟨found, hfound, hnode⟩ := hnode
      rw [heq, hblock] at hfound
      cases hfound
      exact .inr ⟨heq, hnode⟩
    · exact .inl ⟨⟨hmem, hbelow'.2, hnode⟩, fun heq => hbelow'.1 (congrArg Place.below heq)⟩
  · rintro (⟨⟨hpath', hbelow', hnode⟩, hne⟩ | ⟨heq, hnode⟩)
    · refine ⟨.inr hpath', ?_, hnode⟩
      rintro (heq | hmem)
      · exact hne (Place.below_injective heq)
      · exact hbelow' hmem
    · refine ⟨.inl heq, ?_, block, heq ▸ hblock, hnode⟩
      have hnew := h.concat_notMem hbelow other.node
      rwa [← heq] at hnew ⊢

/-! ## Terminals -/

/-- Where a terminal of a node leads: to itself when the node is not opened, and otherwise to
where the terminal behind it leads. -/
inductive Resolves (B : Blocks β ν) (inner : β → τ → Option (ν × τ)) (opened : Set (List ν)) :
    Place ν × τ → Place ν × τ → Prop
  | here {place : Place ν} {terminal : τ} (hclosed : place.below ∉ opened) :
    Resolves B inner opened (place, terminal) (place, terminal)
  | inside {place : Place ν} {terminal terminal' : τ} {node : ν} {block : β}
    {target : Place ν × τ} (hopened : place.below ∈ opened)
    (hblock : B.blockAt place.below = some block)
    (hinner : inner block terminal = some (node, terminal'))
    (hrest : Resolves B inner opened (⟨place.below, node⟩, terminal') target) :
    Resolves B inner opened (place, terminal) target

variable {inner : β → τ → Option (ν × τ)} {source target : Place ν × τ}

/-- **Opening a node moves the terminals that lead to it inside its block**, and leaves all others
where they were. -/
theorem Resolves.insert (hopened : B.Opened opened) {path : List ν} (hpath : path ∉ opened)
    (h : Resolves B inner opened source target) :
    (target.1.below ≠ path → Resolves B inner (insert path opened) source target) ∧
    ∀ block node terminal, target.1.below = path → B.blockAt path = some block →
      inner block target.2 = some (node, terminal) →
      Resolves B inner (insert path opened) source (⟨path, node⟩, terminal) := by
  induction h with
  | @here place terminal hclosed =>
    refine ⟨fun hne => .here ?_, fun block node terminal' heq hblock hinner => ?_⟩
    · rintro (heq | hmem)
      · exact hne heq
      · exact hclosed hmem
    · subst heq
      exact .inside (.inl rfl) hblock hinner (.here (hopened.concat_notMem hclosed node))
  | inside hmem hblock hinner _ ih =>
    obtain ⟨hsame, hinside⟩ := ih
    refine ⟨fun hne => .inside (.inr hmem) hblock hinner (hsame hne), ?_⟩
    intro block' node' terminal' heq hblock' hinner'
    exact .inside (.inr hmem) hblock hinner (hinside block' node' terminal' heq hblock' hinner')

/-! ## Complete expansions -/

variable (B)

/-- All paths to blocks at or below a path. -/
def descendants (path : List ν) : Set (List ν) :=
  {longer | path <+: longer ∧ (B.blockAt longer).isSome}

/-- All paths to blocks. -/
def occurrences : Set (List ν) := {path | (B.blockAt path).isSome}

theorem descendants_nil : B.descendants [] = B.occurrences := by
  ext path
  simp [descendants, occurrences]

variable {B}

/-- What lies below a path: the path itself, and what lies below the nodes that stand for
blocks. -/
theorem descendants_eq {path : List ν} {block : β} (h : B.blockAt path = some block) :
    B.descendants path =
      insert path (⋃ node ∈ {node | (B.child block node).isSome},
        B.descendants (path ++ [node])) := by
  ext longer
  simp only [descendants, Set.mem_ofPred_eq, Set.mem_insert_iff, Set.mem_iUnion, exists_prop]
  constructor
  · rintro ⟨⟨rest, rfl⟩, hblock⟩
    cases rest with
    | nil => exact .inl (List.append_nil path)
    | cons node rest =>
      have hbelow : path ++ [node] <+: path ++ node :: rest := ⟨rest, by simp⟩
      have hchild := B.blockAt_of_prefix hbelow hblock
      rw [blockAt_concat, h] at hchild
      exact .inr ⟨node, hchild, hbelow, hblock⟩
  · rintro (rfl | ⟨node, _, hbelow, hblock⟩)
    · exact ⟨List.prefix_refl _, by rw [h]; rfl⟩
    · exact ⟨(List.prefix_append path [node]).trans hbelow, hblock⟩

/-- Paths below two nodes of one block are apart. -/
theorem disjoint_descendants {path : List ν} {node other : ν} (hne : node ≠ other) :
    path ++ [node] ∉ B.descendants (path ++ [other]) := by
  rintro ⟨⟨rest, heq⟩, _⟩
  rw [List.append_assoc, List.append_cancel_left_eq] at heq
  simp only [List.cons_append, List.nil_append, List.cons.injEq] at heq
  exact hne heq.1.symm

/-- In the complete expansion, the nodes are those that stand for no block. -/
theorem mem_places_occurrences {place : Place ν} :
    place ∈ B.places B.occurrences ↔ ∃ block, B.blockAt place.path = some block ∧
      place.node ∈ B.nodes block ∧ B.child block place.node = none := by
  constructor
  · rintro ⟨_, hbelow, block, hblock, hnode⟩
    refine ⟨block, hblock, hnode, ?_⟩
    rw [occurrences, Set.mem_ofPred_eq, blockAt_below, hblock] at hbelow
    simpa using hbelow
  · rintro ⟨block, hblock, hnode, hchild⟩
    refine ⟨by rw [occurrences, Set.mem_ofPred_eq, hblock]; rfl, ?_, block, hblock, hnode⟩
    rw [occurrences, Set.mem_ofPred_eq, blockAt_below, hblock]
    simp [hchild]

end Blocks

end Expansion
