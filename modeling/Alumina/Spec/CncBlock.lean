import Alumina.Cnc.Import

/-!
# The words of a CNC block

A word is an address: a block number, a mode, a machine code or a coordinate. A block is a list of
addresses of different groups, so the order of its words does not matter.

## Key results

- `parseBlock_eq_ok`: the code reads a block exactly from words that are addresses of different
  groups
- `setting_perm`: what a block sets does not depend on the order of its words
-/

namespace Alumina.Cnc

/-! ## Addresses -/

inductive Axis where
  | x | y | i | j
  deriving DecidableEq, Repr

/-- What one word asks for. -/
inductive Address where
  | number (value : Nat)
  | units (mode : CncUnitMode)
  | distance (mode : CncDistanceMode)
  | planeXy
  | arcCenter (mode : CncArcCenterMode)
  | motion (mode : MotionMode)
  | machine (code : ℚ)
  | coordinate (axis : Axis) (value : ℚ)
  deriving DecidableEq

/-- Addresses of one group exclude each other in a block. -/
inductive AddressGroup where
  | number | units | distance | planeXy | arcCenter | motion | machine
  | coordinate (axis : Axis)
  deriving DecidableEq, Repr

namespace Address

def group : Address → AddressGroup
  | .number _ => .number
  | .units _ => .units
  | .distance _ => .distance
  | .planeXy => .planeXy
  | .arcCenter _ => .arcCenter
  | .motion _ => .motion
  | .machine _ => .machine
  | .coordinate axis _ => .coordinate axis

@[simp] def number? : Address → Option Nat
  | .number value => some value
  | _ => none

@[simp] def units? : Address → Option CncUnitMode
  | .units mode => some mode
  | _ => none

@[simp] def distance? : Address → Option CncDistanceMode
  | .distance mode => some mode
  | _ => none

@[simp] def planeXy? : Address → Option Unit
  | .planeXy => some ()
  | _ => none

@[simp] def arcCenter? : Address → Option CncArcCenterMode
  | .arcCenter mode => some mode
  | _ => none

@[simp] def motion? : Address → Option MotionMode
  | .motion mode => some mode
  | _ => none

@[simp] def machine? : Address → Option ℚ
  | .machine code => some code
  | _ => none

@[simp] def coordinate? (axis : Axis) : Address → Option ℚ
  | .coordinate other value => if other = axis then some value else none
  | _ => none

end Address

/-- The geometric and modal codes of the supported subset. -/
def gCodes : List (ℚ × Address) := [
    (0, .motion .rapid), (1, .motion .linear), (2, .motion .clockwiseArc),
    (3, .motion .counterClockwiseArc), (17, .planeXy), (20, .units .inches),
    (21, .units .millimetres), (90, .distance .absolute), (91, .distance .incremental),
    (901 / 10, .arcCenter .absolute), (911 / 10, .arcCenter .incremental)]

/-- The address a word names, if there is one. -/
def addressOf (word : ParsedWord) : Option Address :=
  if word.letter = 'N' then (blockNumberOf word.value).map .number
  else if word.letter = 'G' then gCodes.lookup word.value
  else if word.letter = 'M' then some (.machine word.value)
  else if word.letter = 'X' then some (.coordinate .x word.value)
  else if word.letter = 'Y' then some (.coordinate .y word.value)
  else if word.letter = 'I' then some (.coordinate .i word.value)
  else if word.letter = 'J' then some (.coordinate .j word.value)
  else none

/-- Words that form a block: addresses of different groups, and no machine code but `M2`, `M30`. -/
structure IsBlock (words : List ParsedWord) (addresses : List Address) : Prop where
  named : List.Forall₂ (fun word address => addressOf word = some address) words addresses
  supported : ∀ code, .machine code ∈ addresses → code = 2 ∨ code = 30
  single : (addresses.map Address.group).Nodup

/-- The last value a list of addresses gives. -/
def setting {α : Type} (value? : Address → Option α) (addresses : List Address) : Option α :=
  (addresses.filterMap value?).getLast?

section Settings

variable {α : Type} {value? : Address → Option α} {addresses more : List Address}
  {address : Address}

@[simp] theorem setting_nil : setting value? [] = none := rfl

theorem setting_append :
    setting value? (addresses ++ more) = (setting value? more).or (setting value? addresses) := by
  rw [setting, setting, setting, List.filterMap_append, List.getLast?_append]

theorem setting_concat :
    setting value? (addresses ++ [address]) = (value? address).or (setting value? addresses) := by
  rw [setting_append]
  cases h : value? address <;> simp [setting, h]

/-- A group is set exactly when it has an address. -/
theorem setting_eq_none {group : AddressGroup}
    (hgroup : ∀ address, (value? address).isSome ↔ address.group = group) :
    setting value? addresses = none ↔ group ∉ addresses.map Address.group := by
  rw [setting, List.getLast?_eq_none_iff, List.filterMap_eq_nil_iff]
  constructor
  · intro h hmem
    obtain ⟨address, haddress, hsame⟩ := List.mem_map.1 hmem
    have hsome := (hgroup address).2 hsame
    rw [h address haddress] at hsome
    cases hsome
  · intro h address haddress
    by_contra hsome
    exact h (List.mem_map.2 ⟨address, haddress, (hgroup address).1 (Option.isSome_iff_ne_none.2 hsome)⟩)

/-- What a block sets is the value of its only address of a group. -/
theorem setting_eq_some {group : AddressGroup} {value : α}
    (hgroup : ∀ address, (value? address).isSome → address.group = group)
    (hsingle : (addresses.map Address.group).Nodup) :
    setting value? addresses = some value ↔ ∃ address ∈ addresses, value? address = some value := by
  rw [setting]
  constructor
  · intro h
    exact List.mem_filterMap.1 (List.mem_of_getLast? h)
  · rintro ⟨address, haddress, hvalue⟩
    induction addresses with
    | nil => cases haddress
    | cons first rest ih =>
      rw [List.map_cons, List.nodup_cons] at hsingle
      rcases List.mem_cons.1 haddress with rfl | hrest
      · have hnone : rest.filterMap value? = [] := by
          rw [List.filterMap_eq_nil_iff]
          intro other hother
          by_contra hsome
          have hsame := hgroup other (Option.isSome_iff_ne_none.2 hsome)
          have hfirst := hgroup address (by rw [hvalue]; rfl)
          exact hsingle.1 (List.mem_map.2 ⟨other, hother, hsame.trans hfirst.symm⟩)
        rw [List.filterMap_cons, hvalue, hnone]
        rfl
      · have hlater := ih hsingle.2 hrest
        rw [List.filterMap_cons]
        cases value? first with
        | none => exact hlater
        | some other =>
          rw [List.getLast?_cons, hlater]
          rfl

/-- What a block sets does not depend on the order of its words. -/
theorem setting_perm {group : AddressGroup}
    (hgroup : ∀ address, (value? address).isSome → address.group = group)
    (hsingle : (addresses.map Address.group).Nodup) (h : addresses.Perm more) :
    setting value? more = setting value? addresses := by
  have hmore : (more.map Address.group).Nodup := (h.map _).nodup_iff.1 hsingle
  apply Option.ext
  intro value
  rw [setting_eq_some hgroup hsingle, setting_eq_some hgroup hmore]
  simp [h.mem_iff]

end Settings

/-! ## Groups -/

section Groups

variable (address : Address)

theorem number?_isSome : address.number?.isSome ↔ address.group = .number := by
  cases address <;> simp [Address.group]

theorem units?_isSome : address.units?.isSome ↔ address.group = .units := by
  cases address <;> simp [Address.group]

theorem distance?_isSome : address.distance?.isSome ↔ address.group = .distance := by
  cases address <;> simp [Address.group]

theorem planeXy?_isSome : address.planeXy?.isSome ↔ address.group = .planeXy := by
  cases address <;> simp [Address.group]

theorem arcCenter?_isSome : address.arcCenter?.isSome ↔ address.group = .arcCenter := by
  cases address <;> simp [Address.group]

theorem motion?_isSome : address.motion?.isSome ↔ address.group = .motion := by
  cases address <;> simp [Address.group]

theorem machine?_isSome : address.machine?.isSome ↔ address.group = .machine := by
  cases address <;> simp [Address.group]

theorem coordinate?_isSome (axis : Axis) :
    (address.coordinate? axis).isSome ↔ address.group = .coordinate axis := by
  cases address <;> simp [Address.group]

end Groups

/-! ## Reading a block -/

/-- The block that addresses describe. -/
def blockOf (addresses : List Address) (programEnd : Bool) : ParsedBlock where
  blockNumber := setting Address.number? addresses
  units := setting Address.units? addresses
  distanceMode := setting Address.distance? addresses
  planeXy := (setting Address.planeXy? addresses).isSome
  arcCenterMode := setting Address.arcCenter? addresses
  motion := setting Address.motion? addresses
  programEnd
  x := setting (Address.coordinate? .x) addresses
  y := setting (Address.coordinate? .y) addresses
  i := setting (Address.coordinate? .i) addresses
  j := setting (Address.coordinate? .j) addresses

/-- What the code holds after some words. -/
def parsedOf (addresses : List Address) : ParsedBlock × Option ℚ :=
  (blockOf addresses false, setting Address.machine? addresses)

section Parse

variable [ExactCurves] {line : Nat} {addresses : List Address} {word : ParsedWord}
  {words : List ParsedWord} {parsed : ParsedBlock × Option ℚ} {block : ParsedBlock}

theorem setOnce_eq_ok {α : Type} {target result : Option α} {value : α}
    {error : CncGeometryImportError} :
    setOnce target value error = .ok result ↔ target = none ∧ result = some value := by
  unfold setOnce
  cases target <;> simp [eq_comm]

/-- A block that reads one more address. -/
private def Extends (addresses : List Address) (named : Option Address) (block : ParsedBlock) :
    Prop :=
  ∃ address, named = some address ∧ address.group ∉ addresses.map Address.group ∧
    block = blockOf (addresses ++ [address]) false

/-- A mode is set once. -/
private theorem setModal_of_group {α : Type} {value? : Address → Option α} {value : α}
    {name : String} {update : Option α → ParsedBlock} {address : Address}
    {named : Option Address}
    (hnamed : named = some address)
    (hgroup : ∀ other, (value? other).isSome ↔ other.group = address.group)
    (hupdate : update (some value) = blockOf (addresses ++ [address]) false) :
    (do
      let setting ← setModal (setting value? addresses) value line name
      pure (update setting) : CncGeometryImportResult ParsedBlock) = .ok block ↔
      Extends addresses named block := by
  simp only [Extends, setModal, Except.bind_eq_ok, setOnce_eq_ok, Except.pure_eq_ok,
    setting_eq_none hgroup, hnamed, Option.some.injEq, exists_eq_left']
  constructor
  · rintro ⟨_, ⟨hfresh, rfl⟩, rfl⟩
    exact ⟨hfresh, hupdate⟩
  · rintro ⟨hfresh, rfl⟩
    exact ⟨_, ⟨hfresh, rfl⟩, hupdate⟩

/-- A `G` word is read exactly when its code is supported and its group is still free. -/
private theorem applyGCode_eq_ok {code : ℚ} :
    applyGCode (blockOf addresses false) code line = .ok block ↔
      Extends addresses (gCodes.lookup code) block := by
  have hmotion {mode : MotionMode} (h : gCodes.lookup code = some (.motion mode)) :
      (do
        let motion ← setModal (setting Address.motion? addresses) mode line "motion"
        pure { blockOf addresses false with motion } : CncGeometryImportResult ParsedBlock) =
          .ok block ↔ Extends addresses (gCodes.lookup code) block :=
    setModal_of_group h motion?_isSome (by simp [blockOf, setting_concat])
  have hunits {mode : CncUnitMode} (h : gCodes.lookup code = some (.units mode)) :
      (do
        let units ← setModal (setting Address.units? addresses) mode line "units"
        pure { blockOf addresses false with units } : CncGeometryImportResult ParsedBlock) =
          .ok block ↔ Extends addresses (gCodes.lookup code) block :=
    setModal_of_group h units?_isSome (by simp [blockOf, setting_concat])
  have hdistance {mode : CncDistanceMode} (h : gCodes.lookup code = some (.distance mode)) :
      (do
        let distanceMode ← setModal (setting Address.distance? addresses) mode line "endpoint distance"
        pure { blockOf addresses false with distanceMode } : CncGeometryImportResult ParsedBlock) =
          .ok block ↔ Extends addresses (gCodes.lookup code) block :=
    setModal_of_group h distance?_isSome (by simp [blockOf, setting_concat])
  have hcenter {mode : CncArcCenterMode} (h : gCodes.lookup code = some (.arcCenter mode)) :
      (do
        let arcCenterMode ← setModal (setting Address.arcCenter? addresses) mode line "arc centre"
        pure { blockOf addresses false with arcCenterMode } : CncGeometryImportResult ParsedBlock) =
          .ok block ↔ Extends addresses (gCodes.lookup code) block :=
    setModal_of_group h arcCenter?_isSome (by simp [blockOf, setting_concat])
  unfold applyGCode
  split
  · next h => exact hmotion (by rw [h]; decide +kernel)
  split
  · next h => exact hmotion (by rw [h]; decide +kernel)
  split
  · next h => exact hmotion (by rw [h]; decide +kernel)
  split
  · next h => exact hmotion (by rw [h]; decide +kernel)
  split
  · next h =>
    have hnamed : gCodes.lookup code = some .planeXy := by
      rw [h]
      decide +kernel
    have hnext : blockOf (addresses ++ [.planeXy]) false =
        { blockOf addresses false with planeXy := true } := by simp [blockOf, setting_concat]
    simp only [Extends, hnamed, Option.some.injEq, exists_eq_left', hnext]
    rw [show Address.planeXy.group = .planeXy from rfl, ← setting_eq_none planeXy?_isSome]
    cases hplane : setting Address.planeXy? addresses <;> simp [blockOf, hplane, eq_comm]
  split
  · next h => exact hunits (by rw [h]; decide +kernel)
  split
  · next h => exact hunits (by rw [h]; decide +kernel)
  split
  · next h => exact hdistance (by rw [h]; decide +kernel)
  split
  · next h => exact hdistance (by rw [h]; decide +kernel)
  split
  · next h => exact hcenter (by rw [h]; decide +kernel)
  split
  · next h => exact hcenter (by rw [h]; decide +kernel)
  have hnamed : gCodes.lookup code = none := by
    rw [List.lookup_eq_none_iff]
    simp only [gCodes, List.forall_mem_cons, bne_iff_ne, ne_eq]
    and_intros
    all_goals first
      | assumption
      | simp
  simp [Extends, hnamed]

omit [ExactCurves] in
/-- The codes of the supported subset are no machine codes. -/
theorem machine?_of_lookup {code : ℚ} {address : Address} (h : gCodes.lookup code = some address) :
    address.machine? = none := by
  have hall : ∀ entry ∈ gCodes, entry.2.machine? = none := by decide +kernel
  obtain ⟨before, after, hcodes, -⟩ := List.lookup_eq_some_iff.1 h
  exact hall (code, address) (by simp [hcodes])

/-- A word is read exactly when it names an address whose group is still free. -/
private theorem applyWord_eq_ok : applyWord line (parsedOf addresses) word = .ok parsed ↔
    ∃ address, addressOf word = some address ∧ address.group ∉ addresses.map Address.group ∧
      parsed = parsedOf (addresses ++ [address]) := by
  have hcoordinate {axis : Axis} {letter : Char} {update : Option ℚ → ParsedBlock}
      (hupdate : update (some word.value) =
        blockOf (addresses ++ [.coordinate axis word.value]) false) :
      (do
        let value ← setCoordinate (setting (Address.coordinate? axis) addresses) word.value line
          letter
        pure (update value, setting Address.machine? addresses) :
          CncGeometryImportResult (ParsedBlock × Option ℚ)) = .ok parsed ↔
        ∃ address, some (Address.coordinate axis word.value) = some address ∧
          address.group ∉ addresses.map Address.group ∧
            parsed = parsedOf (addresses ++ [address]) := by
    have hmachine : setting Address.machine? (addresses ++ [.coordinate axis word.value]) =
        setting Address.machine? addresses := by simp [setting_concat]
    simp only [setCoordinate, Except.bind_eq_ok, setOnce_eq_ok, Except.pure_eq_ok,
      setting_eq_none (coordinate?_isSome · axis), Option.some.injEq, exists_eq_left', parsedOf,
      hmachine]
    constructor
    · rintro ⟨_, ⟨hfresh, rfl⟩, rfl⟩
      exact ⟨hfresh, by rw [hupdate]⟩
    · rintro ⟨hfresh, rfl⟩
      exact ⟨_, ⟨hfresh, rfl⟩, by rw [hupdate]⟩
  have hunchanged {address : Address} (h : address.machine? = none) :
      setting Address.machine? (addresses ++ [address]) = setting Address.machine? addresses := by
    rw [setting_concat, h, Option.none_or]
  unfold addressOf
  rw [parsedOf, applyWord]
  by_cases hN : word.letter = 'N'
  · rw [if_pos hN, if_pos hN]
    cases hnumber : blockNumberOf word.value with
    | none => simp
    | some number =>
      have hfree : (blockOf addresses false).blockNumber.isSome ↔
          AddressGroup.number ∈ addresses.map Address.group := by
        rw [Option.isSome_iff_ne_none, ne_eq, blockOf, setting_eq_none number?_isSome, not_not]
      have hnext : parsedOf (addresses ++ [.number number]) =
          ({ blockOf addresses false with blockNumber := some number },
            setting Address.machine? addresses) := by
        simp [parsedOf, blockOf, setting_concat]
      simp only [Except.bind_eq_ok, Except.exists_unit, Except.failIf_eq_ok, hfree,
        Option.okOr_some, Except.ok.injEq, exists_eq_left', Except.pure_eq_ok, Option.map_some,
        Option.some.injEq, hnext]
      exact and_congr_right fun _ => eq_comm
  rw [if_neg hN, if_neg hN]
  by_cases hG : word.letter = 'G'
  · rw [if_pos hG, if_pos hG]
    simp only [Except.bind_eq_ok, applyGCode_eq_ok, Extends, Except.pure_eq_ok]
    constructor
    · rintro ⟨_, ⟨address, hnamed, hfresh, rfl⟩, rfl⟩
      refine ⟨address, hnamed, hfresh, ?_⟩
      rw [parsedOf, hunchanged (machine?_of_lookup hnamed)]
    · rintro ⟨address, hnamed, hfresh, rfl⟩
      refine ⟨_, ⟨address, hnamed, hfresh, rfl⟩, ?_⟩
      rw [parsedOf, hunchanged (machine?_of_lookup hnamed)]
  rw [if_neg hG, if_neg hG]
  by_cases hM : word.letter = 'M'
  · rw [if_pos hM, if_pos hM]
    have hnext : parsedOf (addresses ++ [.machine word.value]) =
        (blockOf addresses false, some word.value) := by
      simp [parsedOf, blockOf, setting_concat]
    simp only [Except.bind_eq_ok, setOnce_eq_ok, setting_eq_none machine?_isSome,
      Except.pure_eq_ok, Option.some.injEq, exists_eq_left', hnext]
    constructor
    · rintro ⟨_, ⟨hfresh, rfl⟩, rfl⟩
      exact ⟨hfresh, rfl⟩
    · rintro ⟨hfresh, rfl⟩
      exact ⟨_, ⟨hfresh, rfl⟩, rfl⟩
  rw [if_neg hM, if_neg hM]
  by_cases hX : word.letter = 'X'
  · rw [if_pos hX, if_pos hX]
    exact hcoordinate (by simp [blockOf, setting_concat])
  rw [if_neg hX, if_neg hX]
  by_cases hY : word.letter = 'Y'
  · rw [if_pos hY, if_pos hY]
    exact hcoordinate (by simp [blockOf, setting_concat])
  rw [if_neg hY, if_neg hY]
  by_cases hI : word.letter = 'I'
  · rw [if_pos hI, if_pos hI]
    exact hcoordinate (by simp [blockOf, setting_concat])
  rw [if_neg hI, if_neg hI]
  by_cases hJ : word.letter = 'J'
  · rw [if_pos hJ, if_pos hJ]
    exact hcoordinate (by simp [blockOf, setting_concat])
  · rw [if_neg hJ, if_neg hJ]
    simp

private theorem foldWords_eq_ok (hsingle : (addresses.map Address.group).Nodup) :
    words.foldlM (applyWord line) (parsedOf addresses) = .ok parsed ↔ ∃ more,
      List.Forall₂ (fun word address => addressOf word = some address) words more ∧
        ((addresses ++ more).map Address.group).Nodup ∧ parsed = parsedOf (addresses ++ more) := by
  induction words generalizing addresses parsed with
  | nil =>
    constructor
    · intro h
      cases h
      exact ⟨[], .nil, by simpa using hsingle, by simp⟩
    · rintro ⟨more, hmore, -, rfl⟩
      cases hmore
      simp
  | cons word words ih =>
    have hextended {address : Address} (hfresh : address.group ∉ addresses.map Address.group) :
        ((addresses ++ [address]).map Address.group).Nodup := by
      rw [List.map_append, List.nodup_append_comm]
      simpa using ⟨by simpa using hfresh, hsingle⟩
    rw [List.foldlM_cons, Except.bind_eq_ok]
    constructor
    · rintro ⟨middle, hword, hwords⟩
      obtain ⟨address, hnamed, hfresh, rfl⟩ := applyWord_eq_ok.1 hword
      obtain ⟨more, hmore, hdistinct, rfl⟩ := (ih (hextended hfresh)).1 hwords
      rw [List.append_assoc] at hdistinct ⊢
      exact ⟨address :: more, .cons hnamed hmore, hdistinct, rfl⟩
    · rintro ⟨more, hmore, hdistinct, rfl⟩
      cases hmore with
      | @cons _ address _ more hnamed hmore =>
        have hsame : addresses ++ address :: more = addresses ++ [address] ++ more := by simp
        rw [hsame] at hdistinct ⊢
        have hfresh : address.group ∉ addresses.map Address.group := by
          have hprefix : ((addresses ++ [address]).map Address.group).Nodup := by
            rw [List.map_append] at hdistinct
            exact hdistinct.of_append_left
          rw [List.map_append, List.nodup_append_comm] at hprefix
          exact (List.nodup_cons.1 hprefix).1
        exact ⟨_, applyWord_eq_ok.2 ⟨address, hnamed, hfresh, rfl⟩,
          (ih (hextended hfresh)).2 ⟨more, hmore, hdistinct, rfl⟩⟩

omit [ExactCurves] in
/-- A block has at most one machine code. -/
theorem machine_mem_iff (hsingle : (addresses.map Address.group).Nodup) {code : ℚ} :
    .machine code ∈ addresses ↔ setting Address.machine? addresses = some code := by
  rw [setting_eq_some (fun address => (machine?_isSome address).1) hsingle]
  constructor
  · intro h
    exact ⟨_, h, rfl⟩
  · rintro ⟨address, hmem, hcode⟩
    cases address <;> cases hcode
    exact hmem

/-- The code reads a block exactly from words that are addresses of different groups. -/
theorem parseBlock_eq_ok : parseBlock words line = .ok block ↔ ∃ addresses,
    IsBlock words addresses ∧
      block = blockOf addresses (setting Address.machine? addresses).isSome := by
  have hfold {parsed : ParsedBlock × Option ℚ} :
      words.foldlM (applyWord line) (ParsedBlock.empty, none) = .ok parsed ↔ ∃ more,
        List.Forall₂ (fun word address => addressOf word = some address) words more ∧
          (more.map Address.group).Nodup ∧ parsed = parsedOf more :=
    foldWords_eq_ok (show (([] : List Address).map Address.group).Nodup from List.nodup_nil)
  unfold parseBlock
  rw [Except.bind_eq_ok]
  constructor
  · rintro ⟨parsed, hwords, h⟩
    obtain ⟨addresses, hnamed, hsingle, rfl⟩ := hfold.1 hwords
    have hmachine {code : ℚ} : .machine code ∈ addresses ↔
        setting Address.machine? addresses = some code := machine_mem_iff hsingle
    simp only [parsedOf] at h
    cases hcode : setting Address.machine? addresses with
    | none =>
      rw [hcode] at h
      cases h
      refine ⟨addresses, ⟨hnamed, ?_, hsingle⟩, by rw [hcode]; rfl⟩
      intro code hmem
      rw [hmachine, hcode] at hmem
      cases hmem
    | some code =>
      rw [hcode] at h
      split at h
      · cases ‹some code = none›
      next other heq =>
      cases heq
      split at h
      · next hsupported =>
        cases h
        refine ⟨addresses, ⟨hnamed, ?_, hsingle⟩, by rw [hcode]; rfl⟩
        intro other hmem
        rw [hmachine, hcode] at hmem
        cases hmem
        exact hsupported
      · cases h
  · rintro ⟨addresses, ⟨hnamed, hsupported, hsingle⟩, rfl⟩
    refine ⟨parsedOf addresses, hfold.2 ⟨addresses, hnamed, hsingle, rfl⟩, ?_⟩
    simp only [parsedOf]
    cases hcode : setting Address.machine? addresses with
    | none => rfl
    | some code =>
      simp only [if_pos (hsupported code ((machine_mem_iff hsingle).2 hcode))]
      rfl

end Parse

end Alumina.Cnc
