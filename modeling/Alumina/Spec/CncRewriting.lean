import Alumina.Spec.CncImport

/-!
# Ways to write a CNC program

Two sources write the same program when their lines correspond up to blank lines, and
corresponding lines hold the same words up to case, gaps, order and a block number. They say
blocks that agree in all but block numbers, so they draw the same.

## Key results

- `SameBlock.reads`: another way to write a block is a block that agrees with it
- `reads_related`: lines that agree draw the same
- `LineStep.unique`: a line is one step of the drawing at most
-/

namespace Alumina.Cnc

/-! ## Agreement -/

/-- Addresses that set the same values, block numbers apart. -/
def Agree (addresses addresses' : List Address) : Prop :=
  ∀ (α : Type) (value? : Address → Option α) (group : AddressGroup),
    (∀ address, (value? address).isSome ↔ address.group = group) → group ≠ .number →
      setting value? addresses = setting value? addresses'

section Agreement

variable {addresses addresses' block block' : List Address} {drawing after : Drawing}

theorem Agree.append (h : Agree addresses addresses') (h' : Agree block block') :
    Agree (addresses ++ block) (addresses' ++ block') := by
  intro α value? group hgroup hnumber
  rw [setting_append, setting_append, h α value? group hgroup hnumber,
    h' α value? group hgroup hnumber]

theorem Agree.symm (h : Agree addresses addresses') : Agree addresses' addresses :=
  fun α value? group hgroup hnumber => (h α value? group hgroup hnumber).symm

/-- A block number changes nothing. -/
theorem agree_number {number : Nat} : Agree block (.number number :: block) := by
  intro α value? group hgroup hnumber
  have hnone : value? (.number number) = none := by
    rw [← Option.not_isSome_iff_eq_none, hgroup]
    exact fun h => hnumber h.symm
  rw [setting, setting, List.filterMap_cons, hnone]

theorem agree_of_perm (hsingle : (block.map Address.group).Nodup) (h : block.Perm block') :
    Agree block block' := by
  intro α value? group hgroup _
  exact (setting_perm (fun address => (hgroup address).1) hsingle h).symm

theorem Agree.units (h : Agree addresses addresses') :
    setting Address.units? addresses = setting Address.units? addresses' :=
  h _ _ .units units?_isSome nofun

theorem Agree.distance (h : Agree addresses addresses') :
    setting Address.distance? addresses = setting Address.distance? addresses' :=
  h _ _ .distance distance?_isSome nofun

theorem Agree.planeXy (h : Agree addresses addresses') :
    setting Address.planeXy? addresses = setting Address.planeXy? addresses' :=
  h _ _ .planeXy planeXy?_isSome nofun

theorem Agree.arcCenter (h : Agree addresses addresses') :
    setting Address.arcCenter? addresses = setting Address.arcCenter? addresses' :=
  h _ _ .arcCenter arcCenter?_isSome nofun

theorem Agree.motion (h : Agree addresses addresses') :
    setting Address.motion? addresses = setting Address.motion? addresses' :=
  h _ _ .motion motion?_isSome nofun

theorem Agree.machine (h : Agree addresses addresses') :
    setting Address.machine? addresses = setting Address.machine? addresses' :=
  h _ _ .machine machine?_isSome nofun

theorem Agree.coordinate (h : Agree addresses addresses') (axis : Axis) :
    setting (Address.coordinate? axis) addresses = setting (Address.coordinate? axis) addresses' :=
  h _ _ (.coordinate axis) (coordinate?_isSome · axis) nofun

theorem Agree.inForce {units : CncUnitMode} {distance : CncDistanceMode} {motion : MotionMode}
    (h : Agree addresses addresses') (hforce : InForce addresses units distance motion) :
    InForce addresses' units distance motion where
  units := h.units ▸ hforce.units
  distance := h.distance ▸ hforce.distance
  planeXy := h.planeXy ▸ hforce.planeXy
  motion := h.motion ▸ hforce.motion

theorem Agree.isFlat (h : Agree block block') (hflat : IsFlat block) : IsFlat block' :=
  ⟨h.coordinate .i ▸ hflat.1, h.coordinate .j ▸ hflat.2⟩

theorem Agree.hasEnd (h : Agree block block') (hend : HasEnd block) : HasEnd block' := by
  unfold HasEnd at hend ⊢
  rwa [← h.coordinate .x, ← h.coordinate .y]

theorem Agree.target_eq (h : Agree block block') {distance : CncDistanceMode} {scale : ℚ}
    {start : Point} : target block distance scale start = target block' distance scale start := by
  unfold target
  rw [h.coordinate .x, h.coordinate .y]

theorem Agree.segmentOf {scale : ℚ} {start finish : Point} {motion : MotionMode}
    {segment : Segment} (h : Agree addresses addresses') (h' : Agree block block')
    (hsegment : SegmentOf addresses block scale start finish motion segment) :
    SegmentOf addresses' block' scale start finish motion segment := by
  cases hsegment with
  | line flat => exact .line (h'.isFlat flat)
  | arc clockwise mode i j distinct mode_eq i_eq j_eq =>
    exact .arc clockwise mode i j distinct (h.arcCenter ▸ mode_eq) (h'.coordinate .i ▸ i_eq)
      (h'.coordinate .j ▸ j_eq)

/-- A block that only ends the program agrees with blocks that do. -/
theorem Agree.only (h : Agree block block')
    (honly : ∀ address ∈ block, address.group = .number ∨ address.group = .machine) :
    ∀ address ∈ block', address.group = .number ∨ address.group = .machine := by
  intro address haddress
  by_contra hother
  rw [not_or] at hother
  -- Ask both blocks for an address of this group.
  let value? (other : Address) : Option Unit := if other.group = address.group then some () else none
  have hgroup : ∀ other, (value? other).isSome ↔ other.group = address.group := by
    intro other
    by_cases hsame : other.group = address.group <;> simp [value?, hsame]
  have hset : setting value? block' ≠ none := by
    rw [ne_eq, setting_eq_none hgroup, not_not]
    exact List.mem_map.2 ⟨address, haddress, rfl⟩
  rw [← h Unit value? address.group hgroup hother.1, ne_eq, setting_eq_none hgroup, not_not] at hset
  obtain ⟨other, hmem, hsame⟩ := List.mem_map.1 hset
  rcases honly other hmem with hnumber | hmachine
  · exact hother.1 (hsame.symm.trans hnumber)
  · exact hother.2 (hsame.symm.trans hmachine)

/-- Lines that agree. -/
inductive Line.Agrees : Line → Line → Prop
  | envelope : Line.Agrees .envelope .envelope
  | block {block block' : List Address} (agree : Agree block block') :
      Line.Agrees (.block block) (.block block')

/-- Lines that agree are the same step of the drawing. -/
theorem LineStep.agree {said said' : Line} (h : Agree addresses addresses')
    (hline : said.Agrees said') (hstep : LineStep addresses drawing said after) :
    LineStep addresses' drawing said' after := by
  cases hline with
  | envelope =>
    cases hstep with
    | opens unended unopened unplaced => exact .opens unended unopened unplaced
    | closes ended opened => exact .closes ended opened
  | @block block block' agree =>
    cases hstep with
    | ends _ unended machine only =>
      exact .ends block' unended (agree.machine ▸ machine) (agree.only only)
    | sets _ unended machine still =>
      exact .sets block' unended (agree.machine ▸ machine)
        fun axis => (agree.coordinate axis).symm.trans (still axis)
    | places _ units x y unended machine unplaced force x_eq y_eq flat =>
      exact .places block' units x y unended (agree.machine ▸ machine) unplaced (h.inForce force)
        (agree.coordinate .x ▸ x_eq) (agree.coordinate .y ▸ y_eq) (agree.isFlat flat)
    | moves _ units distance start unended machine placed undrawn force hasEnd flat =>
      rw [agree.target_eq]
      exact .moves block' units distance start unended (agree.machine ▸ machine) placed undrawn
        (h.inForce force) (agree.hasEnd hasEnd) (agree.isFlat flat)
    | draws _ units distance motion start segment unended machine placed force hasEnd segmentOf =>
      rw [agree.target_eq] at segmentOf
      exact .draws block' units distance motion start segment unended (agree.machine ▸ machine)
        placed (h.inForce force) (agree.hasEnd hasEnd) (h.segmentOf agree segmentOf)

/-- Lines that correspond up to blank lines. -/
inductive SameLines : List Line → List Line → Prop
  | nil : SameLines [] []
  | inserts {lines lines' : List Line} (rest : SameLines lines lines') :
      SameLines lines (.blank :: lines')
  | removes {lines lines' : List Line} (rest : SameLines lines lines') :
      SameLines (.blank :: lines) lines'
  | line {line line' : Line} {lines lines' : List Line} (agrees : line.Agrees line')
      (rest : SameLines lines lines') : SameLines (line :: lines) (line' :: lines')

/-- Lines that correspond draw the same. -/
theorem reads_related {lines lines' : List Line} {last : List Address × Drawing}
    (hlines : SameLines lines lines') (h : Agree addresses addresses')
    (hrun : Run Reads (addresses, drawing) lines last) :
    ∃ words, Run Reads (addresses', drawing) lines' (words, last.2) := by
  induction hlines generalizing addresses addresses' drawing with
  | nil =>
    rw [Run.nil_iff] at hrun
    cases hrun
    exact ⟨addresses', .nil _⟩
  | inserts _ ih =>
    obtain ⟨words, hrest⟩ := ih h hrun
    have hblank : Reads (addresses', drawing) .blank (addresses', drawing) :=
      ⟨(List.append_nil _).symm, .blank⟩
    exact ⟨words, .cons hblank hrest⟩
  | removes _ ih =>
    obtain ⟨⟨words, after⟩, ⟨hwords, hstep⟩, htail⟩ := Run.cons_iff.1 hrun
    cases hstep
    rw [Line.addresses, List.append_nil] at hwords
    cases hwords
    exact ih h htail
  | @line line line' lines lines' agrees _ ih =>
    obtain ⟨⟨words, after⟩, ⟨hwords, hstep⟩, htail⟩ := Run.cons_iff.1 hrun
    cases hwords
    have hnext : Agree (addresses ++ line.addresses) (addresses' ++ line'.addresses) := by
      cases agrees with
      | envelope => simpa [Line.addresses] using h
      | block agree => exact h.append agree
    obtain ⟨last, hrest⟩ := ih hnext htail
    have hread : Reads (addresses', drawing) line' (addresses' ++ line'.addresses, after) :=
      ⟨rfl, hstep.agree hnext agrees⟩
    exact ⟨last, .cons hread hrest⟩

/-- A block draws one segment at most. -/
private theorem SegmentOf.unique {scale : ℚ} {start finish : Point} {motion : MotionMode}
    {segment segment' : Segment} (h : SegmentOf addresses block scale start finish motion segment)
    (h' : SegmentOf addresses block scale start finish motion segment') : segment = segment' := by
  cases h with
  | line =>
    generalize hmotion : MotionMode.linear = motion at h'
    cases h' with
    | line => rfl
    | arc clockwise => cases clockwise <;> cases hmotion
  | arc clockwise mode i j _ mode_eq i_eq j_eq =>
    generalize hmotion : (if clockwise then MotionMode.clockwiseArc
      else MotionMode.counterClockwiseArc) = motion at h'
    cases h' with
    | line => cases clockwise <;> cases hmotion
    | arc clockwise' mode' i' j' _ mode_eq' i_eq' j_eq' =>
      have hsame : clockwise = clockwise' := by
        cases clockwise <;> cases clockwise' <;> first | rfl | cases hmotion
      simp_all

/-- Modes are in force in one way. -/
private theorem InForce.unique {units units' : CncUnitMode} {distance distance' : CncDistanceMode}
    {motion motion' : MotionMode} (h : InForce addresses units distance motion)
    (h' : InForce addresses units' distance' motion') :
    units = units' ∧ distance = distance' ∧ motion = motion' := by
  refine ⟨?_, ?_, ?_⟩
  · simpa [h.units] using h'.units
  · simpa [h.distance] using h'.distance
  · simpa [h.motion] using h'.motion

/-- A block that names an end point has a coordinate. -/
private theorem HasEnd.moves (h : HasEnd block) :
    ¬ ∀ axis, setting (Address.coordinate? axis) block = none := by
  intro still
  rcases h with hx | hy
  · exact hx (still .x)
  · exact hy (still .y)

/-- A rapid draws nothing. -/
private theorem SegmentOf.not_rapid {scale : ℚ} {start finish : Point} {segment : Segment} :
    ¬ SegmentOf addresses block scale start finish .rapid segment := by
  generalize hrapid : MotionMode.rapid = motion
  intro h
  cases h with
  | line => cases hrapid
  | arc clockwise => cases clockwise <;> cases hrapid

/-- A line is one step of the drawing at most. -/
theorem LineStep.unique {said : Line} {after' : Drawing}
    (h : LineStep addresses drawing said after) (h' : LineStep addresses drawing said after') :
    after = after' := by
  cases h with
  | blank =>
    cases h'
    rfl
  | opens unended => cases h' with
    | opens => rfl
    | closes ended =>
      rw [unended] at ended
      cases ended
  | closes ended => cases h' with
    | opens unended =>
      rw [unended] at ended
      cases ended
    | closes => rfl
  | ends _ _ machine => cases h' with
    | ends => rfl
    | _ => contradiction
  | sets _ _ machine still => cases h' with
    | ends => contradiction
    | sets => rfl
    | places _ _ _ _ _ _ _ _ x_eq =>
      rw [still] at x_eq
      cases x_eq
    | moves _ _ _ _ _ _ _ _ _ hasEnd =>
      exact absurd still hasEnd.moves
    | draws _ _ _ _ _ _ _ _ _ _ hasEnd =>
      exact absurd still hasEnd.moves
  | places _ units x y _ machine unplaced force x_eq y_eq => cases h' with
    | ends => contradiction
    | sets _ _ _ still =>
      rw [still] at x_eq
      cases x_eq
    | places _ units' x' y' _ _ _ force' x_eq' y_eq' =>
      obtain ⟨rfl, -, -⟩ := force.unique force'
      rw [x_eq] at x_eq'
      rw [y_eq] at y_eq'
      cases x_eq'
      cases y_eq'
      rfl
    | moves _ _ _ _ _ _ placed =>
      rw [unplaced] at placed
      cases placed
    | draws _ _ _ _ _ _ _ _ placed =>
      rw [unplaced] at placed
      cases placed
  | moves _ units distance start _ machine placed _ force hasEnd => cases h' with
    | ends => contradiction
    | sets _ _ _ still =>
      exact absurd still hasEnd.moves
    | places _ _ _ _ _ _ unplaced =>
      rw [unplaced] at placed
      cases placed
    | moves _ units' distance' start' _ _ placed' _ force' =>
      obtain ⟨rfl, rfl, -⟩ := force.unique force'
      rw [placed] at placed'
      cases placed'
      rfl
    | draws _ _ _ _ _ _ _ _ _ force' _ segmentOf =>
      obtain ⟨-, -, rfl⟩ := force.unique force'
      exact absurd segmentOf SegmentOf.not_rapid
  | draws _ units distance motion start segment _ machine placed force hasEnd segmentOf =>
    cases h' with
    | ends => contradiction
    | sets _ _ _ still =>
      exact absurd still hasEnd.moves
    | places _ _ _ _ _ _ unplaced =>
      rw [unplaced] at placed
      cases placed
    | moves _ _ _ _ _ _ _ _ force' =>
      obtain ⟨-, -, rfl⟩ := force.unique force'
      exact absurd segmentOf SegmentOf.not_rapid
    | draws _ units' distance' motion' start' segment' _ _ placed' force' _ segmentOf' =>
      obtain ⟨rfl, rfl, rfl⟩ := force.unique force'
      rw [placed] at placed'
      cases placed'
      rw [segmentOf.unique segmentOf']

end Agreement

/-! ## Texts -/

/-- `b'N'` -/
def numberLetter : UInt8 := 78

/-- Two texts of one word: they differ in comments and in the case of the letter. -/
def SameWord (text text' : List UInt8) : Prop :=
  ∃ letter letter' digits, WordText text letter digits ∧ WordText text' letter' digits ∧
    toUpper letter = toUpper letter'

/-- Words of which none is a block number. -/
def Unnumbered (texts : List (List UInt8)) : Prop :=
  ∀ text ∈ texts, text.head?.map toUpper ≠ some numberLetter

section Texts

variable [DecimalParser] {texts texts' : List (List UInt8)} {words words' : List ParsedWord}
  {addresses : List Address}

/-- The text of a block number. -/
def IsNumber (text : List UInt8) : Prop :=
  ∃ word, WordMeaning text word ∧ word.letter = 'N' ∧ (blockNumberOf word.value).isSome

/-- The same words with or without a block number. -/
inductive Renumbered : List (List UInt8) → List (List UInt8) → Prop
  | same {texts : List (List UInt8)} : Renumbered texts texts
  | adds {text : List UInt8} {texts : List (List UInt8)} (number : IsNumber text)
      (unnumbered : Unnumbered texts) : Renumbered texts (text :: texts)
  | removes {text : List UInt8} {texts : List (List UInt8)} (number : IsNumber text)
      (unnumbered : Unnumbered texts) : Renumbered (text :: texts) texts

/-- The same words up to a block number, the way they are written and their order. -/
def SameBlock (texts texts' : List (List UInt8)) : Prop :=
  ∃ numbered middle, Renumbered texts numbered ∧ List.Forall₂ SameWord numbered middle ∧
    middle.Perm texts'

/-- The physical lines of two sources of one program. -/
inductive SameProgram : List (List UInt8) → List (List UInt8) → Prop
  | nil : SameProgram [] []
  | inserts {raw : List UInt8} {raws raws' : List (List UInt8)}
      (blank : Layout [] (stripCarriageReturn raw)) (rest : SameProgram raws raws') :
      SameProgram raws (raw :: raws')
  | removes {raw : List UInt8} {raws raws' : List (List UInt8)}
      (blank : Layout [] (stripCarriageReturn raw)) (rest : SameProgram raws raws') :
      SameProgram (raw :: raws) raws'
  | envelope {raw raw' : List UInt8} {raws raws' : List (List UInt8)}
      (envelope : EnvelopeLine (stripCarriageReturn raw))
      (envelope' : EnvelopeLine (stripCarriageReturn raw')) (rest : SameProgram raws raws') :
      SameProgram (raw :: raws) (raw' :: raws')
  | block {raw raw' : List UInt8} {raws raws' texts texts' : List (List UInt8)}
      (written : texts ≠ []) (written' : texts' ≠ [])
      (layout : Layout texts (stripCarriageReturn raw))
      (layout' : Layout texts' (stripCarriageReturn raw')) (same : SameBlock texts texts')
      (rest : SameProgram raws raws') : SameProgram (raw :: raws) (raw' :: raws')

/-- Another way to write a source. -/
def Rewritten (source source' : List UInt8) : Prop :=
  (∀ byte ∈ source', isSourceByte byte) ∧
    SameProgram (source.splitOn lineFeed) (source'.splitOn lineFeed)

/-! ### Blocks -/

omit [DecimalParser] in
/-- Only `N` words are block numbers. -/
theorem letter_of_number {word : ParsedWord} {address : Address}
    (h : addressOf word = some address) (hgroup : address.group = .number) :
    word.letter = 'N' := by
  by_contra hletter
  have hcodes : ∀ entry ∈ gCodes, entry.2.group ≠ .number := by decide +kernel
  unfold addressOf at h
  rw [if_neg hletter] at h
  split at h
  · obtain ⟨before, after, hentries, -⟩ := List.lookup_eq_some_iff.1 h
    exact hcodes (word.value, address) (by simp [hentries]) hgroup
  all_goals
    repeat' split at h
    all_goals
      cases h
      try cases hgroup

omit [DecimalParser] in
theorem number_of_letter {word : ParsedWord} {address : Address}
    (h : addressOf word = some address) (hletter : word.letter = 'N') :
    ∃ number, address = .number number := by
  unfold addressOf at h
  rw [if_pos hletter, Option.map_eq_some_iff] at h
  obtain ⟨number, -, rfl⟩ := h
  exact ⟨number, rfl⟩

omit [DecimalParser] in
theorem toUpper_of_char {letter : UInt8} (h : Char.ofUInt8 (toUpper letter) = 'N') :
    toUpper letter = numberLetter := by
  revert letter
  decide +kernel

/-- The words of a line without a block number set none. -/
theorem number_notMem (hunnumbered : Unnumbered texts)
    (hwords : List.Forall₂ WordMeaning texts words)
    (hnamed : List.Forall₂ (fun word address => addressOf word = some address) words addresses) :
    AddressGroup.number ∉ addresses.map Address.group := by
  rw [List.mem_map]
  rintro ⟨address, haddress, hgroup⟩
  obtain ⟨word, hword, hnames⟩ := hnamed.exists_of_mem_right haddress
  obtain ⟨text, htext, letter, digits, ⟨-, value, rfl, -⟩, hletter, -⟩ :=
    hwords.exists_of_mem_right hword
  apply hunnumbered _ htext
  rw [letter_of_number hnames hgroup] at hletter
  rw [List.head?_cons, Option.map_some, toUpper_of_char hletter.symm]

theorem Renumbered.reads [ExactCurves] (h : Renumbered texts texts')
    (hwords : List.Forall₂ WordMeaning texts words) (hblock : IsBlock words addresses) :
    ∃ words' addresses', List.Forall₂ WordMeaning texts' words' ∧ IsBlock words' addresses' ∧
      Agree addresses addresses' := by
  cases h with
  | same => exact ⟨words, addresses, hwords, hblock, fun _ _ _ _ _ => rfl⟩
  | adds number unnumbered =>
    obtain ⟨word, hmeaning, hletter, hnumber⟩ := number
    obtain ⟨value, hvalue⟩ := Option.isSome_iff_exists.1 hnumber
    have hfresh := number_notMem unnumbered hwords hblock.named
    have hnamed : addressOf word = some (.number value) := by
      rw [addressOf, if_pos hletter, hvalue]
      rfl
    refine ⟨word :: words, .number value :: addresses, .cons hmeaning hwords,
      ⟨.cons hnamed hblock.named, ?_, ?_⟩, agree_number⟩
    · intro code hcode
      rcases List.mem_cons.1 hcode with heq | hmem
      · cases heq
      · exact hblock.supported code hmem
    · rw [List.map_cons, List.nodup_cons]
      exact ⟨hfresh, hblock.single⟩
  | removes number unnumbered =>
    obtain ⟨word, hmeaning, hletter, -⟩ := number
    obtain ⟨hnamed, hsupported, hsingle⟩ := hblock
    cases hwords with
    | @cons _ read _ words hread hwords =>
      obtain rfl := hread.unique hmeaning
      cases hnamed with
      | @cons _ address _ addresses hfirst hnamed =>
        obtain ⟨value, rfl⟩ := number_of_letter hfirst hletter
        rw [List.map_cons, List.nodup_cons] at hsingle
        refine ⟨words, addresses, hwords, ⟨hnamed, ?_, hsingle.2⟩, agree_number.symm⟩
        intro code hcode
        exact hsupported code (List.mem_cons_of_mem _ hcode)

/-- A word means the same however it is written. -/
theorem SameWord.meaning [ExactCurves] {text text' : List UInt8} {word : ParsedWord} (h : SameWord text text')
    (hword : WordMeaning text word) : WordMeaning text' word := by
  obtain ⟨letter, letter', digits, htext, htext', hupper⟩ := h
  obtain ⟨_, _, hspelled, hletter, hvalue⟩ := hword
  obtain ⟨rfl, rfl⟩ := hspelled.unique htext
  exact ⟨letter', _, htext', by rw [hletter, hupper], hvalue⟩

omit [DecimalParser] in
/-- The words of a block form one in any order. -/
theorem IsBlock.perm (h : IsBlock words addresses) (hperm : words.Perm words') :
    ∃ addresses', IsBlock words' addresses' ∧ addresses.Perm addresses' := by
  obtain ⟨addresses', hnamed, hsame⟩ := List.perm_comp_forall₂ hperm.symm h.named
  refine ⟨addresses', ⟨hnamed, ?_, ?_⟩, hsame.symm⟩
  · intro code hcode
    exact h.supported code (hsame.mem_iff.1 hcode)
  · exact (hsame.map _).nodup_iff.2 h.single

/-- Another way to write a block is a block that agrees with it. -/
theorem SameBlock.reads [ExactCurves] (h : SameBlock texts texts')
    (hwords : List.Forall₂ WordMeaning texts words) (hblock : IsBlock words addresses) :
    ∃ words' addresses', List.Forall₂ WordMeaning texts' words' ∧ IsBlock words' addresses' ∧
      Agree addresses addresses' := by
  obtain ⟨numbered, middle, hnumbered, hsame, hperm⟩ := h
  obtain ⟨words, addresses, hwords, hblock, hagree⟩ := hnumbered.reads hwords hblock
  have hmiddle : List.Forall₂ WordMeaning middle words :=
    hsame.flip.trans_of hwords fun _ _ _ hword => SameWord.meaning hword
  obtain ⟨words', hwords', hwordsPerm⟩ := List.perm_comp_forall₂ hperm.symm hmiddle
  obtain ⟨addresses', hblock', haddresses⟩ := hblock.perm hwordsPerm.symm
  refine ⟨words', addresses', hwords', hblock', ?_⟩
  intro α value? group hgroup hnumber
  rw [hagree α value? group hgroup hnumber]
  exact agree_of_perm hblock.single haddresses α value? group hgroup hnumber

/-! ### Lines -/

/-- A line says one thing at most. -/
theorem LineMeaning.unique [ExactCurves] {raw : List UInt8} {said said' : Line}
    (h : LineMeaning raw said) (h' : LineMeaning raw said') : said = said' := by
  cases h with
  | blank layout => cases h' with
    | blank => rfl
    | envelope envelope => exact absurd envelope (not_envelopeLine_of_layout layout)
    | block _ _ _ written layout' => exact absurd (layout_nil_unique layout' layout) written
  | envelope envelope => cases h' with
    | blank layout => exact absurd envelope (not_envelopeLine_of_layout layout)
    | envelope => rfl
    | block _ _ _ _ layout => exact absurd envelope (not_envelopeLine_of_layout layout)
  | block texts words addresses written layout words_eq isBlock => cases h' with
    | blank layout' => exact absurd (layout_nil_unique layout layout') written
    | envelope envelope => exact absurd envelope (not_envelopeLine_of_layout layout)
    | block texts' words' addresses' _ layout' words_eq' isBlock' =>
      have hread := meanings_of_layout layout words_eq layout'
      have hunique : Relator.RightUnique WordMeaning := fun _ _ _ h h' => h.unique h'
      obtain rfl := hunique.forall₂ hread words_eq'
      have hnames : Relator.RightUnique fun (word : ParsedWord) (address : Address) =>
          addressOf word = some address := by
        intro word address address' h h'
        rw [h] at h'
        exact Option.some.inj h'
      rw [hnames.forall₂ isBlock.named isBlock'.named]

/-- Another way to write a program says lines that correspond. -/
theorem SameProgram.written [ExactCurves] {raws raws' : List (List UInt8)} {lines : List Line}
    (h : SameProgram raws raws') (hlines : List.Forall₂ LineMeaning raws lines) :
    ∃ lines', List.Forall₂ LineMeaning raws' lines' ∧ SameLines lines lines' := by
  induction h generalizing lines with
  | nil =>
    cases hlines
    exact ⟨[], .nil, .nil⟩
  | inserts blank _ ih =>
    obtain ⟨lines', hlines', hsame⟩ := ih hlines
    exact ⟨.blank :: lines', .cons (.blank blank) hlines', .inserts hsame⟩
  | removes blank _ ih =>
    cases hlines with
    | cons hsaid hlines =>
      obtain rfl := hsaid.unique (.blank blank)
      obtain ⟨lines', hlines', hsame⟩ := ih hlines
      exact ⟨lines', hlines', .removes hsame⟩
  | envelope envelope envelope' _ ih =>
    cases hlines with
    | cons hsaid hlines =>
      obtain rfl := hsaid.unique (.envelope envelope)
      obtain ⟨lines', hlines', hsame⟩ := ih hlines
      exact ⟨.envelope :: lines', .cons (.envelope envelope') hlines', .line .envelope hsame⟩
  | block written written' layout layout' same _ ih =>
    cases hlines with
    | cons hsaid hlines =>
      obtain ⟨lines', hlines', hsame⟩ := ih hlines
      cases hsaid with
      | blank blank => exact absurd (layout_nil_unique layout blank) written
      | envelope envelope => exact absurd envelope (not_envelopeLine_of_layout layout)
      | block _ words addresses _ said words_eq isBlock =>
        have hwords := meanings_of_layout said words_eq layout
        obtain ⟨words', addresses', hwords', hblock', hagree⟩ := same.reads hwords isBlock
        exact ⟨.block addresses' :: lines', .cons (.block _ words' addresses' written' layout'
          hwords' hblock') hlines', .line (.block hagree) hsame⟩

end Texts

end Alumina.Cnc
