import Alumina.ForStd.Run
import Alumina.Spec.CncBlock
import Alumina.Spec.CncLanguage

/-!
# What a CNC source draws

A source is read as lines, and a line as a step of a drawing: it sets modes, places the tool,
or draws a segment. The modes in force at a line are those its words and the words before it set
last. The import is compared with this reading.

## Key results

- `importLine_sound`, `importLine_complete`: the import of a line is a step of the drawing
- `importLines_sound`, `importLines_complete`: the import of all lines is a run of them
-/

namespace Alumina.Cnc

open Except (failIf)

/-! ## The drawing -/

/-- What one physical line says. -/
inductive Line where
  | blank
  | envelope
  | block (addresses : List Address)

def Line.addresses : Line → List Address
  | .blank | .envelope => []
  | .block addresses => addresses

inductive Segment where
  | line (start finish : Point)
  | arc (start finish center : Point) (clockwise : Bool)

def Segment.start : Segment → Point
  | .line start _ | .arc start _ _ _ => start

def Segment.finish : Segment → Point
  | .line _ finish | .arc _ finish _ _ => finish

/-- What has been drawn: `origin` is where the last rapid ended. -/
structure Drawing where
  opened : Bool
  ended : Bool
  origin : Option Point
  position : Option Point
  segments : List Segment

def Drawing.empty : Drawing := ⟨false, false, none, none, []⟩

/-- The modes in force after some words. -/
structure InForce (addresses : List Address) (units : CncUnitMode) (distance : CncDistanceMode)
    (motion : MotionMode) : Prop where
  units : setting Address.units? addresses = some units
  distance : setting Address.distance? addresses = some distance
  planeXy : setting Address.planeXy? addresses = some ()
  motion : setting Address.motion? addresses = some motion

/-- Where a coordinate leads. -/
def moved (distance : CncDistanceMode) (scale current : ℚ) : Option ℚ → ℚ
  | none => current
  | some value =>
    match distance with
    | .absolute => value * scale
    | .incremental => current + value * scale

/-- Where a block leads. -/
def target (block : List Address) (distance : CncDistanceMode) (scale : ℚ) (start : Point) :
    Point where
  x := moved distance scale start.x (setting (Address.coordinate? .x) block)
  y := moved distance scale start.y (setting (Address.coordinate? .y) block)

def arcCenter (mode : CncArcCenterMode) (scale : ℚ) (start : Point) (i j : ℚ) : Point :=
  match mode with
  | .absolute => ⟨i * scale, j * scale⟩
  | .incremental => ⟨start.x + i * scale, start.y + j * scale⟩

/-- A block without an arc centre. -/
def IsFlat (block : List Address) : Prop :=
  setting (Address.coordinate? .i) block = none ∧ setting (Address.coordinate? .j) block = none

/-- A block that names an end point. -/
def HasEnd (block : List Address) : Prop :=
  setting (Address.coordinate? .x) block ≠ none ∨ setting (Address.coordinate? .y) block ≠ none

/-- The segment a block draws. -/
inductive SegmentOf (addresses block : List Address) (scale : ℚ) (start finish : Point) :
    MotionMode → Segment → Prop
  | line (flat : IsFlat block) :
      SegmentOf addresses block scale start finish .linear (.line start finish)
  | arc (clockwise : Bool) (mode : CncArcCenterMode) (i j : ℚ) (distinct : start ≠ finish)
      (mode_eq : setting Address.arcCenter? addresses = some mode)
      (i_eq : setting (Address.coordinate? .i) block = some i)
      (j_eq : setting (Address.coordinate? .j) block = some j) :
      SegmentOf addresses block scale start finish
        (if clockwise then .clockwiseArc else .counterClockwiseArc)
        (.arc start finish (arcCenter mode scale start i j) clockwise)

/-- A line as a step of the drawing, where `addresses` are all the words up to its end. -/
inductive LineStep (addresses : List Address) (drawing : Drawing) : Line → Drawing → Prop
  | blank : LineStep addresses drawing .blank drawing
  | opens (unended : drawing.ended = false) (unopened : drawing.opened = false)
      (unplaced : drawing.position = none) :
      LineStep addresses drawing .envelope { drawing with opened := true }
  | closes (ended : drawing.ended = true) (opened : drawing.opened = true) :
      LineStep addresses drawing .envelope { drawing with opened := false }
  | ends (block : List Address) (unended : drawing.ended = false)
      (machine : setting Address.machine? block ≠ none)
      (only : ∀ address ∈ block, address.group = .number ∨ address.group = .machine) :
      LineStep addresses drawing (.block block) { drawing with ended := true }
  | sets (block : List Address) (unended : drawing.ended = false)
      (machine : setting Address.machine? block = none)
      (still : ∀ axis, setting (Address.coordinate? axis) block = none) :
      LineStep addresses drawing (.block block) drawing
  | places (block : List Address) (units : CncUnitMode) (x y : ℚ)
      (unended : drawing.ended = false) (machine : setting Address.machine? block = none)
      (unplaced : drawing.position = none) (force : InForce addresses units .absolute .rapid)
      (x_eq : setting (Address.coordinate? .x) block = some x)
      (y_eq : setting (Address.coordinate? .y) block = some y) (flat : IsFlat block) :
      LineStep addresses drawing (.block block)
        { drawing with
          origin := some ⟨x * units.millimetresPerSourceUnit, y * units.millimetresPerSourceUnit⟩
          position :=
            some ⟨x * units.millimetresPerSourceUnit, y * units.millimetresPerSourceUnit⟩ }
  | moves (block : List Address) (units : CncUnitMode) (distance : CncDistanceMode)
      (start : Point) (unended : drawing.ended = false)
      (machine : setting Address.machine? block = none) (placed : drawing.position = some start)
      (undrawn : drawing.segments = []) (force : InForce addresses units distance .rapid)
      (hasEnd : HasEnd block) (flat : IsFlat block) :
      LineStep addresses drawing (.block block)
        { drawing with
          origin := some (target block distance units.millimetresPerSourceUnit start)
          position := some (target block distance units.millimetresPerSourceUnit start) }
  | draws (block : List Address) (units : CncUnitMode) (distance : CncDistanceMode)
      (motion : MotionMode) (start : Point) (segment : Segment)
      (unended : drawing.ended = false) (machine : setting Address.machine? block = none)
      (placed : drawing.position = some start) (force : InForce addresses units distance motion)
      (hasEnd : HasEnd block)
      (segmentOf : SegmentOf addresses block units.millimetresPerSourceUnit start
        (target block distance units.millimetresPerSourceUnit start) motion segment) :
      LineStep addresses drawing (.block block)
        { drawing with
          position := some segment.finish
          segments := drawing.segments ++ [segment] }

/-- The words so far and the drawing, one line further. -/
def Reads (before : List Address × Drawing) (line : Line) (after : List Address × Drawing) :
    Prop :=
  after.1 = before.1 ++ line.addresses ∧ LineStep after.1 before.2 line after.2

section Meaning

variable [DecimalParser]

/-- What a physical line says. -/
inductive LineMeaning (raw : List UInt8) : Line → Prop
  | blank (layout : Layout [] (stripCarriageReturn raw)) : LineMeaning raw .blank
  | envelope (envelope : EnvelopeLine (stripCarriageReturn raw)) : LineMeaning raw .envelope
  | block (texts : List (List UInt8)) (words : List ParsedWord) (addresses : List Address)
      (written : texts ≠ []) (layout : Layout texts (stripCarriageReturn raw))
      (words_eq : List.Forall₂ WordMeaning texts words) (isBlock : IsBlock words addresses) :
      LineMeaning raw (.block addresses)

/-- The lines a source says. -/
def Written (source : List UInt8) (lines : List Line) : Prop :=
  List.Forall₂ LineMeaning (source.splitOn lineFeed) lines

end Meaning

/-! ## The import follows the drawing -/

section Import

variable [ExactCurves] {limits : CncGeometryImportLimits} {line : Nat} {addresses block : List Address}
  {drawing after : Drawing} {state state' : ImportState} {motion : MotionMode}

/-- A curve that was built for a segment. -/
def Drawn : Segment → ExactCurves.Curve → Prop
  | .line start finish, curve => ExactCurves.lineSegment start finish = .ok curve
  | .arc start finish center clockwise, curve =>
    ExactCurves.circularArc start finish center clockwise = .ok curve

/-- The import holds the modes in force and what was drawn. -/
structure Simulates (addresses : List Address) (drawing : Drawing) (state : ImportState) : Prop where
  units : state.modal.units = setting Address.units? addresses
  distance : state.modal.distanceMode = setting Address.distance? addresses
  planeXy : state.modal.planeXy = (setting Address.planeXy? addresses).isSome
  arcCenter : state.modal.arcCenterMode = setting Address.arcCenter? addresses
  motion : state.modal.motion = setting Address.motion? addresses
  position : state.modal.currentMm = drawing.position
  opened : state.envelopeOpen = drawing.opened
  ended : state.programEndLine.isSome = drawing.ended
  curves : List.Forall₂ Drawn drawing.segments state.curves
  spans : state.spans.map (·.curveIndex) = List.range state.curves.length
  undrawn : drawing.position = none → drawing.segments = []

omit [ExactCurves] in
theorem isFlat_iff {programEnd : Bool} :
    IsFlat block ↔ ¬ ((blockOf block programEnd).i.isSome ∨ (blockOf block programEnd).j.isSome) := by
  simp [IsFlat, blockOf]

omit [ExactCurves] in
theorem coordinateComponent_eq {scale current : ℚ} {source : Option ℚ}
    {distance : CncDistanceMode} :
    coordinateComponent current source distance scale = moved distance scale current source := by
  cases source <;> cases distance <;> rfl

theorem endpointFromBlock_eq_ok {start endpoint : Point} {distance : CncDistanceMode} {scale : ℚ}
    {programEnd : Bool} :
    endpointFromBlock start (blockOf block programEnd) distance scale line = .ok endpoint ↔
      HasEnd block ∧ endpoint = target block distance scale start := by
  simp only [endpointFromBlock, Except.bind_eq_ok, Except.exists_unit, Except.failIf_eq_ok,
    Except.pure_eq_ok, coordinateComponent_eq, Option.isNone_iff_eq_none, not_and_or]
  exact and_congr_right fun _ => eq_comm

/-- An arc is drawn about its centre. -/
private theorem arc_eq_ok {modal : ModalState} {start endpoint : Point} {scale : ℚ}
    {drawn : ExactCurves.Curve × CncMotionKind × Option CncArcCenterMode} {kind : CncMotionKind}
    {clockwise : Bool} :
    (do
      failIf (start = endpoint) (.fullCircleUnsupported line)
      let centerMode ←
        modal.arcCenterMode.okOr (.missingModalState line "G90.1/G91.1 arc centre")
      let center ← arcCenterFromBlock start (blockOf block false) centerMode scale line
      let curve ←
        (ExactCurves.circularArc start endpoint center clockwise).mapError (.geometry line)
      pure (curve, kind, some centerMode) :
        CncGeometryImportResult (ExactCurves.Curve × CncMotionKind × Option CncArcCenterMode)) =
        .ok drawn ↔
      ∃ mode i j, start ≠ endpoint ∧ modal.arcCenterMode = some mode ∧
        setting (Address.coordinate? .i) block = some i ∧
        setting (Address.coordinate? .j) block = some j ∧
        Drawn (.arc start endpoint (arcCenter mode scale start i j) clockwise) drawn.1 ∧
        drawn.2 = (kind, some mode) := by
  simp only [arcCenterFromBlock, blockOf, Except.bind_eq_ok, Except.exists_unit,
    Except.failIf_eq_ok, Option.okOr_eq_ok, Except.mapError_eq_ok, Except.pure_eq_ok]
  constructor
  · rintro ⟨hne, mode, hmode, center, ⟨i, hi, j, hj, rfl⟩, curve, hcurve, rfl⟩
    exact ⟨mode, i, j, hne, hmode, hi, hj, hcurve, rfl⟩
  · rintro ⟨mode, i, j, hne, hmode, hi, hj, hcurve, hkind⟩
    refine ⟨hne, mode, hmode, _, ⟨i, hi, j, hj, rfl⟩, drawn.1, hcurve, ?_⟩
    rw [← hkind]

/-- The segment a block draws is drawn as a curve. -/
theorem drawCurve_sound {modal : ModalState} {start endpoint : Point} {scale : ℚ}
    {drawn : ExactCurves.Curve × CncMotionKind × Option CncArcCenterMode}
    (hmode : modal.arcCenterMode = setting Address.arcCenter? addresses)
    (hmotion : motion ≠ .rapid)
    (h : drawCurve modal (blockOf block false) motion start endpoint scale line = .ok drawn) :
    ∃ segment, SegmentOf addresses block scale start endpoint motion segment ∧
      Drawn segment drawn.1 := by
  cases motion with
  | rapid => exact absurd rfl hmotion
  | linear =>
    simp only [drawCurve, Except.bind_eq_ok, Except.exists_unit, Except.failIf_eq_ok,
      Except.mapError_eq_ok, Except.pure_eq_ok] at h
    obtain ⟨hflat, curve, hcurve, rfl⟩ := h
    exact ⟨_, .line (isFlat_iff.2 hflat), hcurve⟩
  | clockwiseArc =>
    obtain ⟨mode, i, j, hne, hsome, hi, hj, hdrawn, -⟩ := arc_eq_ok.1 h
    exact ⟨_, .arc true mode i j hne (hmode ▸ hsome) hi hj, hdrawn⟩
  | counterClockwiseArc =>
    obtain ⟨mode, i, j, hne, hsome, hi, hj, hdrawn, -⟩ := arc_eq_ok.1 h
    exact ⟨_, .arc false mode i j hne (hmode ▸ hsome) hi hj, hdrawn⟩

theorem drawCurve_complete {modal : ModalState} {start endpoint : Point} {scale : ℚ}
    {segment : Segment} {curve : ExactCurves.Curve}
    (hmode : modal.arcCenterMode = setting Address.arcCenter? addresses)
    (hsegment : SegmentOf addresses block scale start endpoint motion segment)
    (hcurve : Drawn segment curve) :
    ∃ kind mode, drawCurve modal (blockOf block false) motion start endpoint scale line =
      .ok (curve, kind, mode) := by
  cases hsegment with
  | line flat =>
    refine ⟨.linear, none, ?_⟩
    simp only [drawCurve, Except.bind_eq_ok, Except.exists_unit, Except.failIf_eq_ok,
      Except.mapError_eq_ok, Except.pure_eq_ok]
    exact ⟨isFlat_iff.1 flat, curve, hcurve, rfl⟩
  | arc clockwise mode i j distinct mode_eq i_eq j_eq =>
    cases clockwise with
    | false =>
      exact ⟨.counterClockwiseArc, some mode, arc_eq_ok.2
        ⟨mode, i, j, distinct, hmode.trans mode_eq, i_eq, j_eq, hcurve, rfl⟩⟩
    | true =>
      exact ⟨.clockwiseArc, some mode, arc_eq_ok.2
        ⟨mode, i, j, distinct, hmode.trans mode_eq, i_eq, j_eq, hcurve, rfl⟩⟩

omit [ExactCurves] in
theorem hasCoordinates_blockOf {programEnd : Bool} :
    (blockOf block programEnd).hasCoordinates = false ↔
      ∀ axis, setting (Address.coordinate? axis) block = none := by
  simp only [ParsedBlock.hasCoordinates, blockOf, Bool.or_eq_false_iff,
    Option.isSome_eq_false_iff, Option.isNone_iff_eq_none]
  constructor
  · rintro ⟨⟨⟨hx, hy⟩, hi⟩, hj⟩ axis
    cases axis <;> assumption
  · intro h
    exact ⟨⟨⟨h .x, h .y⟩, h .i⟩, h .j⟩

/-- Moving or drawing is a step of the drawing. -/
theorem importCoordinates_sound (hs : Simulates addresses drawing state)
    (hunended : drawing.ended = false) (hmachine : setting Address.machine? block = none)
    (h : importCoordinates limits state (blockOf block false) line = .ok state') :
    ∃ after, LineStep addresses drawing (.block block) after ∧
      Simulates addresses after state' := by
  simp only [importCoordinates, Except.bind_eq_ok, Except.exists_unit, Except.failIf_eq_ok,
    Option.okOr_eq_ok, not_not] at h
  obtain ⟨units, hunits, distance, hdistance, hplane, motion, hmotion, h⟩ := h
  have hforce : InForce addresses units distance motion := by
    refine ⟨hs.units ▸ hunits, hs.distance ▸ hdistance, ?_, hs.motion ▸ hmotion⟩
    rw [hs.planeXy, Option.isSome_iff_exists] at hplane
    obtain ⟨_, hplane⟩ := hplane
    exact hplane
  split at h
  · next hunplaced =>
    simp only [Except.bind_eq_ok, Except.exists_unit, Except.failIf_eq_ok, Option.okOr_eq_ok,
      Except.pure_eq_ok, not_or, not_not] at h
    obtain ⟨⟨rfl, rfl⟩, x, hx, y, hy, hflat, rfl⟩ := h
    have hflat : IsFlat block := by
      rw [isFlat_iff, not_or]
      exact hflat
    rw [hs.position] at hunplaced
    refine ⟨_, .places block units x y hunended hmachine hunplaced hforce hx hy hflat, ?_⟩
    exact { hs with position := rfl, undrawn := by simp }
  · next start hplaced =>
    rw [hs.position] at hplaced
    simp only [Except.bind_eq_ok, endpointFromBlock_eq_ok] at h
    obtain ⟨endpoint, ⟨hend, rfl⟩, h⟩ := h
    split at h
    · next hrapid =>
      simp only [Except.bind_eq_ok, Except.exists_unit, Except.failIf_eq_ok, not_not,
        Except.pure_eq_ok] at h
      obtain ⟨hcurves, hflat, rfl⟩ := h
      have hundrawn : drawing.segments = [] := by
        have hdrawn := hs.curves
        rw [hcurves, List.forall₂_nil_right_iff] at hdrawn
        exact hdrawn
      subst hrapid
      refine ⟨_, .moves block units distance start hunended hmachine hplaced hundrawn hforce hend
        (isFlat_iff.2 hflat), ?_⟩
      exact { hs with position := rfl, undrawn := by simp }
    · next hcutting =>
      simp only [Except.bind_eq_ok, Except.exists_unit, Except.failIf_eq_ok,
        Except.pure_eq_ok] at h
      obtain ⟨-, drawn, hdrawn, rfl⟩ := h
      obtain ⟨segment, hsegment, hcurve⟩ := drawCurve_sound hs.arcCenter hcutting hdrawn
      have hfinish : segment.finish = target block distance units.millimetresPerSourceUnit start := by
        cases hsegment <;> rfl
      refine ⟨_, .draws block units distance motion start segment hunended hmachine hplaced hforce
        hend hsegment, ?_⟩
      exact
        { hs with
          position := by rw [hfinish]
          curves := List.rel_append hs.curves (.cons hcurve .nil)
          spans := by simp [hs.spans, List.range_succ]
          undrawn := by simp }

/-- A step of the drawing that moves or draws is made, unless there are too many curves. -/
theorem importCoordinates_complete (hs : Simulates addresses drawing state)
    (hstep : LineStep addresses drawing (.block block) after)
    (hcoordinates : (blockOf block false).hasCoordinates)
    (hmachine : setting Address.machine? block = none)
    (hdrawn : ∀ segment ∈ after.segments, ∃ curve, Drawn segment curve) :
    (∃ state', importCoordinates limits state (blockOf block false) line = .ok state' ∧
      Simulates addresses after state') ∨
      ∃ error, importCoordinates limits state (blockOf block false) line = .error error ∧
        error.IsLimit := by
  have hmodes {units : CncUnitMode} {distance : CncDistanceMode} {motion : MotionMode}
      (force : InForce addresses units distance motion) :
      state.modal.units = some units ∧ state.modal.distanceMode = some distance ∧
        state.modal.planeXy = true ∧ state.modal.motion = some motion := by
    refine ⟨hs.units.trans force.units, hs.distance.trans force.distance, ?_,
      hs.motion.trans force.motion⟩
    rw [hs.planeXy, force.planeXy]
    rfl
  cases hstep with
  | ends _ unended machine => exact absurd hmachine machine
  | sets _ unended machine still =>
    rw [hasCoordinates_blockOf.2 still] at hcoordinates
    cases hcoordinates
  | places _ units x y unended machine unplaced force x_eq y_eq flat =>
    obtain ⟨hunits, hdistance, hplane, hmotion⟩ := hmodes force
    have hplaced := hs.position.trans unplaced
    have hflat : ¬ ((blockOf block false).i.isSome ∨ (blockOf block false).j.isSome) :=
      isFlat_iff.1 flat
    refine Or.inl ⟨{ state with
      modal := { state.modal with currentMm := some ⟨x * units.millimetresPerSourceUnit,
        y * units.millimetresPerSourceUnit⟩ }
      positioningBlocks := state.positioningBlocks + 1 }, ?_, ?_⟩
    · simp only [importCoordinates, Except.bind_eq_ok, Except.exists_unit, Except.failIf_eq_ok,
        Option.okOr_eq_ok]
      refine ⟨units, hunits, .absolute, hdistance, not_not.2 hplane, .rapid, hmotion, ?_⟩
      split
      · simp only [Except.bind_eq_ok, Except.exists_unit, Except.failIf_eq_ok, Option.okOr_eq_ok]
        exact ⟨by simp, x, x_eq, y, y_eq, hflat, rfl⟩
      · next hstart =>
        rw [hplaced] at hstart
        cases hstart
    · exact { hs with position := rfl, undrawn := by simp }
  | moves _ units distance start unended machine placed undrawn force hasEnd flat =>
    obtain ⟨hunits, hdistance, hplane, hmotion⟩ := hmodes force
    have hplaced := hs.position.trans placed
    have hcurves : state.curves = [] := by
      have hdrawn := hs.curves
      rw [undrawn, List.forall₂_nil_left_iff] at hdrawn
      exact hdrawn
    refine Or.inl ⟨{ state with
      modal := { state.modal with
        currentMm := some (target block distance units.millimetresPerSourceUnit start) }
      positioningBlocks := state.positioningBlocks + 1 }, ?_, ?_⟩
    · simp only [importCoordinates, Except.bind_eq_ok, Except.exists_unit, Except.failIf_eq_ok,
        Option.okOr_eq_ok]
      refine ⟨units, hunits, distance, hdistance, not_not.2 hplane, .rapid, hmotion, ?_⟩
      split
      · next hstart =>
        rw [hplaced] at hstart
        cases hstart
      · next other hstart =>
        rw [hplaced] at hstart
        cases hstart
        simp only [Except.bind_eq_ok, endpointFromBlock_eq_ok]
        refine ⟨_, ⟨hasEnd, rfl⟩, ?_⟩
        rw [if_pos True.intro]
        simp only [Except.bind_eq_ok, Except.exists_unit, Except.failIf_eq_ok, not_not]
        exact ⟨hcurves, isFlat_iff.1 flat, rfl⟩
    · exact { hs with position := rfl, undrawn := by simp }
  | draws _ units distance motion start segment unended machine placed force hasEnd segmentOf =>
    obtain ⟨hunits, hdistance, hplane, hmotion⟩ := hmodes force
    have hplaced := hs.position.trans placed
    have hcutting : motion ≠ .rapid := by
      rintro rfl
      generalize hrapid : MotionMode.rapid = motion at segmentOf
      cases segmentOf with
      | line => cases hrapid
      | arc clockwise => cases clockwise <;> cases hrapid
    obtain ⟨curve, hcurve⟩ := hdrawn segment (by simp)
    obtain ⟨kind, mode, hdraw⟩ : ∃ kind mode, drawCurve state.modal (blockOf block false) motion start
        (target block distance units.millimetresPerSourceUnit start)
        units.millimetresPerSourceUnit line = .ok (curve, kind, mode) :=
      drawCurve_complete hs.arcCenter segmentOf hcurve
    have hfinish : segment.finish = target block distance units.millimetresPerSourceUnit start := by
      cases segmentOf <;> rfl
    have hstart : importCoordinates limits state (blockOf block false) line = (do
        failIf (limits.maximumCurves < state.curves.length + 1)
          (.tooManyCurves (state.curves.length + 1) limits.maximumCurves)
        pure { state with
          modal := { state.modal with
            currentMm := some (target block distance units.millimetresPerSourceUnit start) }
          curves := state.curves ++ [curve]
          spans := state.spans ++ [⟨state.curves.length, line,
            setting Address.number? block, kind, units, distance, mode⟩] }) := by
      rw [importCoordinates, Except.bind_of_ok (Option.okOr_eq_ok.2 hunits),
        Except.bind_of_ok (Option.okOr_eq_ok.2 hdistance),
        Except.bind_of_ok (Except.failIf_eq_ok.2 (not_not.2 hplane)),
        Except.bind_of_ok (Option.okOr_eq_ok.2 hmotion)]
      split
      · next hstart =>
        rw [hplaced] at hstart
        cases hstart
      · next other hstart =>
        rw [hplaced] at hstart
        cases hstart
        rw [Except.bind_of_ok (endpointFromBlock_eq_ok.2 ⟨hasEnd, rfl⟩), if_neg hcutting]
        congr 1
        funext
        rw [Except.bind_of_ok hdraw]
        rfl
    rw [hstart]
    by_cases hmany : limits.maximumCurves < state.curves.length + 1
    · refine Or.inr ⟨.tooManyCurves (state.curves.length + 1) limits.maximumCurves, ?_, trivial⟩
      rw [failIf, if_pos hmany]
      rfl
    · rw [Except.failIf_of_not hmany]
      refine Or.inl ⟨_, rfl, ?_⟩
      exact
        { hs with
          position := by rw [hfinish]
          curves := List.rel_append hs.curves (.cons hcurve .nil)
          spans := by simp [hs.spans, List.range_succ]
          undrawn := by simp }

omit [ExactCurves] in
/-- A block that only ends the program. -/
theorem onlyProgramEnd_iff : (blockOf block true).onlyProgramEnd ↔
    ∀ address ∈ block, address.group = .number ∨ address.group = .machine := by
  have hnone {α : Type} {value? : Address → Option α} {group : AddressGroup}
      (hgroup : ∀ address, (value? address).isSome ↔ address.group = group) :
      setting value? block = none ↔ ∀ address ∈ block, address.group ≠ group := by
    rw [setting_eq_none hgroup]
    simp
  simp only [ParsedBlock.onlyProgramEnd, ParsedBlock.hasCoordinates, blockOf, Bool.true_and,
    Bool.and_eq_true, Option.isNone_iff_eq_none, Bool.not_eq_true', Bool.or_eq_false_iff,
    Option.isSome_eq_false_iff, hnone units?_isSome, hnone distance?_isSome,
    hnone planeXy?_isSome, hnone arcCenter?_isSome, hnone motion?_isSome,
    hnone (coordinate?_isSome · .x), hnone (coordinate?_isSome · .y),
    hnone (coordinate?_isSome · .i), hnone (coordinate?_isSome · .j)]
  constructor
  · intro h address haddress
    cases hgroup : address.group with
    | number => exact Or.inl rfl
    | machine => exact Or.inr rfl
    | units => exact absurd hgroup (h.1.1.1.1.1 address haddress)
    | distance => exact absurd hgroup (h.1.1.1.1.2 address haddress)
    | planeXy => exact absurd hgroup (h.1.1.1.2 address haddress)
    | arcCenter => exact absurd hgroup (h.1.1.2 address haddress)
    | motion => exact absurd hgroup (h.1.2 address haddress)
    | coordinate axis =>
      obtain ⟨⟨⟨hx, hy⟩, hi⟩, hj⟩ := h.2
      cases axis
      · exact absurd hgroup (hx address haddress)
      · exact absurd hgroup (hy address haddress)
      · exact absurd hgroup (hi address haddress)
      · exact absurd hgroup (hj address haddress)
  · intro h
    and_intros
    all_goals
      intro address haddress hgroup
      rcases h address haddress with hnumber | hmachine
      · rw [hnumber] at hgroup
        cases hgroup
      · rw [hmachine] at hgroup
        cases hgroup

/-- A block of modes puts them in force. -/
theorem Simulates.apply {programEnd : Bool} (hs : Simulates addresses drawing state) :
    Simulates (addresses ++ block) drawing
      { state with modal := state.modal.apply (blockOf block programEnd) } := by
  refine
    { hs with
      units := ?_
      distance := ?_
      planeXy := ?_
      arcCenter := ?_
      motion := ?_ }
  · rw [setting_append, ← hs.units]
    rfl
  · rw [setting_append, ← hs.distance]
    rfl
  · rw [setting_append, Option.isSome_or, ← hs.planeXy]
    rfl
  · rw [setting_append, ← hs.arcCenter]
    rfl
  · rw [setting_append, ← hs.motion]
    rfl

/-- A block that ends the program sets no mode. -/
theorem Simulates.ends (hs : Simulates addresses drawing state)
    (honly : ∀ address ∈ block, address.group = .number ∨ address.group = .machine) :
    Simulates (addresses ++ block) drawing state := by
  have hsame {α : Type} {value? : Address → Option α} {group : AddressGroup}
      (hgroup : ∀ address, (value? address).isSome ↔ address.group = group)
      (hnumber : group ≠ .number) (hmachine : group ≠ .machine) :
      setting value? (addresses ++ block) = setting value? addresses := by
    have hnone : setting value? block = none := by
      rw [setting_eq_none hgroup]
      intro hmem
      obtain ⟨address, haddress, hsame⟩ := List.mem_map.1 hmem
      rcases honly address haddress with h | h
      · exact hnumber (hsame.symm.trans h)
      · exact hmachine (hsame.symm.trans h)
    rw [setting_append, hnone, Option.none_or]
  exact
    { hs with
      units := hs.units.trans (hsame units?_isSome (by simp) (by simp)).symm
      distance := hs.distance.trans (hsame distance?_isSome (by simp) (by simp)).symm
      planeXy := by rw [hs.planeXy, hsame planeXy?_isSome (by simp) (by simp)]
      arcCenter := hs.arcCenter.trans (hsame arcCenter?_isSome (by simp) (by simp)).symm
      motion := hs.motion.trans (hsame motion?_isSome (by simp) (by simp)).symm }

/-- The result of importing a line is a step of the drawing, unless a limit was exceeded. -/
def Follows (result : CncGeometryImportResult ImportState) (addresses : List Address)
    (drawing : Drawing) : Prop :=
  (∃ state, result = .ok state ∧ Simulates addresses drawing state) ∨
    ∃ error, result = .error error ∧ error.IsLimit

variable [DecimalParser] {raw trimmed : List UInt8} {words : List ParsedWord} {said : Line}

theorem importBlock_sound (hs : Simulates addresses drawing state)
    (h : importBlock limits state trimmed line = .ok state') :
    ∃ words block after, lexWords trimmed line limits.maximumDecimalCharacters = .ok words ∧
      IsBlock words block ∧ LineStep (addresses ++ block) drawing (.block block) after ∧
        Simulates (addresses ++ block) after state' := by
  simp only [importBlock, Except.bind_eq_ok, Except.exists_unit, Except.failIf_eq_ok] at h
  obtain ⟨hunended, words, hwords, -, parsed, hparsed, h⟩ := h
  obtain ⟨block, hblock, rfl⟩ := parseBlock_eq_ok.1 hparsed
  have hunended : drawing.ended = false := by
    rw [← hs.ended]
    exact Bool.eq_false_iff.2 hunended
  refine ⟨words, block, ?_⟩
  cases hmachine : setting Address.machine? block with
  | some code =>
    rw [hmachine] at h
    rw [Option.isSome_some, if_pos (show (blockOf block true).programEnd = true from rfl)] at h
    simp only [Except.bind_eq_ok, Except.exists_unit, Except.failIf_eq_ok, not_not,
      onlyProgramEnd_iff, Except.pure_eq_ok] at h
    obtain ⟨honly, rfl⟩ := h
    refine ⟨_, hwords, hblock, .ends block hunended (by simp [hmachine]) honly, ?_⟩
    exact { hs.ends honly with ended := rfl }
  | none =>
    rw [hmachine] at h
    simp only [Option.isSome_none] at h
    rw [if_neg (by simp [blockOf])] at h
    have hmodes : Simulates (addresses ++ block) drawing
        { state with
          parsedWords := state.parsedWords + words.length
          modal := state.modal.apply (blockOf block false) } := { hs.apply with }
    split at h
    · obtain ⟨after, hstep, hafter⟩ := importCoordinates_sound hmodes hunended hmachine h
      exact ⟨after, hwords, hblock, hstep, hafter⟩
    · next hstill =>
      cases h
      rw [Bool.not_eq_true, hasCoordinates_blockOf] at hstill
      exact ⟨drawing, hwords, hblock, .sets block hunended hmachine hstill, hmodes⟩

theorem importBlock_complete (hs : Simulates addresses drawing state)
    (hwords : UpToLimits (lexWords trimmed line limits.maximumDecimalCharacters) words)
    (hblock : IsBlock words block)
    (hstep : LineStep (addresses ++ block) drawing (.block block) after)
    (hdrawn : ∀ segment ∈ after.segments, ∃ curve, Drawn segment curve) :
    Follows (importBlock limits state trimmed line) (addresses ++ block) after := by
  have hunended : drawing.ended = false := by
    cases hstep <;> assumption
  have hopen : ¬ state.programEndLine.isSome := by
    rw [hs.ended, hunended]
    simp
  rw [importBlock, Except.bind_of_ok (Except.failIf_eq_ok.2 hopen)]
  rcases hwords with hwords | ⟨error, herror, hlimit⟩
  · rw [Except.bind_of_ok hwords]
    by_cases hmany : limits.maximumWords < state.parsedWords + words.length
    · exact Or.inr ⟨.tooManyWords (state.parsedWords + words.length) limits.maximumWords,
        Except.bind_eq_error.2 (Or.inl (Except.failIf_eq_error.2 ⟨hmany, rfl⟩)), trivial⟩
    rw [Except.bind_of_ok (Except.failIf_eq_ok.2 hmany),
      Except.bind_of_ok (parseBlock_eq_ok.2 ⟨block, hblock, rfl⟩)]
    cases hmachine : setting Address.machine? block with
    | some code =>
      rw [Option.isSome_some, if_pos (show (blockOf block true).programEnd = true from rfl)]
      cases hstep with
      | ends _ unended machine only =>
        rw [Except.bind_of_ok (Except.failIf_eq_ok.2 (not_not.2 (onlyProgramEnd_iff.2 only)))]
        exact Or.inl ⟨_, rfl, { hs.ends only with ended := rfl }⟩
      | sets _ unended machine => rw [hmachine] at machine; cases machine
      | places _ units x y unended machine => rw [hmachine] at machine; cases machine
      | moves _ units distance start unended machine => rw [hmachine] at machine; cases machine
      | draws _ units distance motion start segment unended machine =>
        rw [hmachine] at machine
        cases machine
    | none =>
      rw [Option.isSome_none, if_neg (by simp [blockOf])]
      have hmodes : Simulates (addresses ++ block) drawing
          { state with
            parsedWords := state.parsedWords + words.length
            modal := state.modal.apply (blockOf block false) } := { hs.apply with }
      split
      · next hcoordinates =>
        exact importCoordinates_complete hmodes hstep hcoordinates hmachine hdrawn
      · next hstill =>
        rw [Bool.not_eq_true, hasCoordinates_blockOf] at hstill
        have hsame : after = drawing := by
          cases hstep with
          | ends _ unended machine => exact absurd hmachine machine
          | sets => rfl
          | places _ units x y unended machine unplaced force x_eq =>
            rw [hstill .x] at x_eq
            cases x_eq
          | moves _ units distance start unended machine placed undrawn force hasEnd =>
            rcases hasEnd with hx | hy
            · exact absurd (hstill .x) hx
            · exact absurd (hstill .y) hy
          | draws _ units distance motion start segment unended machine placed force hasEnd =>
            rcases hasEnd with hx | hy
            · exact absurd (hstill .x) hx
            · exact absurd (hstill .y) hy
        rw [hsame]
        exact Or.inl ⟨_, rfl, hmodes⟩
  · refine Or.inr ⟨error, ?_, hlimit⟩
    rw [herror]
    rfl

omit [DecimalParser] in
theorem importEnvelope_sound (hs : Simulates addresses drawing state)
    (h : importEnvelope state line = .ok state') :
    ∃ after, LineStep addresses drawing .envelope after ∧ Simulates addresses after state' := by
  unfold importEnvelope at h
  split at h
  · next hended =>
    split at h
    · next hopened =>
      cases h
      exact ⟨_, .closes (hs.ended ▸ hended) (hs.opened ▸ hopened), { hs with opened := rfl }⟩
    · cases h
  · next hunended =>
    split at h
    · next hunopened =>
      cases h
      rw [hs.ended, Bool.not_eq_true] at hunended
      rw [hs.opened, hs.position, Option.isNone_iff_eq_none, Bool.not_eq_true] at hunopened
      exact ⟨_, .opens hunended hunopened.1 hunopened.2.2, { hs with opened := rfl }⟩
    · cases h

omit [DecimalParser] in
theorem importEnvelope_complete (hs : Simulates addresses drawing state)
    (hstep : LineStep addresses drawing .envelope after) :
    ∃ state', importEnvelope state line = .ok state' ∧ Simulates addresses after state' := by
  unfold importEnvelope
  cases hstep with
  | opens unended unopened unplaced =>
    have hcurves : state.curves = [] := by
      have hdrawn := hs.curves
      rw [hs.undrawn unplaced, List.forall₂_nil_left_iff] at hdrawn
      exact hdrawn
    rw [if_neg (by simp [hs.ended, unended]),
      if_pos (by simp [hs.opened, unopened, hcurves, hs.position, unplaced])]
    exact ⟨_, rfl, { hs with opened := rfl }⟩
  | closes ended opened =>
    rw [if_pos (by simp [hs.ended, ended]), if_pos (by simp [hs.opened, opened])]
    exact ⟨_, rfl, { hs with opened := rfl }⟩

/-- The import of a line is a step of the drawing by what the line says. -/
theorem importLine_sound (hs : Simulates addresses drawing state)
    (h : importLine limits state raw = .ok state') :
    ∃ said after, LineMeaning raw said ∧
      LineStep (addresses ++ said.addresses) drawing said after ∧
        Simulates (addresses ++ said.addresses) after state' := by
  simp only [importLine, Except.bind_eq_ok, Except.exists_unit, Except.failIf_eq_ok] at h
  obtain ⟨-, -, uncommented, hstrip, h⟩ := h
  have hstripped := stripFrom_eq_ok.1 hstrip
  have hnext : Simulates addresses drawing { state with sourceLines := state.sourceLines + 1 } :=
    { hs with }
  split at h
  · next hblank =>
    cases h
    refine ⟨.blank, drawing, .blank ((layout_nil_iff hstripped).2 hblank), .blank, ?_⟩
    rw [Line.addresses, List.append_nil]
    exact hnext
  next hvisible =>
  split at h
  · next hmark =>
    obtain ⟨after, hstep, hafter⟩ := importEnvelope_sound hnext h
    have henvelope := (envelopeLine_iff hstripped).2 hmark
    refine ⟨.envelope, after, .envelope henvelope, ?_⟩
    rw [Line.addresses, List.append_nil]
    exact ⟨hstep, hafter⟩
  · obtain ⟨words, block, after, hwords, hblock, hstep, hafter⟩ := importBlock_sound hnext h
    obtain ⟨length, fuel, hfuel, hlex⟩ : ∃ length fuel, visible uncommented ≤ fuel ∧
        lexWords (trimAsciiWhitespace uncommented) (state.sourceLines + 1)
          limits.maximumDecimalCharacters = lexFrom (state.sourceLines + 1)
            limits.maximumDecimalCharacters length fuel uncommented := lexWords_trim
    rw [hlex] at hwords
    obtain ⟨texts, hlayout, hmeanings⟩ := layout_of_lexFrom hstripped hfuel hwords
    have hwritten : texts ≠ [] := by
      rintro rfl
      exact hvisible ((layout_nil_iff hstripped).1 hlayout)
    exact ⟨.block block, after, .block texts words block hwritten hlayout hmeanings hblock, hstep,
      hafter⟩

/-- What a line says is imported as a step of the drawing. -/
theorem importLine_complete (hs : Simulates addresses drawing state) (hsaid : LineMeaning raw said)
    (hstep : LineStep (addresses ++ said.addresses) drawing said after)
    (hdrawn : ∀ segment ∈ after.segments, ∃ curve, Drawn segment curve) :
    Follows (importLine limits state raw) (addresses ++ said.addresses) after := by
  have hnext : Simulates addresses drawing { state with sourceLines := state.sourceLines + 1 } :=
    { hs with }
  unfold importLine
  by_cases hlines : limits.maximumLines < state.sourceLines + 1
  · exact Or.inr ⟨.tooManyLines (state.sourceLines + 1) limits.maximumLines,
      Except.bind_eq_error.2 (Or.inl (Except.failIf_eq_error.2 ⟨hlines, rfl⟩)), trivial⟩
  rw [Except.bind_of_ok (Except.failIf_eq_ok.2 hlines)]
  by_cases hlong : limits.maximumLineBytes < (stripCarriageReturn raw).length
  · exact Or.inr ⟨.lineTooLong (state.sourceLines + 1) (stripCarriageReturn raw).length
      limits.maximumLineBytes,
      Except.bind_eq_error.2 (Or.inl (Except.failIf_eq_error.2 ⟨hlong, rfl⟩)), trivial⟩
  rw [Except.bind_of_ok (Except.failIf_eq_ok.2 hlong)]
  cases hsaid with
  | blank layout =>
    obtain ⟨text, hstripped, -⟩ := lexFrom_of_layout layout .nil
    have hstrip : stripComments (stripCarriageReturn raw) (state.sourceLines + 1) = .ok text :=
      stripFrom_of_stripped hstripped
    rw [Except.bind_of_ok hstrip, if_pos ((layout_nil_iff hstripped).1 layout)]
    cases hstep
    rw [Line.addresses, List.append_nil]
    exact Or.inl ⟨_, rfl, hnext⟩
  | envelope envelope =>
    obtain ⟨before, after, -, -, hstripped⟩ := envelope.stripped
    have hstrip : stripComments (stripCarriageReturn raw) (state.sourceLines + 1) =
        .ok (before ++ envelopeMark :: after) :=
      stripFrom_of_stripped hstripped
    have hmark := (envelopeLine_iff hstripped).1 envelope
    rw [Except.bind_of_ok hstrip, if_neg (by simp [hmark]), if_pos hmark]
    rw [Line.addresses, List.append_nil] at hstep ⊢
    exact Or.inl (importEnvelope_complete hnext hstep)
  | block texts words block written layout words_eq isBlock =>
    obtain ⟨text, hstripped, hlex⟩ := lexFrom_of_layout layout words_eq
    have hstrip : stripComments (stripCarriageReturn raw) (state.sourceLines + 1) = .ok text :=
      stripFrom_of_stripped hstripped
    obtain ⟨length, fuel, hfuel, hread⟩ : ∃ length fuel, visible text ≤ fuel ∧
        lexWords (trimAsciiWhitespace text) (state.sourceLines + 1)
          limits.maximumDecimalCharacters = lexFrom (state.sourceLines + 1)
            limits.maximumDecimalCharacters length fuel text := lexWords_trim
    have hwords := hlex (state.sourceLines + 1) limits.maximumDecimalCharacters length fuel hfuel
    rw [← hread] at hwords
    have hvisible : trimAsciiWhitespace text ≠ [] := fun hblank =>
      written (layout_nil_unique layout ((layout_nil_iff hstripped).2 hblank))
    have hmark : trimAsciiWhitespace text ≠ [envelopeMark] := fun hmark =>
      not_envelopeLine_of_layout layout ((envelopeLine_iff hstripped).2 hmark)
    rw [Except.bind_of_ok hstrip, if_neg hvisible, if_neg hmark]
    exact importBlock_complete hnext hwords isBlock hstep hdrawn

/-! ### Whole sources -/

theorem importLines_sound {raws : List (List UInt8)} (hs : Simulates addresses drawing state)
    (h : raws.foldlM (importLine limits) state = .ok state') :
    ∃ lines last, List.Forall₂ LineMeaning raws lines ∧
      Run Reads (addresses, drawing) lines last ∧ Simulates last.1 last.2 state' := by
  induction raws generalizing addresses drawing state with
  | nil =>
    cases h
    exact ⟨[], (addresses, drawing), .nil, .nil _, hs⟩
  | cons raw raws ih =>
    rw [List.foldlM_cons, Except.bind_eq_ok] at h
    obtain ⟨middle, hline, hlines⟩ := h
    obtain ⟨said, after, hsaid, hstep, hafter⟩ := importLine_sound hs hline
    obtain ⟨lines, last, hmeanings, hrun, hlast⟩ := ih hafter hlines
    exact ⟨said :: lines, last, .cons hsaid hmeanings, .cons ⟨rfl, hstep⟩ hrun, hlast⟩

omit [ExactCurves] [DecimalParser] in
/-- A step of the drawing keeps the segments drawn before. -/
theorem segments_initial {lines : List Line} {first last : List Address × Drawing}
    (h : Run Reads first lines last) : first.2.segments <+: last.2.segments := by
  induction h with
  | nil => exact List.prefix_rfl
  | @cons before middle _ _ _ head tail ih =>
    obtain ⟨words, drawing⟩ := before
    obtain ⟨words', drawing'⟩ := middle
    have hstep : drawing.segments <+: drawing'.segments := by
      cases head.2 <;> first | exact List.prefix_rfl | exact List.prefix_append _ _
    exact hstep.trans ih

theorem importLines_complete {raws : List (List UInt8)} {lines : List Line}
    {last : List Address × Drawing} (hs : Simulates addresses drawing state)
    (hmeanings : List.Forall₂ LineMeaning raws lines)
    (hrun : Run Reads (addresses, drawing) lines last)
    (hdrawn : ∀ segment ∈ last.2.segments, ∃ curve, Drawn segment curve) :
    Follows (raws.foldlM (importLine limits) state) last.1 last.2 := by
  induction hmeanings generalizing addresses drawing state with
  | nil =>
    rw [Run.nil_iff] at hrun
    cases hrun
    exact Or.inl ⟨state, rfl, hs⟩
  | @cons raw said raws lines hsaid hmeanings ih =>
    obtain ⟨⟨words, after⟩, ⟨hwords, hstep⟩, htail⟩ := Run.cons_iff.1 hrun
    cases hwords
    have hnow : ∀ segment ∈ after.segments, ∃ curve, Drawn segment curve :=
      fun segment hmem => hdrawn segment ((segments_initial htail).subset hmem)
    rw [List.foldlM_cons]
    have hline : Follows (importLine limits state raw) (addresses ++ said.addresses) after :=
      importLine_complete hs hsaid hstep hnow
    rcases hline with ⟨middle, hmiddle, hafter⟩ | ⟨error, herror, hlimit⟩
    · rw [Except.bind_of_ok hmiddle]
      exact ih hafter htail
    · exact Or.inr ⟨error, Except.bind_eq_error.2 (Or.inl herror), hlimit⟩

omit [DecimalParser] in
theorem simulates_initial : Simulates [] .empty .initial where
  units := rfl
  distance := rfl
  planeXy := rfl
  arcCenter := rfl
  motion := rfl
  position := rfl
  opened := rfl
  ended := rfl
  curves := .nil
  spans := rfl
  undrawn := fun _ => rfl

end Import

end Alumina.Cnc
