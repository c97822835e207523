import Alumina.Cnc.Library
import Alumina.Graph.HostLibrary
import Alumina.Spec.CncRewriting

/-!
# The geometry of a CNC source

The import of a whole source: it succeeds exactly when the source can be read as a drawing whose
segments the curve library accepts, and the curves are then the drawing's.

## Key results

- `importExactCncGeometry_sound`: an imported path is the drawing the source says
- `importExactCncGeometry_complete`: a drawing that the source says is imported, up to limits
- `cncGeometry`: the reading, the ways to write a program and what is rejected
-/

namespace Alumina.Cnc

open Except (failIf)
open Alumina.Graph (Sha256)

/-! ## Connected drawings -/

/-- The segments form one path from the end of the last rapid. -/
structure Drawing.Connected (drawing : Drawing) : Prop where
  chain : drawing.segments.IsChain fun segment next => segment.finish = next.start
  first : ∀ segment, drawing.segments.head? = some segment → drawing.origin = some segment.start
  last : drawing.position = (drawing.segments.getLast?.map Segment.finish).or drawing.origin

theorem Drawing.connected_empty : Drawing.empty.Connected := ⟨.nil, nofun, rfl⟩

/-- Every line keeps the drawing connected. -/
theorem LineStep.connected {addresses : List Address} {drawing after : Drawing} {line : Line}
    (h : LineStep addresses drawing line after) (hc : drawing.Connected) : after.Connected := by
  cases h with
  | blank => exact hc
  | opens => exact { hc with }
  | closes => exact { hc with }
  | ends => exact { hc with }
  | sets => exact hc
  | places _ _ _ _ _ _ unplaced =>
    have hnone : drawing.segments = [] := by
      have hlast := hc.last
      rw [unplaced, eq_comm, Option.or_eq_none_iff, Option.map_eq_none_iff,
        List.getLast?_eq_none_iff] at hlast
      exact hlast.1
    exact ⟨hc.chain, by simp [hnone], by simp [hnone]⟩
  | moves _ _ _ _ _ _ _ undrawn => exact ⟨hc.chain, by simp [undrawn], by simp [undrawn]⟩
  | draws _ units distance motion start segment _ _ placed _ _ segmentOf =>
    have hstart : segment.start = start := by
      cases segmentOf <;> rfl
    have hlast := hc.last
    rw [placed] at hlast
    refine ⟨?_, ?_, by simp⟩
    · rw [List.isChain_append]
      refine ⟨hc.chain, .singleton _, ?_⟩
      intro before hbefore next hnext
      rw [Option.mem_def] at hbefore
      rw [hbefore] at hlast
      cases hnext
      cases hlast
      exact hstart.symm
    · intro first hfirst
      cases hsegments : drawing.segments with
      | nil =>
        rw [hsegments] at hfirst hlast
        cases hfirst
        rw [hstart]
        exact hlast.symm
      | cons head rest =>
        rw [hsegments] at hfirst
        cases hfirst
        exact hc.first _ (by rw [hsegments]; rfl)

theorem reads_connected {lines : List Line} {first last : List Address × Drawing}
    (h : Run Reads first lines last) (hc : first.2.Connected) : last.2.Connected := by
  have hstep : ∀ before line after, Reads before line after → before.2.Connected →
      after.2.Connected := fun _ _ _ hread => hread.2.connected
  exact h.invariant (p := fun state => state.2.Connected) hstep hc

/-! ## Readings -/

section Reading

variable [DecimalParser]

/-- A drawing that a source says from its first to its last line. -/
def Says (source : List UInt8) (drawing : Drawing) : Prop :=
  ∃ lines addresses, Written source lines ∧
    Run Reads ([], .empty) lines (addresses, drawing) ∧ drawing.ended = true ∧
      drawing.opened = false

variable {source source' : List UInt8} {drawing : Drawing}

omit [DecimalParser] in
/-- A run of the same lines draws the same. -/
theorem reads_unique {lines : List Line} {first last last' : List Address × Drawing}
    (h : Run Reads first lines last) (h' : Run Reads first lines last') : last = last' := by
  induction h with
  | nil => exact Run.nil_iff.1 h'
  | @cons before middle after line rest head tail ih =>
    obtain ⟨other, hother, hrest⟩ := Run.cons_iff.1 h'
    obtain ⟨words, drawn⟩ := middle
    obtain ⟨words', drawn'⟩ := other
    obtain ⟨rfl, hstep⟩ := head
    obtain ⟨rfl, hstep'⟩ := hother
    obtain rfl := hstep.unique hstep'
    exact ih hrest

/-- A source says one drawing at most. -/
theorem Says.unique [ExactCurves] {other : Drawing} (h : Says source drawing)
    (h' : Says source other) : drawing = other := by
  obtain ⟨lines, addresses, hwritten, hrun, -, -⟩ := h
  obtain ⟨lines', addresses', hwritten', hrun', -, -⟩ := h'
  have hunique : Relator.RightUnique LineMeaning := fun _ _ _ h h' => h.unique h'
  obtain rfl := hunique.forall₂ hwritten hwritten'
  exact congrArg Prod.snd (reads_unique hrun hrun')

/-- A program says the same however it is written. -/
theorem Says.rewritten [ExactCurves] (h : Says source drawing) (hrewritten : Rewritten source source') :
    Says source' drawing := by
  obtain ⟨lines, addresses, hwritten, hrun, hended, hclosed⟩ := h
  obtain ⟨lines', hwritten', hlines⟩ := hrewritten.2.written hwritten
  have hagree : Agree [] [] := fun _ _ _ _ _ => rfl
  obtain ⟨words, hrun'⟩ := reads_related hlines hagree hrun
  exact ⟨lines', words, hwritten', hrun', hended, hclosed⟩

end Reading

/-! ## The import -/

section Import

variable [ExactCurves] [DecimalParser] [Sha256] {source : List UInt8}
  {limits : CncGeometryImportLimits} {imported : ImportedCncGeometry} {drawing : Drawing}

omit [DecimalParser] [Sha256] in
theorem validateSourceBytes_eq_ok :
    validateSourceBytes source = .ok () ↔ ∀ byte ∈ source, isSourceByte byte := by
  rw [validateSourceBytes, Except.forEach_eq_ok]
  constructor
  · intro h byte hbyte
    obtain ⟨i, hi, rfl⟩ := List.mem_iff_getElem.1 hbyte
    have hcheck := h (source[i], i) (List.mk_mem_zipIdx_iff_getElem?.2 (by simp))
    simpa using hcheck
  · rintro h ⟨byte, i⟩ hmem
    have hbyte := h byte (List.fst_mem_of_mem_zipIdx hmem)
    simpa using hbyte

/-- An imported path is the drawing the source says. -/
theorem importExactCncGeometry_sound (h : importExactCncGeometry source limits = .ok imported) :
    ∃ drawing, Says source drawing ∧ drawing.Connected ∧
      List.Forall₂ Drawn drawing.segments imported.path ∧
        imported.report.spans.map (·.curveIndex) = List.range imported.path.length := by
  simp only [importExactCncGeometry, Except.bind_eq_ok, Except.exists_unit, Except.failIf_eq_ok,
    Option.okOr_eq_ok, Except.mapError_eq_ok, Except.pure_eq_ok] at h
  obtain ⟨-, -, state, hlines, endLine, hend, hclosed, first, -, last, -, -, rfl⟩ := h
  obtain ⟨lines, ⟨addresses, drawing⟩, hwritten, hrun, hs⟩ :=
    importLines_sound simulates_initial hlines
  have hended : drawing.ended = true := by
    rw [← hs.ended, hend]
    rfl
  have hopened : drawing.opened = false := by
    rw [← hs.opened]
    exact Bool.eq_false_iff.2 hclosed
  exact ⟨drawing, ⟨lines, addresses, hwritten, hrun, hended, hopened⟩,
    reads_connected hrun Drawing.connected_empty, hs.curves, hs.spans⟩

omit [DecimalParser] [Sha256] in
/-- A segment is drawn as one curve. -/
theorem drawn_unique : Relator.RightUnique (Drawn : Segment → ExactCurves.Curve → Prop) := by
  intro segment curve curve' h h'
  cases segment with
  | line => exact Except.ok.inj (h.symm.trans h')
  | arc => exact Except.ok.inj (h.symm.trans h')

/-- A drawing that a source says is imported unless a limit is exceeded. -/
theorem importExactCncGeometry_complete {curves : List ExactCurves.Curve}
    (hbytes : ∀ byte ∈ source, isSourceByte byte) (hsaid : Says source drawing)
    (hcurves : List.Forall₂ Drawn drawing.segments curves) (hne : curves ≠ [])
    (hpath : ExactCurves.validatePath curves = .ok ()) :
    (∃ imported, importExactCncGeometry source limits = .ok imported ∧ imported.path = curves) ∨
      ∃ error, importExactCncGeometry source limits = .error error ∧ error.IsLimit := by
  obtain ⟨lines, addresses, hwritten, hrun, hended, hclosed⟩ := hsaid
  unfold importExactCncGeometry
  by_cases hlarge : limits.maximumSourceBytes < source.length
  · exact Or.inr ⟨.sourceTooLarge source.length limits.maximumSourceBytes,
      Except.bind_eq_error.2 (Or.inl (Except.failIf_eq_error.2 ⟨hlarge, rfl⟩)), trivial⟩
  rw [Except.bind_of_ok (Except.failIf_eq_ok.2 hlarge),
    Except.bind_of_ok (validateSourceBytes_eq_ok.2 hbytes)]
  have hdrawn : ∀ segment ∈ drawing.segments, ∃ curve, Drawn segment curve := by
    intro segment hsegment
    obtain ⟨curve, -, hcurve⟩ := hcurves.exists_of_mem_left hsegment
    exact ⟨curve, hcurve⟩
  have hlines : Follows ((source.splitOn lineFeed).foldlM (importLine limits) .initial) addresses
      drawing := importLines_complete simulates_initial hwritten hrun hdrawn
  rcases hlines with ⟨state, hstate, hs⟩ | ⟨error, herror, hlimit⟩
  · have hsame : state.curves = curves := drawn_unique.forall₂ hs.curves hcurves
    obtain ⟨endLine, hend⟩ : ∃ endLine, state.programEndLine = some endLine :=
      Option.isSome_iff_exists.1 (hs.ended.trans hended)
    have hopen : ¬ state.envelopeOpen = true := by
      rw [hs.opened, hclosed]
      simp
    refine Or.inl ?_
    rw [Except.bind_of_ok hstate, Except.bind_of_ok (Option.okOr_eq_ok.2 hend),
      Except.bind_of_ok (Except.failIf_eq_ok.2 hopen), hsame,
      Except.bind_of_ok (Option.okOr_eq_ok.2 (List.head?_eq_some_head hne)),
      Except.bind_of_ok (Option.okOr_eq_ok.2 (List.getLast?_eq_some_getLast hne)),
      Except.bind_of_ok (Except.mapError_eq_ok.2 hpath)]
    exact ⟨_, rfl, rfl⟩
  · exact Or.inr ⟨error, Except.bind_eq_error.2 (Or.inl herror), hlimit⟩

/-- What an import checks of its result. -/
theorem path_of_import (h : importExactCncGeometry source limits = .ok imported) :
    imported.path ≠ [] ∧ ExactCurves.validatePath imported.path = .ok () := by
  simp only [importExactCncGeometry, Except.bind_eq_ok, Except.exists_unit, Except.failIf_eq_ok,
    Option.okOr_eq_ok, Except.mapError_eq_ok, Except.pure_eq_ok] at h
  obtain ⟨-, -, state, -, endLine, -, -, first, hfirst, last, -, hpath, rfl⟩ := h
  refine ⟨?_, hpath⟩
  rintro hnil
  rw [show state.curves = [] from hnil] at hfirst
  cases hfirst

/-! ## Unsupported words -/

/-- Words outside the supported set. -/
inductive Unsupported (words : List ParsedWord) : Prop
  | word (word : ParsedWord) (mem : word ∈ words) (unnamed : addressOf word = none)
  | machine (word : ParsedWord) (code : ℚ) (mem : word ∈ words)
      (named : addressOf word = some (.machine code)) (other : code ≠ 2 ∧ code ≠ 30)
  | combination (conflict : ¬ ((words.filterMap addressOf).map Address.group).Nodup)

omit [ExactCurves] [DecimalParser] [Sha256] in
theorem Unsupported.not_isBlock {words : List ParsedWord} {addresses : List Address}
    (h : Unsupported words) : ¬ IsBlock words addresses := by
  rintro ⟨hnamed, hsupported, hsingle⟩
  cases h with
  | word word mem unnamed =>
    obtain ⟨address, -, haddress⟩ := hnamed.exists_of_mem_left mem
    rw [unnamed] at haddress
    cases haddress
  | machine word code mem named other =>
    obtain ⟨address, hmem, haddress⟩ := hnamed.exists_of_mem_left mem
    rw [named, Option.some.injEq] at haddress
    rcases hsupported code (haddress ▸ hmem) with htwo | hthirty
    · exact other.1 htwo
    · exact other.2 hthirty
  | combination conflict =>
    have hsame : words.filterMap addressOf = addresses := by
      clear hsupported hsingle conflict
      induction hnamed with
      | nil => rfl
      | cons hhead _ ih => rw [List.filterMap_cons, hhead, ih]
    rw [hsame] at conflict
    exact conflict hsingle

/-- What a source does not say is not imported. -/
theorem error_of_not_says (h : ∀ drawing, ¬ Says source drawing) :
    ∃ error, importExactCncGeometry source limits = .error error := by
  cases himport : importExactCncGeometry source limits with
  | error error => exact ⟨error, rfl⟩
  | ok imported =>
    obtain ⟨drawing, hsaid, -⟩ := importExactCncGeometry_sound himport
    exact absurd hsaid (h drawing)

omit [Sha256] in
/-- A line with unsupported words says nothing. -/
theorem not_says_of_unsupported {raw : List UInt8} {texts : List (List UInt8)}
    {words : List ParsedWord} (hraw : raw ∈ source.splitOn lineFeed)
    (hlayout : Layout texts (stripCarriageReturn raw))
    (hwords : List.Forall₂ WordMeaning texts words) (h : Unsupported words) :
    ¬ Says source drawing := by
  rintro ⟨lines, addresses, hwritten, -⟩
  obtain ⟨said, -, hsaid⟩ := hwritten.exists_of_mem_left hraw
  cases hsaid with
  | blank layout =>
    cases layout_nil_unique hlayout layout
    cases hwords
    have hblank : IsBlock [] [] := ⟨.nil, by simp, by simp⟩
    exact h.not_isBlock hblank
  | envelope envelope => exact not_envelopeLine_of_layout hlayout envelope
  | block texts' words' addresses' _ layout words_eq isBlock =>
    have hunique : Relator.RightUnique WordMeaning := fun _ _ _ h h' => h.unique h'
    obtain rfl := hunique.forall₂ (meanings_of_layout layout words_eq hlayout) hwords
    exact h.not_isBlock isBlock

/-! ## The claim of the import -/

omit [DecimalParser] [Sha256] in
/-- A curve runs between the ends of its segment. -/
theorem Drawn.ends [LawfulExactCurves] {segment : Segment} {curve : ExactCurves.Curve}
    (h : Drawn segment curve) :
    ExactCurves.start curve = segment.start ∧ ExactCurves.finish curve = segment.finish := by
  cases segment with
  | line => exact LawfulExactCurves.lineSegment_ends h
  | arc => exact LawfulExactCurves.circularArc_ends h

/-- Curves that form one path from the end of the last rapid. -/
structure IsPath (origin : Option Point) (curves : List ExactCurves.Curve) : Prop where
  chain : curves.IsChain fun curve next => ExactCurves.finish curve = ExactCurves.start next
  first : ∀ curve, curves.head? = some curve → origin = some (ExactCurves.start curve)

omit [DecimalParser] [Sha256] in
/-- Curves drawn for connected segments form one path. -/
theorem Drawing.Connected.isPath [LawfulExactCurves] {curves : List ExactCurves.Curve}
    (h : drawing.Connected) (hcurves : List.Forall₂ Drawn drawing.segments curves) :
    IsPath drawing.origin curves where
  chain := by
    apply hcurves.isChain _ h.chain
    intro segment curve next later hcurve hlater hends
    rw [hcurve.ends.2, hlater.ends.1, hends]
  first := by
    intro curve hhead
    obtain ⟨segment, hsegment, hcurve⟩ :
        ∃ segment, drawing.segments.head? = some segment ∧ Drawn segment curve := by
      generalize drawing.segments = segments at hcurves
      cases hcurves with
      | nil => cases hhead
      | @cons segment _ _ _ hfirst _ =>
        cases hhead
        exact ⟨segment, rfl, hfirst⟩
    rw [h.first segment hsegment, hcurve.ends.1]

/-- A CNC import denotes its program. The curves of an accepted source are those of the one
drawing the source says, one connected path with one span for each curve. However the program is
written, it is accepted up to limits and gives the same curves. A source that says nothing is
rejected, and one with an unsupported word says nothing. -/
theorem cncGeometry [LawfulExactCurves] :
    (∀ (source : List UInt8) (limits : CncGeometryImportLimits) (imported : ImportedCncGeometry),
      importExactCncGeometry source limits = .ok imported →
        ∃ drawing, Says source drawing ∧ (∀ other, Says source other → drawing = other) ∧
          List.Forall₂ Drawn drawing.segments imported.path ∧
            IsPath drawing.origin imported.path ∧
              imported.report.spans.map (·.curveIndex) = List.range imported.path.length) ∧
    (∀ (source source' : List UInt8) (limits limits' : CncGeometryImportLimits)
      (imported : ImportedCncGeometry),
      importExactCncGeometry source limits = .ok imported → Rewritten source source' →
        (∃ imported', importExactCncGeometry source' limits' = .ok imported' ∧
          imported'.path = imported.path) ∨
          ∃ error, importExactCncGeometry source' limits' = .error error ∧ error.IsLimit) ∧
    (∀ (source : List UInt8) (limits : CncGeometryImportLimits),
      (∀ drawing, ¬ Says source drawing) →
        ∃ error, importExactCncGeometry source limits = .error error) ∧
    ∀ (source raw : List UInt8) (texts : List (List UInt8)) (words : List ParsedWord),
      raw ∈ source.splitOn lineFeed → Layout texts (stripCarriageReturn raw) →
        List.Forall₂ WordMeaning texts words → Unsupported words →
          ∀ drawing, ¬ Says source drawing := by
  refine ⟨?_, ?_, ?_, ?_⟩
  · intro source limits imported h
    obtain ⟨drawing, hsaid, hconnected, hcurves, hspans⟩ := importExactCncGeometry_sound h
    exact ⟨drawing, hsaid, fun other hother => hsaid.unique hother, hcurves,
      hconnected.isPath hcurves, hspans⟩
  · intro source source' limits limits' imported h hrewritten
    obtain ⟨drawing, hsaid, -, hcurves, -⟩ := importExactCncGeometry_sound h
    obtain ⟨hne, hpath⟩ := path_of_import h
    exact importExactCncGeometry_complete hrewritten.1 (hsaid.rewritten hrewritten) hcurves hne
      hpath
  · intro source limits h
    exact error_of_not_says h
  · intro source raw texts words hraw hlayout hwords h drawing
    exact not_says_of_unsupported hraw hlayout hwords h

end Import

/-! ## A program -/

section Sample

open Alumina.Cnc.Library Alumina.Graph.HostLibrary

/-- A line and an arc between the marks of an envelope. -/
def sampleSource : List UInt8 :=
  ("%\n(all modal state is explicit)\nG21 G90 G17 G91.1\nN10 G0 X0 Y0\nN20 G1 X4 Y0\n" ++
    "N30 G2 X8 Y0 I2 J0\nM30\n%\n").toList.map fun c => UInt8.ofNat c.toNat

def sampleLimits : CncGeometryImportLimits := ⟨1024, 64, 16, 32, 4, 8⟩

def sampleCurves : List Curve := [⟨⟨0, 0⟩, ⟨4, 0⟩, none⟩, ⟨⟨4, 0⟩, ⟨8, 0⟩, some (⟨6, 0⟩, true)⟩]

/-- The sample is imported as a line and an arc about its exact centre, and says their drawing. -/
theorem cncGeometry_sample : ∃ (imported : ImportedCncGeometry) (drawing : Drawing),
    importExactCncGeometry sampleSource sampleLimits = .ok imported ∧
      imported.path = sampleCurves ∧ Says sampleSource drawing ∧ IsPath drawing.origin imported.path := by
  have hpath : @Eq (Option (List Curve))
      ((importExactCncGeometry sampleSource sampleLimits).toOption.map (·.path))
      (some sampleCurves) := by decide +kernel
  rw [Option.map_eq_some_iff] at hpath
  obtain ⟨imported, himported, hcurves⟩ := hpath
  rw [Except.toOption_eq_some] at himported
  obtain ⟨drawing, hsaid, -, -, hconnected, -⟩ :=
    cncGeometry.1 sampleSource sampleLimits imported himported
  exact ⟨imported, drawing, himported, hcurves, hsaid, hconnected⟩

end Sample

end Alumina.Cnc
