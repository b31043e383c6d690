import FenceSync.Proofs.CrlfReading
import FenceSync.Proofs.Encoding
import FenceSync.Proofs.FixedPoint

namespace FenceSync

/-!
# Blocks with CR LF in the place of LF

* `Surroundings.IsCrlfOf` are surroundings in which some files and outputs have CR LF in the place
  of LF.
* `Directive.lines_crlf` says that the same lines are fetched from them.
* `Snippet.outcome?_crlf` says that a block has the same outcome, with CR LF in a new interior.
-/

/-! ### Comments -/

namespace CommentStyle

theorem startsNewline_crlf {t : Text} (h : '\r' ∉ t) :
    startsNewline (Text.crlf t) = startsNewline t := by
  cases t with
  | nil => rfl
  | cons c t =>
    rw [List.mem_cons, not_or] at h
    by_cases hc : c = '\n'
    · rw [hc]
      rfl
    · have hother : ∀ u, startsNewline (c :: u) = false := by
        intro u
        unfold startsNewline
        split
        · next heq => exact absurd (List.cons.inj heq).1 hc
        · next heq => exact absurd (List.cons.inj heq).1.symm h.1
        · rfl
      rw [Text.crlf_cons hc, hother, hother]

theorem restOfLine?_crlf {t : Text} (h : '\r' ∉ t) :
    restOfLine? (Text.crlf t) = restOfLine? t := by
  rw [restOfLine?, restOfLine?, Text.dropWhile_crlf rfl, Text.takeWhile_crlf_eq rfl rfl,
    startsNewline_crlf (cr_notMem_dropWhile h _)]

theorem withoutNewline_eq (t : Text) :
    withoutNewline t = (Marker.beforeNewline? t).getD t := by
  rw [withoutNewline, Marker.beforeNewline?]
  cases Text.before? ['\r', '\n'] t <;> rfl

theorem withoutNewline_crlf {line : Text} (h : Text.IsLine line) :
    withoutNewline (Text.crlf line) = withoutNewline line := by
  rw [withoutNewline_eq, withoutNewline_eq, Marker.beforeNewline?_crlf h]
  obtain ⟨body, hlf, -, rfl | rfl⟩ := h
  · rw [Text.crlf_eq_self hlf]
  · have hsome : (Marker.beforeNewline? (body ++ ['\n'])).isSome = true := by
      rw [Marker.beforeNewline?, Text.before?_eq_some_iff.mpr rfl, Option.isSome_or]
      simp
    obtain ⟨t, ht⟩ := Option.isSome_iff_exists.mp hsome
    rw [ht]
    rfl

/-- The comment that opens a block reads the same in both forms. -/
theorem first?_crlf (style : CommentStyle) {code : Text} (h : '\r' ∉ code) :
    first? style (Text.crlf code) = first? style code := by
  rcases cases_opening? style with rfl | rfl | ⟨opening, hopen⟩
  · rfl
  · have hblank : (fun line => !Text.isBlank line) ∘ Text.crlf = fun line => !Text.isBlank line := by
      funext line
      simp [Text.isBlank_crlf]
    unfold first?
    simp only
    rw [Text.lines_crlf, List.find?_map, hblank]
    cases hline : (Text.lines code).find? fun line => !Text.isBlank line with
    | none => rfl
    | some line =>
      have hmem := Text.isLine_of_mem_lines h (List.mem_of_find?_eq_some hline)
      simp only [Option.map_some]
      rw [withoutNewline_crlf hmem]
  · obtain ⟨-, -, -, -, -, -, hin⟩ := opening?_spec hopen
    rw [first?_of_opening? hopen, first?_of_opening? hopen, Text.trimStart_crlf,
      Text.after?_crlf hin]
    cases hrest : Text.after? opening (Text.trimStart code) with
    | none => rfl
    | some rest =>
      have hcr : '\r' ∉ rest := by
        have hstart := cr_notMem_dropWhile h isSpace
        rw [← Text.trimStart, Text.eq_append_of_after? hrest] at hstart
        exact cr_notMem_of_append hstart
      exact restOfLine?_crlf hcr

end CommentStyle

/-- A block asks for the same in both forms. -/
theorem Snippet.demand_crlf {s : Snippet} (h : '\r' ∉ s.code) : s.crlf.demand = s.demand := by
  have htext : ∀ style, s.crlf.directiveText? style = s.directiveText? style := by
    intro style
    have hfirst := CommentStyle.first?_crlf style h
    rw [Snippet.directiveText?, Snippet.directiveText?, show s.crlf.marker = s.marker from rfl,
      show s.crlf.code = Text.crlf s.code from rfl, hfirst]
  unfold Snippet.demand
  simp only [htext]
  rfl

/-! ### Files and outputs -/

/-- Bytes of a text without CR, and the same bytes or those of the text with CR LF in the place of
    LF. -/
inductive Bytes.IsCrlfOf : Bytes → Bytes → Prop
  | same {t : Text} (h : '\r' ∉ t) : IsCrlfOf (Text.utf8 t) (Text.utf8 t)
  | crlf {t : Text} (h : '\r' ∉ t) : IsCrlfOf (Text.utf8 t) (Text.utf8 (Text.crlf t))

/-- What is read in both surroundings. -/
inductive ReadsAlike : Except FileError Bytes → Except FileError Bytes → Prop
  | content {bs bs' : Bytes} (h : bs.IsCrlfOf bs') : ReadsAlike (.ok bs) (.ok bs')
  | error (e : FileError) : ReadsAlike (.error e) (.error e)

/-- What a command does in both surroundings.  Only the outputs of successful commands differ. -/
inductive RunsAlike :
    Except ShellError CommandOutput → Except ShellError CommandOutput → Prop
  | success {bs bs' : Bytes} (h : bs.IsCrlfOf bs') (exitCode : Int) :
    RunsAlike (.ok ⟨bs, exitCode, true⟩) (.ok ⟨bs', exitCode, true⟩)
  | failure (bs : Bytes) (exitCode : Int) :
    RunsAlike (.ok ⟨bs, exitCode, false⟩) (.ok ⟨bs, exitCode, false⟩)
  | error (e : ShellError) : RunsAlike (.error e) (.error e)

/-- Files and successful outputs are texts without CR in the first surroundings, and some of them
    have CR LF in the place of LF in the second ones. -/
structure Surroundings.IsCrlfOf (env env' : Surroundings Id) : Prop where
  isFile : ∀ p, env'.isFile p = env.isFile p
  read : ∀ p, ReadsAlike (env.read p).run (env'.read p).run
  run : ∀ command dir, RunsAlike (env.run command dir).run (env'.run command dir).run

/-- Bytes are cut into the same lines in both forms, and no line holds a line feed. -/
theorem Bytes.IsCrlfOf.lines {bs bs' : Bytes} (h : bs.IsCrlfOf bs') :
    Text.splitOn (Bytes.newline bs').text (Bytes.lossyText bs') =
        Text.splitOn (Bytes.newline bs).text (Bytes.lossyText bs) ∧
      ∀ l ∈ Text.splitOn (Bytes.newline bs).text (Bytes.lossyText bs), '\n' ∉ l := by
  have hlf : ∀ t : Text, '\r' ∉ t →
      ∀ l ∈ Text.splitOn (Bytes.newline (Text.utf8 t)).text (Bytes.lossyText (Text.utf8 t)),
        '\n' ∉ l := by
    intro t ht l hl
    rw [Bytes.newline_utf8, Text.newline_eq_lf ht] at hl
    exact Text.lf_notMem_of_isPiece_lf (Text.isPiece_of_mem_splitOn .lf hl)
  cases h with
  | same h => exact ⟨rfl, hlf _ h⟩
  | @crlf t h =>
    refine ⟨?_, hlf _ h⟩
    by_cases hmem : '\n' ∈ t
    · rw [Bytes.newline_utf8, Bytes.newline_utf8, Bytes.lossyText_utf8, Bytes.lossyText_utf8,
        Text.newline_crlf hmem, Text.newline_eq_lf h, Text.splitOn_crlf]
    · rw [Text.crlf_eq_self hmem]

theorem linesOfFile_crlf {bs bs' : Bytes} (h : bs.IsCrlfOf bs') (range : Option LineRange) :
    linesOfFile range bs' = linesOfFile range bs := by
  rw [linesOfFile, h.lines.1, linesOfFile]

/-- Taking off white space brings no line feeds. -/
theorem lf_notMem_linesOfFile {bs bs' : Bytes} (h : bs.IsCrlfOf bs') (range : Option LineRange) :
    ∀ l ∈ linesOfFile range bs, '\n' ∉ l := by
  intro l hl
  rw [linesOfFile] at hl
  simp only [dedent, List.mem_map] at hl
  obtain ⟨l', hl', rfl⟩ := hl
  have hmem : l' ∈ Text.splitOn (Bytes.newline bs).text (Bytes.lossyText bs) :=
    List.mem_of_mem_take (List.mem_of_mem_drop hl')
  have hlf := h.lines.2 l' hmem
  split
  · simp
  · exact fun hc => hlf (List.mem_of_mem_drop hc)

section
variable {env env' : Surroundings Id} (henv : env.IsCrlfOf env') (o : Options)
include henv

theorem firstFile?_crlf (ps : List Path) : firstFile? env' ps = firstFile? env ps := by
  induction ps with
  | nil => rfl
  | cons p ps ih => rw [firstFile?, firstFile?, henv.isFile, ih]

/-- **The same lines are fetched** in both surroundings. -/
theorem Directive.lines_crlf (d : Directive) :
    (d.lines env' o).run.run = (d.lines env o).run.run := by
  cases d with
  | file path range =>
    rw [Directive.lines, Directive.lines, fileLines_run, fileLines_run, firstFile?_crlf henv]
    cases (firstFile? env (o.baseDirs.map fun dir => dir.join ⟨path⟩)).run with
    | none => rfl
    | some p =>
      simp only
      generalize hread : (env.read p).run = r
      generalize hread' : (env'.read p).run = r'
      -- The bytes may differ in their newlines, the lines do not.
      have halike := henv.read p
      rw [hread, hread'] at halike
      cases halike with
      | content h => simp only [linesOfFile_crlf h]
      | error e => rfl
  | command line =>
    rw [Directive.lines, Directive.lines, commandLines_run, commandLines_run]
    generalize hrun : (env.run line o.workingDir).run = r
    generalize hrun' : (env'.run line o.workingDir).run = r'
    have halike := henv.run line o.workingDir
    rw [hrun, hrun'] at halike
    cases halike with
    | success h exitCode => simp only [if_true, linesOfOutput, h.lines.1]
    | failure bs exitCode => rfl
    | error e => rfl

/-- No line holds a line feed. -/
theorem Directive.lf_notMem_lines {d : Directive} {ls : List Text}
    (h : (d.lines env o).run.run = .ok ls) : ∀ l ∈ ls, '\n' ∉ l := by
  cases d with
  | file path range =>
    rw [Directive.lines, fileLines_run] at h
    split at h
    · cases h
    · next p hp =>
      have halike := henv.read p
      split at h
      · cases h
      · next content hcontent =>
        rw [hcontent] at halike
        generalize (env'.read p).run = r' at halike
        cases h
        cases halike with
        | content hbytes => exact lf_notMem_linesOfFile hbytes range
  | command line =>
    rw [Directive.lines, commandLines_run] at h
    have halike := henv.run line o.workingDir
    split at h
    · cases h
    · next result hresult =>
      rw [hresult] at halike
      generalize (env'.run line o.workingDir).run = r' at halike
      cases halike with
      | success hbytes exitCode =>
        cases h
        exact hbytes.lines.2
      | failure bs exitCode => cases h

end

/-! ### New interiors -/

/-- The outcome with CR LF in the place of LF. -/
def Outcome.crlf : Outcome → Outcome
  | .resolved replacement lineCount => .resolved (Text.crlf replacement) lineCount
  | out => out

theorem Outcome.crlf_eq_self {out : Outcome} (h : out.isResolved = false) : out.crlf = out := by
  cases out with
  | resolved r n => cases h
  | _ => rfl

/-- Lines are embedded in the same pieces. -/
theorem embeddedPieces_crlf {ls : List Text} (h : ∀ l ∈ ls, '\n' ∉ l) :
    embeddedPieces .crlf ls = embeddedPieces .lf ls := by
  rw [embeddedPieces, Text.joinWith_crlf h, Text.trimEnd_crlf, Text.splitOn_crlf, embeddedPieces]

/-- The new interiors differ in their newlines only. -/
theorem Snippet.newInterior_crlf {s : Snippet} (hi : IsIndent s.fence.indent) {o : Options}
    {style : CommentStyle} {text : Text} {d : Directive} (hd : s.demand = .wanted style text d)
    {ls : List Text} (h : ∀ l ∈ ls, '\n' ∉ l) :
    s.crlf.newInterior .crlf o style text ls = Text.crlf (s.newInterior .lf o style text ls) := by
  have hpieces : s.crlf.newPieces .crlf o style text ls = s.newPieces .lf o style text ls := by
    rw [Snippet.newPieces, embeddedPieces_crlf h]
    rfl
  rw [Snippet.newInterior, hpieces, Snippet.newInterior]
  refine Text.joinLines_crlf fun p hp => ?_
  obtain ⟨q, hq, rfl⟩ := List.mem_map.mp hp
  rw [List.mem_append, not_or]
  refine ⟨hi.lf_notMem, ?_⟩
  rcases List.mem_append.mp hq with hq | hq
  · exact (Snippet.headerPieces_spec o hd hq).1
  · exact Text.lf_notMem_of_isPiece_lf (isPiece_of_mem_embeddedPieces .lf hq)

theorem ResolveError.map_crlf_tolerated? (o : Options) (e : ResolveError) :
    (e.tolerated? o).map Outcome.crlf = e.tolerated? o := by
  cases hout : e.tolerated? o with
  | none => rfl
  | some out =>
    rw [Option.map_some, Outcome.crlf_eq_self (ResolveError.isResolved_of_tolerated? o hout)]

/-- **A block has the same outcome in both forms**, with CR LF in the place of LF. -/
theorem Snippet.outcome?_crlf {env env' : Surroundings Id} (henv : env.IsCrlfOf env')
    (o : Options) {s : Snippet} (hi : IsIndent s.fence.indent) (hcode : '\r' ∉ s.code) :
    s.crlf.outcome? env' o Newline.crlf.text =
      (s.outcome? env o Newline.lf.text).map Outcome.crlf := by
  have hdemand := Snippet.demand_crlf hcode
  rw [Snippet.outcome?, Snippet.outcome?, Snippet.resolve_run, Snippet.resolve_run, hdemand]
  cases hd : s.demand with
  | settled out =>
    simp only [Option.map_some]
    rw [Outcome.crlf_eq_self (Snippet.isResolved_of_demand hd)]
  | invalid directive => exact (ResolveError.map_crlf_tolerated? o _).symm
  | wanted style text d =>
    simp only
    rw [Directive.lines_crlf henv]
    cases hl : (d.lines env o).run.run with
    | error e => exact (ResolveError.map_crlf_tolerated? o e).symm
    | ok ls =>
      have hls := Directive.lf_notMem_lines henv o hl
      have hnew := Snippet.newInterior_crlf hi (o := o) hd hls
      -- Whether the interior is up to date is asked of both forms.
      have hsame : Text.crlf (s.newInterior .lf o style text ls) = Text.crlf s.code ↔
          s.newInterior .lf o style text ls = s.code :=
        ⟨fun h => Text.crlf_injective h, fun h => by rw [h]⟩
      simp only
      rw [Snippet.settle_of_demand o .crlf (hdemand.trans hd), Snippet.settle_of_demand o .lf hd,
        embeddedPieces_crlf hls, hnew, show s.crlf.code = Text.crlf s.code from rfl]
      by_cases hany : (embeddedPieces .lf ls).any startsFence = true
      · rw [if_pos hany, if_pos hany]
        rfl
      · rw [if_neg hany, if_neg hany]
        by_cases heq : s.newInterior .lf o style text ls = s.code
        · rw [if_pos (hsame.mpr heq), if_pos heq]
          rfl
        · rw [if_neg (fun h => heq (hsame.mp h)), if_neg heq]
          rfl

end FenceSync
