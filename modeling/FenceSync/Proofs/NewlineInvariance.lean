import FenceSync.Proofs.CrlfResolution
import FenceSync.Proofs.Effort
import FenceSync.Proofs.Rescan

namespace FenceSync

/-!
# Embedding does not depend on the newline

A document with CR LF in the place of LF is embedded like the document with LF, wherever files and
outputs have CR LF in the place of LF.

* `forall₂_crlf` says that the blocks have the same outcomes, and `reportsOn_crlf` that they lie on
  the same lines.
* `embed_crlf` is the full statement, for documents that can be searched in both forms or in none.
* `embed_crlf_gives_up` shows that there are others: CR LF makes a text longer, and the search for
  its blocks may have to give up.
-/

/-! ### Results with CR LF in the place of LF -/

/-- The report with CR LF in the place of LF. -/
def BlockReport.crlf (b : BlockReport) : BlockReport := { b with outcome := b.outcome.crlf }

/-- The result with CR LF in the place of LF. -/
def EmbedResult.crlf (r : EmbedResult) : EmbedResult :=
  ⟨Text.crlf r.content, r.blocks.map BlockReport.crlf⟩

theorem Outcome.interior_crlf (out : Outcome) (t : Text) :
    out.crlf.interior (Text.crlf t) = Text.crlf (out.interior t) := by
  cases out <;> rfl

theorem splice_crlf (ss : List Section) (outs : List Outcome) :
    splice (ss.map Section.crlf) (outs.map Outcome.crlf) = Text.crlf (splice ss outs) := by
  induction ss generalizing outs with
  | nil => rfl
  | cons s ss ih =>
    cases outs with
    | nil => rfl
    | cons out outs =>
      rw [List.map_cons, List.map_cons, splice_cons, splice_cons, Text.crlf_append,
        Text.crlf_append, ih, ← Outcome.interior_crlf]
      rfl

/-- Blocks lie on the same lines. -/
theorem reportsOn_crlf (before : Text) (ss : List Section) (outs : List Outcome) :
    reportsOn (Block.listFrom Newline.crlf.text (Text.crlf before) (ss.map Section.crlf))
        (outs.map Outcome.crlf) =
      (reportsOn (Block.listFrom Newline.lf.text before ss) outs).map BlockReport.crlf := by
  induction ss generalizing before outs with
  | nil => rfl
  | cons s ss ih =>
    cases outs with
    | nil => rfl
    | cons out outs =>
      -- A line number counts newlines in front of a place, which is the same place in both forms.
      have htext : Text.crlf before ++ s.crlf.lead ++ s.crlf.code =
          Text.crlf (before ++ s.lead ++ s.code) := by
        simp [Section.crlf, Snippet.crlf]
      have hopened : Text.crlf before ++ s.crlf.lead = Text.crlf (before ++ s.lead) := by
        simp [Section.crlf]
      have hclosed : Text.crlf (before ++ s.lead) ++ s.crlf.code =
          Text.crlf (before ++ s.lead ++ s.code) := by
        rw [← htext, hopened]
      rw [List.map_cons, List.map_cons, Block.listFrom, Block.listFrom, reportsOn_cons,
        reportsOn_cons, List.map_cons, htext, ih]
      congr 1
      simp only [Block.ofSection, hopened, hclosed, Text.occurrences_crlf, BlockReport.crlf]

/-! ### Outcomes -/

/-- **All blocks have the same outcomes**, with CR LF in the place of LF. -/
theorem forall₂_crlf {env env' : Surroundings Id} (henv : env.IsCrlfOf env') (o : Options)
    {ss : List Section} (hss : ∀ s ∈ ss, IsIndent s.fence.indent ∧ '\r' ∉ s.code)
    {outs' : List Outcome} :
    List.Forall₂ (fun s out => s.toSnippet.outcome? env' o Newline.crlf.text = some out)
        (ss.map Section.crlf) outs' ↔
      ∃ outs, List.Forall₂ (fun s out => s.toSnippet.outcome? env o Newline.lf.text = some out)
        ss outs ∧ outs' = outs.map Outcome.crlf := by
  induction ss generalizing outs' with
  | nil =>
    constructor
    · intro h
      cases h
      exact ⟨[], .nil, rfl⟩
    · rintro ⟨outs, h, rfl⟩
      cases h
      exact .nil
  | cons s ss ih =>
    have hss' : ∀ s' ∈ ss, IsIndent s'.fence.indent ∧ '\r' ∉ s'.code :=
      fun s' hs' => hss s' (List.mem_cons_of_mem _ hs')
    obtain ⟨hi, hcode⟩ := hss s (by simp)
    have hs := Snippet.outcome?_crlf henv o hi hcode
    constructor
    · intro h
      cases h with
      | cons hhead hrest =>
        obtain ⟨outs, houts, rfl⟩ := (ih hss').mp hrest
        have hout := hs.symm.trans hhead
        rw [Option.map_eq_some_iff] at hout
        obtain ⟨out, hout, rfl⟩ := hout
        exact ⟨out :: outs, .cons hout houts, rfl⟩
    · rintro ⟨outs, h, rfl⟩
      cases h with
      | cons hhead hrest =>
        refine .cons ?_ ((ih hss').mpr ⟨_, hrest, rfl⟩)
        refine hs.trans ?_
        rw [hhead]
        rfl

/-! ### Documents -/

/-- A document without line feeds has no blocks. -/
theorem Document.sections_eq_nil {t : Text} (h : '\n' ∉ t) : (Document.ofText t).sections = [] := by
  rw [List.eq_nil_iff_forall_not_mem]
  intro s hs
  have hlead := List.mem_of_getLast? (Document.ofText_spec hs).2.2
  exact h (Document.mem_of_mem_section hs (List.mem_append_left _ hlead))

/-- Without blocks there is nothing to do. -/
theorem embed_of_no_sections (env : Surroundings Id) (o : Options) (path : Text) {markdown : Text}
    (hscan : Search.givesUp markdown = false) (h : (Document.ofText markdown).sections = []) :
    (embed env o path markdown).run.run = .ok ⟨markdown, []⟩ := by
  refine (embed_eq_ok_iff env o path).mpr ⟨hscan, [], ?_, ?_⟩
  · rw [h]
    exact .nil
  · have htext := Document.text_ofText markdown
    rw [Document.text, Document.textWith, h] at htext
    rw [h]
    simpa [splice, reportsOn] using htext.symm

/-- Nor does the form matter then. -/
theorem embed_crlf_of_no_lf (env env' : Surroundings Id) (o : Options) (path : Text)
    {markdown : Text} (hlf : '\n' ∉ markdown) (r' : EmbedResult) :
    (embed env' o path (Text.crlf markdown)).run.run = .ok r' ↔
      ∃ r, (embed env o path markdown).run.run = .ok r ∧ r' = r.crlf := by
  have hsections := Document.sections_eq_nil hlf
  rw [Text.crlf_eq_self hlf]
  cases hscan : Search.givesUp markdown with
  | true =>
    have hfails : ∀ (env : Surroundings Id) r, (embed env o path markdown).run.run ≠ .ok r := by
      intro env r h
      have hends := ((embed_eq_ok_iff env o path).mp h).1
      rw [hscan] at hends
      cases hends
    exact iff_of_false (hfails env' r') fun ⟨r, hr, _⟩ => hfails env r hr
  | false =>
    have hsame : EmbedResult.crlf ⟨markdown, []⟩ = ⟨markdown, []⟩ := by
      rw [EmbedResult.crlf, Text.crlf_eq_self hlf]
      rfl
    rw [embed_of_no_sections env' o path hscan hsections,
      embed_of_no_sections env o path hscan hsections]
    constructor
    · intro h
      cases h
      exact ⟨_, rfl, hsame.symm⟩
    · rintro ⟨r, hr, rfl⟩
      cases hr
      rw [hsame]

/-- The result of embedding a document, with CR LF in the place of LF. -/
theorem EmbedResult.crlf_mk (d : Document) (outs : List Outcome) :
    EmbedResult.crlf ⟨splice d.sections outs ++ d.rest,
        reportsOn (Block.listFrom Newline.lf.text [] d.sections) outs⟩ =
      ⟨splice d.crlf.sections (outs.map Outcome.crlf) ++ d.crlf.rest,
        reportsOn (Block.listFrom Newline.crlf.text [] d.crlf.sections)
          (outs.map Outcome.crlf)⟩ := by
  rw [EmbedResult.crlf, Text.crlf_append, ← splice_crlf, ← reportsOn_crlf]
  rfl

/-- **Embedding does not depend on the newline.**  A document without CR is embedded in one form iff
    it is embedded in the other one, and the results differ in their newlines only: the blocks lie
    on the same lines and have the same outcomes, with CR LF in the place of LF in new interiors.
    Any of the files and of the outputs may have CR LF in the place of LF as well.

    The search for blocks has to end in both forms, or in neither. -/
theorem embed_crlf {env env' : Surroundings Id} (henv : env.IsCrlfOf env') (o : Options)
    (path : Text) {markdown : Text} (hcr : '\r' ∉ markdown)
    (hscan : Search.givesUp (Text.crlf markdown) = Search.givesUp markdown) (r' : EmbedResult) :
    (embed env' o path (Text.crlf markdown)).run.run = .ok r' ↔
      ∃ r, (embed env o path markdown).run.run = .ok r ∧ r' = r.crlf := by
  by_cases hlf : '\n' ∈ markdown
  · have hss : ∀ s ∈ (Document.ofText markdown).sections,
        IsIndent s.fence.indent ∧ '\r' ∉ s.code :=
      fun s hs => ⟨(Document.ofText_spec hs).1, Document.cr_notMem_code hcr hs⟩
    -- Without CR the newline is LF, and with a line feed it is CR LF in the other form.
    rw [embed_eq_ok_iff, Document.ofText_crlf hcr, Text.newline_crlf hlf, hscan]
    constructor
    · rintro ⟨hends, outs', houts', rfl⟩
      obtain ⟨outs, houts, rfl⟩ := (forall₂_crlf henv o hss).mp houts'
      refine ⟨_, (embed_eq_ok_iff env o path).mpr ⟨hends, outs, ?_, rfl⟩, ?_⟩
      · rwa [Text.newline_eq_lf hcr]
      · rw [Text.newline_eq_lf hcr]
        exact (EmbedResult.crlf_mk _ outs).symm
    · rintro ⟨r, hr, rfl⟩
      obtain ⟨hends, outs, houts, rfl⟩ := (embed_eq_ok_iff env o path).mp hr
      rw [Text.newline_eq_lf hcr] at houts ⊢
      exact ⟨hends, outs.map Outcome.crlf, (forall₂_crlf henv o hss).mpr ⟨outs, houts, rfl⟩,
        EmbedResult.crlf_mk _ outs⟩
  · exact embed_crlf_of_no_lf env env' o path hlf r'

/-- A file with CR LF fills a document with CR LF like a file with LF fills one with LF. -/
theorem embed_crlf_comment :
    let o := Options.inDir ⟨['/']⟩
    let env := Surroundings.constant "x\n".toList
    let env' := Surroundings.constant "x\r\n".toList
    let r' : EmbedResult := ⟨"```py\r\n# a.py\r\n\r\nx\r\n```\r\n".toList,
      [⟨2, 3, .resolved "# a.py\r\n\r\nx\r\n".toList 1⟩]⟩
    env.IsCrlfOf env' ∧ ∃ r, (embed env o [] "```py\n# a.py\n```\n".toList).run.run = .ok r ∧
      r' = r.crlf := by
  intro o env env' r'
  have hbytes : (Text.utf8 "x\n".toList).IsCrlfOf (Text.utf8 "x\r\n".toList) :=
    .crlf (t := "x\n".toList) (by decide)
  have henv : env.IsCrlfOf env' :=
    ⟨fun _ => rfl, fun _ => .content hbytes, fun _ _ => .success hbytes 0⟩
  have hrun : (embed env' o [] (Text.crlf "```py\n# a.py\n```\n".toList)).run.run = .ok r' := by
    decide
  have hcr : '\r' ∉ "```py\n# a.py\n```\n".toList := by decide
  have hembed := embed_crlf henv o [] hcr (by decide) r'
  exact ⟨henv, hembed.mp hrun⟩

/-! ### Texts that are too long with CR LF -/

/-- The lines of unclosed fences, and the empty lines behind them. -/
theorem mem_lines_unclosed {nl : Newline} {n m : Nat} {line : Text}
    (h : line ∈ Text.lines (Search.unclosed nl n m)) :
    line = Search.unclosedLine nl ∨ line = nl.text := by
  induction m with
  | zero =>
    rw [Search.unclosed] at h
    induction n with
    | zero => cases h
    | succ n ih =>
      have hcut := Text.lines_append_newline nl [] (Search.emptyLines nl n)
      have hfirst : Text.lines ([] ++ nl.text) = [nl.text] := by cases nl <;> rfl
      rw [List.nil_append] at hcut hfirst
      rw [Search.emptyLines, hcut, hfirst] at h
      rcases List.mem_append.mp h with h | h
      · exact .inr (List.mem_singleton.mp h)
      · exact ih h
  | succ m ih =>
    have hcut := Text.lines_append_newline nl ['\x60', '\x60', '\x60', '\x60']
      (Search.unclosed nl n m)
    have hfirst : Text.lines (['\x60', '\x60', '\x60', '\x60'] ++ nl.text) =
        [Search.unclosedLine nl] := by
      cases nl <;> rfl
    rw [Search.unclosed, show Search.unclosedLine nl = ['\x60', '\x60', '\x60', '\x60'] ++ nl.text
      from rfl, hcut, hfirst] at h
    rcases List.mem_append.mp h with h | h
    · exact .inl (List.mem_singleton.mp h)
    · exact ih h

/-- Unclosed fences are no blocks. -/
theorem sections_unclosed (nl : Newline) (n m : Nat) :
    (Document.ofText (Search.unclosed nl n m)).sections = [] := by
  have hunpaired : Unpaired (Text.lines (Search.unclosed nl n m)) [] := by
    intro pre op post hls f hf line hline
    rw [List.append_nil] at hline
    have hopen : op = Search.unclosedLine nl ∨ op = nl.text :=
      mem_lines_unclosed (by rw [hls]; simp)
    have hclose : line = Search.unclosedLine nl ∨ line = nl.text :=
      mem_lines_unclosed (by rw [hls]; simp [hline])
    -- A line that opens a fence has four backticks, and none that closes one has.
    have hindent : f.indent = [] := by
      rw [← Fence.ofLine?_eq_some_iff] at hf
      rcases hopen with rfl | rfl
      · cases nl <;> (cases hf; rfl)
      · cases nl <;> cases hf
    rw [hindent]
    rcases hclose with rfl | rfl <;> cases nl <;> decide
  have hd : Document.ofText (Search.unclosed nl n m) = Document.ofPairs .absent [] [] _ :=
    Document.ofLines_greedy (.done hunpaired)
  rw [hd]
  rfl

theorem cr_notMem_unclosed (n m : Nat) : '\r' ∉ Search.unclosed .lf n m := by
  intro h
  rw [← Text.flatten_lines (Search.unclosed .lf n m), List.mem_flatten] at h
  obtain ⟨line, hline, hcr⟩ := h
  rcases mem_lines_unclosed hline with rfl | rfl <;> exact absurd hcr (by decide)

/-- **The search may give up in one form only.**  Fences that are never closed are followed to the
    end of the text, and that is further away with CR LF. -/
theorem embed_crlf_gives_up :
    let o := Options.inDir ⟨['/']⟩
    let env := Surroundings.constant []
    let t := Search.unclosed .lf 17500 400
    env.IsCrlfOf env ∧ '\r' ∉ t ∧ (embed env o [] t).run.run = .ok ⟨t, []⟩ ∧
      ¬ ∃ r', (embed env o [] (Text.crlf t)).run.run = .ok r' := by
  intro o env t
  have hbytes : (Text.utf8 []).IsCrlfOf (Text.utf8 []) := .same (t := []) (by simp)
  have hlf : Search.givesUp t = false := by
    rw [Search.givesUp_of_costs (Search.costs_unclosed _ .lf 17500 400)]
    decide +kernel
  have hcrlf : Search.givesUp (Text.crlf t) = true := by
    rw [Search.crlf_unclosed, Search.givesUp_of_costs (Search.costs_unclosed _ .crlf 17500 400)]
    decide +kernel
  refine ⟨⟨fun _ => rfl, fun _ => .content hbytes, fun _ _ => .success hbytes 0⟩,
    cr_notMem_unclosed 17500 400,
    embed_of_no_sections env o [] hlf (sections_unclosed .lf 17500 400), ?_⟩
  rintro ⟨r', h⟩
  have hscan := ((embed_eq_ok_iff env o []).mp h).1
  rw [hcrlf] at hscan
  cases hscan

end FenceSync
