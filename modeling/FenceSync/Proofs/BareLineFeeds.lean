import FenceSync.Proofs.Idempotence
import FenceSync.Proofs.Running

namespace FenceSync

/-!
# Bare line feeds in documents with CR LF

A document in which every line ends with CR LF keeps to it as long as nothing that is embedded in it
holds a bare line feed.  A source is cut at its prevailing newline only, so that a bare line feed in
a source with CR LF stays within a line, and goes into the document as it is.

* `Document.tally_lf_text_eq_zero_iff` looks for bare line feeds in the parts of a document.
* `Snippet.tally_lf_newInterior` says that a new interior has the bare line feeds of the text that it
  embeds, and no others.
* `Bytes.CutsClean` are the sources whose lines hold no line feed, and `Directive.exists_source`
  traces fetched lines to a source.
* `embed_stays_crlf_iff` says exactly when an embedded document keeps to CR LF.
-/

/-! ### The parts of a document -/

/-- A text is counted apart from what ends with a line feed before it. -/
theorem Text.EndsLine.tally_lf_append {t : Text} (h : Text.EndsLine t) (u : Text) :
    (Text.tally (t ++ u)).lf = (Text.tally t).lf + (Text.tally u).lf :=
  Text.tally_lf_append (fun hcr => absurd (h _ hcr) (by decide)) u

/-- **A document has a bare line feed if one of its parts does**, provided that its interiors begin
    and end at line feeds. -/
theorem Document.tally_lf_text_eq_zero_iff {d : Document}
    (h : ∀ s ∈ d.sections, Text.EndsLine s.lead ∧ Text.EndsLine s.code) :
    (Text.tally d.text).lf = 0 ↔
      (∀ s ∈ d.sections, (Text.tally s.lead).lf = 0 ∧ (Text.tally s.code).lf = 0) ∧
        (Text.tally d.rest).lf = 0 := by
  rcases d with ⟨ss, rest⟩
  induction ss with
  | nil => simp [Document.text, Document.textWith]
  | cons s ss ih =>
    have ih' := ih fun s' hs' => h s' (List.mem_cons_of_mem _ hs')
    obtain ⟨hlead, hcode⟩ := h s (by simp)
    have htext : (Document.mk (s :: ss) rest).text =
        s.lead ++ (s.code ++ (Document.mk ss rest).text) := by
      simp [Document.text, Document.textWith]
    rw [htext, hlead.tally_lf_append, hcode.tally_lf_append]
    simp only [List.forall_mem_cons] at ih' ⊢
    rw [Nat.add_eq_zero_iff, Nat.add_eq_zero_iff, ih']
    tauto

/-- A document with a block and without bare line feeds is one with CR LF. -/
theorem Document.newline_eq_crlf {t : Text} (h : (Text.tally t).lf = 0) {s : Section}
    (hs : s ∈ (Document.ofText t).sections) : Text.newline t = .crlf := by
  refine Text.newline_eq_crlf h ?_
  have hlf : '\n' ∈ s.lead := List.mem_of_getLast? (Document.ofText_spec hs).2.2
  rw [← Document.text_ofText t, Document.text, Document.textWith]
  exact List.mem_append_left _ (List.mem_flatMap.mpr ⟨s, hs, List.mem_append_left _ hlf⟩)

/-- **Only new interiors can bring bare line feeds in.** -/
theorem tally_lf_splice_eq_zero_iff {t : Text} {outs : List Outcome} (h : (Text.tally t).lf = 0)
    (hend : ∀ s out, (s, out) ∈ (Document.ofText t).sections.zip outs →
      Text.EndsLine (out.interior s.code)) :
    (Text.tally (splice (Document.ofText t).sections outs ++ (Document.ofText t).rest)).lf = 0 ↔
      ∀ s out, (s, out) ∈ (Document.ofText t).sections.zip outs → out.isResolved = true →
        (Text.tally (out.interior s.code)).lf = 0 := by
  have hold := fun s hs => Document.endsLine_section (t := t) (s := s) hs
  rw [← Document.text_ofText t, Document.tally_lf_text_eq_zero_iff hold] at h
  generalize Document.ofText t = d at *
  -- The embedded document has the same leads, and the interiors of the outcomes.
  have hmem : ∀ {P : Section → Prop}, (∀ s ∈ List.zipWith Section.embedded d.sections outs, P s) ↔
      ∀ s out, (s, out) ∈ d.sections.zip outs → P (s.embedded out) := by
    intro P
    rw [← List.map_uncurry_zip_eq_zipWith, List.forall_mem_map]
    exact ⟨fun h s out hso => h (s, out) hso, fun h so hso => h so.1 so.2 hso⟩
  rw [← text_splice, Document.tally_lf_text_eq_zero_iff]
  · rw [hmem]
    constructor
    · rintro ⟨hall, -⟩ s out hso -
      exact (hall s out hso).2
    · intro hall
      refine ⟨fun s out hso => ?_, h.2⟩
      obtain ⟨hlead, hcode⟩ := h.1 s (List.of_mem_zip hso).1
      refine ⟨hlead, ?_⟩
      show (Text.tally (out.interior s.code)).lf = 0
      cases hres : out.isResolved with
      | true => exact hall s out hso hres
      | false => rw [Outcome.interior_eq_self hres, hcode]
  · exact hmem.mpr fun s out hso => ⟨(hold s (List.of_mem_zip hso).1).1, hend s out hso⟩

/-! ### New interiors -/

/-- An indentation has no line feed. -/
theorem IsIndent.tally_lf_append {i : Text} (hi : IsIndent i) (p : Text) :
    (Text.tally (i ++ p)).lf = (Text.tally p).lf := by
  have hlast : i.getLast? ≠ some '\r' := fun h => hi.cr_notMem (List.mem_of_getLast? h)
  rw [Text.tally_lf_append hlast, Text.tally_lf_of_notMem hi.lf_notMem, Nat.zero_add]

/-- **A new interior has a bare line feed if the embedded text has one.** -/
theorem Snippet.tally_lf_newInterior {s : Snippet} {o : Options} {style : CommentStyle}
    {text : Text} {d : Directive} (h : s.demand = .wanted style text d)
    (hi : IsIndent s.fence.indent) (ls : List Text) :
    (Text.tally (s.newInterior .crlf o style text ls)).lf = 0 ↔
      (Text.tally (embeddedText Newline.crlf.text ls)).lf = 0 := by
  have hhead : ∀ p ∈ s.headerPieces o style text, (Text.tally p).lf = 0 := fun p hp =>
    Text.tally_lf_of_notMem (Snippet.headerPieces_spec o h hp).1
  rw [Snippet.newInterior, Snippet.newPieces, embeddedText_eq_joinLines .crlf,
    Text.tally_lf_joinLines_eq_zero_iff, Text.tally_lf_joinLines_eq_zero_iff, List.forall_mem_map]
  constructor
  · intro hall p hp
    rw [← hi.tally_lf_append]
    exact hall p (List.mem_append_right _ hp)
  · intro hall p hp
    rw [hi.tally_lf_append]
    rcases List.mem_append.mp hp with hp | hp
    · exact hhead p hp
    · exact hall p hp

/-! ### Sources -/

/-- The lines that the bytes are cut into hold no line feed: bare line feeds prevail, so that it is
    cut at all of them, or there is none. -/
def Bytes.CutsClean (bs : Bytes) : Prop :=
  Bytes.newline bs = .lf ∨ (Text.tally (Bytes.lossyText bs)).lf = 0

instance (bs : Bytes) : Decidable (Bytes.CutsClean bs) := inferInstanceAs (Decidable (_ ∨ _))

theorem Bytes.CutsClean.lf_notMem {bs : Bytes} (h : Bytes.CutsClean bs) {line : Text}
    (hline : line ∈ Text.splitOn (Bytes.newline bs).text (Bytes.lossyText bs)) : '\n' ∉ line :=
  Text.lf_notMem_of_mem_splitOn h hline

/-- **Lines without a line feed make up a text without a bare one.** -/
theorem tally_lf_embeddedText {ls : List Text} (h : ∀ line ∈ ls, '\n' ∉ line) :
    (Text.tally (embeddedText Newline.crlf.text ls)).lf = 0 := by
  have hjoin : (Text.tally (Text.joinWith Newline.crlf.text ls)).lf = 0 := by
    induction ls with
    | nil => rfl
    | cons line ls ih =>
      have hline := Text.tally_lf_of_notMem (h line (by simp))
      have hls := ih fun l hl => h l (List.mem_cons_of_mem _ hl)
      cases ls with
      | nil => exact hline
      | cons next ls => rw [Text.joinWith_cons_cons, Text.tally_lf_append_crlf, hline, hls]
  obtain ⟨w, -, hcut⟩ := Text.exists_eq_trimEnd (Text.joinWith Newline.crlf.text ls)
  have htrim : (Text.tally (Text.trimEnd (Text.joinWith Newline.crlf.text ls))).lf = 0 := by
    refine Text.tally_lf_of_append (a := []) (b := w) ?_ (by simp)
    rw [List.nil_append, ← hcut]
    exact hjoin
  have hend := Text.tally_lf_append_crlf (Text.trimEnd (Text.joinWith Newline.crlf.text ls)) []
  rw [List.append_nil, htrim] at hend
  exact hend

/-! ### Documents -/

section
variable {σ : Type} {env : Surroundings (StateM σ)} {o : Options} {path : Text}

/-- Whatever is read or printed at any time is cut into lines without line feeds. -/
def Surroundings.CutsClean (env : Surroundings (StateM σ)) : Prop :=
  (∀ p st content st', (env.read p).run st = (.ok content, st') → Bytes.CutsClean content) ∧
    ∀ line dir st result st', (env.run line dir).run st = (.ok result, st') →
      result.success = true → Bytes.CutsClean result.output

/-- **Fetched lines come from a file or from a command.** -/
theorem Directive.exists_source {d : Directive} {ls : List Text} {st st' : σ}
    (h : runFrom (d.lines env o) st = (.ok ls, st')) :
    (∃ p range content st₁ st₂, (env.read p).run st₁ = (.ok content, st₂) ∧
        ls = linesOfFile range content) ∨
      ∃ line result st₁ st₂, (env.run line o.workingDir).run st₁ = (.ok result, st₂) ∧
        result.success = true ∧ ls = linesOfOutput result.output := by
  cases d with
  | file file range =>
    rw [Directive.lines, fileLines] at h
    obtain ⟨found, st₁, -, h⟩ := runFrom_bind_eq_ok h
    cases found with
    | none => cases h
    | some p =>
      obtain ⟨answer, st₂, hread, h⟩ := runFrom_bind_eq_ok h
      cases answer with
      | error e => cases h
      | ok content =>
        cases h
        exact .inl ⟨p, range, content, st₁, _, run_of_runFrom_lift hread, rfl⟩
  | command line =>
    rw [Directive.lines, commandLines] at h
    obtain ⟨answer, st₁, hrun, h⟩ := runFrom_bind_eq_ok h
    cases answer with
    | error e => cases h
    | ok result =>
      cases hsuccess : result.success with
      | false =>
        simp only [hsuccess] at h
        cases h
      | true =>
        simp only [hsuccess] at h
        cases h
        exact .inr ⟨line, result, st, _, run_of_runFrom_lift hrun, hsuccess, rfl⟩

theorem Surroundings.CutsClean.lf_notMem (henv : env.CutsClean) {d : Directive} {ls : List Text}
    {st st' : σ} (h : runFrom (d.lines env o) st = (.ok ls, st')) :
    ∀ line ∈ ls, '\n' ∉ line := by
  rcases Directive.exists_source h with
    ⟨p, range, content, st₁, st₂, hread, rfl⟩ | ⟨line, result, st₁, st₂, hrun, hsuccess, rfl⟩
  · exact notMem_linesOfFile range fun _ => (henv.1 p st₁ content st₂ hread).lf_notMem
  · exact fun _ hline => (henv.2 line _ st₁ result st₂ hrun hsuccess).lf_notMem hline

/-- What a new interior was made of decides whether it has a bare line feed. -/
theorem Snippet.MadeOf.tally_lf {s : Snippet} {out : Outcome} {ls : List Text}
    (h : s.MadeOf env o Newline.crlf.text out ls) (hi : IsIndent s.fence.indent) :
    (Text.tally (out.interior s.code)).lf = 0 ↔
      (Text.tally (embeddedText Newline.crlf.text ls)).lf = 0 := by
  obtain ⟨hres, style, text, d, hd, -, hs⟩ := h
  cases out with
  | resolved r n =>
    obtain ⟨-, rfl, -⟩ := Snippet.settle_eq_resolved o .crlf hd hs
    exact Snippet.tally_lf_newInterior hd hi ls
  | _ => cases hres

/-- **When a document with CR LF keeps to it.**  An embedded document without a bare line feed has
    none afterwards exactly if the texts that its blocks embed have none, whatever files and commands
    do meanwhile.  That is so if in every source the line feeds are bare for the most part, or none
    of them is. -/
theorem embed_stays_crlf_iff {markdown : Text} {r : EmbedResult} {st st' : σ}
    (hcrlf : (Text.tally markdown).lf = 0)
    (h : runFrom (embed env o path markdown) st = (.ok r, st')) :
    ((Text.tally r.content).lf = 0 ↔
        ∀ s out, (s, out) ∈ (Document.ofText markdown).sections.zip
            (r.blocks.map BlockReport.outcome) →
          ∀ ls, s.toSnippet.MadeOf env o Newline.crlf.text out ls →
            (Text.tally (embeddedText Newline.crlf.text ls)).lf = 0) ∧
      (env.CutsClean → (Text.tally r.content).lf = 0) := by
  obtain ⟨-, outs, houts, rfl⟩ := becomes_of_embed h
  have hbecomes : ∀ s out, (s, out) ∈ (Document.ofText markdown).sections.zip outs →
      s.toSnippet.Becomes env o Newline.crlf.text out := by
    intro s out hso
    rw [← Document.newline_eq_crlf hcrlf (List.of_mem_zip hso).1]
    exact (List.forall₂_iff_zip.mp houts).2 hso
  have hend : ∀ s out, (s, out) ∈ (Document.ofText markdown).sections.zip outs →
      Text.EndsLine (out.interior s.code) := fun s out hso =>
    (hbecomes s out hso).canBecome.endsLine_interior o .crlf
      (Document.endsLine_section (List.of_mem_zip hso).1).2
  have hblocks : (Block.listFrom (Text.newline markdown).text []
      (Document.ofText markdown).sections).length = outs.length :=
    (length_listFrom _ _ _).trans houts.length_eq
  have hiff : (Text.tally (splice (Document.ofText markdown).sections outs ++
      (Document.ofText markdown).rest)).lf = 0 ↔
        ∀ s out, (s, out) ∈ (Document.ofText markdown).sections.zip outs →
          ∀ ls, s.toSnippet.MadeOf env o Newline.crlf.text out ls →
            (Text.tally (embeddedText Newline.crlf.text ls)).lf = 0 := by
    rw [tally_lf_splice_eq_zero_iff hcrlf hend]
    constructor
    · intro hall s out hso ls hmade
      have hi := (Document.ofText_spec (List.of_mem_zip hso).1).1
      exact (hmade.tally_lf hi).mp (hall s out hso hmade.1)
    · intro hall s out hso hres
      have hi := (Document.ofText_spec (List.of_mem_zip hso).1).1
      obtain ⟨ls, hmade⟩ := (hbecomes s out hso).exists_madeOf hres
      exact (hmade.tally_lf hi).mpr (hall s out hso ls hmade)
  dsimp only
  rw [outcomes_reportsOn hblocks]
  refine ⟨hiff, fun henv => hiff.mpr ?_⟩
  rintro s out - ls ⟨-, style, text, d, -, ⟨st₁, st₂, hlines⟩, -⟩
  exact tally_lf_embeddedText (henv.lf_notMem hlines)

end

/-- Surroundings in which a command prints lines with CR LF every other time. -/
def Surroundings.alternating : Surroundings (StateM Bool) where
  isFile _ := pure false
  read _ := pure (.error .notFound)
  run _ _ := fun crlf =>
    (.ok ⟨Text.utf8 (if crlf then "x\r\ny\r\n".toList else "x\ny\n".toList), 0, true⟩, !crlf)
  log _ := pure ()

/-- Two outputs with different newlines in a document with CR LF. -/
theorem embed_stays_crlf_alternating :
    let markdown := "```sh\r\n# $ w\r\n```\r\n```sh\r\n# $ w\r\n```\r\n".toList
    ∃ r st', (Text.tally markdown).lf = 0 ∧
      runFrom (embed Surroundings.alternating (Options.inDir ⟨['/']⟩) [] markdown) false =
        (.ok r, st') ∧
      r.resolvedCount = 2 ∧ (Text.tally r.content).lf = 0 := by
  intro markdown
  have hcrlf : (Text.tally markdown).lf = 0 := by decide
  have henv : Surroundings.alternating.CutsClean := by
    constructor
    · intro p st content st' h
      cases h
    · intro line dir st result st' h _
      cases h
      cases st <;> decide
  let interior := "# $ w\r\n\r\nx\r\ny\r\n".toList
  have h : runFrom (embed Surroundings.alternating (Options.inDir ⟨['/']⟩) [] markdown) false =
      (.ok ⟨"```sh\r\n".toList ++ interior ++ "```\r\n```sh\r\n".toList ++ interior ++
          "```\r\n".toList,
        [⟨2, 3, .resolved interior 2⟩, ⟨5, 6, .resolved interior 2⟩]⟩, false) := by
    decide +kernel
  exact ⟨_, _, hcrlf, h, rfl, (embed_stays_crlf_iff hcrlf h).2 henv⟩

/-- **A bare line feed of a source with CR LF goes into the document.** -/
theorem embed_brings_bare_lf_in :
    let markdown := "```txt\r\n// a.txt\r\n```\r\n".toList
    let source := "a\nb\r\nc\r\n".toList
    let embedded := "```txt\r\n// a.txt\r\n\r\na\nb\r\nc\r\n```\r\n".toList
    let report : BlockReport := ⟨2, 3, .resolved "// a.txt\r\n\r\na\nb\r\nc\r\n".toList 2⟩
    (Text.tally markdown).lf = 0 ∧
      (embed (.constant source) (.inDir ⟨['/']⟩) [] markdown).run.run =
        .ok ⟨embedded, [report]⟩ ∧
      (Text.tally embedded).lf = 1 := by
  decide

end FenceSync
