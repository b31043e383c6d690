import FenceSync.Proofs.Crlf
import FenceSync.Proofs.Decoding
import FenceSync.Proofs.FixedPoint
import FenceSync.Proofs.Rescan

namespace FenceSync

/-!
# Documents without carriage returns

Where no file and no output holds a CR, no CR comes into a document.

* `Surroundings.CrFree` are such surroundings, and `Directive.cr_notMem_lines` says that the lines
  fetched from them have no CR.
* `Snippet.cr_notMem_newInterior` says that new interiors have none in a document with LF.
* `cr_notMem_embed` is the statement for a whole document.
-/

/-! ### Fetched lines -/

/-- No file and no output holds a CR. -/
structure Surroundings.CrFree (env : Surroundings Id) : Prop where
  read : ∀ p bytes, (env.read p).run = .ok bytes → 0x0D ∉ bytes
  run : ∀ line dir result, (env.run line dir).run = .ok result → 0x0D ∉ result.output

variable {env : Surroundings Id} {o : Options}

/-- Fetched lines have no CR. -/
theorem Directive.cr_notMem_lines (henv : env.CrFree) {d : Directive} {ls : List Text}
    (h : (d.lines env o).run.run = .ok ls) : ∀ line ∈ ls, '\r' ∉ line := by
  have hcut : ∀ bytes : Bytes, 0x0D ∉ bytes →
      ∀ line ∈ Text.splitOn (Bytes.newline bytes).text (Bytes.lossyText bytes), '\r' ∉ line :=
    fun bytes hbytes line hline hcr =>
      Bytes.cr_notMem_lossyText hbytes (Text.mem_of_mem_splitOn _ hline hcr)
  cases d with
  | file path range =>
    rw [Directive.lines, fileLines_run] at h
    split at h
    · cases h
    · next p _ =>
      split at h
      · cases h
      · next content hread =>
        cases h
        exact notMem_linesOfFile range (hcut content (henv.read p content hread))
  | command line =>
    rw [Directive.lines, commandLines_run] at h
    split at h
    · cases h
    · next result hrun =>
      split at h
      · cases h
        exact hcut result.output (henv.run line o.workingDir result hrun)
      · cases h

/-! ### New interiors -/

/-- **A new interior has no CR** if the lines that it is made of have none. -/
theorem Snippet.cr_notMem_newInterior {s : Snippet} {style : CommentStyle} {text : Text}
    {d : Directive} (hd : s.demand = .wanted style text d) (hi : IsIndent s.fence.indent)
    {ls : List Text} (hls : ∀ line ∈ ls, '\r' ∉ line) :
    '\r' ∉ s.newInterior .lf o style text ls := by
  have hpiece : ∀ p ∈ s.headerPieces o style text ++ embeddedPieces .lf ls, '\r' ∉ p := by
    intro p hp hcr
    rcases List.mem_append.mp hp with hp | hp
    · rcases Snippet.mem_headerPieces hp with rfl | ⟨hm, hc⟩
      · cases hcr
      · exact (CommentStyle.inLine_of_render? (Snippet.says_of_demand hd hm) hc _ hcr).1 rfl
    · -- The pieces are cut from the lines, put together and without white space at the end.
      have htrim := Text.mem_of_mem_splitOn .lf hp hcr
      obtain ⟨w, -, hcut⟩ := Text.exists_eq_trimEnd (Text.joinWith Newline.lf.text ls)
      have hjoin : '\r' ∈ Text.joinWith Newline.lf.text ls := by
        rw [hcut]
        exact List.mem_append_left w htrim
      rcases Text.mem_or_mem_of_mem_joinWith hjoin with hnl | ⟨line, hline, hcr'⟩
      · exact absurd hnl (by decide)
      · exact hls line hline hcr'
  rw [Snippet.newInterior, Snippet.newPieces, Text.joinLines, List.mem_flatMap]
  rintro ⟨q, hq, hcr⟩
  obtain ⟨p, hp, rfl⟩ := List.mem_map.mp hq
  rw [List.mem_append, List.mem_append] at hcr
  rcases hcr with (hcr | hcr) | hcr
  · exact hi.cr_notMem hcr
  · exact hpiece p hp hcr
  · exact absurd hcr (by decide)

theorem Snippet.cr_notMem_interior (henv : env.CrFree) {s : Snippet} (hi : IsIndent s.fence.indent)
    (hcode : '\r' ∉ s.code) {out : Outcome} (h : s.outcome? env o Newline.lf.text = some out) :
    '\r' ∉ out.interior s.code := by
  cases out with
  | resolved r n =>
    obtain ⟨style, text, d, ls, hd, hl, -, rfl, -, -⟩ :=
      Snippet.resolve_eq_resolved env o .lf (Snippet.resolve_of_outcome? env o h)
    exact Snippet.cr_notMem_newInterior hd hi (Directive.cr_notMem_lines henv hl)
  | _ => exact hcode

/-! ### Documents -/

theorem cr_notMem_splice (henv : env.CrFree) {ss : List Section} {outs : List Outcome}
    (hss : ∀ s ∈ ss, IsIndent s.fence.indent ∧ '\r' ∉ s.lead ++ s.code)
    (h : List.Forall₂ (fun s out => s.toSnippet.outcome? env o Newline.lf.text = some out) ss outs) :
    '\r' ∉ splice ss outs := by
  induction h with
  | nil => simp [splice]
  | @cons s out ss outs hout _ ih =>
    obtain ⟨hi, hcr⟩ := hss s (by simp)
    rw [List.mem_append, not_or] at hcr
    rw [splice_cons, List.mem_append, List.mem_append, not_or, not_or]
    exact ⟨⟨hcr.1, Snippet.cr_notMem_interior henv hi hcr.2 hout⟩,
      ih fun s' hs' => hss s' (List.mem_cons_of_mem _ hs')⟩

/-- **An embedded document has no CR**, if neither the document nor its surroundings have one. -/
theorem cr_notMem_embed (henv : env.CrFree) {path markdown : Text} (hcr : '\r' ∉ markdown)
    {r : EmbedResult} (h : (embed env o path markdown).run.run = .ok r) : '\r' ∉ r.content := by
  obtain ⟨-, outs, houts, rfl⟩ := (embed_eq_ok_iff env o path).mp h
  rw [Text.newline_eq_lf hcr] at houts
  have hsections := cr_notMem_splice henv (fun s hs => ⟨(Document.ofText_spec hs).1,
    fun hmem => hcr (Document.mem_of_mem_section hs hmem)⟩) houts
  have hrest : '\r' ∉ (Document.ofText markdown).rest := by
    rw [← Document.text_ofText markdown, Document.text, Document.textWith, List.mem_append,
      not_or] at hcr
    exact hcr.2
  rw [List.mem_append, not_or]
  exact ⟨hsections, hrest⟩

end FenceSync
