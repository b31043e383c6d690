import FenceSync.Proofs.FixedPoint
import FenceSync.Proofs.Rescan

namespace FenceSync

/-!
# Embedding twice

An embedded document that is embedded again stays as it is.

* `Snippet.holds_resolved` says that a new interior leaves its fence open if all its line feeds are
  newlines of the document.
* `newline_splice` says that the newline of the document stays the same.
* `embed_idempotent` puts this together with what is known of one block and of reading a document
  again.
-/

variable (env : Surroundings Id) (o : Options) (path : Text) (nl : Newline)

/-! ### New interiors leave their fences open -/

/-- A piece of an indented text stands behind the newline of another piece, or behind the
    indentation. -/
theorem exists_joinLines_eq {i : Text} (hi : IsIndent i) {ps : List Text} {p : Text}
    (hp : p ∈ ps) :
    ∃ a b, Text.joinLines nl (ps.map (i ++ ·)) = a ++ p ++ b ∧ a.getLast? ≠ some '\r' := by
  obtain ⟨qs, rs, rfl⟩ := List.append_of_mem hp
  refine ⟨Text.joinLines nl (qs.map (i ++ ·)) ++ i, nl.text ++ Text.joinLines nl (rs.map (i ++ ·)),
    by simp, ?_⟩
  intro hlast
  rw [List.getLast?_append] at hlast
  cases hi' : i.getLast? with
  | none =>
    rw [hi', Option.none_or] at hlast
    exact absurd (Text.endsLine_joinLines nl _ _ hlast) (by decide)
  | some c =>
    rw [hi', Option.some_or, Option.some.injEq] at hlast
    exact hi.cr_notMem (hlast ▸ List.mem_of_getLast? hi')

/-- **A new interior leaves its fence open** if the newline of the document is LF, or if it has no
    bare line feed. -/
theorem Snippet.holds_resolved {s : Snippet} (hi : IsIndent s.fence.indent) {r : Text} {n : Nat}
    (h : s.CanBecome o nl.text (.resolved r n))
    (hopen : nl = .lf ∨ (Text.tally r).lf = 0) : s.fence.Holds r := by
  obtain ⟨style, text, d, ls, hd, hs⟩ := h rfl
  obtain ⟨hcheck, rfl, -, -⟩ := Snippet.settle_eq_resolved o nl hd hs
  have hpieces : ∀ p ∈ s.headerPieces o style text ++ embeddedPieces nl ls,
      startsFence p = false ∧ '\n' ∉ p := by
    intro p hp
    rcases List.mem_append.mp hp with hhead | hembedded
    · have hspec := Snippet.headerPieces_spec o hd hhead
      exact ⟨hspec.2, hspec.1⟩
    · refine ⟨hcheck p hembedded, ?_⟩
      have hpiece := isPiece_of_mem_embeddedPieces nl hembedded
      cases nl with
      | lf => exact Text.lf_notMem_of_isPiece_lf hpiece
      | crlf =>
        -- A piece may hold a bare line feed, but the tally of the interior counts it.
        have htally : (Text.tally (s.newInterior .crlf o style text ls)).lf = 0 := by
          rcases hopen with hlf | hbare
          · cases hlf
          · exact hbare
        obtain ⟨a, b, hr, ha⟩ := exists_joinLines_eq .crlf hi hp
        rw [Snippet.newInterior, Snippet.newPieces, hr] at htally
        exact Text.lf_notMem_of_isPiece_crlf hpiece (Text.tally_lf_of_append htally ha)
  -- Pieces without a line feed have no lines that the fence check does not see.
  have hcloses : ∀ line ∈ Text.lines (s.newInterior nl o style text ls),
      ¬ Closes s.fence.indent line := by
    rw [Snippet.newInterior, Snippet.newPieces,
      not_closes_joinLines_iff nl hi fun p hp => (hpieces p hp).1]
    intro p hp line hline
    rw [tail_lines_of_lf_notMem nl (hpieces p hp).2] at hline
    cases hline
  intro line hline
  exact ⟨Text.isWhole_of_mem_lines_joinLines nl hline, hcloses line hline⟩

/-! ### The whole document -/

/-- An interior in an embedded document stands behind the opening fence of its section. -/
theorem exists_splice_eq {ss : List Section} {outs : List Outcome} {s : Section} {out : Outcome}
    (h : (s, out) ∈ ss.zip outs) :
    ∃ a b, splice ss outs = (a ++ s.lead) ++ out.interior s.code ++ b := by
  induction ss generalizing outs with
  | nil => simp at h
  | cons s' ss ih =>
    cases outs with
    | nil => simp at h
    | cons out' outs =>
      rw [List.zip_cons_cons] at h
      rcases List.mem_cons.mp h with h | h
      · obtain ⟨rfl, rfl⟩ := Prod.mk.inj h
        exact ⟨[], splice ss outs, by rw [splice_cons, List.nil_append]⟩
      · obtain ⟨a, b, hab⟩ := ih h
        refine ⟨s'.lead ++ out'.interior s'.code ++ a, b, ?_⟩
        rw [splice_cons, hab]
        simp

/-- The newline of a document stays the same, if it is known to be LF both times or if there are no
    bare line feeds. -/
theorem newline_splice {t : Text} {outs : List Outcome}
    (hlen : (Document.ofText t).sections.length = outs.length)
    (hnl : (Text.newline t = .lf ∧
        Text.newline (splice (Document.ofText t).sections outs ++ (Document.ofText t).rest) = .lf) ∨
      ((Text.tally t).lf = 0 ∧
        (Text.tally (splice (Document.ofText t).sections outs ++
          (Document.ofText t).rest)).lf = 0)) :
    Text.newline (splice (Document.ofText t).sections outs ++ (Document.ofText t).rest) =
      Text.newline t := by
  rcases hnl with ⟨ht, hr⟩ | ⟨ht, hr⟩
  · rw [ht, hr]
  · have htext := Document.text_ofText t
    have hspec := fun s => Document.ofText_spec (t := t) (s := s)
    rcases hd : Document.ofText t with ⟨_ | ⟨s, ss⟩, rest⟩
    · rw [hd] at htext
      rw [← htext]
      rfl
    · rw [hd] at htext hr hlen hspec
      cases outs with
      | nil => cases hlen
      | cons out outs =>
        -- The opening fence ends with a line feed, and none is bare: they all belong to a CR LF.
        have hlf : '\n' ∈ s.lead := List.mem_of_getLast? (hspec s (by simp)).2.2
        rw [Text.newline_eq_crlf hr, Text.newline_eq_crlf ht]
        · rw [← htext]
          simp [Document.text, Document.textWith, hlf]
        · rw [splice_cons]
          simp [hlf]

/-- Interiors that are possible for their blocks leave their fences open. -/
theorem holds_splice_of_canBecome {t : Text} {outs : List Outcome}
    (houts : List.Forall₂ (fun s out => s.toSnippet.CanBecome o (Text.newline t).text out)
      (Document.ofText t).sections outs)
    (hopen : Text.newline t = .lf ∨
      (Text.tally (splice (Document.ofText t).sections outs ++ (Document.ofText t).rest)).lf = 0) :
    List.Forall₂ (fun s out => s.fence.Holds (out.interior s.code))
      (Document.ofText t).sections outs := by
  rw [List.forall₂_iff_zip] at houts ⊢
  refine ⟨houts.1, ?_⟩
  intro s out hmem
  have hout := houts.2 hmem
  obtain ⟨hi, hholds, hlast⟩ := Document.ofText_spec (List.of_mem_zip hmem).1
  -- Old interiors were read behind their fences, new ones were checked.
  cases out with
  | resolved r n =>
    refine Snippet.holds_resolved o (Text.newline t) hi hout ?_
    rcases hopen with hlf | hbare
    · exact .inl hlf
    · obtain ⟨a, b, hab⟩ := exists_splice_eq hmem
      rw [hab, List.append_assoc] at hbare
      refine .inr (Text.tally_lf_of_append hbare ?_)
      rw [List.getLast?_append, hlast]
      simp
  | _ => exact hholds

/-- The interiors of an embedded document leave their fences open. -/
theorem holds_splice {t : Text} {outs : List Outcome}
    (houts : List.Forall₂
      (fun s out => s.toSnippet.outcome? env o (Text.newline t).text = some out)
      (Document.ofText t).sections outs)
    (hopen : Text.newline t = .lf ∨
      (Text.tally (splice (Document.ofText t).sections outs ++ (Document.ofText t).rest)).lf = 0) :
    List.Forall₂ (fun s out => s.fence.Holds (out.interior s.code))
      (Document.ofText t).sections outs :=
  holds_splice_of_canBecome o
    (houts.imp fun _ _ hout => Snippet.canBecome_of_outcome? env o hout) hopen

/-- The outcomes are what is reported. -/
theorem outcomes_reportsOn {bs : List Block} {outs : List Outcome}
    (h : bs.length = outs.length) : (reportsOn bs outs).map BlockReport.outcome = outs := by
  induction bs generalizing outs with
  | nil =>
    cases outs with
    | nil => rfl
    | cons out outs => cases h
  | cons b bs ih =>
    cases outs with
    | nil => cases h
    | cons out outs =>
      rw [reportsOn_cons, List.map_cons, ih (by simpa using h)]

/-- Settled outcomes leave the interiors as they are. -/
theorem splice_settled {ss : List Section} {outs : List Outcome} (h : ss.length = outs.length) :
    splice (List.zipWith Section.embedded ss outs) (outs.map Outcome.settled) =
      splice ss outs := by
  induction ss generalizing outs with
  | nil => rfl
  | cons s ss ih =>
    cases outs with
    | nil => rfl
    | cons out outs =>
      rw [List.zipWith_cons_cons, List.map_cons, splice_cons, splice_cons, ih (by simpa using h),
        Outcome.interior_settled]
      rfl

/-- On a second run every section has its settled outcome, where it embeds the same text. -/
theorem forall₂_settled (env' : Surroundings Id) (hkeep : o.stripComment = false)
    {ss : List Section} {outs : List Outcome} (hss : ∀ s ∈ ss, IsIndent s.fence.indent)
    (h : List.Forall₂ (fun s out => s.toSnippet.outcome? env o nl.text = some out) ss outs)
    (hsame : ∀ s ∈ ss, ∀ t, s.Embeds env o nl t → s.Embeds env' o nl t) :
    List.Forall₂ (fun s out => s.toSnippet.outcome? env' o nl.text = some out)
      (List.zipWith Section.embedded ss outs) (outs.map Outcome.settled) := by
  induction h with
  | nil => exact .nil
  | @cons s out ss outs hs _ ih =>
    refine .cons ?_ (ih (fun s' hs' => hss s' (List.mem_cons_of_mem _ hs'))
      fun s' hs' => hsame s' (List.mem_cons_of_mem _ hs'))
    exact Snippet.outcome?_interior_of_embeds env o nl env' (hss s (by simp)) hkeep hs
      (hsame s (by simp))

/-- Reports of which all outcomes are settled count no new interiors. -/
theorem countP_settled {bs bs' : List BlockReport}
    (h : bs.map (·.outcome) = bs'.map fun b => b.outcome.settled) :
    bs.length = bs'.length ∧ bs.countP (fun b => b.outcome.isResolved) = 0 := by
  refine ⟨by simpa using congrArg List.length h, ?_⟩
  rw [List.countP_eq_zero]
  intro b hb
  have hmem : b.outcome ∈ bs'.map fun b => b.outcome.settled := h ▸ List.mem_map_of_mem hb
  obtain ⟨b', -, hb'⟩ := List.mem_map.mp hmem
  simp [← hb']

/-- **Embedding is idempotent.**  Embedding an embedded document changes nothing: it has the same
    content, as many blocks, and every block has the outcome that it had, except that new interiors
    are now up to date.

    The comments with the directives have to stay in the document, no line outside the blocks may
    look like a fence, and the document has to keep to one kind of newline. -/
theorem embed_idempotent {markdown : Text} {r : EmbedResult}
    (h : (embed env o path markdown).run.run = .ok r) (hkeep : o.stripComment = false)
    (hprose : ∀ line ∈ (Document.ofText markdown).prose, ¬ BeginsFence line)
    (hnl : (Text.newline markdown = .lf ∧ Text.newline r.content = .lf) ∨
      ((Text.tally markdown).lf = 0 ∧ (Text.tally r.content).lf = 0))
    (hscan : Search.givesUp r.content = false) :
    ∃ again, (embed env o path r.content).run.run = .ok again ∧ again.content = r.content ∧
      again.blocks.length = r.blocks.length ∧ again.resolvedCount = 0 ∧
      again.blocks.map (·.outcome) = r.blocks.map fun b => b.outcome.settled := by
  obtain ⟨-, outs, houts, rfl⟩ := (embed_eq_ok_iff env o path).mp h
  have hlen := houts.length_eq
  -- The embedded document is read as the same sections with other interiors.
  have hnewline := newline_splice hlen hnl
  have hholds := holds_splice env o houts (hnl.imp And.left And.right)
  have hread := Document.ofText_splice hprose hholds
  have houts' := forall₂_settled env o (Text.newline markdown) env hkeep
    (fun s hs => (Document.ofText_spec hs).1) houts fun _ _ _ ht => ht
  generalize hd : Document.ofText markdown = d at *
  refine ⟨⟨splice d.sections outs ++ d.rest,
    reportsOn (Block.listFrom (Text.newline markdown).text []
      (List.zipWith Section.embedded d.sections outs)) (outs.map Outcome.settled)⟩, ?_, rfl, ?_⟩
  · refine (embed_eq_ok_iff env o path).mpr ⟨hscan, outs.map Outcome.settled, ?_, ?_⟩
    · rw [hread, hnewline]
      exact houts'
    · rw [hread, hnewline, splice_settled hlen]
  · have hblocks : (Block.listFrom (Text.newline markdown).text []
        (List.zipWith Section.embedded d.sections outs)).length =
          (outs.map Outcome.settled).length := by
      rw [length_listFrom, List.length_zipWith, List.length_map, hlen, Nat.min_self]
    have hstates := outcomes_reportsOn hblocks
    have hblocks' : (Block.listFrom (Text.newline markdown).text [] d.sections).length =
        outs.length := (length_listFrom _ _ _).trans hlen
    have hstates' := congrArg (List.map Outcome.settled) (outcomes_reportsOn hblocks')
    rw [List.map_map] at hstates'
    have hall := hstates.trans hstates'.symm
    obtain ⟨hcount, hnone⟩ := countP_settled hall
    exact ⟨hcount, hnone, hall⟩

/-- A block with a comment is filled by the first run, and kept by the second. -/
theorem embed_idempotent_comment :
    let o := Options.inDir ⟨['/']⟩
    let env := Surroundings.constant "x\n".toList
    let filled : Text := "```py\n# a.py\n\nx\n```\n".toList
    (embed env o [] "```py\n# a.py\n```\n".toList).run.run =
        .ok ⟨filled, [⟨2, 3, .resolved "# a.py\n\nx\n".toList 1⟩]⟩ ∧
      ∃ again, (embed env o [] filled).run.run = .ok again ∧ again.content = filled ∧
        again.blocks.length = 1 ∧ again.resolvedCount = 0 ∧
        again.blocks.map (·.outcome) = [.upToDate] := by
  intro o env filled
  have h : (embed env o [] "```py\n# a.py\n```\n".toList).run.run =
      .ok ⟨filled, [⟨2, 3, .resolved "# a.py\n\nx\n".toList 1⟩]⟩ := by
    decide
  have hprose : ∀ line ∈ (Document.ofText "```py\n# a.py\n```\n".toList).prose,
      ¬ BeginsFence line := by
    decide
  have hnl : Text.newline "```py\n# a.py\n```\n".toList = .lf ∧ Text.newline filled = .lf := by
    decide
  have hscan : Search.givesUp filled = false := by decide
  obtain ⟨again, hagain, hcontent, hlen, hnone, hstates⟩ :=
    embed_idempotent env o [] h rfl hprose (.inl hnl) hscan
  exact ⟨h, again, hagain, hcontent, hlen, hnone, hstates⟩

end FenceSync
