import FenceSync.Proofs.Effort
import FenceSync.Proofs.IndentedReading
import FenceSync.Proofs.NewlineInvariance
import FenceSync.Proofs.Running

namespace FenceSync

/-!
# Embedding does not depend on the depth

A document that is moved to the right is embedded like the document itself, with the same questions
to files and commands in the same order, and its result is the moved result.

* `Snippet.settle_indented` says that a new interior is moved, and `Snippet.resolve_indented` and
  `embedBlock_indented` that nothing else happens, in any monad.
* `embed_indented` is the full statement, for documents that can be searched at both depths.
* `embed_indented_gives_up` shows that there are others: a single blank in front of every line can
  be too much for the search.
-/

/-! ### Results at a further indentation -/

/-- The outcome at a further indentation. -/
def Outcome.indented (w : Text) : Outcome → Outcome
  | .resolved replacement lineCount => .resolved (Text.indented w replacement) lineCount
  | out => out

/-- The report at a further indentation. -/
def BlockReport.indented (w : Text) (b : BlockReport) : BlockReport :=
  { b with outcome := b.outcome.indented w }

/-- The result at a further indentation. -/
def EmbedResult.indented (w : Text) (r : EmbedResult) : EmbedResult :=
  ⟨Text.indented w r.content, r.blocks.map (BlockReport.indented w)⟩

theorem Outcome.indented_eq_self (w : Text) {out : Outcome} (h : out.isResolved = false) :
    out.indented w = out := by
  cases out with
  | resolved r n => cases h
  | _ => rfl

theorem Outcome.interior_indented (w : Text) (out : Outcome) (t : Text) :
    (out.indented w).interior (Text.indented w t) = Text.indented w (out.interior t) := by
  cases out <;> rfl

/-- The messages on a block do not depend on its depth. -/
theorem Outcome.logEntry?_indented (w : Text) (o : Options) (label : String) (out : Outcome) :
    Outcome.logEntry? o label (out.indented w) = out.logEntry? o label := by
  cases out <;> rfl

/-! ### One block -/

section
variable {w : Text} (hw : IsIndent w) {o : Options} {s : Snippet}

/-- A new interior is moved with its block. -/
theorem Snippet.newInterior_indented (w : Text) (hi : IsIndent s.fence.indent)
    {style : CommentStyle} {text : Text} {d : Directive} (hd : s.demand = .wanted style text d)
    (ls : List Text) :
    (s.indented w).newInterior .lf o style text ls =
      Text.indented w (s.newInterior .lf o style text ls) := by
  have hpieces : (s.indented w).newPieces .lf o style text ls =
      (s.newPieces .lf o style text ls).map (w ++ ·) := by
    rw [Snippet.newPieces, Snippet.newPieces, List.map_map]
    refine List.map_congr_left fun p _ => ?_
    exact List.append_assoc w s.fence.indent p
  rw [Snippet.newInterior, hpieces, Snippet.newInterior]
  refine Text.joinLines_indented w fun p hp => ?_
  obtain ⟨q, hq, rfl⟩ := List.mem_map.mp hp
  rw [List.mem_append, not_or]
  refine ⟨hi.lf_notMem, ?_⟩
  rcases List.mem_append.mp hq with hq | hq
  · exact (Snippet.headerPieces_spec o hd hq).1
  · exact Text.lf_notMem_of_isPiece_lf (isPiece_of_mem_embeddedPieces .lf hq)

include hw

/-- **A moved block is settled on the moved outcome**: the fence check looks at the text in front of
    which no indentation stands yet. -/
theorem Snippet.settle_indented (hi : IsIndent s.fence.indent) {style : CommentStyle}
    {text : Text} {d : Directive} (hd : s.demand = .wanted style text d) (ls : List Text) :
    (s.indented w).settle o style text Newline.lf.text ls =
      (s.settle o style text Newline.lf.text ls).map (Outcome.indented w) := by
  have hnew := Snippet.newInterior_indented (o := o) w hi hd ls
  have hsame : Text.indented w (s.newInterior .lf o style text ls) = Text.indented w s.code ↔
      s.newInterior .lf o style text ls = s.code :=
    ⟨fun h => Text.indented_injective hw h, fun h => by rw [h]⟩
  rw [Snippet.settle_of_demand o .lf ((Snippet.demand_indented hw s).trans hd),
    Snippet.settle_of_demand o .lf hd, hnew,
    show (s.indented w).code = Text.indented w s.code from rfl]
  by_cases hany : (embeddedPieces .lf ls).any startsFence = true
  · rw [if_pos hany, if_pos hany]
    rfl
  · rw [if_neg hany, if_neg hany]
    by_cases heq : s.newInterior .lf o style text ls = s.code
    · rw [if_pos (hsame.mpr heq), if_pos heq]
      rfl
    · rw [if_neg (fun h => heq (hsame.mp h)), if_neg heq]
      rfl

variable {m : Type → Type} [Monad m] [LawfulMonad m] (env : Surroundings m)

theorem Snippet.resolve_indented (hi : IsIndent s.fence.indent) :
    (s.indented w).resolve env o Newline.lf.text =
      Outcome.indented w <$> s.resolve env o Newline.lf.text := by
  unfold Snippet.resolve
  rw [Snippet.demand_indented hw]
  cases hd : s.demand with
  | settled out =>
    simp only [map_pure, Outcome.indented_eq_self w (Snippet.isResolved_of_demand hd)]
  | invalid directive => exact (ExceptT.map_throw _ _).symm
  | wanted style text d =>
    simp only [map_bind]
    refine bind_congr fun _ => bind_congr fun ls => ?_
    rw [Snippet.settle_indented hw hi hd]
    cases s.settle o style text Newline.lf.text ls with
    | ok out => exact (map_pure _ _).symm
    | error e => exact (ExceptT.map_throw _ _).symm

/-- **A moved block does the same as the block**, and has the moved outcome. -/
theorem embedBlock_indented {b b' : Block} (hi : IsIndent b.fence.indent)
    (hsnippet : b'.toSnippet = b.toSnippet.indented w) (hstart : b'.startLine = b.startLine)
    (hend : b'.endLine = b.endLine) (path : Text) :
    embedBlock env o path Newline.lf.text b' =
      Outcome.indented w <$> embedBlock env o path Newline.lf.text b := by
  have hresolve := Snippet.resolve_indented hw (o := o) env hi
  unfold embedBlock
  rw [hsnippet, hstart, hend, hresolve, ExceptT.run_map]
  simp only [liftM_map, bind_map_left, map_bind]
  refine bind_congr fun result => ?_
  cases result with
  | ok out =>
    simp only [Except.map, pure_bind, Outcome.logEntry?_indented]
    cases out.logEntry? o ("  " ++ blockLabel path b.startLine b.endLine) with
    | none => exact (map_pure _ _).symm
    | some entry => simp only [map_bind, map_pure]
  | error e =>
    simp only [Except.map]
    cases ht : e.tolerated? o with
    | none => simp only [ExceptT.bind_throw, ExceptT.map_throw]
    | some out =>
      have hout := Outcome.indented_eq_self w (ResolveError.isResolved_of_tolerated? o ht)
      simp only [pure_bind, map_bind]
      refine bind_congr fun _ => ?_
      cases out.logEntry? o ("  " ++ blockLabel path b.startLine b.endLine) with
      | none => rw [map_pure, hout]
      | some entry => simp only [map_bind, map_pure, hout]

end

/-! ### Documents -/

section
variable {σ : Type} {env : Surroundings (StateM σ)} {o : Options} {path w : Text}

/-- The sections of a moved document lie on the same lines. -/
theorem Block.ofSection_indented (hw : IsIndent w) {before before' : Text}
    (hbefore : before'.count '\n' = before.count '\n') (s : Section) :
    let b := Block.ofSection Newline.lf.text before s
    let b' := Block.ofSection Newline.lf.text before' (s.indented w)
    b'.toSnippet = b.toSnippet.indented w ∧ b'.startLine = b.startLine ∧ b'.endLine = b.endLine := by
  refine ⟨rfl, ?_, ?_⟩
  all_goals
    simp only [Block.ofSection, Section.indented, Snippet.indented, Text.occurrences_lf,
      List.count_append, Text.count_lf_indented hw, hbefore]

/-- **Moved sections are embedded like the sections**: in the same states, and with the moved
    result. -/
theorem embedSections_indented (hw : IsIndent w) {ss : List Section}
    (hss : ∀ s ∈ ss, IsIndent s.fence.indent ∧ Text.EndsLine s.lead ∧ Text.EndsLine s.code)
    {before before' : Text} (hbefore : before'.count '\n' = before.count '\n') (st : σ) :
    runFrom (embedSections env o path Newline.lf.text before' (ss.map (Section.indented w))) st =
      Prod.map (Except.map fun r => (Text.indented w r.1, r.2.map (BlockReport.indented w))) id
        (runFrom (embedSections env o path Newline.lf.text before ss) st) := by
  induction ss generalizing before before' st with
  | nil => rfl
  | cons s ss ih =>
    obtain ⟨hi, hlead, hcode⟩ := hss s (by simp)
    obtain ⟨hsnippet, hstart, hend⟩ := Block.ofSection_indented hw hbefore s
    have hblock := embedBlock_indented hw (o := o) env hi hsnippet hstart hend path
    rw [List.map_cons, embedSections, embedSections, hblock, runFrom_bind, runFrom_bind, runFrom_map]
    rcases hout : runFrom (embedBlock env o path Newline.lf.text
      (Block.ofSection Newline.lf.text before s)) st with ⟨e | out, st₁⟩
    · rfl
    · -- The new interior ends with a line feed, so that it is moved on its own.
      have hinterior : Text.EndsLine (out.interior s.code) :=
        (becomes_of_embedBlock hout).canBecome.endsLine_interior o .lf hcode
      have hcount : (before' ++ (s.indented w).lead ++ (s.indented w).code).count '\n' =
          (before ++ s.lead ++ s.code).count '\n' := by
        simp only [Section.indented, Snippet.indented, List.count_append,
          Text.count_lf_indented hw, hbefore]
      have hrest := ih (fun s' hs' => hss s' (List.mem_cons_of_mem _ hs')) hcount st₁
      simp only [Prod.map, Except.map, id]
      rw [runFrom_bind, runFrom_bind, hrest]
      rcases runFrom (embedSections env o path Newline.lf.text (before ++ s.lead ++ s.code) ss)
        st₁ with ⟨e | rest, st₂⟩
      · rfl
      · have htext : (s.indented w).lead ++ (out.indented w).interior (s.indented w).code ++
            Text.indented w rest.1 =
              Text.indented w (s.lead ++ out.interior s.code ++ rest.1) := by
          rw [Text.indented_append w (hlead.append hinterior), Text.indented_append w hlead,
            ← Outcome.interior_indented]
          rfl
        simp only [Prod.map, Except.map, id, runFrom_pure]
        rw [htext, hstart, hend]
        rfl

/-- New interiors end with a line feed, and so does what they are put in front of. -/
theorem endsLine_splice {nl : Newline} {ss : List Section} {outs : List Outcome}
    (hss : ∀ s ∈ ss, Text.EndsLine s.lead ∧ Text.EndsLine s.code)
    (houts : List.Forall₂ (fun s out => s.toSnippet.CanBecome o nl.text out) ss outs) :
    Text.EndsLine (splice ss outs) := by
  induction houts with
  | nil => simp [splice, Text.EndsLine]
  | @cons s out ss outs hout _ ih =>
    obtain ⟨hlead, hcode⟩ := hss s (by simp)
    rw [splice_cons]
    exact (hlead.append (hout.endsLine_interior o nl hcode)).append
      (ih fun s' hs' => hss s' (List.mem_cons_of_mem _ hs'))

/-- **Embedding does not depend on the depth.**  A document with LF that is moved to the right is
    embedded iff the document itself is, with the moved result: the blocks lie on the same lines and
    have the same outcomes, and new interiors are moved.  If it fails, it fails with the same error.
    The state is the same afterwards, so that files and commands were asked the same in the same
    order.

    The search for blocks has to end at both depths, or at neither. -/
theorem embed_indented (hw : IsIndent w) {markdown : Text} (hlf : Text.newline markdown = .lf)
    (hscan : Search.givesUp (Text.indented w markdown) = Search.givesUp markdown) (st : σ) :
    runFrom (embed env o path (Text.indented w markdown)) st =
      Prod.map (Except.map (EmbedResult.indented w)) id
        (runFrom (embed env o path markdown) st) := by
  have hss : ∀ s ∈ (Document.ofText markdown).sections,
      IsIndent s.fence.indent ∧ Text.EndsLine s.lead ∧ Text.EndsLine s.code :=
    fun s hs => ⟨(Document.ofText_spec hs).1, Document.endsLine_section hs⟩
  rw [embed, embed, runFrom_bind, runFrom_bind, runFrom_lift]
  simp only [Document.scan?, hscan]
  cases Search.givesUp markdown with
  | true => rfl
  | false =>
    have hstart : ([] : Text).count '\n' = ([] : Text).count '\n' := rfl
    simp only [Bool.false_eq_true, if_false, Document.ofText_indented hw, Text.newline_indented hw,
      hlf]
    rw [runFrom_bind, runFrom_bind, show (Document.indented w (Document.ofText markdown)).sections =
      (Document.ofText markdown).sections.map (Section.indented w) from rfl,
      embedSections_indented hw hss hstart]
    rcases hr : runFrom (embedSections env o path Newline.lf.text []
      (Document.ofText markdown).sections) _ with ⟨e | r, st'⟩
    · rfl
    · obtain ⟨outs, houts, rfl⟩ := becomes_of_embedSections hr
      have hbecome : List.Forall₂ (fun s out => s.toSnippet.CanBecome o Newline.lf.text out)
          (Document.ofText markdown).sections outs := houts.imp fun _ _ hout => hout.canBecome
      have hend := endsLine_splice (fun s hs => (hss s hs).2) hbecome
      have htext := Text.indented_append w hend (Document.ofText markdown).rest
      simp only [Prod.map, Except.map, id, runFrom_pure, EmbedResult.indented, htext]
      rfl

end

/-- Surroundings that keep a list of the commands they are asked to run; each of them prints
    itself. -/
def Surroundings.listing : Surroundings (StateM (List Text)) where
  isFile _ := pure false
  read _ := pure (.error .notFound)
  run line _ := fun lines => (.ok ⟨Text.utf8 line, 0, true⟩, lines ++ [line])
  log _ := pure ()

/-- Two commands are run in the same order at both depths. -/
theorem embed_indented_two_commands :
    let w := "\t ".toList
    let markdown := "```sh\n# $ v\n```\n\n  ```py\n\n # $ w\n  ```".toList
    let o := Options.inDir ⟨['/']⟩
    ∃ r, r.resolvedCount = 2 ∧
      runFrom (embed .listing o [] markdown) [] = (.ok r, [['v'], ['w']]) ∧
      runFrom (embed .listing o [] (Text.indented w markdown)) [] =
        (.ok (r.indented w), [['v'], ['w']]) := by
  intro w markdown o
  have hw : IsIndent w := by decide
  have hlf : Text.newline markdown = .lf := by decide
  have hscan : Search.givesUp (Text.indented w markdown) = Search.givesUp markdown := by
    decide
  have hrun : runFrom (embed .listing o [] markdown) [] =
      (.ok ⟨"```sh\n# $ v\n\nv\n```\n\n  ```py\n  # $ w\n  \n  w\n  ```".toList,
        [⟨2, 3, .resolved "# $ v\n\nv\n".toList 1⟩,
          ⟨6, 8, .resolved "  # $ w\n  \n  w\n".toList 1⟩]⟩, [['v'], ['w']]) := by
    decide +kernel
  have hmoved : runFrom (embed .listing o [] (Text.indented w markdown)) [] = _ :=
    embed_indented hw hlf hscan []
  rw [hrun] at hmoved
  exact ⟨_, rfl, hrun, hmoved⟩

/-! ### Texts that are too long at a further indentation -/

theorem indented_unclosed (b : Char) (m : Nat) :
    Text.indented [b] (Search.unclosed .lf 0 m) = Search.unclosedBehind b m := by
  induction m with
  | zero => rfl
  | succ m ih =>
    have hline : Text.IsWhole (Search.unclosedLine .lf) :=
      ⟨['\x60', '\x60', '\x60', '\x60'], by decide, rfl⟩
    rw [Search.unclosed, Text.indented_isWhole_append [b] hline, ih]
    rfl

/-- **The search may give up at one depth only.**  Fences that are never closed are followed to the
    end of the text, and that is further away with a blank in front of every line. -/
theorem embed_indented_gives_up :
    let o := Options.inDir ⟨['/']⟩
    let env := Surroundings.constant []
    let t := Search.unclosed .lf 0 1910
    IsIndent [' '] ∧ Text.newline t = .lf ∧ (embed env o [] t).run.run = .ok ⟨t, []⟩ ∧
      (embed env o [] (Text.indented [' '] t)).run.run = .error (.scan [] .tooMuchEffort) := by
  intro o env t
  have hhere : Search.givesUp t = false := by
    rw [Search.givesUp_of_costs (Search.costs_unclosed _ .lf 0 1910)]
    decide +kernel
  have hmoved : Search.givesUp (Text.indented [' '] t) = true := by
    rw [indented_unclosed, Search.givesUp_of_costs (Search.costs_unclosedBehind _ rfl 1910)]
    decide +kernel
  refine ⟨by decide, Text.newline_eq_lf (cr_notMem_unclosed 0 1910),
    embed_of_no_sections env o [] hhere (sections_unclosed .lf 0 1910), ?_⟩
  rw [embed_run, Document.scan?, if_pos hmoved]

end FenceSync
