import FenceSync.Proofs.Effort
import FenceSync.Proofs.Encoding
import FenceSync.Proofs.Idempotence
import FenceSync.Proofs.Splicing

namespace FenceSync

/-!
# When embedding keeps the blocks

An opening fence that is never closed is no block, but it waits for a closing fence all the same.
The fence check of a new interior does not know what waits above, so that a new line can close such
a fence, and then the blocks are other ones.

* `Greedy.undisturbed_of_embedded` says that pairs keep their fences only if no new line closes one
  that waits above.
* `Document.ofText_splice_iff` says when a document with other interiors is read back as what it is.
* `embed_keeps_blocks_iff` says exactly when the blocks of an embedded document are the old ones
  with their new interiors; `embed_repairs_fences` and `embed_outgrows_scan` are the two ways in
  which they are not.
-/

/-! ### Pairs -/

theorem Pair.mem_inner_of_mem_newLines (p : Pair) {out : Outcome} {line : Text}
    (h : line ∈ out.newLines) : line ∈ (p.embedded out).inner := by
  cases out with
  | resolved replacement n => exact h
  | _ => cases h

/-- The lines of new interiors are among the lines of the pairs. -/
theorem mem_lines_of_mem_newLines {ps : List Pair} {outs : List Outcome}
    (hlen : ps.length = outs.length) (tail : List Text) {line : Text}
    (h : line ∈ outs.flatMap Outcome.newLines) :
    line ∈ (List.zipWith Pair.embedded ps outs).flatMap Pair.lines ++ tail := by
  induction ps generalizing outs with
  | nil =>
    cases outs with
    | nil => cases h
    | cons out outs => cases hlen
  | cons p ps ih =>
    cases outs with
    | nil => cases hlen
    | cons out outs =>
      rw [List.flatMap_cons] at h
      rw [List.zipWith_cons_cons, List.flatMap_cons, List.append_assoc]
      rcases List.mem_append.mp h with h | h
      · have hinner : line ∈ (p.embedded out).inner := Pair.mem_inner_of_mem_newLines p h
        exact List.mem_append_left _ (by simp [Pair.lines, hinner])
      · exact List.mem_append_right _ (ih (by simpa using hlen) h)

/-- **Pairs that keep their fences are undisturbed.**  The induction is on the pairs: if the first
    pair of the new lines has the fence of the first pair of the old ones, then it is that pair,
    because a fence with the same indentation that waits above would have been closed by the old
    closing fence already. -/
theorem Greedy.undisturbed_of_embedded {ls tail tail' : List Text} {ps qs : List Pair}
    (h : Greedy ls ps tail) {outs : List Outcome}
    (hholds : List.Forall₂ (fun p out => p.fence.Holds (out.interior p.inner.flatten)) ps outs)
    (h' : Greedy ((List.zipWith Pair.embedded ps outs).flatMap Pair.lines ++ tail) qs tail')
    (hfences : qs.map Pair.fence = ps.map Pair.fence) : Undisturbed (ps.map Pair.before) outs := by
  induction h generalizing outs qs with
  | done _ => simp [Undisturbed]
  | @pair p later tail ps skipped opens inside closes rest ih =>
    cases hholds with
    | @cons _ out _ outs hp hps =>
      have heq : (List.zipWith Pair.embedded (p :: ps) (out :: outs)).flatMap Pair.lines ++ tail =
          p.before ++ p.opener :: ((p.embedded out).inner ++ p.closer ::
            ((List.zipWith Pair.embedded ps outs).flatMap Pair.lines ++ tail)) := by
        rw [List.zipWith_cons_cons, List.flatMap_cons, List.append_assoc, Pair.lines]
        simp [Pair.embedded]
      have hnew : ∀ line ∈ outs.flatMap Outcome.newLines,
          line ∈ (List.zipWith Pair.embedded ps outs).flatMap Pair.lines ++ tail :=
        fun _ hline => mem_lines_of_mem_newLines hps.length_eq tail hline
      generalize hrest : (List.zipWith Pair.embedded ps outs).flatMap Pair.lines ++ tail = ls'
        at heq hnew
      rw [heq] at h'
      generalize hls : p.before ++ p.opener :: ((p.embedded out).inner ++ p.closer :: ls') = all
        at h'
      cases h' with
      | done _ => simp at hfences
      | @pair q later' tail' qs skipped' opens' inside' closes' rest' =>
        have hf : q.fence = p.fence := List.head_eq_of_cons_eq hfences
        rcases append_cons_eq_cases hls with ⟨hb, ho, hi⟩ | ⟨c, hc, hi⟩ | ⟨c, hc, hi⟩
        · rcases append_cons_eq_cases hi with ⟨hin, -, hla⟩ | ⟨c, hc, -⟩ | ⟨c, hc, -⟩
          · subst hla
            refine ⟨?_, ih hps (hrest ▸ rest') (List.tail_eq_of_cons_eq hfences)⟩
            -- Nothing behind the fences that wait closes them, and the new lines are there.
            intro f hwait line hline
            obtain ⟨op, hop, hopens⟩ := List.mem_filterMap.mp hwait
            obtain ⟨pre, post, hpre⟩ := List.append_of_mem hop
            refine skipped'.not_closes (hb ▸ hpre) (Fence.ofLine?_eq_some_iff.mp hopens) ?_
            rw [List.flatMap_cons] at hline
            rcases List.mem_append.mp hline with hline | hline
            · have hinner : line ∈ q.inner := hin ▸ Pair.mem_inner_of_mem_newLines p hline
              simp [hinner]
            · simp [hnew line hline]
          · exact absurd closes (hf ▸ inside' p.closer (by rw [hc]; simp))
          · have hmem : q.closer ∈ (p.embedded out).inner := by
              rw [hc]
              simp
            exact absurd closes' (hf ▸ (hp q.closer hmem).2)
        · have hmem : p.closer ∈ c ++ q.opener :: (q.inner ++ q.closer :: later') := by
            rw [← hi]
            simp
          exact absurd closes (skipped'.not_closes hc opens hmem)
        · have hmem : p.closer ∈ c ++ p.opener :: (p.inner ++ p.closer :: later) := by simp
          exact absurd (hf ▸ closes) (skipped.not_closes hc opens' hmem)

/-! ### Documents -/

/-- The snippet with the interior that its outcome gives it. -/
def Snippet.embedded (s : Snippet) (out : Outcome) : Snippet :=
  { s with code := out.interior s.code }

/-- The sections of pairs have their fences. -/
theorem Document.fence_sectionsOf (m : Marker) (lead : Text) (ps : List Pair) :
    (sectionsOf m lead ps).map (fun s => s.fence) = ps.map Pair.fence := by
  induction ps generalizing m lead with
  | nil => rfl
  | cons p ps ih => rw [sectionsOf, List.map_cons, List.map_cons, ih]; rfl

theorem Snippet.fence_embedded {ss : List Section} {outs : List Outcome}
    (hlen : ss.length = outs.length) :
    (List.zipWith (fun s out => s.toSnippet.embedded out) ss outs).map Snippet.fence =
      ss.map fun s => s.fence := by
  induction ss generalizing outs with
  | nil => rfl
  | cons s ss ih =>
    cases outs with
    | nil => cases hlen
    | cons out outs =>
      rw [List.zipWith_cons_cons, List.map_cons, List.map_cons, ih (by simpa using hlen)]
      rfl

/-- **When a document with other interiors is read back** as what it is: no new line closes a fence
    that waits above. -/
theorem Document.ofText_splice_iff {t : Text} {outs : List Outcome}
    (hholds : List.Forall₂ (fun s out => s.fence.Holds (out.interior s.code))
      (Document.ofText t).sections outs) :
    (Document.ofText (splice (Document.ofText t).sections outs ++
        (Document.ofText t).rest)).sections.map (fun s => s.toSnippet) =
      List.zipWith (fun s out => s.toSnippet.embedded out) (Document.ofText t).sections outs ↔
        Undisturbed (proseAbove false (Document.ofText t).sections) outs := by
  constructor
  · intro h
    obtain ⟨ps, tail, hps⟩ := Greedy.exists (Text.lines t)
    obtain ⟨hpairs, hlines⟩ := Document.lines_splice hps hholds
    obtain ⟨qs, tail', hqs⟩ := Greedy.exists
      ((List.zipWith Pair.embedded ps outs).flatMap Pair.lines ++ tail)
    have hd : Document.ofText t = ofPairs .absent [] ps tail := Document.ofLines_greedy hps
    have hd' : Document.ofText (splice (Document.ofText t).sections outs ++
        (Document.ofText t).rest) = ofPairs .absent [] qs tail' := by
      rw [Document.ofText, hlines]
      exact Document.ofLines_greedy hqs
    -- The blocks have the fences of the pairs, before and after.
    have hfences : qs.map Pair.fence = ps.map Pair.fence := by
      have hmap := congrArg (List.map Snippet.fence) h
      rw [Snippet.fence_embedded hholds.length_eq, hd', hd, List.map_map] at hmap
      have hnew := fence_sectionsOf .absent [] qs
      have hold := fence_sectionsOf .absent [] ps
      exact hnew.symm.trans (hmap.trans hold)
    rw [Document.proseAbove_ofText hps]
    exact hps.undisturbed_of_embedded hpairs hqs hfences
  · intro h
    rw [Document.ofText_splice_of_undisturbed h hholds, List.map_zipWith]
    rfl

/-! ### Embedded documents -/

/-- The blocks of sections are what the sections are, at their places. -/
theorem Block.toSnippet_listFrom (newline before : Text) (ss : List Section) :
    (Block.listFrom newline before ss).map Block.toSnippet = ss.map fun s => s.toSnippet := by
  induction ss generalizing before with
  | nil => rfl
  | cons s ss ih => rw [Block.listFrom, List.map_cons, List.map_cons, ih]; rfl

theorem Block.length_reportsOn {bs : List Block} {outs : List Outcome}
    (h : bs.length = outs.length) : (reportsOn bs outs).length = bs.length := by
  rw [reportsOn, List.length_zipWith, h, Nat.min_self]

/-- Blocks with their reports say what the sections with their outcomes do. -/
theorem Block.embedded_reportsOn (newline before : Text) (ss : List Section)
    (outs : List Outcome) :
    List.zipWith (fun b report => b.toSnippet.embedded report.outcome)
        (Block.listFrom newline before ss) (reportsOn (Block.listFrom newline before ss) outs) =
      List.zipWith (fun s out => s.toSnippet.embedded out) ss outs := by
  induction ss generalizing before outs with
  | nil => rfl
  | cons s ss ih =>
    cases outs with
    | nil => rfl
    | cons out outs =>
      rw [Block.listFrom, reportsOn_cons, List.zipWith_cons_cons, List.zipWith_cons_cons, ih]
      rfl

/-- **When embedding keeps the blocks.**  The blocks of an embedded document without CR are the old
    ones, as many and each with the same marker and the same fence, with the new interior if the
    block was resolved and the old one otherwise, exactly if

    * the scan of the embedded document ends, and
    * no line of a new interior closes an opening fence above it that belongs to no block. -/
theorem embed_keeps_blocks_iff {σ : Type} {env : Surroundings (StateM σ)} {o : Options}
    {path markdown : Text} {r : EmbedResult} {st st' : σ} (hcr : '\r' ∉ markdown)
    (h : runFrom (embed env o path markdown) st = (.ok r, st')) :
    ∃ bs, Block.extract? markdown = .ok bs ∧ bs.length = r.blocks.length ∧
      ((∃ bs', Block.extract? r.content = .ok bs' ∧ bs'.length = bs.length ∧
          bs'.map Block.toSnippet =
            List.zipWith (fun b report => b.toSnippet.embedded report.outcome) bs r.blocks) ↔
        Search.givesUp r.content = false ∧
          Undisturbed (Document.proseAbove false (Document.ofText markdown).sections)
            (r.blocks.map BlockReport.outcome)) := by
  have hlf : Text.newline markdown = .lf := Text.newline_eq_lf hcr
  obtain ⟨hscan, outs, houts, rfl⟩ := embed_runFrom h
  have hholds := holds_splice_of_canBecome o houts (.inl hlf)
  have hlen : (Block.listFrom (Text.newline markdown).text []
      (Document.ofText markdown).sections).length = outs.length :=
    (length_listFrom _ _ _).trans houts.length_eq
  have hsame := Block.embedded_reportsOn (Text.newline markdown).text []
    (Document.ofText markdown).sections outs
  refine ⟨_, Block.extract?_eq_ok_iff.mpr ⟨hscan, rfl⟩, (Block.length_reportsOn hlen).symm, ?_⟩
  dsimp only
  rw [Block.list, outcomes_reportsOn hlen, ← Document.ofText_splice_iff hholds, hsame]
  constructor
  · rintro ⟨bs', hbs', -, hblocks⟩
    obtain ⟨hscan', rfl⟩ := Block.extract?_eq_ok_iff.mp hbs'
    rw [Block.list, Block.toSnippet_listFrom] at hblocks
    exact ⟨hscan', hblocks⟩
  · rintro ⟨hscan', hblocks⟩
    refine ⟨_, Block.extract?_eq_ok_iff.mpr ⟨hscan', rfl⟩, ?_, ?_⟩
    · have hcount := congrArg List.length hblocks
      rw [List.length_map, List.length_zipWith, houts.length_eq, Nat.min_self] at hcount
      rw [hlen, Block.list, length_listFrom]
      exact hcount
    · rw [Block.list, Block.toSnippet_listFrom]
      exact hblocks

/-- A fence that waits for tabs in front of its closing fence is not disturbed. -/
theorem embed_keeps_blocks_growing :
    let markdown := "\t```\n```sh\n# $ w\n```\n".toList
    ∃ r st' bs bs', '\r' ∉ markdown ∧
      runFrom (embed Surroundings.growing (Options.inDir ⟨['/']⟩) [] markdown) 1 = (.ok r, st') ∧
      r.resolvedCount = 1 ∧ Block.extract? markdown = .ok bs ∧
      Block.extract? r.content = .ok bs' ∧ bs'.map Block.toSnippet =
        List.zipWith (fun b report => b.toSnippet.embedded report.outcome) bs r.blocks := by
  intro markdown
  have hcr : '\r' ∉ markdown := by decide
  have h : runFrom (embed Surroundings.growing (Options.inDir ⟨['/']⟩) [] markdown) 1 =
      (.ok ⟨"\t```\n```sh\n# $ w\n\nx\n```\n".toList,
        [⟨3, 4, .resolved "# $ w\n\nx\n".toList 1⟩]⟩, 2) := by
    decide
  obtain ⟨bs, hbs, -, hiff⟩ := embed_keeps_blocks_iff hcr h
  obtain ⟨bs', hbs', -, hblocks⟩ := hiff.mpr (by decide)
  exact ⟨_, _, bs, bs', hcr, h, rfl, hbs, hbs', hblocks⟩

/-- **A new line closes a fence that waits above**: the only block of the embedded document starts
    where the first opening fence stands, with another indentation and without a language. -/
theorem embed_repairs_fences :
    let markdown := "  ```\n```txt\n// a.txt\n```\n".toList
    let source := "x\n  ```\n".toList
    let embedded := "  ```\n```txt\n// a.txt\n\nx\n  ```\n```\n".toList
    let report : BlockReport := ⟨3, 4, .resolved "// a.txt\n\nx\n  ```\n".toList 2⟩
    '\r' ∉ markdown ∧ '\r' ∉ source ∧
      (embed (.constant source) (.inDir ⟨['/']⟩) [] markdown).run.run =
        .ok ⟨embedded, [report]⟩ ∧
      (Block.extract? markdown).map (fun bs => bs.map Block.toSnippet) =
        .ok [⟨.absent, ⟨[], "txt".toList⟩, "// a.txt\n".toList⟩] ∧
      (Block.extract? embedded).map (fun bs => bs.map Block.toSnippet) =
        .ok [⟨.absent, ⟨"  ".toList, []⟩, "```txt\n// a.txt\n\nx\n".toList⟩] := by
  decide

/-! ### Documents that outgrow the scan -/

/-- The lines of what a command prints, if that is one line. -/
theorem linesOfOutput_utf8 {t : Text} (h : '\n' ∉ t) : linesOfOutput (Text.utf8 t) = [t] := by
  rw [linesOfOutput, Bytes.lossyText_utf8]
  exact Text.isPiece_of_lf_notMem _ h

/-- A line without white space at its end is embedded as it is. -/
theorem embeddedPieces_singleton {nl : Newline} {t : Text} (h : '\n' ∉ t)
    (hlast : ∀ c ∈ t.getLast?, isSpace c = false) : embeddedPieces nl [t] = [t] := by
  have hjoin : Text.joinWith nl.text [t] = t := rfl
  rw [embeddedPieces, hjoin, Text.trimEnd_eq_self hlast]
  exact Text.isPiece_of_lf_notMem nl h

/-- A block that a command fills. -/
def commandSnippet : Snippet := ⟨.absent, ⟨[], "sh".toList⟩, "# $ w\n".toList⟩

/-- The interior of the block when its command has printed one line. -/
def filledInterior (line : Text) : Text := Text.joinLines .lf ["# $ w".toList, [], line]

/-- The document with no other block, which has the given interior. -/
def commandDocument (interior : Text) : Text :=
  fenceMark ++ ("sh".toList ++ '\n' :: (interior ++ (fenceMark ++ ['\n'])))

theorem demand_commandSnippet :
    commandSnippet.demand = .wanted .hash " $ w".toList (.command ['w']) := by
  decide

section
variable {line : Text} (hlf : '\n' ∉ line) (hmark : '\x60' ∉ line)
  (hlast : ∀ c ∈ line.getLast?, isSpace c = false) (dir : Path)
include hlf hmark hlast

theorem outcome?_commandSnippet :
    commandSnippet.outcome? (.constant line) (.inDir dir) Newline.lf.text =
      some (.resolved (filledInterior line) 1) := by
  have hlines : (Directive.lines (.constant line) (.inDir dir) (.command ['w'])).run.run =
      .ok [line] := by
    refine (commandLines_run _ _ _).trans ?_
    exact congrArg Except.ok (linesOfOutput_utf8 hlf)
  have hpieces : embeddedPieces .lf [line] = [line] := embeddedPieces_singleton hlf hlast
  have hfence : startsFence line = false := by
    rw [Bool.eq_false_iff]
    intro h
    exact hmark ((startsFence_iff.mp h).subset (by decide))
  have hnew : commandSnippet.newInterior .lf (.inDir dir) .hash " $ w".toList [line] =
      filledInterior line := by
    have hhead : commandSnippet.headerPieces (.inDir dir) .hash " $ w".toList =
        ["# $ w".toList, []] := rfl
    rw [Snippet.newInterior, Snippet.newPieces, hpieces, hhead]
    rfl
  have hchanged : filledInterior line ≠ commandSnippet.code := fun h =>
    List.cons_ne_nil _ _ (congrArg (List.drop 6) h)
  rw [Snippet.outcome?, Snippet.resolve_run, demand_commandSnippet]
  simp only [hlines]
  rw [Snippet.settle_of_demand _ .lf demand_commandSnippet, hpieces, hnew,
    if_neg (by simp [hfence]), if_neg hchanged]
  rfl

theorem embed_commandDocument (path : Text) :
    (embed (.constant line) (.inDir dir) path (commandDocument commandSnippet.code)).run.run =
      .ok ⟨commandDocument (filledInterior line),
        [⟨2, 3, .resolved (filledInterior line) 1⟩]⟩ := by
  have hd : Document.ofText (commandDocument commandSnippet.code) =
      ⟨[⟨commandSnippet, "```sh\n".toList⟩], "```\n".toList⟩ := by
    decide
  have hnewline : Text.newline (commandDocument commandSnippet.code) = .lf := by decide
  have hcontent : splice [⟨commandSnippet, "```sh\n".toList⟩]
      [.resolved (filledInterior line) 1] ++ "```\n".toList =
        commandDocument (filledInterior line) := by
    simp [splice, commandDocument, Outcome.interior, fenceMark]
  refine (embed_eq_ok_iff _ _ _).mpr ⟨by decide, ?_⟩
  rw [hd, hnewline]
  refine ⟨[_], .cons (outcome?_commandSnippet hlf hmark hlast dir) .nil, ?_⟩
  rw [← hcontent]
  rfl

/-- **An embedded document may be too long to be scanned again.**  Embedding succeeds however long
    the line is that a command prints, but the scan goes back once for each of its characters. -/
theorem embed_outgrows_scan (hlong : Search.limit < line.length) (path : Text) :
    ∃ r, (embed (.constant line) (.inDir dir) path
        (commandDocument commandSnippet.code)).run.run = .ok r ∧
      Block.extract? r.content = .error .tooMuchEffort := by
  refine ⟨_, embed_commandDocument hlf hmark hlast dir path, ?_⟩
  have hinterior : '\x60' ∉ filledInterior line := by
    simp [filledInterior, hmark, Newline.text]
  have hlonger : Search.limit < (filledInterior line).length := by
    simp only [filledInterior, Text.joinLines_cons, List.length_append]
    omega
  have hlanguage : ∀ c ∈ "sh".toList, isLanguageChar c = true := List.all_eq_true.mp (by decide)
  have hscan : Search.givesUp (commandDocument (filledInterior line)) = true := by
    rw [commandDocument]
    exact Search.givesUp_of_long_interior hlanguage hinterior hlonger
  rw [Block.extract?, Document.scan?, if_pos hscan]

end

end FenceSync
