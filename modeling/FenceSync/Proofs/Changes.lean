import FenceSync.Delivery
import FenceSync.Proofs.Idempotence
import FenceSync.Proofs.Splicing

namespace FenceSync

/-!
# Documents that change

A document with LF changes exactly if one of its blocks gets a new interior.  Several new interiors
never make up for each other: each of them ends where its fence is closed first, in the new document
as in the old one.

* `Greedy.embedded_eq` is the reason, said of the lines of a document.
* `splice_eq_iff` says that a document stays the same exactly if all its interiors do.
* `embedSource_eq_ok` takes the report on a document apart.
* `changed_iff_resolved` is the full statement.
-/

/-! ### Interiors that fit between the same lines -/

/-- **New interiors that make up the same lines are the old ones.**  The induction is on the pairs:
    both interiors of a pair end with the line that closes its fence first, so that the lines behind
    it are the same, too. -/
theorem Greedy.embedded_eq {ls tail : List Text} {ps : List Pair} (h : Greedy ls ps tail)
    {outs : List Outcome}
    (hholds : List.Forall₂ (fun p out => p.fence.Holds (out.interior p.inner.flatten)) ps outs)
    (hsame : (List.zipWith Pair.embedded ps outs).flatMap Pair.lines ++ tail = ls) :
    List.Forall₂ (fun p out => out.interior p.inner.flatten = p.inner.flatten) ps outs := by
  induction h generalizing outs with
  | done _ =>
    cases hholds
    exact .nil
  | @pair p later tail ps skipped opens inside closes rest ih =>
    cases hholds with
    | @cons _ out _ outs hp hps =>
      rw [List.zipWith_cons_cons, List.flatMap_cons, List.append_assoc] at hsame
      generalize hlater : (List.zipWith Pair.embedded ps outs).flatMap Pair.lines ++ tail =
        later' at hsame
      have hbehind : (p.embedded out).inner ++ p.closer :: later' =
          p.inner ++ p.closer :: later := by
        simpa [Pair.lines, Pair.embedded] using hsame
      rcases append_cons_eq_cases hbehind with ⟨hinner, -, hrest⟩ | ⟨c, hc, -⟩ | ⟨c, hc, -⟩
      · refine .cons ?_ (ih hps (hlater.trans hrest))
        calc out.interior p.inner.flatten
            = (p.embedded out).inner.flatten := (Text.flatten_lines _).symm
          _ = p.inner.flatten := by rw [hinner]
      · exact absurd closes (inside p.closer (by rw [hc]; simp))
      · have hmem : p.closer ∈ (p.embedded out).inner := by
          rw [hc]
          simp
        exact absurd closes (hp p.closer hmem).2

/-- Interiors that are kept make up the same document. -/
theorem splice_of_kept {ss : List Section} {outs : List Outcome} (rest : Text)
    (h : List.Forall₂ (fun s out => out.interior s.code = s.code) ss outs) :
    splice ss outs ++ rest = (Document.mk ss rest).text := by
  rw [← text_splice]
  congr 2
  induction h with
  | nil => rfl
  | cons hs _ ih =>
    rw [List.zipWith_cons_cons, ih, Section.embedded, hs]

/-- **A document stays the same exactly if all its interiors do**, provided that they leave their
    fences open. -/
theorem splice_eq_iff {t : Text} {outs : List Outcome}
    (hholds : List.Forall₂ (fun s out => s.fence.Holds (out.interior s.code))
      (Document.ofText t).sections outs) :
    splice (Document.ofText t).sections outs ++ (Document.ofText t).rest = t ↔
      List.Forall₂ (fun s out => out.interior s.code = s.code) (Document.ofText t).sections outs := by
  constructor
  · intro hsame
    obtain ⟨ps, tail, h⟩ := Greedy.exists (Text.lines t)
    obtain ⟨hpairs, hlines⟩ := Document.lines_splice h hholds
    rw [hsame] at hlines
    have hd : Document.ofText t = .ofPairs .absent [] ps tail := Document.ofLines_greedy h
    rw [hd]
    exact (Document.forall₂_sectionsOf (P := fun _ code out => out.interior code = code)).mpr
      (h.embedded_eq hpairs hlines.symm)
  · intro hkept
    rw [splice_of_kept _ hkept]
    exact Document.text_ofText t

/-! ### New interiors -/

/-- An interior is kept exactly if it is not a new one. -/
theorem Snippet.CanBecome.interior_eq_iff {o : Options} {nl : Newline} {s : Snippet} {out : Outcome}
    (h : s.CanBecome o nl.text out) : out.interior s.code = s.code ↔ out.isResolved = false := by
  constructor
  · intro hkept
    rw [Bool.eq_false_iff]
    intro hres
    obtain ⟨style, text, d, ls, hd, hs⟩ := h hres
    cases out with
    | resolved r n => exact (Snippet.settle_eq_resolved o nl hd hs).2.2.1 hkept
    | _ => cases hres
  · exact fun hres => out.interior_eq_self hres s.code

theorem BlockReport.exists_resolved_iff {bs : List Block} {outs : List Outcome}
    (h : bs.length = outs.length) :
    (∃ b ∈ reportsOn bs outs, b.outcome.isResolved = true) ↔
      ∃ out ∈ outs, out.isResolved = true := by
  conv_rhs => rw [← outcomes_reportsOn h]
  simp

/-- **A document with LF changes exactly if one of its blocks gets a new interior.** -/
theorem splice_ne_iff {o : Options} {t : Text} (hlf : Text.newline t = .lf) {outs : List Outcome}
    (houts : List.Forall₂ (fun s out => s.toSnippet.CanBecome o (Text.newline t).text out)
      (Document.ofText t).sections outs) :
    splice (Document.ofText t).sections outs ++ (Document.ofText t).rest ≠ t ↔
      ∃ out ∈ outs, out.isResolved = true := by
  have hkept : List.Forall₂ (fun s out => out.interior s.code = s.code)
      (Document.ofText t).sections outs ↔ ∀ out ∈ outs, out.isResolved = false := by
    generalize (Document.ofText t).sections = ss at houts
    induction houts with
    | nil => simp
    | cons hs _ ih => rw [List.forall₂_cons, ih, hs.interior_eq_iff, List.forall_mem_cons]
  rw [Ne, splice_eq_iff (holds_splice_of_canBecome o houts (.inl hlf)), hkept]
  simp

/-! ### Reports on documents -/

section
variable {σ : Type} {env : Surroundings (StateM σ)} {o : Options}

/-- **A report on a document taken apart**: a text was read and embedded, and the report compares the
    result with it and counts the new interiors. -/
theorem embedSource_eq_ok {source : Path} {content : Text} {report : SourceReport} {st st' : σ}
    (h : runFrom (embedSource env o source) st = (.ok (content, report), st')) :
    ∃ markdown r st₁ st₂, (env.readText source).run st₁ = (.ok markdown, st₂) ∧
      runFrom (embed env o (source.shownFrom o.workingDir).spelling markdown) st₂ = (.ok r, st') ∧
      content = r.content ∧
      report = ⟨source.shownFrom o.workingDir, r.content != markdown, r.resolvedCount⟩ := by
  unfold embedSource at h
  obtain ⟨found, st₁, -, h⟩ := runFrom_bind_eq_ok h
  cases found with
  | false =>
    obtain ⟨_, _, hthrow, -⟩ := runFrom_bind_eq_ok h
    cases hthrow
  | true =>
    obtain ⟨text, st₂, hread, h⟩ := runFrom_bind_eq_ok h
    cases text with
    | error e => cases h
    | ok markdown =>
      obtain ⟨result, st₃, hembed, h⟩ := runFrom_bind_eq_ok h
      cases result with
      | error e => cases h
      | ok r =>
        cases h
        exact ⟨markdown, r, st₁, st₂, run_of_runFrom_lift hread, run_of_runFrom_lift hembed, rfl,
          rfl⟩

/-- **Changed means resolved.**  A document with LF that is embedded differs from what it was exactly
    if one of its blocks is reported to have a new interior, whatever files and commands do
    meanwhile; so the report on a document says that it has changed exactly if it counts a new
    interior. -/
theorem changed_iff_resolved :
    (∀ (path markdown : Text) (r : EmbedResult) (st st' : σ), Text.newline markdown = .lf →
      runFrom (embed env o path markdown) st = (.ok r, st') →
        (r.content ≠ markdown ↔ ∃ b ∈ r.blocks, b.outcome.isResolved = true)) ∧
    ∀ (source : Path) (content : Text) (report : SourceReport) (st st' : σ),
      runFrom (embedSource env o source) st = (.ok (content, report), st') →
        ∃ markdown st₁ st₂, (env.readText source).run st₁ = (.ok markdown, st₂) ∧
          (report.changed = true ↔ content ≠ markdown) ∧
          (Text.newline markdown = .lf → (report.changed = true ↔ 0 < report.resolvedBlocks)) := by
  have hembed : ∀ (path markdown : Text) (r : EmbedResult) (st st' : σ),
      Text.newline markdown = .lf → runFrom (embed env o path markdown) st = (.ok r, st') →
        (r.content ≠ markdown ↔ ∃ b ∈ r.blocks, b.outcome.isResolved = true) := by
    intro path markdown r st st' hlf h
    obtain ⟨-, outs, houts, rfl⟩ := embed_runFrom h
    rw [BlockReport.exists_resolved_iff ((length_listFrom _ _ _).trans houts.length_eq)]
    exact splice_ne_iff hlf houts
  refine ⟨hembed, fun source content report st st' h => ?_⟩
  obtain ⟨markdown, r, st₁, st₂, hread, hrun, rfl, rfl⟩ := embedSource_eq_ok h
  have hchanged : (r.content != markdown) = true ↔ r.content ≠ markdown := bne_iff_ne
  refine ⟨markdown, st₁, st₂, hread, hchanged, fun hlf => ?_⟩
  rw [hchanged, hembed _ _ _ _ _ hlf hrun, EmbedResult.resolvedCount, List.countP_pos_iff]

end

/-- A document in which one block is filled and the other one is emptied. -/
theorem changed_iff_resolved_shifted :
    let markdown := "```sh\n# $ w\n```\n```sh\n# $ w\n\nx\ny\n```\n".toList
    let env : Surroundings (StateM Nat) := { Surroundings.growing with
      isFile := fun _ => pure true
      read := fun _ => pure (.ok (Text.utf8 markdown)) }
    let o := Options.inDir ⟨['/']⟩
    let source : Path := ⟨"/a.md".toList⟩
    ∃ r report, runFrom (embed env o [] markdown) 1 = (.ok r, 3) ∧ r.content ≠ markdown ∧
      runFrom (embedSource env o source) 1 = (.ok (r.content, report), 3) ∧
      report.changed = true ∧ report.resolvedBlocks = 2 := by
  intro markdown env o source
  have hlf : Text.newline markdown = .lf := by decide
  have hembed : runFrom (embed env o [] markdown) 1 =
      (.ok ⟨"```sh\n# $ w\n\nx\n```\n```sh\n# $ w\n\nxx\n```\n".toList,
        [⟨2, 3, .resolved "# $ w\n\nx\n".toList 1⟩, ⟨5, 9, .resolved "# $ w\n\nxx\n".toList 1⟩]⟩,
        3) := by
    decide +kernel
  have hsource : runFrom (embedSource env o source) 1 =
      (.ok ("```sh\n# $ w\n\nx\n```\n```sh\n# $ w\n\nxx\n```\n".toList,
        ⟨⟨"a.md".toList⟩, true, 2⟩), 3) := by
    decide +kernel
  obtain ⟨hchanged, hreport⟩ := @changed_iff_resolved _ env o
  have hne := (hchanged [] markdown _ 1 3 hlf hembed).mpr ⟨_, List.mem_cons_self, rfl⟩
  obtain ⟨text, st₁, st₂, hread, -, hcount⟩ := hreport source _ _ 1 3 hsource
  have hdocument : (env.readText source).run st₁ = (.ok markdown, st₁) := rfl
  rw [hdocument] at hread
  cases hread
  exact ⟨_, _, hembed, hne, hsource, (hcount hlf).mpr (by decide), rfl⟩

end FenceSync
