import FenceSync.Proofs.Idempotence

namespace FenceSync

/-!
# Embedding again elsewhere

An embedded document is embedded again in surroundings that may have changed since.  It stays as it
is exactly if all of its blocks embed the same text there.

* `ofText_embed` says that an embedded document is read back with other interiors, and `prose_embed`
  that nothing else in it changes.
* `embed_again_iff` puts this together with what is known of one block.
-/

/-! ### Reading back -/

/-- New interiors are no prose. -/
theorem Document.prose_embedded {ss : List Section} {outs : List Outcome}
    (hlen : ss.length = outs.length) (rest : Text) :
    Document.prose ⟨List.zipWith Section.embedded ss outs, rest⟩ = Document.prose ⟨ss, rest⟩ := by
  simp only [Document.prose]
  generalize false = behind
  induction ss generalizing outs behind with
  | nil => rfl
  | cons s ss ih =>
    cases outs with
    | nil => cases hlen
    | cons out outs =>
      rw [List.zipWith_cons_cons, Document.proseFrom, ih (by simpa using hlen), Document.proseFrom]
      rfl

section
variable {env : Surroundings Id} {o : Options} {path markdown : Text} {r : EmbedResult}
  (h : (embed env o path markdown).run.run = .ok r)
  (hprose : ∀ line ∈ (Document.ofText markdown).prose, ¬ BeginsFence line)
  (hlf : Text.newline markdown = .lf)
include h hprose hlf

/-- **An embedded document is read back** as the document with other interiors. -/
theorem ofText_embed :
    ∃ outs, List.Forall₂ (fun s out => s.toSnippet.outcome? env o Newline.lf.text = some out)
        (Document.ofText markdown).sections outs ∧
      Document.ofText r.content =
        ⟨List.zipWith Section.embedded (Document.ofText markdown).sections outs,
          (Document.ofText markdown).rest⟩ := by
  obtain ⟨-, outs, houts, rfl⟩ := (embed_eq_ok_iff env o path).mp h
  have hholds := holds_splice env o houts (.inl hlf)
  rw [hlf] at houts
  exact ⟨outs, houts, Document.ofText_splice hprose hholds⟩

/-- Embedding does not touch the lines outside the blocks. -/
theorem prose_embed : (Document.ofText r.content).prose = (Document.ofText markdown).prose := by
  obtain ⟨outs, houts, hread⟩ := ofText_embed h hprose hlf
  rw [hread, Document.prose_embedded houts.length_eq]

end

/-! ### Embedding again -/

/-- Sections that stay as they are elsewhere embed the same texts there. -/
theorem embeds_of_forall₂_embedded {env env' : Surroundings Id} {o : Options}
    (hkeep : o.stripComment = false) {ss : List Section} (hss : ∀ s ∈ ss, IsIndent s.fence.indent)
    {outs outs' : List Outcome}
    (houts : List.Forall₂ (fun s out => s.toSnippet.outcome? env o Newline.lf.text = some out)
      ss outs)
    (houts' : List.Forall₂ (fun s out => s.toSnippet.outcome? env' o Newline.lf.text = some out)
      (List.zipWith Section.embedded ss outs) outs')
    (hstays : List.zipWith Section.embedded (List.zipWith Section.embedded ss outs) outs' =
      List.zipWith Section.embedded ss outs) :
    ∀ s ∈ ss, ∀ t, s.Embeds env o .lf t → s.Embeds env' o .lf t := by
  induction houts generalizing outs' with
  | nil => simp
  | @cons s out ss outs hs _ ih =>
    rw [List.zipWith_cons_cons] at houts' hstays
    cases houts' with
    | @cons _ out' _ outs' hs' houts' =>
      rw [List.zipWith_cons_cons, List.cons.injEq] at hstays
      have hcode : out'.interior (out.interior s.code) = out.interior s.code :=
        congrArg (fun s => s.code) hstays.1
      intro s' hmem t ht
      rcases List.mem_cons.mp hmem with rfl | hmem
      · exact Snippet.embeds_of_outcome?_interior env o .lf env' (hss _ (by simp)) hkeep hs hs' hcode
          ht
      · exact ih (fun s' hs' => hss s' (List.mem_cons_of_mem _ hs')) houts' hstays.2 s' hmem t ht

/-- **When an embedded document stays as it is elsewhere.**  Its scan has to end, and every block has
    to embed the same text there as when the document was embedded. -/
theorem embed_again_iff {env : Surroundings Id} (env' : Surroundings Id) {o : Options}
    {path markdown : Text} {r : EmbedResult} (h : (embed env o path markdown).run.run = .ok r)
    (hkeep : o.stripComment = false)
    (hprose : ∀ line ∈ (Document.ofText markdown).prose, ¬ BeginsFence line)
    (hlf : Text.newline markdown = .lf) (hlf' : Text.newline r.content = .lf) (path' : Text) :
    (∃ again, (embed env' o path' r.content).run.run = .ok again ∧ again.content = r.content) ↔
      Search.givesUp r.content = false ∧ ∀ s ∈ (Document.ofText markdown).sections, ∀ t,
        s.Embeds env o .lf t → s.Embeds env' o .lf t := by
  have hss : ∀ s ∈ (Document.ofText markdown).sections, IsIndent s.fence.indent :=
    fun s hs => (Document.ofText_spec hs).1
  obtain ⟨outs, houts, hread⟩ := ofText_embed h hprose hlf
  have hprose' := prose_embed h hprose hlf
  constructor
  · rintro ⟨again, hagain, hcontent⟩
    -- What is embedded again is read back once more, and it is still the same text.
    obtain ⟨outs', houts', hread'⟩ := ofText_embed hagain (hprose' ▸ hprose) hlf'
    rw [hcontent, hread] at hread'
    rw [hread] at houts'
    exact ⟨((embed_eq_ok_iff env' o path').mp hagain).1,
      embeds_of_forall₂_embedded hkeep hss houts houts' (congrArg Document.sections hread').symm⟩
  · rintro ⟨hscan, hsame⟩
    have hsettled := forall₂_settled env o .lf env' hkeep hss houts hsame
    refine ⟨_, (embed_eq_ok_iff env' o path').mpr ⟨hscan, outs.map Outcome.settled, ?_, rfl⟩, ?_⟩
    · rw [hread, hlf']
      exact hsettled
    · have htext := Document.text_ofText r.content
      rw [hread, text_splice] at htext
      rw [hread]
      simp only
      rw [splice_settled houts.length_eq]
      exact htext

end FenceSync
