import FenceSync.Proofs.Demand
import FenceSync.Proofs.Extraction

namespace FenceSync

/-!
# New interiors and their fence

A new interior must not close the fence of its block.  The check for that looks at the pieces of the
embedded text, which are its lines in a document with LF.  In a document with CR LF a piece can hold
bare line feeds, and what follows them is not looked at.

* `Snippet.IsSafe` says that no such line closes the fence.
* `extract?_enclosed_iff` says when an interior between its fences is read back as one block.
* `resolved_stays_open_iff` says exactly when a new interior leaves its fence open.
-/

variable (env : Surroundings Id) (o : Options) (nl : Newline)

/-! ### Lines that close the fence -/

/-- None of the lines that the fence check does not see closes the fence. -/
def Snippet.IsSafe (s : Snippet) : Prop :=
  ∀ t, s.Embeds env o nl t → ∀ line ∈ innerLines nl t, ¬ Closes s.fence.indent line

/-- In a document with LF the check sees all lines. -/
theorem Snippet.isSafe_lf (s : Snippet) : s.IsSafe env o .lf := by
  intro t _ line hline
  rw [innerLines_lf] at hline
  cases hline

theorem innerLines_embeddedText (ls : List Text) :
    innerLines nl (embeddedText nl.text ls) =
      (embeddedPieces nl ls).flatMap fun p => (Text.lines (p ++ nl.text)).tail := by
  have hlast : ([[]] : List Text).flatMap (fun p => (Text.lines (p ++ nl.text)).tail) = [] := by
    rw [List.flatMap_singleton, tail_lines_of_lf_notMem nl (by simp)]
  rw [innerLines, splitOn_embeddedText, List.flatMap_append, hlast, List.append_nil]

/-- A new interior holds a line that closes its fence only where the check does not look. -/
theorem Snippet.not_closes_iff_isSafe {s : Snippet} (hi : IsIndent s.fence.indent) {r : Text}
    {n : Nat} (h : (s.resolve env o nl.text).run.run = .ok (.resolved r n)) :
    (∀ line ∈ Text.lines r, ¬ Closes s.fence.indent line) ↔ s.IsSafe env o nl := by
  obtain ⟨style, text, d, ls, hd, hl, hcheck, rfl, -, -⟩ := Snippet.resolve_eq_resolved env o nl h
  have hall : ∀ p ∈ s.headerPieces o style text ++ embeddedPieces nl ls,
      startsFence p = false := by
    intro p hp
    rcases List.mem_append.mp hp with hp | hp
    · exact (Snippet.headerPieces_spec o hd hp).2
    · exact hcheck p hp
  rw [Snippet.newInterior, Snippet.newPieces, not_closes_joinLines_iff nl hi hall]
  constructor
  · rintro hno t ⟨style', text', d', ls', hd', hl', rfl⟩ line hline
    -- What the block embeds is determined, so that the condition speaks of these lines.
    rw [hd] at hd'
    cases hd'
    rw [hl] at hl'
    cases hl'
    rw [innerLines_embeddedText, List.mem_flatMap] at hline
    obtain ⟨p, hp, hline⟩ := hline
    exact hno p (List.mem_append_right _ hp) line hline
  · intro hsafe p hp line hline
    rcases List.mem_append.mp hp with hp | hp
    · rw [tail_lines_of_lf_notMem nl (Snippet.headerPieces_spec o hd hp).1] at hline
      cases hline
    · refine hsafe _ ⟨style, text, d, ls, hd, hl, rfl⟩ line ?_
      rw [innerLines_embeddedText]
      exact List.mem_flatMap.mpr ⟨p, hp, hline⟩

/-! ### Reading the block back -/

/-- A text that ends with a newline is read on its own between a fence and its closing line. -/
theorem lines_enclosed {f : Fence} {opener closer : Text} (hop : f.Opens opener)
    (hcl : Closes f.indent closer) (ps : List Text) :
    Text.lines (opener ++ Text.joinLines nl ps ++ closer) =
      opener :: (Text.lines (Text.joinLines nl ps) ++ [closer]) := by
  have hjoin : Text.lines (Text.joinLines nl ps ++ closer) =
      Text.lines (Text.joinLines nl ps) ++ Text.lines closer := by
    induction ps with
    | nil => rfl
    | cons p ps ih =>
      rw [Text.joinLines_cons, List.append_assoc, Text.lines_append_newline, ih,
        Text.lines_append_newline, List.append_assoc]
  rw [List.append_assoc, Text.lines_isWhole_append hop.isWhole, hjoin,
    lines_of_closes hop.isIndent hcl]

/-- **Exactly one block is read back** from an interior between its fences iff none of its lines
    closes the fence. -/
theorem extract?_enclosed_iff {f : Fence} {opener closer : Text} (hop : f.Opens opener)
    (hcl : Closes f.indent closer) (ps : List Text)
    (hscan : Search.givesUp (opener ++ Text.joinLines nl ps ++ closer) = false) :
    (∃ b, Block.extract? (opener ++ Text.joinLines nl ps ++ closer) = .ok [b] ∧
        b.code = Text.joinLines nl ps) ↔
      ∀ line ∈ Text.lines (Text.joinLines nl ps), ¬ Closes f.indent line := by
  have hlines := lines_enclosed nl hop hcl ps
  have hflat : (Text.lines (Text.joinLines nl ps)).flatten = Text.joinLines nl ps :=
    Text.flatten_lines _
  generalize Text.lines (Text.joinLines nl ps) = ls at hlines hflat ⊢
  -- Whatever closes the fence first is where the first block ends.
  obtain ⟨inner, c, later, hcut, hinner, hc⟩ :=
    exists_first_closing ⟨closer, List.mem_append_right ls (List.mem_singleton_self _), hcl⟩
  obtain ⟨qs, tail, hrest⟩ := Greedy.exists later
  have hgreedy : Greedy (Text.lines (opener ++ Text.joinLines nl ps ++ closer))
      (⟨[], opener, f, inner, c⟩ :: qs) tail := by
    rw [hlines, hcut]
    exact Greedy.pair (p := ⟨[], opener, f, inner, c⟩) (unpaired_nil _) hop hinner hc hrest
  obtain ⟨bs, hbs⟩ : ∃ bs, Block.extract? (opener ++ Text.joinLines nl ps ++ closer) = .ok bs :=
    ⟨_, Block.extract?_eq_ok_iff.mpr ⟨hscan, rfl⟩⟩
  obtain ⟨hspans, -⟩ := Block.extract?_of_greedy hbs hgreedy
  constructor
  · rintro ⟨b, hb, hcode⟩
    rw [hbs] at hb
    cases hb
    rw [spansFrom, List.map_cons] at hspans
    injection hspans with hspan _
    have hlen : inner.flatten = ls.flatten := by
      rw [hflat, ← hcode]
      exact (congrArg Span.code hspan).symm
    rcases append_cons_eq_cases hcut with ⟨rfl, -, -⟩ | ⟨m, hm, -⟩ | ⟨m, hm, -⟩
    · exact hinner
    · exact absurd hcl (hinner closer (by rw [hm]; simp))
    · rw [hm, List.flatten_append, List.flatten_cons, List.self_eq_append_right] at hlen
      exact absurd (List.append_eq_nil_iff.mp hlen).1 hc.ne_nil
  · intro hopen
    rcases append_cons_eq_cases hcut with ⟨rfl, rfl, rfl⟩ | ⟨m, hm, -⟩ | ⟨m, hm, -⟩
    · obtain ⟨rfl, -⟩ := hrest.unique (.done (unpaired_nil []))
      obtain ⟨b, rfl, hb⟩ := List.map_eq_singleton_iff.mp hspans
      exact ⟨b, hbs, (congrArg Span.code hb).trans hflat⟩
    · exact absurd hcl (hinner closer (by rw [hm]; simp))
    · exact absurd hc (hopen c (by rw [hm]; simp))

/-- **When a new interior leaves its fence open.**  With LF it always does.  In general it does iff
    no line of the embedded text that follows a bare line feed closes the fence, and then it is
    read back as it was written: between its fences it is the interior of one block. -/
theorem resolved_stays_open_iff {s : Snippet} (hi : IsIndent s.fence.indent) {r : Text} {n : Nat}
    (h : (s.resolve env o nl.text).run.run = .ok (.resolved r n)) :
    (nl = .lf → s.IsSafe env o nl) ∧
      ((∀ line ∈ Text.lines r, ¬ Closes s.fence.indent line) ↔ s.IsSafe env o nl) ∧
      ∀ (f : Fence) (opener closer : Text), f.indent = s.fence.indent → f.Opens opener →
        Closes s.fence.indent closer → Search.givesUp (opener ++ r ++ closer) = false →
          ((∃ b, Block.extract? (opener ++ r ++ closer) = .ok [b] ∧ b.code = r) ↔
            s.IsSafe env o nl) := by
  have hlines := Snippet.not_closes_iff_isSafe env o nl hi h
  obtain ⟨style, text, d, ls, -, -, -, rfl, -, -⟩ := Snippet.resolve_eq_resolved env o nl h
  refine ⟨?_, hlines, ?_⟩
  · rintro rfl
    exact s.isSafe_lf env o
  · intro f opener closer hf hop hcl hscan
    rw [← hlines, ← hf]
    rw [← hf] at hcl
    exact extract?_enclosed_iff nl hop hcl _ hscan

/-- A file with CR LF and one bare line feed, with a fence behind that. -/
def bareLfSource : Text := "one\r\ntwo\n```\r\nthree\r\n".toList

/-- A block whose marker asks for a file. -/
def bareLfBlock : Snippet := ⟨.directive "a.txt".toList, ⟨[], "txt".toList⟩, []⟩

/-- Behind a bare line feed a new interior can close its fence. -/
theorem resolved_closes_behind_bare_lf :
    (bareLfBlock.resolve (.constant bareLfSource) (.inDir ⟨['/']⟩) Newline.crlf.text).run.run =
        .ok (.resolved bareLfSource 3) ∧
      ['\x60', '\x60', '\x60', '\r', '\n'] ∈ Text.lines bareLfSource ∧
      Closes bareLfBlock.fence.indent ['\x60', '\x60', '\x60', '\r', '\n'] := by
  refine ⟨by decide +kernel, by decide, by decide⟩

/-- A small file without a fence stays between the fences of its block. -/
theorem resolved_stays_open_two_lines :
    let s : Snippet := ⟨.absent, ⟨[' '], "py".toList⟩, "# a.py\n".toList⟩
    let env := Surroundings.constant "x\ny\n".toList
    let r := " # a.py\n \n x\n y\n".toList
    (s.resolve env (.inDir ⟨['/']⟩) Newline.lf.text).run.run = .ok (.resolved r 2) ∧
      (∀ line ∈ Text.lines r, ¬ Closes s.fence.indent line) := by
  intro s env r
  have hi : IsIndent s.fence.indent := by decide
  have h : (s.resolve env (.inDir ⟨['/']⟩) Newline.lf.text).run.run = .ok (.resolved r 2) := by
    decide
  have hopen := resolved_stays_open_iff env (.inDir ⟨['/']⟩) .lf hi h
  exact ⟨h, hopen.2.1.mpr (hopen.1 rfl)⟩

end FenceSync
