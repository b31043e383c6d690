import FenceSync.Proofs.Splicing
import FenceSync.Proofs.Tally

namespace FenceSync

/-!
# The lines that blocks are reported on

Blocks are found among the lines of a document, which end with their line feeds, and are reported by
the newlines that stand in front of them.  Where every line feed belongs to a newline, both are the
same lines.

* `Text.exists_lines_eq_map` compares the lines of a text with the pieces between its newlines.
* `Block.LiesIn` says what stands on the lines of a block and around them.
* `Block.liesIn_ofSection` says so of a section whose place among the lines is known, and
  `Block.liesIn_listFrom` of all sections of a document.
* `Block.extract?_lineNumber` says where the lines of a block are counted.
* `Block.extract?_lines` is the full statement.
-/

variable {nl : Newline} {t : Text}

/-! ### Lines and pieces -/

namespace Text

/-- **The lines are the pieces with their newlines**, and what stands behind the last newline. -/
theorem exists_lines_eq_map (h : nl = .lf ∨ (tally t).lf = 0) :
    ∃ ps last, splitOn nl.text t = ps ++ [last] ∧ '\n' ∉ last ∧
      lines t = ps.map (· ++ nl.text) ++ lines last := by
  obtain ⟨ps, last, hcut⟩ : ∃ ps last, splitOn nl.text t = ps ++ [last] :=
    ⟨_, _, (List.dropLast_concat_getLast (splitOn_ne_nil nl.text t)).symm⟩
  have hlf : ∀ p ∈ ps ++ [last], '\n' ∉ p := fun p hp => lf_notMem_of_mem_splitOn h (hcut ▸ hp)
  have hwhole : ∀ line ∈ ps.map (· ++ nl.text), IsWhole line :=
    List.forall_mem_map.mpr fun p hp => isWhole_append_newline nl (hlf p (by simp [hp]))
  have ht : t = (ps.map (· ++ nl.text)).flatten ++ last := by
    rw [← joinLines_eq_flatten, ← joinWith_concat, ← hcut, joinWith_splitOn]
  refine ⟨ps, last, hcut, hlf last (by simp), ?_⟩
  conv_lhs => rw [ht]
  exact lines_flatten_append hwhole last

/-- What stands behind the last line feed is one line, if it is any. -/
theorem lines_eq_append_cons_of_lf_notMem {last line : Text} {pre post : List Text}
    (h : '\n' ∉ last) (hlines : lines last = pre ++ line :: post) : pre = [] ∧ line = last := by
  have hne : last ≠ [] := by
    rintro rfl
    simp [lines] at hlines
  rw [lines_isLast ⟨hne, h⟩, List.singleton_eq_append_iff] at hlines
  rcases hlines with ⟨hpre, hline⟩ | ⟨-, hline⟩
  · exact ⟨hpre, (List.cons.inj hline).1⟩
  · cases hline

/-- **A place among the lines is one among the pieces**: all lines in front of it end with a
    newline, and the line there is a piece, with its newline or without one. -/
theorem splitOn_of_lines_eq_append_cons (h : nl = .lf ∨ (tally t).lf = 0) {pre post : List Text}
    {line : Text} (hlines : lines t = pre ++ line :: post) :
    ∃ ps p qs, splitOn nl.text t = ps ++ p :: qs ∧ pre = ps.map (· ++ nl.text) ∧
      (line = p ++ nl.text ∨ line = p) := by
  obtain ⟨ps, last, hcut, hlast, hmap⟩ := exists_lines_eq_map h
  rw [hmap] at hlines
  -- The place lies behind all lines that end with a newline, or among these.
  rcases List.append_eq_append_iff.mp hlines with ⟨c, hpre, hrest⟩ | ⟨c, hps, hrest⟩
  · obtain ⟨rfl, rfl⟩ := lines_eq_append_cons_of_lf_notMem hlast hrest
    exact ⟨ps, line, [], hcut, by rw [hpre, List.append_nil], .inr rfl⟩
  · obtain ⟨ps, qs, rfl, rfl, hqs⟩ := List.map_eq_append_iff.mp hps
    cases qs with
    | nil =>
      -- It is the one right behind the last of them.
      obtain rfl : [] = c := hqs
      have hlines : lines last = [] ++ line :: post := hrest.symm
      obtain ⟨-, rfl⟩ := lines_eq_append_cons_of_lf_notMem hlast hlines
      exact ⟨ps, line, [], by simpa using hcut, rfl, .inr rfl⟩
    | cons p qs =>
      obtain rfl : (p ++ nl.text) :: qs.map (· ++ nl.text) = c := hqs
      exact ⟨ps, p, qs ++ [last], by simpa using hcut, rfl, .inl (List.cons.inj hrest).1⟩

/-- Newlines are counted by the pieces that they end. -/
theorem occurrences_joinLines {ps : List Text} (h : ∀ p ∈ ps, IsPiece nl p) :
    occurrences nl.text (joinLines nl ps) = ps.length := by
  have hlen := length_splitOn nl (joinLines nl ps)
  rw [splitOn_joinLines nl h, List.length_append, List.length_singleton] at hlen
  omega

end Text

/-- A closing fence is one without its newline, too. -/
theorem Closes.of_append_newline {i line : Text} (hi : IsIndent i)
    (h : Closes i (line ++ nl.text)) : Closes i line := by
  obtain ⟨blanks, ending, hline, hb, he⟩ := h
  have hlf := hi.lf_notMem_fence hb
  have hcr := hi.cr_notMem_fence hb
  have hshape : ∀ e ∈ closingEndings, Closes i (i ++ fenceMark ++ blanks ++ e) :=
    fun e he => ⟨blanks, e, rfl, hb, he⟩
  generalize i ++ fenceMark ++ blanks = body at hline hlf hcr hshape
  have hmem : '\n' ∈ body ++ ending := by
    rw [← hline]
    cases nl <;> simp [Newline.text]
  simp only [closingEndings, lineEndings, List.mem_append, List.mem_cons, List.not_mem_nil,
    or_false] at he
  -- The line loses as much of its ending as the newline takes, which is a line feed at least.
  rcases he with (rfl | rfl) | (rfl | rfl)
  · exact absurd (by simpa using hmem) hlf
  · exact absurd (by simpa using hmem) hlf
  · cases nl with
    | lf =>
      rw [List.append_cancel_right hline, ← List.append_nil body]
      exact hshape [] (by decide)
    | crlf =>
      have hbody : line ++ ['\r'] ++ ['\n'] = body ++ ['\n'] := by simpa [Newline.text] using hline
      rw [← List.append_cancel_right hbody] at hcr
      simp at hcr
  · cases nl with
    | lf =>
      have hbody : line ++ ['\n'] = body ++ ['\r'] ++ ['\n'] := by simpa [Newline.text] using hline
      rw [List.append_cancel_right hbody]
      exact hshape ['\r'] (by decide)
    | crlf =>
      rw [List.append_cancel_right hline, ← List.append_nil body]
      exact hshape [] (by decide)

/-! ### Blocks -/

/-- **What stands on the lines of a block**, if a document is cut into the given pieces.  Lines are
    counted from one, so that the line with the number `n` is the piece with the index `n - 1`. -/
structure Block.LiesIn (nl : Newline) (pieces : List Text) (b : Block) : Prop where
  /-- At least the opening fence stands above the interior. -/
  two_le_startLine : 2 ≤ b.startLine
  startLine_le_endLine : b.startLine ≤ b.endLine
  /-- The line above the interior is the opening fence. -/
  opener : ∃ op, pieces[b.startLine - 2]? = some op ∧ Fence.ofLine? (op ++ nl.text) = some b.fence
  /-- The interior are the lines from the start line to the one above the end line, each ended by a
      newline. -/
  code : b.code = Text.joinLines nl ((pieces.take (b.endLine - 1)).drop (b.startLine - 1))
  /-- The end line is the closing fence. -/
  closer : ∃ cl, pieces[b.endLine - 1]? = some cl ∧ b.fence.isClosedBy cl = true
  /-- The first byte of the interior is the first one of the start line. -/
  start : b.start = Text.size (Text.joinLines nl (pieces.take (b.startLine - 1)))
  /-- The byte behind the interior is the first one of the end line. -/
  stop : b.stop = Text.size (Text.joinLines nl (pieces.take (b.endLine - 1)))

/-- A block that starts below some pieces and its opening fence, and stops below its interior. -/
theorem Block.liesIn_append {as is qs : List Text} {op cl : Text} {b : Block}
    (hop : Fence.ofLine? (op ++ nl.text) = some b.fence) (hcl : b.fence.isClosedBy cl = true)
    (hcode : b.code = Text.joinLines nl is)
    (hstart : b.start = Text.size (Text.joinLines nl (as ++ [op])))
    (hstop : b.stop = Text.size (Text.joinLines nl (as ++ [op] ++ is)))
    (hstartLine : b.startLine = (as ++ [op]).length + 1)
    (hendLine : b.endLine = (as ++ [op] ++ is).length + 1) :
    b.LiesIn nl (as ++ [op] ++ is ++ cl :: qs) := by
  -- Both line numbers, less one, are lengths of the parts that stand above.
  have habove : (as ++ [op] ++ is ++ cl :: qs).take (b.startLine - 1) = as ++ [op] := by
    rw [hstartLine, Nat.add_sub_cancel, List.append_assoc, List.take_left]
  have hupper : (as ++ [op] ++ is ++ cl :: qs).take (b.endLine - 1) = as ++ [op] ++ is := by
    rw [hendLine, Nat.add_sub_cancel, List.take_left]
  have hinner : ((as ++ [op] ++ is ++ cl :: qs).take (b.endLine - 1)).drop (b.startLine - 1) =
      is := by
    rw [hupper, hstartLine, Nat.add_sub_cancel, List.drop_left]
  have hplace : (as ++ [op] ++ is ++ cl :: qs)[b.endLine - 1]? = some cl := by
    rw [hendLine, Nat.add_sub_cancel, List.getElem?_append_right (le_refl _), Nat.sub_self]
    rfl
  have hfence : (as ++ [op] ++ is ++ cl :: qs)[b.startLine - 2]? = some op := by
    rw [hstartLine]
    simp
  rw [List.length_append, List.length_append, List.length_singleton] at hendLine
  rw [List.length_append, List.length_singleton] at hstartLine
  exact
    { two_le_startLine := by omega
      startLine_le_endLine := by omega
      opener := ⟨op, hfence, hop⟩
      code := by rw [hinner, hcode]
      closer := ⟨cl, hplace, hcl⟩
      start := by rw [habove, hstart]
      stop := by rw [hupper, hstop] }

/-- **The lines of one section**, given the lines of the document around it. -/
theorem Block.liesIn_ofSection (hnl : nl = .lf ∨ (Text.tally t).lf = 0) {before : Text}
    {s : Section} {above inner below : List Text} {opener closer : Text}
    (hlines : Text.lines t = above ++ [opener] ++ inner ++ closer :: below)
    (hlead : before ++ s.lead = (above ++ [opener]).flatten) (hcode : s.code = inner.flatten)
    (opens : s.fence.Opens opener) (closes : Closes s.fence.indent closer) :
    let b := Block.ofSection nl.text before s
    b.LiesIn nl (Text.splitOn nl.text t) ∧ b.startLine = above.length + 2 ∧
      b.endLine = above.length + 2 + inner.length := by
  intro b
  -- All lines above the closing fence are pieces with their newlines.
  obtain ⟨ps, cl, qs, hcut, hps, hcl⟩ := Text.splitOn_of_lines_eq_append_cons hnl hlines
  obtain ⟨upper, is, rfl, hupper, rfl⟩ := List.map_eq_append_iff.mp hps.symm
  obtain ⟨as, ops, rfl, rfl, hops⟩ := List.map_eq_append_iff.mp hupper
  obtain ⟨op, rfl, rfl⟩ := List.map_eq_singleton_iff.mp hops
  have hpieces : ∀ p ∈ as ++ [op] ++ is, Text.IsPiece nl p := fun p hp =>
    Text.isPiece_of_mem_splitOn nl (hcut ▸ List.mem_append_left _ hp)
  have hopened : before ++ s.lead = Text.joinLines nl (as ++ [op]) := by
    rw [hlead, Text.joinLines_eq_flatten, List.map_append, List.map_singleton]
  have hinner : s.code = Text.joinLines nl is := by rw [hcode, Text.joinLines_eq_flatten]
  have hclosed : before ++ s.lead ++ s.code = Text.joinLines nl (as ++ [op] ++ is) := by
    rw [hopened, hinner, ← Text.joinLines_append]
  have hstart : b.startLine = (as ++ [op]).length + 1 := by
    show 1 + Text.occurrences nl.text (before ++ s.lead) = _
    rw [hopened, Text.occurrences_joinLines fun p hp => hpieces p (List.mem_append_left _ hp),
      Nat.add_comm]
  have hstop : b.endLine = (as ++ [op] ++ is).length + 1 := by
    show 1 + Text.occurrences nl.text (before ++ s.lead ++ s.code) = _
    rw [hclosed, Text.occurrences_joinLines hpieces, Nat.add_comm]
  have hclosing : s.fence.isClosedBy cl = true := by
    rw [Fence.isClosedBy_iff]
    rcases hcl with rfl | rfl
    · exact closes.of_append_newline opens.isIndent
    · exact closes
  refine ⟨?_, by simp [hstart], by simp [hstop]; omega⟩
  rw [hcut]
  exact Block.liesIn_append (Fence.ofLine?_eq_some_iff.mpr opens) hclosing hinner
    (congrArg Text.size hopened) (congrArg Text.size hclosed) hstart hstop

/-- **The lines of all sections**, one behind the other.  The induction is on the pairs of fences;
    `above` are the lines that have been passed, the last closing fence included. -/
theorem Block.liesIn_listFrom (hnl : nl = .lf ∨ (Text.tally t).lf = 0) {ls tail : List Text}
    {ps : List Pair} (h : Greedy ls ps tail) {above : List Text} {before lead : Text} (m : Marker)
    (hlines : Text.lines t = above ++ ls) (hlead : before ++ lead = above.flatten) :
    let bs := Block.listFrom nl.text before (Document.sectionsOf m lead ps)
    (∀ b ∈ bs, b.LiesIn nl (Text.splitOn nl.text t) ∧ above.length + 2 ≤ b.startLine) ∧
      bs.Pairwise fun b c => b.endLine + 2 ≤ c.startLine := by
  induction h generalizing above before lead m with
  | done _ => exact ⟨by simp [Document.sectionsOf, Block.listFrom], .nil⟩
  | @pair p later tail ps skipped opens inside closes rest ih =>
    intro bs
    have hpair : Text.lines t =
        above ++ p.before ++ [p.opener] ++ p.inner ++ p.closer :: later := by
      simp [hlines]
    have hopened : before ++ (Document.sectionOf m lead p).lead =
        (above ++ p.before ++ [p.opener]).flatten := by
      simp [Document.sectionOf, ← hlead]
    obtain ⟨hlies, hstart, hstop⟩ := Block.liesIn_ofSection hnl hpair hopened rfl opens closes
    rw [List.length_append] at hstart hstop
    -- The closing fence belongs to the next section, and is among the lines that have been passed.
    have hlines' : Text.lines t = above ++ p.lines ++ later := by simp [hlines, Pair.lines]
    have hclosed : before ++ (Document.sectionOf m lead p).lead ++ p.inner.flatten ++ p.closer =
        (above ++ p.lines).flatten := by
      rw [hopened]
      simp [Pair.lines]
    obtain ⟨hbelow, hapart⟩ := ih .absent hlines' hclosed
    have hlength : (above ++ p.lines).length =
        above.length + p.before.length + p.inner.length + 2 := by
      simp [Pair.lines]
      omega
    refine ⟨List.forall_mem_cons.mpr ⟨⟨hlies, by omega⟩, fun b hb => ?_⟩,
      List.pairwise_cons.mpr ⟨fun b hb => ?_, hapart⟩⟩
    · obtain ⟨hb, hle⟩ := hbelow b hb
      exact ⟨hb, by omega⟩
    · have hle := (hbelow b hb).2
      omega

/-- The reported lines are those of the first byte of the interior and of the one behind it. -/
theorem Block.lineNumber_of_mem_listFrom {newline before : Text} {ss : List Section} {b : Block}
    (h : b ∈ Block.listFrom newline before ss) (rest : Text) :
    let source := before ++ (Document.mk ss rest).text
    b.startLine = Text.lineNumber newline source b.start ∧
      b.endLine = Text.lineNumber newline source b.stop := by
  intro source
  induction ss generalizing before with
  | nil => cases h
  | cons s ss ih =>
    have hsource : source = before ++ s.lead ++ s.code ++ (Document.mk ss rest).text :=
      Document.append_text_cons before s ss rest
    rw [hsource]
    -- The bytes in front of a block of the first section are the text that has been counted.
    rcases List.mem_cons.mp h with rfl | h
    · rw [Text.lineNumber, Text.lineNumber, show (Block.ofSection newline before s).start =
        Text.size (before ++ s.lead) from rfl, show (Block.ofSection newline before s).stop =
        Text.size (before ++ s.lead ++ s.code) from rfl, Text.takeBytes_append,
        List.append_assoc (before ++ s.lead), Text.takeBytes_append]
      exact ⟨rfl, rfl⟩
    · exact ih h

/-- **Lines are counted up to the ends of an interior**, in any document. -/
theorem Block.extract?_lineNumber {bs : List Block} (h : Block.extract? t = .ok bs) {b : Block}
    (hb : b ∈ bs) :
    b.startLine = Text.lineNumber (Text.newline t).text t b.start ∧
      b.endLine = Text.lineNumber (Text.newline t).text t b.stop := by
  obtain ⟨-, rfl⟩ := Block.extract?_eq_ok_iff.mp h
  have hlines := Block.lineNumber_of_mem_listFrom hb (Document.ofText t).rest
  have htext : [] ++ (Document.mk (Document.ofText t).sections (Document.ofText t).rest).text =
      t := Document.text_ofText t
  rwa [htext] at hlines

/-- **Reported lines locate the blocks** of a document that ends its lines with LF, or with CR LF
    only.  Every block has its opening fence on the line above its start line, its interior from
    there on, and its closing fence on its end line; and the opening fence of a block stands below
    the closing fences of all blocks before it. -/
theorem Block.extract?_lines {bs : List Block}
    (hnl : Text.newline t = .lf ∨ (Text.tally t).lf = 0) (h : Block.extract? t = .ok bs) :
    (∀ b ∈ bs, b.LiesIn (Text.newline t) (Text.splitOn (Text.newline t).text t)) ∧
      bs.Pairwise fun b c => b.endLine + 2 ≤ c.startLine := by
  obtain ⟨-, rfl⟩ := Block.extract?_eq_ok_iff.mp h
  obtain ⟨ps, tail, hgreedy⟩ := Greedy.exists (Text.lines t)
  have hd : Document.ofText t = Document.ofPairs .absent [] ps tail :=
    Document.ofLines_greedy hgreedy
  have hlines : Text.lines t = [] ++ Text.lines t := rfl
  have hlead : ([] : Text) ++ [] = ([] : List Text).flatten := rfl
  obtain ⟨hlies, hapart⟩ := Block.liesIn_listFrom hnl hgreedy .absent hlines hlead
  rw [Block.list, hd]
  exact ⟨fun b hb => (hlies b hb).1, hapart⟩

/-- Two blocks with CR LF, the first one without an interior, the second one closed at the end of
    the text. -/
theorem Block.extract?_lines_empty_interior :
    let markdown := "é\r\n```sh\r\n```\r\n\t```\r\n\tx\r\n\r\n\t```".toList
    let b : Block := ⟨⟨.absent, ⟨[], "sh".toList⟩, []⟩, 11, 11, 3, 3⟩
    let c : Block := ⟨⟨.absent, ⟨['\t'], []⟩, "\tx\r\n\r\n".toList⟩, 22, 28, 5, 7⟩
    Block.extract? markdown = .ok [b, c] ∧
      b.LiesIn .crlf (Text.splitOn Newline.crlf.text markdown) ∧
      c.LiesIn .crlf (Text.splitOn Newline.crlf.text markdown) ∧ b.endLine + 2 ≤ c.startLine := by
  intro markdown b c
  have hbare : (Text.tally markdown).lf = 0 := by decide
  have hcrlf : Text.newline markdown = .crlf := by decide
  have hbs : Block.extract? markdown = .ok [b, c] := by decide
  obtain ⟨hlies, hapart⟩ := Block.extract?_lines (.inr hbare) hbs
  rw [hcrlf] at hlies
  exact ⟨hbs, hlies b (by simp), hlies c (by simp), (List.pairwise_cons.mp hapart).1 c (by simp)⟩

end FenceSync
