import FenceSync.Resolve
import FenceSync.Proofs.Comments
import FenceSync.Proofs.Fences
import FenceSync.Proofs.Tally

namespace FenceSync

/-!
# New interiors

A new interior is made of pieces: the comment that keeps the directive, an empty piece, and the
pieces of the text to embed.  Each of them is indented and ended by the newline of the document.

* `embeddedPieces` are the pieces of the text to embed, and `Snippet.headerPieces` those in front.
* `Snippet.settle_eq` is the spec of `Snippet.settle` in terms of pieces.
* `not_closes_joinLines_iff` says when one of the lines of a new interior closes its fence: the
  lines that start a piece never do, once the pieces are checked.
-/

variable (nl : Newline)

/-! ### Indentation -/

/-- Every piece is indented, and nothing behind the last newline. -/
theorem indentLines_joinLines (i : Text) {ps : List Text} (h : ∀ p ∈ ps, Text.IsPiece nl p) :
    indentLines i nl.text (Text.joinLines nl ps) = Text.joinLines nl (ps.map (i ++ ·)) := by
  rw [indentLines, Text.splitOn_joinLines nl h]
  by_cases hi : i = []
  · rw [if_pos hi, hi]
    simp
  · rw [if_neg hi, List.dropLast_concat, List.getLast?_concat]
    simp only [Option.toList_some, List.map_cons, List.map_nil, if_true]
    exact Text.joinWith_append_nil nl _

/-- An indentation does not hide a newline. -/
theorem IsIndent.isPiece_append {i p : Text} (hi : IsIndent i) (hp : Text.IsPiece nl p) :
    Text.IsPiece nl (i ++ p) := by
  induction i with
  | nil => exact hp
  | cons c i ih =>
    have hc : c ≠ '\r' ∧ c ≠ '\n' := by
      refine ⟨?_, ?_⟩
      · rintro rfl
        exact hi.cr_notMem (by simp)
      · rintro rfl
        exact hi.lf_notMem (by simp)
    have hno : ¬ nl.text <+: c :: (i ++ p) := by
      cases nl with
      | lf => simp [Newline.text, List.cons_prefix_cons, Ne.symm hc.2]
      | crlf => simp [Newline.text, List.cons_prefix_cons, Ne.symm hc.1]
    have htail := ih fun x hx => hi x (List.mem_cons_of_mem _ hx)
    rw [Text.IsPiece, List.cons_append, Text.splitOn_cons nl hno, htail]
    rfl

/-! ### The pieces of an interior -/

/-- The pieces of the text to embed. -/
def embeddedPieces (lines : List Text) : List Text :=
  Text.splitOn nl.text (Text.trimEnd (Text.joinWith nl.text lines))

theorem isPiece_of_mem_embeddedPieces {lines : List Text} {p : Text}
    (h : p ∈ embeddedPieces nl lines) : Text.IsPiece nl p := Text.isPiece_of_mem_splitOn nl h

theorem embeddedText_eq_joinLines (lines : List Text) :
    embeddedText nl.text lines = Text.joinLines nl (embeddedPieces nl lines) := by
  rw [embeddedText, embeddedPieces, Text.joinLines_splitOn]

theorem splitOn_embeddedText (lines : List Text) :
    Text.splitOn nl.text (embeddedText nl.text lines) = embeddedPieces nl lines ++ [[]] := by
  rw [embeddedText_eq_joinLines,
    Text.splitOn_joinLines nl fun _ h => isPiece_of_mem_embeddedPieces nl h]

/-- A text to embed shows its pieces. -/
theorem embeddedPieces_eq_iff {ls ls' : List Text} :
    embeddedPieces nl ls = embeddedPieces nl ls' ↔
      embeddedText nl.text ls = embeddedText nl.text ls' := by
  constructor
  · intro h
    rw [embeddedText_eq_joinLines, h, ← embeddedText_eq_joinLines]
  · intro h
    have hcut := congrArg (Text.splitOn nl.text) h
    rwa [splitOn_embeddedText, splitOn_embeddedText, List.append_cancel_right_eq] at hcut

/-- The pieces in front of the embedded text: the comment with the directive and an empty one, or
    none. -/
def Snippet.headerPieces (s : Snippet) (o : Options) (style : CommentStyle) (text : Text) :
    List Text :=
  match s.marker, o.stripComment, style.render? text with
  | .directive _, _, _ | _, true, _ | _, _, none => []
  | _, false, some comment => [comment, []]

theorem Snippet.header_eq_joinLines (s : Snippet) (o : Options) (style : CommentStyle)
    (text : Text) :
    s.header o style text nl.text = Text.joinLines nl (s.headerPieces o style text) := by
  unfold Snippet.header Snippet.headerPieces
  cases s.marker <;> cases o.stripComment <;> cases style.render? text <;> simp

/-- All pieces of the new interior, indented. -/
def Snippet.newPieces (s : Snippet) (o : Options) (style : CommentStyle) (text : Text)
    (lines : List Text) : List Text :=
  (s.headerPieces o style text ++ embeddedPieces nl lines).map (s.fence.indent ++ ·)

/-- The new interior. -/
def Snippet.newInterior (s : Snippet) (o : Options) (style : CommentStyle) (text : Text)
    (lines : List Text) : Text :=
  Text.joinLines nl (s.newPieces nl o style text lines)

/-- A block whose directive stands in a marker gets no comment. -/
theorem Snippet.headerPieces_of_directive {s : Snippet} {t : Text} (h : s.marker = .directive t)
    (o : Options) (style : CommentStyle) (text : Text) : s.headerPieces o style text = [] := by
  rw [Snippet.headerPieces, h]

/-- Any other block keeps its comment, unless comments are left out. -/
theorem Snippet.headerPieces_of_comment {s : Snippet} (h : ∀ t, s.marker ≠ .directive t)
    {o : Options} (hkeep : o.stripComment = false) {style : CommentStyle} {text comment : Text}
    (hc : style.render? text = some comment) : s.headerPieces o style text = [comment, []] := by
  rw [Snippet.headerPieces, hkeep, hc]
  cases hm : s.marker with
  | directive t => exact absurd hm (h t)
  | absent => rfl
  | ignoreNext => rfl

theorem Snippet.mem_headerPieces {s : Snippet} {o : Options} {style : CommentStyle}
    {text p : Text} (h : p ∈ s.headerPieces o style text) :
    p = [] ∨ (∀ t, s.marker ≠ .directive t) ∧ style.render? text = some p := by
  by_cases hm : ∃ t, s.marker = .directive t
  · obtain ⟨t, ht⟩ := hm
    rw [Snippet.headerPieces_of_directive ht] at h
    cases h
  · have hm' : ∀ t, s.marker ≠ .directive t := fun t ht => hm ⟨t, ht⟩
    cases hkeep : o.stripComment with
    | true =>
      rw [Snippet.headerPieces, hkeep] at h
      cases hms : s.marker <;> rw [hms] at h <;> cases h
    | false =>
      cases hc : style.render? text with
      | none =>
        rw [Snippet.headerPieces, hkeep, hc] at h
        cases hms : s.marker <;> rw [hms] at h <;> cases h
      | some comment =>
        rw [Snippet.headerPieces_of_comment hm' hkeep hc] at h
        rcases List.mem_cons.mp h with rfl | h
        · exact .inr ⟨hm', rfl⟩
        · exact .inl (List.mem_singleton.mp h)

/-- **What a block is settled on.**  The fence check looks at the pieces of the embedded text. -/
theorem Snippet.settle_eq (s : Snippet) (o : Options) (style : CommentStyle) (text : Text)
    (lines : List Text)
    (hhead : ∀ p ∈ s.headerPieces o style text, Text.IsPiece nl p) :
    s.settle o style text nl.text lines =
      if (embeddedPieces nl lines).any startsFence then
        .error (.nestedFence (Text.joinWith nl.text
          (Text.preview fencePreviewLines (embeddedPieces nl lines ++ [[]]))))
      else if s.newInterior nl o style text lines = s.code then .ok .upToDate
      else .ok (.resolved (s.newInterior nl o style text lines) (embeddedPieces nl lines).length) := by
  have hpieces : ∀ p ∈ s.headerPieces o style text ++ embeddedPieces nl lines,
      Text.IsPiece nl p := by
    intro p hp
    rcases List.mem_append.mp hp with hp | hp
    · exact hhead p hp
    · exact isPiece_of_mem_embeddedPieces nl hp
  -- The header and the embedded text are pieces of one text, which is indented piece by piece.
  have hnew : indentLines s.fence.indent nl.text
      (s.header o style text nl.text ++ embeddedText nl.text lines) =
        s.newInterior nl o style text lines := by
    rw [Snippet.header_eq_joinLines, embeddedText_eq_joinLines, ← Text.joinLines_append,
      indentLines_joinLines nl _ hpieces]
    rfl
  have hlast : startsFence [] = false := rfl
  rw [Snippet.settle]
  simp only [splitOn_embeddedText, hnew, List.any_append, List.any_cons, List.any_nil, hlast,
    Bool.or_false, List.length_append, List.length_cons, List.length_nil, Nat.zero_add,
    Nat.add_sub_cancel]

/-! ### Lines that close the fence -/

theorem startsFence_iff {t : Text} : startsFence t = true ↔ fenceMark <+: t := by
  rw [startsFence, Option.isSome_iff_exists]
  constructor
  · rintro ⟨rest, h⟩
    exact ⟨rest, (Text.eq_append_of_after? h).symm⟩
  · rintro ⟨rest, rfl⟩
    exact ⟨rest, Text.after?_append _ _⟩

theorem closes_append {i t : Text} : Closes i (i ++ t) ↔ Closes [] t := by
  constructor
  · rintro ⟨blanks, ending, h, hb, he⟩
    refine ⟨blanks, ending, ?_, hb, he⟩
    rw [List.append_assoc, List.append_assoc, List.append_cancel_left_eq] at h
    simpa using h
  · rintro ⟨blanks, ending, h, hb, he⟩
    refine ⟨blanks, ending, ?_, hb, he⟩
    rw [h]
    simp

theorem Closes.startsFence {t : Text} (h : Closes [] t) : startsFence t = true := by
  obtain ⟨blanks, ending, rfl, -⟩ := h
  rw [startsFence_iff, List.nil_append, List.append_assoc]
  exact List.prefix_append _ _

/-- A newline does not make a fence out of the text before it. -/
theorem startsFence_of_append_newline {p : Text} (h : startsFence (p ++ nl.text) = true) :
    startsFence p = true := by
  rw [startsFence_iff] at *
  match p with
  | [] => cases nl <;> simp [fenceMark, Newline.text, List.cons_prefix_cons] at h
  | [a] => cases nl <;> simp [fenceMark, Newline.text, List.cons_prefix_cons] at h
  | [a, b] => cases nl <;> simp [fenceMark, Newline.text, List.cons_prefix_cons] at h
  | a :: b :: c :: p =>
    simp only [fenceMark, List.cons_append, List.cons_prefix_cons, List.nil_prefix, and_true] at *
    exact h

/-- An indentation goes in front of the first line. -/
theorem Text.lines_append_left {i x h : Text} {tl : List Text} (hi : '\n' ∉ i)
    (hx : Text.lines x = h :: tl) : Text.lines (i ++ x) = (i ++ h) :: tl := by
  induction i with
  | nil => exact hx
  | cons c i ih =>
    rw [List.mem_cons, not_or] at hi
    rw [List.cons_append, Text.lines, if_neg (Ne.symm hi.1), ih hi.2]
    rfl

/-- The lines of a text that do not start one of its pieces: they follow a line feed which is not
    part of a newline of the document. -/
def innerLines (t : Text) : List Text :=
  (Text.splitOn nl.text t).flatMap fun p => (Text.lines (p ++ nl.text)).tail

theorem lines_append_newline_ne_nil (p : Text) : Text.lines (p ++ nl.text) ≠ [] := by
  intro h
  have h' := Text.flatten_lines (p ++ nl.text)
  rw [h] at h'
  exact nl.text_ne_nil (List.append_eq_nil_iff.mp h'.symm).2

/-- **The lines of one piece.**  If the piece does not start like a fence, then only the lines behind
    its first one can close the fence. -/
theorem not_closes_piece_iff {i p : Text} (hi : IsIndent i) (hp : startsFence p = false) :
    (∀ line ∈ Text.lines (i ++ p ++ nl.text), ¬ Closes i line) ↔
      ∀ line ∈ (Text.lines (p ++ nl.text)).tail, ¬ Closes i line := by
  obtain ⟨h, tl, hlines⟩ := List.exists_cons_of_ne_nil (lines_append_newline_ne_nil nl p)
  -- The first line of the piece starts no fence, so that indentation does not make it one.
  have hfirst : ¬ Closes i (i ++ h) := by
    rw [closes_append]
    intro hc
    have hh : h <+: p ++ nl.text := by
      have hflat := Text.flatten_lines (p ++ nl.text)
      rw [hlines, List.flatten_cons] at hflat
      exact ⟨tl.flatten, hflat⟩
    have hstart : startsFence (p ++ nl.text) = true :=
      startsFence_iff.mpr ((startsFence_iff.mp hc.startsFence).trans hh)
    rw [startsFence_of_append_newline nl hstart] at hp
    cases hp
  rw [List.append_assoc, Text.lines_append_left hi.lf_notMem hlines, hlines, List.tail_cons]
  constructor
  · intro hall line hline
    exact hall line (List.mem_cons_of_mem _ hline)
  · intro htl line hline
    rcases List.mem_cons.mp hline with rfl | hline
    · exact hfirst
    · exact htl line hline

/-- **The lines of an indented text.** -/
theorem not_closes_joinLines_iff {i : Text} (hi : IsIndent i) {ps : List Text}
    (hps : ∀ p ∈ ps, startsFence p = false) :
    (∀ line ∈ Text.lines (Text.joinLines nl (ps.map (i ++ ·))), ¬ Closes i line) ↔
      ∀ p ∈ ps, ∀ line ∈ (Text.lines (p ++ nl.text)).tail, ¬ Closes i line := by
  rw [Text.lines_joinLines]
  constructor
  · intro h p hp
    rw [← not_closes_piece_iff nl hi (hps p hp)]
    intro line hline
    refine h line (List.mem_flatMap.mpr ⟨i ++ p, List.mem_map_of_mem hp, hline⟩)
  · intro h line hline
    obtain ⟨q, hq, hline⟩ := List.mem_flatMap.mp hline
    obtain ⟨p, hp, rfl⟩ := List.mem_map.mp hq
    exact (not_closes_piece_iff nl hi (hps p hp)).mpr (h p hp) line hline

/-- A piece without a line feed has no inner lines. -/
theorem tail_lines_of_lf_notMem {p : Text} (h : '\n' ∉ p) :
    (Text.lines (p ++ nl.text)).tail = [] := by
  have hline := Text.lines_isWhole_append (Text.isWhole_append_newline nl h) []
  rw [List.append_nil] at hline
  rw [hline]
  rfl

/-- Cutting at line feeds leaves no inner lines. -/
theorem innerLines_lf (t : Text) : innerLines .lf t = [] := by
  rw [innerLines, List.flatMap_eq_nil_iff]
  intro p hp
  have hpiece := Text.isPiece_of_mem_splitOn .lf hp
  exact tail_lines_of_lf_notMem .lf (Text.lf_notMem_of_isPiece_lf hpiece)

end FenceSync
