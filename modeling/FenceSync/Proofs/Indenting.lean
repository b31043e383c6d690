import FenceSync.Proofs.Crlf
import FenceSync.Proofs.Fences

namespace FenceSync

/-!
# Texts that are moved to the right

`Text.indented` puts an indentation in front of every line of a text, and nothing behind its last
line feed.

* `Text.indented_append` moves two parts of a text, `Text.lines_indented` its lines, and
  `Text.joinLines_indented` pieces with their newlines.
* `Text.newline_indented` and `Text.count_lf_indented` say that the newlines of a text stay what
  they are.
* `Text.indented_injective`: the text can be told from its moved form.
-/

namespace Text

/-- The text with an indentation in front of every line. -/
def indented (w t : Text) : Text := (lines t).flatMap (w ++ ·)

@[simp] theorem indented_nil (w : Text) : indented w [] = [] := rfl

theorem indented_append (w : Text) {s : Text} (hs : EndsLine s) (t : Text) :
    indented w (s ++ t) = indented w s ++ indented w t := by
  rw [indented, hs.lines_append, List.flatMap_append]
  rfl

theorem indented_isLast (w : Text) {line : Text} (h : IsLast line) :
    indented w line = w ++ line := by
  rw [indented, lines_isLast h, List.flatMap_singleton]

theorem indented_isWhole_append (w : Text) {line : Text} (h : IsWhole line) (t : Text) :
    indented w (line ++ t) = w ++ line ++ indented w t := by
  rw [indented, lines_isWhole_append h, List.flatMap_cons]
  rfl

theorem indented_isWhole (w : Text) {line : Text} (h : IsWhole line) :
    indented w line = w ++ line := by
  have happend := indented_isWhole_append w h []
  rwa [List.append_nil, indented_nil, List.append_nil] at happend

theorem joinLines_indented (w : Text) {ps : List Text} (h : ∀ p ∈ ps, '\n' ∉ p) :
    joinLines .lf (ps.map (w ++ ·)) = indented w (joinLines .lf ps) := by
  induction ps with
  | nil => rfl
  | cons p ps ih =>
    have hp : IsWhole (p ++ Newline.lf.text) := isWhole_append_lf (h p (by simp))
    rw [List.map_cons, joinLines_cons, joinLines_cons, indented_isWhole_append w hp,
      ih fun q hq => h q (by simp [hq]), ← List.append_assoc w]

section
variable {w : Text} (hw : IsIndent w)
include hw

/-- **The lines of a moved text** are the moved lines. -/
theorem lines_indented (t : Text) : lines (indented w t) = (lines t).map (w ++ ·) := by
  induction t using lines_induction with
  | nil => rfl
  | last line hline =>
    have hmoved : IsLast (w ++ line) := by
      refine ⟨fun h => hline.1 (List.append_eq_nil_iff.mp h).2, fun h => ?_⟩
      rcases List.mem_append.mp h with h | h
      · exact hw.lf_notMem h
      · exact hline.2 h
    rw [indented_isLast w hline, lines_isLast hmoved, lines_isLast hline]
    rfl
  | whole line t hline ih =>
    rw [indented_isWhole_append w hline, lines_isWhole_append (hline.append_left hw.lf_notMem), ih,
      lines_isWhole_append hline, List.map_cons]

/-- The text can be told from its moved form. -/
theorem indented_injective {s t : Text} (h : indented w s = indented w t) : s = t := by
  have hlines := congrArg lines h
  rw [lines_indented hw, lines_indented hw] at hlines
  have hsame : lines s = lines t :=
    (List.map_inj_right fun _ _ hline => List.append_cancel_left hline).mp hlines
  rw [← flatten_lines s, hsame, flatten_lines]

end

/-! ### Newlines -/

/-- What follows a line feed is counted on its own. -/
theorem tallyFrom_lf_congr {s t : Text} (h : tally s = tally t) (after : Bool) (body : Text) :
    tallyFrom '\r' '\n' after (body ++ '\n' :: s) =
      tallyFrom '\r' '\n' after (body ++ '\n' :: t) := by
  induction body generalizing after with
  | nil =>
    have h' : tallyFrom '\r' '\n' (decide ('\n' = '\r')) s =
        tallyFrom '\r' '\n' (decide ('\n' = '\r')) t := h
    rw [List.nil_append, List.nil_append, tallyFrom, tallyFrom, h']
  | cons c body ih => rw [List.cons_append, List.cons_append, tallyFrom, tallyFrom, ih]

section
variable {w : Text} (hw : IsIndent w)
include hw

/-- An indentation holds no part of a newline. -/
theorem tally_indent_append (t : Text) : tally (w ++ t) = tally t := by
  cases w with
  | nil => rfl
  | cons c w =>
    exact tallyFrom_append_of_notMem hw.cr_notMem hw.lf_notMem (List.cons_ne_nil c w) false t

/-- **A moved text has the same newlines.** -/
theorem tally_indented (t : Text) : tally (indented w t) = tally t := by
  induction t using lines_induction with
  | nil => rfl
  | last line hline => rw [indented_isLast w hline, tally_indent_append hw]
  | whole line t hline ih =>
    rw [indented_isWhole_append w hline, List.append_assoc, tally_indent_append hw]
    obtain ⟨body, -, rfl⟩ := hline
    rw [List.append_assoc, List.append_assoc]
    exact tallyFrom_lf_congr ih false body

theorem newline_indented (t : Text) : newline (indented w t) = newline t := by
  rw [newline, tally_indented hw, newline]

theorem count_lf_indented (t : Text) : (indented w t).count '\n' = t.count '\n' := by
  have hmoved : (tally (indented w t)).crlf + (tally (indented w t)).lf =
      (indented w t).count '\n' := tallyFrom_add false _
  have hhere : (tally t).crlf + (tally t).lf = t.count '\n' := tallyFrom_add false t
  rw [← hmoved, tally_indented hw, hhere]

end

/-- Line numbers count line feeds. -/
theorem occurrences_lf (t : Text) : occurrences Newline.lf.text t = t.count '\n' :=
  (occurrences_newline .lf t).trans (tallyFrom_add false t)

/-! ### What a line starts with -/

theorem dropIndent_indent_append {w : Text} (hw : IsIndent w) (t : Text) :
    dropIndent (w ++ t) = dropIndent t := List.dropWhile_append_of_pos hw

theorem indent_indent_append {w : Text} (hw : IsIndent w) (t : Text) :
    indent (w ++ t) = w ++ indent t := List.takeWhile_append_of_pos hw

end Text

end FenceSync
