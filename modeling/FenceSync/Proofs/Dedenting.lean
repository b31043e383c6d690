import FenceSync.Proofs.Trimming
import FenceSync.Resolve
import Mathlib.Data.List.Forall2

namespace FenceSync

/-!
# Common indentation

The lines of a file are embedded without the white space that all of them start with.  The only
choice in that is how much is taken away, and only one amount leaves no common white space over.

* `Outdents c` says what is left of lines if `c` characters of white space are taken away from each
  of them, and `Text.IsFlush` that a line starts with something else.
* `dedent_outdents` and `exists_isFlush_dedent` say that `dedent` takes as much away as it can, and
  `eq_dedent_of_outdents` that nothing else does.
* `dedent_minimal` is the full statement; the laws in it follow from that.
-/

/-! ### Lines that start with white space -/

namespace Text

/-- The number of white-space characters that a line starts with. -/
def margin (line : Text) : Nat := (line.takeWhile isSpace).length

/-- The line starts with something else than white space. -/
def IsFlush (line : Text) : Prop := ∃ x ∈ line.head?, isSpace x = false

theorem isFlush_iff {line : Text} : IsFlush line ↔ isBlank line = false ∧ margin line = 0 := by
  cases line with
  | nil => simp [IsFlush, isBlank]
  | cons x t => cases hx : isSpace x <;> simp [IsFlush, isBlank, margin, hx]

theorem margin_append {w : Text} (hw : IsSpaces w) (t : Text) :
    margin (w ++ t) = w.length + margin t := by
  rw [margin, List.takeWhile_append_of_pos hw, List.length_append, margin]

/-- White space in front does not make a line blank. -/
theorem isBlank_append {w : Text} (hw : IsSpaces w) (t : Text) : isBlank (w ++ t) = isBlank t := by
  rw [isBlank, List.all_append, List.all_eq_true.mpr hw, Bool.true_and, isBlank]

/-- Up to its margin a line is white space. -/
theorem exists_eq_append_drop {line : Text} {c : Nat} (h : c ≤ margin line) :
    ∃ w, IsSpaces w ∧ w.length = c ∧ line = w ++ line.drop c := by
  have hcut : line.take c = (line.takeWhile isSpace).take c := by
    conv_lhs => rw [← List.takeWhile_append_dropWhile (p := isSpace) (l := line)]
    exact List.take_append_of_le_length h
  have hlen : c ≤ line.length := h.trans (List.takeWhile_prefix isSpace).length_le
  refine ⟨line.take c, fun x hx => ?_, ?_, (List.take_append_drop c line).symm⟩
  · rw [hcut] at hx
    exact List.mem_takeWhile_imp (List.mem_of_mem_take hx)
  · rw [List.length_take, Nat.min_eq_left hlen]

end Text

/-! ### The common indentation -/

/-- Some line is not blank. -/
def HasContent (lines : List Text) : Prop := ∃ line ∈ lines, Text.isBlank line = false

/-- **The common indentation** is the smallest margin of the lines that are not blank. -/
theorem commonIndent_eq_iff {lines : List Text} (h : HasContent lines) {c : Nat} :
    commonIndent lines = c ↔
      (∃ line ∈ lines, Text.isBlank line = false ∧ Text.margin line = c) ∧
        ∀ line ∈ lines, Text.isBlank line = false → c ≤ Text.margin line := by
  obtain ⟨content, hcontent, hblank⟩ := h
  have hmem : ∀ n : Nat, n ∈ (lines.filter fun line => !Text.isBlank line).map Text.margin ↔
      ∃ line ∈ lines, Text.isBlank line = false ∧ Text.margin line = n := by
    simp [and_assoc]
  have hsome : ((lines.filter fun line => !Text.isBlank line).map Text.margin).min? =
      some (commonIndent lines) := by
    have hget : commonIndent lines =
        ((lines.filter fun line => !Text.isBlank line).map Text.margin).min?.getD 0 := rfl
    rw [hget]
    cases hmin : ((lines.filter fun line => !Text.isBlank line).map Text.margin).min? with
    | none =>
      have hnone := (hmem (Text.margin content)).mpr ⟨content, hcontent, hblank, rfl⟩
      rw [List.min?_eq_none_iff.mp hmin] at hnone
      cases hnone
    | some n => rfl
  rw [← Option.some_inj, ← hsome, List.min?_eq_some_iff, hmem]
  refine and_congr_right fun _ => ⟨fun hall line hline hnot => ?_, fun hall n hn => ?_⟩
  · exact hall _ ((hmem _).mpr ⟨line, hline, hnot, rfl⟩)
  · obtain ⟨line, hline, hnot, rfl⟩ := (hmem n).mp hn
    exact hall line hline hnot

theorem commonIndent_le_margin {lines : List Text} {line : Text} (hline : line ∈ lines)
    (hblank : Text.isBlank line = false) : commonIndent lines ≤ Text.margin line :=
  ((commonIndent_eq_iff ⟨line, hline, hblank⟩).mp rfl).2 line hline hblank

/-! ### Taking white space away -/

/-- What is left of a line: nothing of a blank line, and of any other one what stands behind exactly
    `c` characters of white space. -/
def Text.Outdents (c : Nat) (line result : Text) : Prop :=
  if Text.isBlank line then result = []
  else ∃ w, Text.IsSpaces w ∧ w.length = c ∧ line = w ++ result

/-- What is left of each of several lines, in order. -/
def Outdents (c : Nat) (lines results : List Text) : Prop :=
  List.Forall₂ (Text.Outdents c) lines results

namespace Text.Outdents

variable {c : Nat} {line result : Text}

theorem of_isBlank (h : isBlank line = true) : Text.Outdents c line result ↔ result = [] := by
  rw [Text.Outdents, if_pos h]

theorem of_not_isBlank (h : isBlank line = false) :
    Text.Outdents c line result ↔ ∃ w, IsSpaces w ∧ w.length = c ∧ line = w ++ result := by
  rw [Text.Outdents, if_neg (by simp [h])]

/-- What is left is blank if the line was. -/
theorem isBlank_eq (h : Text.Outdents c line result) : isBlank result = isBlank line := by
  cases hline : isBlank line with
  | true =>
    rw [(of_isBlank hline).mp h]
    rfl
  | false =>
    obtain ⟨w, hw, -, rfl⟩ := (of_not_isBlank hline).mp h
    rwa [isBlank_append hw] at hline

theorem margin_eq (h : Text.Outdents c line result) (hline : isBlank line = false) :
    margin line = c + margin result := by
  obtain ⟨w, hw, rfl, rfl⟩ := (of_not_isBlank hline).mp h
  exact margin_append hw result

/-- Nothing is taken away from what is left. -/
theorem zero (h : Text.Outdents c line result) : Text.Outdents 0 result result := by
  cases hresult : isBlank result with
  | true =>
    have hline : isBlank line = true := h.isBlank_eq ▸ hresult
    rw [of_isBlank hresult]
    exact (of_isBlank hline).mp h
  | false => exact (of_not_isBlank hresult).mpr ⟨[], by simp [IsSpaces], rfl, rfl⟩

/-- White space in front of a line is taken away with the rest. -/
theorem append {w : Text} (hw : IsSpaces w) (h : Text.Outdents c line result) :
    Text.Outdents (w.length + c) (w ++ line) result := by
  cases hline : isBlank line with
  | true =>
    rw [of_isBlank (by rwa [isBlank_append hw])]
    exact (of_isBlank hline).mp h
  | false =>
    obtain ⟨v, hv, rfl, rfl⟩ := (of_not_isBlank hline).mp h
    rw [of_not_isBlank (by rwa [isBlank_append hw])]
    exact ⟨w ++ v, hw.append hv, List.length_append, (List.append_assoc _ _ _).symm⟩

end Text.Outdents

/-- **Dedenting** takes the common indentation away. -/
theorem dedent_outdents (lines : List Text) :
    Outdents (commonIndent lines) lines (dedent lines) := by
  rw [Outdents, dedent, List.forall₂_map_right_iff, List.forall₂_same]
  intro line hline
  cases hblank : Text.isBlank line with
  | true => exact (Text.Outdents.of_isBlank hblank).mpr rfl
  | false =>
    exact (Text.Outdents.of_not_isBlank hblank).mpr
      (Text.exists_eq_append_drop (commonIndent_le_margin hline hblank))

namespace Outdents

variable {c : Nat} {lines results : List Text}

theorem hasContent_iff (h : Outdents c lines results) : HasContent results ↔ HasContent lines := by
  rw [HasContent, HasContent]
  induction h with
  | nil => rfl
  | cons hline _ ih => simp only [List.exists_mem_cons_iff, ih, hline.isBlank_eq]

theorem zero (h : Outdents c lines results) : Outdents 0 results results := by
  induction h with
  | nil => exact .nil
  | cons hline _ ih => exact .cons hline.zero ih

theorem append {w : Text} (hw : Text.IsSpaces w) (h : Outdents c lines results) :
    Outdents (w.length + c) (lines.map (w ++ ·)) results :=
  List.forall₂_map_left_iff.mpr (h.imp fun _ _ hline => hline.append hw)

/-- **No more can be taken away** than the common indentation. -/
theorem le_commonIndent (h : Outdents c lines results) (hcontent : HasContent lines) :
    c ≤ commonIndent lines := by
  have hmargins : ∀ line ∈ lines, Text.isBlank line = false → c ≤ Text.margin line :=
    (List.forall₂_and_left _ _ |>.mp (h.imp fun line result hline =>
      ⟨fun hblank => (hline.margin_eq hblank).symm ▸ Nat.le_add_right c _, hline⟩)).1
  obtain ⟨⟨line, hline, hblank, hmargin⟩, -⟩ := (commonIndent_eq_iff hcontent).mp rfl
  exact hmargin ▸ hmargins line hline hblank

/-- **As much as possible was taken away** if something else than white space comes first in what is
    left of a line. -/
theorem commonIndent_eq_iff_exists_isFlush (h : Outdents c lines results)
    (hcontent : HasContent lines) :
    commonIndent lines = c ↔ ∃ result ∈ results, Text.IsFlush result := by
  have hsame : (∃ line ∈ lines, Text.isBlank line = false ∧ Text.margin line = c) ↔
      ∃ result ∈ results, Text.IsFlush result := by
    clear hcontent
    induction h with
    | nil => simp
    | @cons line result _ _ hline _ ih =>
      have hfirst : Text.isBlank line = false ∧ Text.margin line = c ↔ Text.IsFlush result := by
        rw [Text.isFlush_iff, hline.isBlank_eq]
        refine and_congr_right fun hblank => ?_
        rw [hline.margin_eq hblank, Nat.add_eq_left]
      simp only [List.exists_mem_cons_iff, ih, hfirst]
  rw [← hsame]
  refine ⟨fun heq => ((commonIndent_eq_iff hcontent).mp heq).1, ?_⟩
  rintro ⟨line, hline, hblank, heq⟩
  exact Nat.le_antisymm (heq ▸ commonIndent_le_margin hline hblank) (h.le_commonIndent hcontent)

end Outdents

/-- Some line starts with something else than white space, unless all were blank. -/
theorem exists_isFlush_dedent {lines : List Text} (h : HasContent lines) :
    ∃ result ∈ dedent lines, Text.IsFlush result :=
  ((dedent_outdents lines).commonIndent_eq_iff_exists_isFlush h).mp rfl

/-- **Nothing else than `dedent` takes as much away as possible.** -/
theorem eq_dedent_of_outdents {c : Nat} {lines results : List Text} (h : Outdents c lines results)
    (hflush : HasContent lines → ∃ result ∈ results, Text.IsFlush result) :
    results = dedent lines := by
  have hmem : List.Forall₂ (fun line result => line ∈ lines ∧ Text.Outdents c line result)
      lines results := (List.forall₂_and_left _ _).mpr ⟨fun _ hline => hline, h⟩
  have hdedent : List.Forall₂
      (fun line result =>
        (if Text.isBlank line then [] else line.drop (commonIndent lines)) = result)
      lines results := by
    refine hmem.imp fun line result hboth => ?_
    obtain ⟨hline, hout⟩ := hboth
    cases hblank : Text.isBlank line with
    | true => exact ((Text.Outdents.of_isBlank hblank).mp hout).symm
    | false =>
      have hcontent : HasContent lines := ⟨line, hline, hblank⟩
      obtain ⟨w, -, hlen, rfl⟩ := (Text.Outdents.of_not_isBlank hblank).mp hout
      rw [(h.commonIndent_eq_iff_exists_isFlush hcontent).mpr (hflush hcontent), ← hlen]
      exact List.drop_left
  rw [← List.forall₂_map_left_iff, List.forall₂_eq_eq_eq] at hdedent
  exact hdedent.symm

/-! ### The laws -/

theorem dedent_dedent (lines : List Text) : dedent (dedent lines) = dedent lines := by
  have h := dedent_outdents lines
  exact (eq_dedent_of_outdents h.zero fun hcontent =>
    exists_isFlush_dedent (h.hasContent_iff.mp hcontent)).symm

theorem dedent_map_append {w : Text} (hw : Text.IsSpaces w) (lines : List Text) :
    dedent (lines.map (w ++ ·)) = dedent lines := by
  have h := dedent_outdents lines
  have hcontent : HasContent (lines.map (w ++ ·)) ↔ HasContent lines := by
    rw [← (h.append hw).hasContent_iff, h.hasContent_iff]
  exact (eq_dedent_of_outdents (h.append hw) fun hw' =>
    exists_isFlush_dedent (hcontent.mp hw')).symm

/-- **Dedenting is minimal, lossless and independent of depth.**

    * The same number of white-space characters is taken away from the start of every line that is
      not blank, and nothing else; blank lines become empty.  The lines keep their number and order.
    * As much as possible is taken away: what is left of some line starts with something else than
      white space, and no larger number would do.  Nothing but `dedent` does that.
    * Dedented lines stay as they are, and white space put in front of every line makes no
      difference. -/
theorem dedent_minimal (lines : List Text) :
    (∃ c, Outdents c lines (dedent lines) ∧
      (HasContent lines → (∃ result ∈ dedent lines, Text.IsFlush result) ∧
        ∀ d results, Outdents d lines results → d ≤ c)) ∧
    (∀ c results, Outdents c lines results →
      (HasContent lines → ∃ result ∈ results, Text.IsFlush result) → results = dedent lines) ∧
    dedent (dedent lines) = dedent lines ∧
    ∀ w, Text.IsSpaces w → dedent (lines.map (w ++ ·)) = dedent lines := by
  refine ⟨⟨commonIndent lines, dedent_outdents lines, fun h => ⟨exists_isFlush_dedent h, ?_⟩⟩, ?_,
    dedent_dedent lines, fun w hw => dedent_map_append hw lines⟩
  · exact fun d results hout => hout.le_commonIndent h
  · exact fun c results hout hflush => eq_dedent_of_outdents hout hflush

/-- Margins of different white space, blank lines, and an indentation that stays. -/
theorem dedent_minimal_mixed :
    let lines := ["\t\u3000a".toList, " ".toList, [], "\u00A0\t  b".toList]
    let results := ["a".toList, [], [], "  b".toList]
    let w := "\u2003".toList
    Outdents 2 lines results ∧ HasContent lines ∧ Text.IsSpaces w ∧ results = dedent lines ∧
      (∀ d others, Outdents d lines others → d ≤ 2) ∧
      dedent (lines.map (w ++ ·)) = dedent lines := by
  intro lines results w
  have hspaces : ∀ {v : Text}, v.all isSpace = true → Text.IsSpaces v :=
    fun h => List.all_eq_true.mp h
  have hout : Outdents 2 lines results := by
    refine .cons ?_ (.cons ?_ (.cons ?_ (.cons ?_ .nil)))
    · exact (Text.Outdents.of_not_isBlank (by decide)).mpr
        ⟨"\t\u3000".toList, hspaces (by decide), rfl, by decide⟩
    · exact (Text.Outdents.of_isBlank (by decide)).mpr rfl
    · exact (Text.Outdents.of_isBlank rfl).mpr rfl
    · exact (Text.Outdents.of_not_isBlank (by decide)).mpr
        ⟨"\u00A0\t".toList, hspaces (by decide), rfl, by decide⟩
  have hcontent : HasContent lines := ⟨_, List.mem_cons_self, by decide⟩
  have hw : Text.IsSpaces w := hspaces (by decide)
  have hflush : ∃ result ∈ results, Text.IsFlush result :=
    ⟨_, List.mem_cons_self, 'a', by decide, by decide⟩
  obtain ⟨⟨c, hc, hmost⟩, honly, -, hdepth⟩ := dedent_minimal lines
  obtain ⟨-, hmax⟩ := hmost hcontent
  have hc2 : c = 2 := by
    rw [← (hc.commonIndent_eq_iff_exists_isFlush hcontent).mpr (hmost hcontent).1]
    decide
  exact ⟨hout, hcontent, hw, honly 2 results hout fun _ => hflush, hc2 ▸ hmax, hdepth w hw⟩

end FenceSync
