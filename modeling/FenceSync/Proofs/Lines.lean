import FenceSync.Fence

namespace FenceSync

/-!
# The lines of a text

`Text.lines` cuts behind every line feed.  A cut is determined by what it yields: the lines
concatenate to the text, and every line but the last one ends with the only line feed it holds.

* `Text.IsWhole` is a line that ends with its line feed, and `Text.IsLast` is what may stand behind
  the last line feed.
* `Text.lines_induction` is induction along the lines of a text.
* `Text.EndsLine` is a text with nothing behind its last line feed.
* `Text.lines_flatten_append` reads whole lines back from their concatenation.
* `Text.lines_eq_append_cons` takes a cut apart: everything before a line is whole.
* `Text.after?_append_right` and `Text.before?_append_left` look for an opening or an ending in one of
  two parts.
-/

theorem isInLine_iff {c : Char} : isInLine c = true ↔ c ≠ '\r' ∧ c ≠ '\n' := by
  simp [isInLine]

/-- A text on one line, by looking at its characters. -/
theorem inLine_of_all {t : Text} (h : t.all isInLine = true) :
    ∀ c ∈ t, c ≠ '\r' ∧ c ≠ '\n' :=
  fun c hc => isInLine_iff.mp (List.all_eq_true.mp h c hc)

namespace Text

/-- A line with its line feed: the only one in it stands at its end. -/
def IsWhole (line : Text) : Prop := ∃ body, '\n' ∉ body ∧ line = body ++ ['\n']

/-- What a cut into lines may leave behind the last line feed. -/
def IsLast (line : Text) : Prop := line ≠ [] ∧ '\n' ∉ line

theorem IsWhole.ne_nil {line : Text} (h : IsWhole line) : line ≠ [] := by
  obtain ⟨body, _, rfl⟩ := h
  simp

theorem IsWhole.lf_mem {line : Text} (h : IsWhole line) : '\n' ∈ line := by
  obtain ⟨body, _, rfl⟩ := h
  simp

theorem isWhole_append_lf {body : Text} (h : '\n' ∉ body) : IsWhole (body ++ ['\n']) :=
  ⟨body, h, rfl⟩

theorem IsWhole.append_left {line t : Text} (h : IsWhole line) (ht : '\n' ∉ t) :
    IsWhole (t ++ line) := by
  obtain ⟨body, hb, rfl⟩ := h
  refine ⟨t ++ body, ?_, (List.append_assoc _ _ _).symm⟩
  rw [List.mem_append]
  rintro (h | h)
  · exact ht h
  · exact hb h

/-! ### Cutting -/

/-- A text cuts behind its first line feed. -/
theorem lines_append_lf {body : Text} (h : '\n' ∉ body) (t : Text) :
    lines (body ++ '\n' :: t) = (body ++ ['\n']) :: lines t := by
  induction body with
  | nil => simp [lines]
  | cons c body ih =>
    rw [List.mem_cons, not_or] at h
    rw [List.cons_append, lines, if_neg (Ne.symm h.1), ih h.2]
    rfl

theorem lines_isWhole_append {line : Text} (h : IsWhole line) (t : Text) :
    lines (line ++ t) = line :: lines t := by
  obtain ⟨body, hb, rfl⟩ := h
  rw [List.append_assoc]
  exact lines_append_lf hb t

/-- A text starts with one whole line. -/
theorem IsWhole.append_inj {line line' t t' : Text} (h : IsWhole line) (h' : IsWhole line')
    (heq : line ++ t = line' ++ t') : line = line' ∧ t = t' := by
  have hlines := congrArg lines heq
  rw [lines_isWhole_append h, lines_isWhole_append h', List.cons.injEq] at hlines
  obtain ⟨rfl, -⟩ := hlines
  exact ⟨rfl, List.append_cancel_left heq⟩

theorem lines_isLast {line : Text} (h : IsLast line) : lines line = [line] := by
  obtain ⟨hne, hlf⟩ := h
  induction line with
  | nil => exact absurd rfl hne
  | cons c line ih =>
    rw [List.mem_cons, not_or] at hlf
    rw [lines, if_neg (Ne.symm hlf.1)]
    cases line with
    | nil => rfl
    | cons d line => rw [ih (List.cons_ne_nil _ _) hlf.2]; rfl

/-- Whole lines are read back from their concatenation. -/
theorem lines_flatten_append {ls : List Text} (h : ∀ line ∈ ls, IsWhole line) (t : Text) :
    lines (ls.flatten ++ t) = ls ++ lines t := by
  induction ls with
  | nil => rfl
  | cons line ls ih =>
    rw [List.flatten_cons, List.append_assoc, lines_isWhole_append (h line (by simp)),
      ih fun l hl => h l (by simp [hl]), List.cons_append]

theorem lines_flatten {ls : List Text} (h : ∀ line ∈ ls, IsWhole line) :
    lines ls.flatten = ls := by
  have h' := lines_flatten_append h []
  rwa [List.append_nil, lines, List.append_nil] at h'

/-- **The shape of a cut.**  A text is a run of whole lines and what follows the last one. -/
theorem exists_whole_append (t : Text) :
    ∃ ls last, (∀ line ∈ ls, IsWhole line) ∧ '\n' ∉ last ∧ t = ls.flatten ++ last ∧
      lines t = ls ++ lines last := by
  induction t with
  | nil => exact ⟨[], [], by simp, by simp, rfl, rfl⟩
  | cons c t ih =>
    -- A line feed makes a line of its own, any other character starts the first one.
    obtain ⟨ls, last, hls, hlast, rfl, -⟩ := ih
    by_cases hc : c = '\n'
    · have hw : ∀ line ∈ ['\n'] :: ls, IsWhole line := by
        intro line hline
        rcases List.mem_cons.mp hline with rfl | hline
        · exact ⟨[], by simp, rfl⟩
        · exact hls line hline
      subst hc
      exact ⟨['\n'] :: ls, last, hw, hlast, rfl, lines_flatten_append hw last⟩
    · cases ls with
      | nil => exact ⟨[], c :: last, by simp, by simp [Ne.symm hc, hlast], rfl, rfl⟩
      | cons line ls =>
        have hw : ∀ l ∈ (c :: line) :: ls, IsWhole l := by
          intro l hl
          rcases List.mem_cons.mp hl with rfl | hl
          · exact (hls line (by simp)).append_left (t := [c]) (by simp [Ne.symm hc])
          · exact hls l (by simp [hl])
        exact ⟨(c :: line) :: ls, last, hw, hlast, rfl, lines_flatten_append hw last⟩

/-- Every line is whole, or has no line feed and is the last one. -/
theorem isWhole_or_isLast {t line : Text} (h : line ∈ lines t) : IsWhole line ∨ IsLast line := by
  obtain ⟨ls, last, hls, hlast, -, hlines⟩ := exists_whole_append t
  rw [hlines, List.mem_append] at h
  rcases h with h | h
  · exact .inl (hls line h)
  · cases last with
    | nil => simp [lines] at h
    | cons c last =>
      rw [lines_isLast ⟨List.cons_ne_nil _ _, hlast⟩, List.mem_singleton] at h
      exact .inr (h ▸ ⟨List.cons_ne_nil _ _, hlast⟩)

/-- **Taking a cut apart.**  Everything before a line is whole, and both sides of it are cuts. -/
theorem lines_eq_append_cons {t line : Text} {pre post : List Text}
    (h : lines t = pre ++ line :: post) :
    (∀ l ∈ pre, IsWhole l) ∧ lines (line :: post).flatten = line :: post := by
  induction pre generalizing t with
  | nil =>
    refine ⟨by simp, ?_⟩
    rw [List.nil_append] at h
    rw [← h, flatten_lines]
  | cons l pre ih =>
    have hl : IsWhole l := by
      obtain ⟨ls, last, hls, hlast, -, hlines⟩ := exists_whole_append t
      cases ls with
      | nil =>
        cases last with
        | nil => rw [hlines] at h; cases h
        | cons c last =>
          rw [hlines, lines_isLast ⟨List.cons_ne_nil _ _, hlast⟩] at h
          simp at h
      | cons l' ls =>
        rw [hlines] at h
        injection h with h₁ h₂
        exact h₁ ▸ hls l' (by simp)
    have ht : t = l ++ (pre ++ line :: post).flatten := by
      rw [← flatten_lines t, h]; rfl
    have htail : lines (pre ++ line :: post).flatten = pre ++ line :: post := by
      rw [ht, lines_isWhole_append hl, List.cons_append] at h
      exact List.tail_eq_of_cons_eq h
    obtain ⟨hpre, hpost⟩ := ih htail
    refine ⟨?_, hpost⟩
    intro l' hl'
    rcases List.mem_cons.mp hl' with rfl | hl'
    · exact hl
    · exact hpre l' hl'

/-- What follows a line of a cut is a cut as well. -/
theorem lines_of_lines_eq_append {t : Text} {pre post : List Text} (h : lines t = pre ++ post) :
    lines post.flatten = post := by
  cases post with
  | nil => rfl
  | cons line post => exact (lines_eq_append_cons h).2

/-- The first line of a cut is whole, or it is the only one. -/
theorem lines_eq_cons {t line : Text} {ls : List Text} (h : lines t = line :: ls) :
    lines ls.flatten = ls ∧ (IsWhole line ∨ IsLast line ∧ ls = []) := by
  have hcut : lines t = [line] ++ ls := h
  refine ⟨lines_of_lines_eq_append hcut, ?_⟩
  cases ls with
  | nil =>
    have hmem : line ∈ lines t := by rw [h]; simp
    exact (isWhole_or_isLast hmem).imp_right fun hlast => ⟨hlast, rfl⟩
  | cons next ls => exact .inl ((lines_eq_append_cons hcut).1 line (by simp))

/-- **Induction along the lines of a text.** -/
theorem lines_induction {motive : Text → Prop} (nil : motive [])
    (last : ∀ line, IsLast line → motive line)
    (whole : ∀ line t, IsWhole line → motive t → motive (line ++ t)) (t : Text) : motive t := by
  obtain ⟨ls, rest, hls, hrest, rfl, -⟩ := exists_whole_append t
  induction ls with
  | nil =>
    cases rest with
    | nil => exact nil
    | cons c rest => exact last _ ⟨List.cons_ne_nil _ _, hrest⟩
  | cons line ls ih =>
    rw [List.flatten_cons, List.append_assoc]
    exact whole _ _ (hls line (by simp)) (ih fun l hl => hls l (by simp [hl]))

/-- Every line has a character of its own. -/
theorem length_lines_le (t : Text) : (lines t).length ≤ t.length := by
  induction t using lines_induction with
  | nil => exact Nat.le_refl 0
  | last line hlast =>
    rw [lines_isLast hlast]
    exact List.length_pos_iff.mpr hlast.1
  | whole line t hwhole ih =>
    have hpos := List.length_pos_iff.mpr hwhole.ne_nil
    rw [lines_isWhole_append hwhole, List.length_cons, List.length_append]
    omega

/-- Nothing stands behind the last line feed. -/
def EndsLine (t : Text) : Prop := ∀ c ∈ t.getLast?, c = '\n'

theorem IsWhole.endsLine {line : Text} (h : IsWhole line) : EndsLine line := by
  obtain ⟨body, -, rfl⟩ := h
  simp [EndsLine]

theorem EndsLine.append {s t : Text} (hs : EndsLine s) (ht : EndsLine t) : EndsLine (s ++ t) := by
  intro c hc
  rw [List.getLast?_append, Option.mem_def, Option.or_eq_some_iff] at hc
  rcases hc with hc | ⟨-, hc⟩
  · exact ht c hc
  · exact hs c hc

theorem endsLine_of_lines {t : Text} (h : ∀ line ∈ lines t, IsWhole line) : EndsLine t := by
  induction t using lines_induction with
  | nil => simp [EndsLine]
  | last line hline => exact (h line (by rw [lines_isLast hline]; simp)).endsLine
  | whole line t hline ih =>
    rw [lines_isWhole_append hline] at h
    exact hline.endsLine.append (ih fun l hl => h l (List.mem_cons_of_mem _ hl))

/-- A text behind the last line feed is cut into lines on its own. -/
theorem EndsLine.lines_append {s : Text} (h : EndsLine s) (t : Text) :
    lines (s ++ t) = lines s ++ lines t := by
  induction s using lines_induction with
  | nil => rfl
  | last line hline =>
    -- A line without a line feed does not end with one.
    have hlast := List.getLast?_eq_some_getLast hline.1
    exact absurd (List.mem_of_getLast? (h _ hlast ▸ hlast)) hline.2
  | whole line s hline ih =>
    have hs : EndsLine s := by
      intro c hc
      refine h c ?_
      rw [List.getLast?_append, hc]
      rfl
    rw [List.append_assoc, lines_isWhole_append hline, lines_isWhole_append hline, ih hs,
      List.cons_append]

/-- What follows the first line of a cut can be put in the place of what follows it in another
    one, unless nothing does. -/
theorem lines_cons_of_cut {line : Text} {ls ls' : List Text}
    (h : lines (line :: ls).flatten = line :: ls) (h' : lines ls'.flatten = ls')
    (hnil : ls = [] → ls' = []) : lines (line :: ls').flatten = line :: ls' := by
  obtain ⟨-, hwhole | ⟨hlast, hls⟩⟩ := lines_eq_cons h
  · rw [List.flatten_cons, lines_isWhole_append hwhole, h']
  · rw [hnil hls, List.flatten_singleton, lines_isLast hlast]

/-! ### Openings and endings -/

/-- An opening behind something that a text starts with anyway. -/
theorem after?_append_append (w opening t : Text) :
    after? (w ++ opening) (w ++ t) = after? opening t := by
  induction w with
  | nil => rfl
  | cons c w ih => rw [List.cons_append, List.cons_append, after?, if_pos rfl, ih]

/-- An opening that does not reach into a second part is found in the first one, or not at all. -/
theorem after?_append_right {opening v : Text} (h : ∀ d ∈ v.head?, d ∉ opening) (s : Text) :
    after? opening (s ++ v) = (after? opening s).map (· ++ v) := by
  induction opening generalizing s with
  | nil => rfl
  | cons c opening ih =>
    cases s with
    | nil =>
      cases v with
      | nil => rfl
      | cons d v => exact if_neg fun hcd => h d rfl (by simp [hcd])
    | cons d s =>
      rw [List.cons_append, after?, after?]
      split
      · exact ih (fun x hx hmem => h x hx (List.mem_cons_of_mem _ hmem)) s
      · rfl

/-- An ending that does not reach into a first part is found in the second one, or not at all. -/
theorem before?_append_left {ending w : Text} (h : ∀ d ∈ w.getLast?, d ∉ ending) (t : Text) :
    before? ending (w ++ t) = (before? ending t).map (w ++ ·) := by
  have hhead : ∀ d ∈ w.reverse.head?, d ∉ ending.reverse := by
    rw [List.head?_reverse]
    simpa using h
  rw [before?, List.reverse_append, after?_append_right hhead, before?, Option.map_map,
    Option.map_map]
  congr 1
  funext u
  simp

end Text

end FenceSync
