import FenceSync.Proofs.Trials
import FenceSync.Search

namespace FenceSync

/-!
# Following a fence to its end

Behind an opening fence the search goes from character to character and looks for a closing fence
at the start of each line.

* `Search.behindClosing?_append` and `Search.exists_closes_of_behindClosing?` say where the search
  stops: behind a first line that is a closing fence, and nowhere else.
* `Search.finds_interior` and `Search.findsOnly_interior` say so of the whole way: it ends behind
  the first closing fence among the lines, or leads to nothing if there is none.
-/

namespace Search

open Trial

/-! ### Behind a closing fence -/

/-- The line feed at the end of a line, if it has one. -/
def lineFeed (line : Text) : Text := line.dropWhile fun c => c ≠ '\n'

theorem lineFeed_append {body : Text} (h : '\n' ∉ body) (t : Text) :
    lineFeed (body ++ t) = lineFeed t := by
  rw [lineFeed, List.dropWhile_append_of_pos]
  · rfl
  · intro c hc
    exact decide_eq_true fun hlf => h (hlf ▸ hc)

theorem lineFeed_isWhole {line : Text} (h : Text.IsWhole line) : lineFeed line = ['\n'] := by
  obtain ⟨body, hbody, rfl⟩ := h
  rw [lineFeed_append hbody]
  rfl

theorem lineFeed_isLast {line : Text} (h : Text.IsLast line) : lineFeed line = [] := by
  have happend := lineFeed_append h.2 []
  rwa [List.append_nil] at happend

/-- A search goes on at the end of a closing fence, in front of its line feed. -/
theorem behindClosing?_append {i line later : Text} (hi : IsIndent i) (h : Closes i line)
    (hlast : Text.IsWhole line ∨ later = []) :
    behindClosing? i (line ++ later) = some (lineFeed line ++ later) := by
  obtain ⟨blanks, ending, rfl, hblanks, hending⟩ := h
  have hbody := hi.lf_notMem_fence hblanks
  -- Where no line feed ends the fence, the text ends.
  have hend : '\n' ∈ ending ∨ later = [] := by
    rcases hlast with hwhole | hnil
    · rcases List.mem_append.mp hwhole.lf_mem with hmem | hmem
      · exact absurd hmem hbody
      · exact .inl hmem
    · exact .inr hnil
  have hhead : ∀ c ∈ (ending ++ later).head?, isTabOrSpace c = false := by
    intro c hc
    cases ending with
    | nil =>
      rcases hend with hmem | rfl
      · cases hmem
      · cases hc
    | cons d ending => exact head?_closingEnding hending c hc
  rw [behindClosing?, lineFeed_append hbody, List.append_assoc, List.append_assoc,
    Text.after?_append, Option.bind_some, dropIndent_append hblanks hhead]
  simp only [closingEndings, lineEndings, List.mem_append, List.mem_cons, List.not_mem_nil,
    or_false] at hending
  rcases hending with (rfl | rfl) | (rfl | rfl)
  · rcases hend with hmem | rfl
    · cases hmem
    · rfl
  · rcases hend with hmem | rfl
    · simp at hmem
    · rfl
  · rfl
  · rfl

/-- Where a search goes on behind a closing fence, the first line is one. -/
theorem exists_closes_of_behindClosing? {i t rest : Text} (hi : IsIndent i)
    (h : behindClosing? i t = some rest) :
    ∃ line ls, Text.lines t = line :: ls ∧ Closes i line := by
  rw [behindClosing?, Option.bind_eq_some_iff] at h
  obtain ⟨u, hu, hrest⟩ := h
  obtain rfl := Text.eq_append_of_after? hu
  have hcut : i ++ fenceMark ++ u = i ++ fenceMark ++ Text.indent u ++ Text.dropIndent u := by
    rw [List.append_assoc _ (Text.indent u), Text.indent_append_dropIndent]
  have hbody := hi.lf_notMem_fence (isIndent_indent u)
  have hcloses : ∀ ending ∈ closingEndings,
      Closes i (i ++ fenceMark ++ Text.indent u ++ ending) :=
    fun ending hending => ⟨_, ending, rfl, isIndent_indent u, hending⟩
  rw [hcut]
  split at hrest
  · next hd =>
    rw [hd]
    exact ⟨_, [], lines_of_closes hi (hcloses [] (by decide)), hcloses [] (by decide)⟩
  · next t' hd =>
    rw [hd]
    exact ⟨_, _, Text.lines_append_lf hbody t', hcloses ['\n'] (by decide)⟩
  · next hd =>
    rw [hd]
    exact ⟨_, [], lines_of_closes hi (hcloses ['\r'] (by decide)), hcloses ['\r'] (by decide)⟩
  · next t' hd =>
    have hbody' : '\n' ∉ i ++ fenceMark ++ Text.indent u ++ ['\r'] := by simpa using hbody
    rw [hd]
    refine ⟨_, Text.lines t', ?_, hcloses ['\r', '\n'] (by decide)⟩
    have hlines := Text.lines_append_lf hbody' t'
    simpa using hlines
  · cases hrest

theorem behindClosing?_eq_none {i t line : Text} {ls : List Text} (hi : IsIndent i)
    (hlines : Text.lines t = line :: ls) (h : ¬ Closes i line) : behindClosing? i t = none := by
  rw [Option.eq_none_iff_forall_ne_some]
  intro rest hrest
  obtain ⟨line', ls', hlines', hcloses⟩ := exists_closes_of_behindClosing? hi hrest
  rw [hlines] at hlines'
  injection hlines' with hline
  exact h (hline ▸ hcloses)

/-! ### Inside a block -/

variable {β : Type} {k : Text → Text → β}

/-- A character that starts no closing fence is passed over by going back. -/
theorem interior_cons {i : Text} {starts : Bool} {c : Char} {t : Text}
    (h : starts = true → behindClosing? i (c :: t) = none) :
    interior i k starts (c :: t) = Trial.retreat (interior i k (c == '\n') t) := by
  funext n
  have hnone : (if starts then behindClosing? i (c :: t) else none) = none := by
    cases starts with
    | true => exact h rfl
    | false => rfl
  unfold interior
  rw [hnone]
  cases n <;> rfl

theorem interior_nil (i : Text) (starts : Bool) :
    interior i k starts [] = Trial.retreat fail := by
  have hnone : (if starts then behindClosing? i [] else none) = none := by
    cases starts <;> cases i <;> rfl
  funext n
  unfold interior
  rw [hnone]

/-- Inside a line no closing fence starts. -/
theorem interior_inside {body : Text} (h : '\n' ∉ body) (i t : Text) :
    interior i k false (body ++ t) =
      Trial.retreat^[body.length] (interior i k false t) := by
  induction body with
  | nil => rfl
  | cons c body ih =>
    rw [List.mem_cons, not_or] at h
    have hc : (c == '\n') = false := beq_eq_false_iff_ne.mpr (Ne.symm h.1)
    rw [List.cons_append, interior_cons fun hstarts => absurd hstarts Bool.false_ne_true, hc,
      ih h.2]
    exact (Function.iterate_succ_apply' _ _ _).symm

/-- A whole line that is no closing fence is passed over. -/
theorem interior_isWhole {i line : Text} (hi : IsIndent i) (hline : ¬ Closes i line)
    (hwhole : Text.IsWhole line) (t : Text) :
    ∃ n, interior i k true (line ++ t) = Trial.retreat^[n] (interior i k true t) := by
  have hnone : behindClosing? i (line ++ t) = none :=
    behindClosing?_eq_none hi (Text.lines_isWhole_append hwhole t) hline
  obtain ⟨body, hbody, rfl⟩ := hwhole
  rw [List.append_assoc] at hnone ⊢
  cases body with
  | nil => exact ⟨1, interior_cons fun _ => hnone⟩
  | cons c body =>
    rw [List.mem_cons, not_or] at hbody
    have hc : (c == '\n') = false := beq_eq_false_iff_ne.mpr (Ne.symm hbody.1)
    have hlf : interior i k false ('\n' :: t) = Trial.retreat (interior i k true t) :=
      interior_cons fun hstarts => absurd hstarts Bool.false_ne_true
    refine ⟨body.length + 2, ?_⟩
    rw [List.cons_append] at hnone ⊢
    rw [interior_cons fun _ => hnone, hc, interior_inside hbody.2, List.singleton_append,
      hlf, ← Function.iterate_succ_apply]
    exact (Function.iterate_succ_apply' _ _ _).symm

/-- A last line that is no closing fence leads to nothing. -/
theorem interior_isLast {i line : Text} (hi : IsIndent i) (hline : ¬ Closes i line)
    (hlast : Text.IsLast line) : ∃ n, interior i k true line = Trial.retreat^[n] fail := by
  have hnone : behindClosing? i line = none :=
    behindClosing?_eq_none hi (Text.lines_isLast hlast) hline
  obtain ⟨hne, hlf⟩ := hlast
  cases line with
  | nil => exact absurd rfl hne
  | cons c body =>
    rw [List.mem_cons, not_or] at hlf
    have hc : (c == '\n') = false := beq_eq_false_iff_ne.mpr (Ne.symm hlf.1)
    have hinside : interior i k false (body ++ []) = _ := interior_inside hlf.2 i []
    rw [List.append_nil, interior_nil, ← Function.iterate_succ_apply] at hinside
    refine ⟨body.length + 2, ?_⟩
    rw [interior_cons fun _ => hnone, hc, hinside]
    exact (Function.iterate_succ_apply' _ _ _).symm

/-- Without a closing fence an interior has no end. -/
theorem findsOnly_interior {i : Text} {ls : List Text} (hi : IsIndent i)
    (hls : Text.lines ls.flatten = ls) (h : ∀ line ∈ ls, ¬ Closes i line) :
    FindsOnly (interior i k true ls.flatten) none := by
  induction ls with
  | nil =>
    rw [List.flatten_nil, interior_nil]
    exact (findsOnly_fail none).retreat
  | cons line ls ih =>
    obtain ⟨hrest, hwhole | ⟨hlast, rfl⟩⟩ := Text.lines_eq_cons hls
    · obtain ⟨n, hn⟩ := interior_isWhole hi (h line (by simp)) hwhole ls.flatten
      rw [List.flatten_cons, hn]
      exact (ih hrest fun l hl => h l (by simp [hl])).iterate_retreat n
    · obtain ⟨n, hn⟩ := interior_isLast hi (h line (by simp)) hlast
      rw [List.flatten_cons, List.flatten_nil, List.append_nil, hn]
      exact (findsOnly_fail none).iterate_retreat n

/-- **An interior ends at the first closing fence.** -/
theorem finds_interior {i closer : Text} {inner later : List Text} (hi : IsIndent i)
    (hls : Text.lines (inner ++ closer :: later).flatten = inner ++ closer :: later)
    (hinner : ∀ line ∈ inner, ¬ Closes i line) (hcloser : Closes i closer) :
    Finds (interior i k true (inner ++ closer :: later).flatten)
      (k (closer :: later).flatten (lineFeed closer ++ later.flatten)) := by
  induction inner with
  | nil =>
    have hlast : Text.IsWhole closer ∨ later.flatten = [] := by
      obtain ⟨-, hwhole | ⟨-, rfl⟩⟩ := Text.lines_eq_cons hls
      · exact .inl hwhole
      · exact .inr rfl
    have hbehind := behindClosing?_append hi hcloser hlast
    rw [List.nil_append, List.flatten_cons]
    obtain ⟨c, t, hct⟩ := List.exists_cons_of_ne_nil
      (List.append_ne_nil_of_left_ne_nil hcloser.ne_nil later.flatten)
    rw [hct] at hbehind ⊢
    intro n
    unfold interior
    rw [if_pos rfl, hbehind]
    exact .inr rfl
  | cons line inner ih =>
    obtain ⟨hrest, hwhole | ⟨-, hnil⟩⟩ := Text.lines_eq_cons hls
    · obtain ⟨n, hn⟩ := interior_isWhole hi (hinner line (by simp)) hwhole
        (inner ++ closer :: later).flatten
      rw [List.cons_append, List.flatten_cons, hn]
      exact (ih hrest fun l hl => hinner l (by simp [hl])).iterate_retreat n
    · simp at hnil

end Search

end FenceSync
