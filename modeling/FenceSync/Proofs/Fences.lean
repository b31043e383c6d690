import Mathlib.Data.List.TakeWhile
import FenceSync.Marker
import FenceSync.Proofs.Lines

namespace FenceSync

/-!
# Opening and closing fences

The two recognisers of fences against the shape that a fence has on the page.

* `Fence.Opens` is the shape of an opening fence, and `ofLine?_eq_some_iff` says that
  `Fence.ofLine?` recognises exactly these.
* `Closes` is the shape of a closing fence, and `closesIndent_iff` says the same of it.
* `BeginsFence` is what both have in common: backticks behind tabs and spaces.
-/

/-! ### Tabs, spaces, and what follows them -/

/-- Nothing but tabs and spaces. -/
def IsIndent (t : Text) : Prop := ∀ c ∈ t, isTabOrSpace c = true

instance (t : Text) : Decidable (IsIndent t) :=
  List.decidableBAll _ t

theorem isIndent_indent (t : Text) : IsIndent (Text.indent t) := by
  intro c hc
  exact List.mem_takeWhile_imp hc

theorem IsIndent.append {s t : Text} (hs : IsIndent s) (ht : IsIndent t) : IsIndent (s ++ t) := by
  intro c hc
  rcases List.mem_append.mp hc with hc | hc
  · exact hs c hc
  · exact ht c hc

theorem IsIndent.lf_notMem {t : Text} (h : IsIndent t) : '\n' ∉ t := by
  intro hc
  exact absurd (h _ hc) (by decide)

theorem IsIndent.cr_notMem {t : Text} (h : IsIndent t) : '\r' ∉ t := by
  intro hc
  exact absurd (h _ hc) (by decide)

/-- An indentation is taken off in front of a text that does not start with one. -/
theorem dropIndent_append {i t : Text} (hi : IsIndent i)
    (ht : ∀ c ∈ t.head?, isTabOrSpace c = false) : Text.dropIndent (i ++ t) = t := by
  rw [Text.dropIndent, List.dropWhile_append_of_pos hi]
  cases t with
  | nil => rfl
  | cons c t => rw [List.dropWhile_cons_of_neg (by simp [ht c rfl])]

theorem indent_append {i t : Text} (hi : IsIndent i)
    (ht : ∀ c ∈ t.head?, isTabOrSpace c = false) : Text.indent (i ++ t) = i := by
  rw [Text.indent, List.takeWhile_append_of_pos hi]
  cases t with
  | nil => simp
  | cons c t => rw [List.takeWhile_cons_of_neg (by simp [ht c rfl]), List.append_nil]

theorem head?_fenceMark_append (t : Text) :
    ∀ c ∈ (fenceMark ++ t).head?, isTabOrSpace c = false := by
  intro c hc
  rw [fenceMark, List.cons_append, List.head?_cons, Option.mem_some_iff] at hc
  rw [← hc]
  decide

/-! ### Opening fences -/

namespace Fence

/-- The shape of an opening fence: an indentation, three backticks, any info string without CR and
    LF, and a newline.  The language is the longest beginning of the info string without white
    space and backticks. -/
def Opens (f : Fence) (line : Text) : Prop :=
  ∃ info ending, line = f.indent ++ fenceMark ++ info ++ ending ∧ IsIndent f.indent ∧
    (∀ c ∈ info, c ≠ '\r' ∧ c ≠ '\n') ∧ ending ∈ lineEndings ∧
    ∃ more, info ++ ending = f.language ++ more ∧ (∀ c ∈ f.language, isLanguageChar c = true) ∧
      ∀ c ∈ more.head?, isLanguageChar c = false

/-- A run of characters is what `takeWhile` finds if the next character breaks it off. -/
theorem takeWhile_append_eq {p : Char → Bool} {s t : Text} (hs : ∀ c ∈ s, p c = true)
    (ht : ∀ c ∈ t.head?, p c = false) : (s ++ t).takeWhile p = s ∧ (s ++ t).dropWhile p = t := by
  rw [List.takeWhile_append_of_pos hs, List.dropWhile_append_of_pos hs]
  cases t with
  | nil => simp
  | cons c t =>
    have hc : ¬ p c = true := by simp [ht c rfl]
    rw [List.takeWhile_cons_of_neg hc, List.dropWhile_cons_of_neg hc, List.append_nil]
    exact ⟨rfl, rfl⟩

theorem head?_dropWhile_false (p : Char → Bool) (t : Text) :
    ∀ c ∈ (t.dropWhile p).head?, p c = false := by
  intro c hc
  have h := List.head?_dropWhile_not p t
  rw [Option.mem_def.mp hc] at h
  simpa using h

theorem head?_lineEnding {ending : Text} (h : ending ∈ lineEndings) :
    ∀ c ∈ ending.head?, isInLine c = false := by
  intro c hc
  simp only [lineEndings, List.mem_cons, List.not_mem_nil, or_false] at h
  rcases h with rfl | rfl <;> (cases hc; decide)

theorem isWhole_lineEnding {ending : Text} (h : ending ∈ lineEndings) : Text.IsWhole ending := by
  simp only [lineEndings, List.mem_cons, List.not_mem_nil, or_false] at h
  rcases h with rfl | rfl
  · exact ⟨[], by simp, rfl⟩
  · exact ⟨['\r'], by decide, rfl⟩

/-- **`ofLine?` recognises exactly the opening fences.** -/
theorem ofLine?_eq_some_iff {f : Fence} {line : Text} : ofLine? line = some f ↔ f.Opens line := by
  constructor
  · intro h
    unfold ofLine? at h
    split at h
    · next info hinfo =>
      split at h
      · next hend =>
        injection h with h
        subst h
        have hline : line = Text.indent line ++ fenceMark ++ info := by
          rw [List.append_assoc, ← Text.eq_append_of_after? hinfo,
            Text.indent_append_dropIndent]
        -- Both runs are the longest ones, so that the next character breaks them off.
        refine ⟨info.takeWhile isInLine, info.dropWhile isInLine, ?_, isIndent_indent line, ?_,
          hend, info.dropWhile isLanguageChar, ?_, ?_, ?_⟩
        · rw [List.append_assoc _ (List.takeWhile _ _), List.takeWhile_append_dropWhile]
          exact hline
        · intro c hc
          exact isInLine_iff.mp (List.mem_takeWhile_imp hc)
        · rw [List.takeWhile_append_dropWhile, List.takeWhile_append_dropWhile]
        · intro c hc
          exact List.mem_takeWhile_imp hc
        · exact head?_dropWhile_false _ _
      · cases h
    · cases h
  · rintro ⟨info, ending, rfl, hi, hinfo, hend, more, hmore, hlang, hnext⟩
    rw [List.append_assoc, List.append_assoc]
    have hdrop : (info ++ ending).dropWhile isInLine = ending :=
      (takeWhile_append_eq (fun c hc => isInLine_iff.mpr (hinfo c hc)) (head?_lineEnding hend)).2
    have htake : (info ++ ending).takeWhile isLanguageChar = f.language := by
      rw [hmore]
      exact (takeWhile_append_eq hlang hnext).1
    rw [ofLine?, dropIndent_append hi (head?_fenceMark_append _), Text.after?_append]
    simp only
    rw [hdrop, if_pos hend, htake, indent_append hi (head?_fenceMark_append _)]

theorem Opens.isIndent {f : Fence} {line : Text} (h : f.Opens line) : IsIndent f.indent := by
  obtain ⟨_, _, _, hi, _⟩ := h
  exact hi

/-- A line opens at most one fence. -/
theorem Opens.unique {f g : Fence} {line : Text} (hf : f.Opens line) (hg : g.Opens line) :
    f = g := by
  rw [← ofLine?_eq_some_iff] at hf hg
  rw [hf] at hg
  exact Option.some.inj hg

/-- An opening fence is a whole line. -/
theorem Opens.isWhole {f : Fence} {line : Text} (h : f.Opens line) : Text.IsWhole line := by
  obtain ⟨info, ending, rfl, hi, hinfo, hend, -⟩ := h
  refine (isWhole_lineEnding hend).append_left ?_
  simp only [List.mem_append, not_or]
  exact ⟨⟨hi.lf_notMem, by decide⟩, fun h => (hinfo _ h).2 rfl⟩

end Fence

/-! ### Closing fences -/

/-- The ways in which a line can end, at the end of a text too. -/
def closingEndings : List Text := [[], ['\r']] ++ lineEndings

/-- The shape of a closing fence for an indentation: the indentation, three backticks, tabs and
    spaces, an optional CR, and a line feed or the end of the text. -/
def Closes (indent line : Text) : Prop :=
  ∃ blanks ending, line = indent ++ fenceMark ++ blanks ++ ending ∧ IsIndent blanks ∧
    ending ∈ closingEndings

theorem head?_closingEnding {ending : Text} (h : ending ∈ closingEndings) :
    ∀ c ∈ ending.head?, isTabOrSpace c = false := by
  intro c hc
  simp only [closingEndings, lineEndings, List.mem_append, List.mem_cons, List.not_mem_nil,
    or_false] at h
  rcases h with (rfl | rfl) | (rfl | rfl)
  · cases hc
  all_goals (cases hc; decide)

/-- **`closesIndent` recognises exactly the closing fences.** -/
theorem closesIndent_iff {indent line : Text} :
    closesIndent indent line = true ↔ Closes indent line := by
  constructor
  · intro h
    unfold closesIndent at h
    split at h
    · next rest hrest =>
      refine ⟨Text.indent rest, Text.dropIndent rest, ?_, isIndent_indent rest, ?_⟩
      · rw [List.append_assoc _ (Text.indent rest), Text.indent_append_dropIndent]
        exact Text.eq_append_of_after? hrest
      · exact of_decide_eq_true h
    · cases h
  · rintro ⟨blanks, ending, rfl, hb, hend⟩
    rw [closesIndent, List.append_assoc, Text.after?_append]
    simp only
    rw [dropIndent_append hb (head?_closingEnding hend)]
    exact decide_eq_true hend

instance (indent line : Text) : Decidable (Closes indent line) :=
  decidable_of_iff _ closesIndent_iff

theorem Fence.isClosedBy_iff {f : Fence} {line : Text} :
    f.isClosedBy line = true ↔ Closes f.indent line := closesIndent_iff

/-- The characters of a closing fence, but for its ending, stand on one line. -/
theorem IsIndent.lf_notMem_fence {i blanks : Text} (hi : IsIndent i) (hb : IsIndent blanks) :
    '\n' ∉ i ++ fenceMark ++ blanks := by
  simp only [List.mem_append, not_or]
  exact ⟨⟨hi.lf_notMem, by decide⟩, hb.lf_notMem⟩

theorem IsIndent.cr_notMem_fence {i blanks : Text} (hi : IsIndent i) (hb : IsIndent blanks) :
    '\r' ∉ i ++ fenceMark ++ blanks := by
  simp only [List.mem_append, not_or]
  exact ⟨⟨hi.cr_notMem, by decide⟩, hb.cr_notMem⟩

theorem Closes.ne_nil {indent line : Text} (h : Closes indent line) : line ≠ [] := by
  obtain ⟨blanks, ending, rfl, -⟩ := h
  simp [fenceMark]

/-- A closing fence is one line. -/
theorem lines_of_closes {i line : Text} (hi : IsIndent i) (h : Closes i line) :
    Text.lines line = [line] := by
  obtain ⟨blanks, ending, rfl, hb, he⟩ := h
  have hbody := hi.lf_notMem_fence hb
  have hne : i ++ fenceMark ++ blanks ≠ [] := by simp [fenceMark]
  simp only [closingEndings, lineEndings, List.mem_append, List.mem_cons, List.not_mem_nil,
    or_false] at he
  rcases he with (rfl | rfl) | (rfl | rfl)
  · rw [List.append_nil]
    exact Text.lines_isLast ⟨hne, hbody⟩
  · exact Text.lines_isLast ⟨by simp, by simpa using hbody⟩
  · exact Text.lines_append_lf hbody []
  · have hbody' : '\n' ∉ i ++ fenceMark ++ blanks ++ ['\r'] := by simpa using hbody
    have h := Text.lines_append_lf hbody' []
    simpa [Text.lines] using h

/-! ### What both kinds have in common -/

/-- Backticks behind tabs and spaces. -/
def BeginsFence (line : Text) : Prop := fenceMark <+: Text.dropIndent line

instance (line : Text) : Decidable (BeginsFence line) :=
  inferInstanceAs (Decidable (fenceMark <+: Text.dropIndent line))

theorem Fence.Opens.beginsFence {f : Fence} {line : Text} (h : f.Opens line) :
    BeginsFence line := by
  obtain ⟨info, ending, rfl, hi, -⟩ := h
  rw [BeginsFence, List.append_assoc, List.append_assoc,
    dropIndent_append hi (head?_fenceMark_append _)]
  exact List.prefix_append _ _

theorem Closes.beginsFence {indent line : Text} (hi : IsIndent indent) (h : Closes indent line) :
    BeginsFence line := by
  obtain ⟨blanks, ending, rfl, -⟩ := h
  rw [BeginsFence, List.append_assoc, List.append_assoc,
    dropIndent_append hi (head?_fenceMark_append _)]
  exact List.prefix_append _ _

end FenceSync
