import FenceSync.Proofs.Comments
import FenceSync.Proofs.Tally

namespace FenceSync

/-!
# Texts with CR LF in the place of LF

`Text.crlf` puts CR LF in the place of every line feed.  The operations on texts treat the two
newlines alike, so that they commute with it.

* `Text.lines_crlf` and `Text.splitOn_crlf` cut a text, and `Text.occurrences_crlf` counts.
* `Text.dropWhile_crlf` and `Text.takeWhile_crlf` hold for all kinds of characters that contain both
  parts of a newline or neither.
* `Text.IsLine` is a line without CR, with its line feed or without.
-/

namespace Text

/-- The text with CR LF in the place of LF. -/
def crlf (t : Text) : Text := t.flatMap fun c => if c = '\n' then ['\r', '\n'] else [c]

@[simp] theorem crlf_nil : crlf [] = [] := rfl

@[simp] theorem crlf_lf (t : Text) : crlf ('\n' :: t) = '\r' :: '\n' :: crlf t := rfl

theorem crlf_cons {c : Char} (h : c ≠ '\n') (t : Text) : crlf (c :: t) = c :: crlf t := by
  rw [crlf, List.flatMap_cons, if_neg h]
  rfl

@[simp] theorem crlf_append (s t : Text) : crlf (s ++ t) = crlf s ++ crlf t :=
  List.flatMap_append

theorem crlf_flatten (ls : List Text) : crlf ls.flatten = (ls.map crlf).flatten := by
  induction ls with
  | nil => rfl
  | cons l ls ih => rw [List.flatten_cons, crlf_append, ih, List.map_cons, List.flatten_cons]

/-- Without a line feed nothing changes. -/
theorem crlf_eq_self {t : Text} (h : '\n' ∉ t) : crlf t = t := by
  induction t with
  | nil => rfl
  | cons c t ih =>
    rw [List.mem_cons, not_or] at h
    rw [crlf_cons (Ne.symm h.1), ih h.2]

theorem lf_mem_crlf {t : Text} : '\n' ∈ crlf t ↔ '\n' ∈ t := by
  induction t with
  | nil => rfl
  | cons c t ih =>
    by_cases hc : c = '\n'
    · simp [hc]
    · rw [crlf_cons hc, List.mem_cons, List.mem_cons, ih]

/-- No line feed stands at the start: it has a CR in front. -/
theorem head?_crlf (t : Text) : (crlf t).head? ≠ some '\n' := by
  cases t with
  | nil => simp
  | cons c t =>
    by_cases hc : c = '\n'
    · simp [hc]
    · rw [crlf_cons hc]
      simpa using hc

/-- The text can be told from its form with CR LF. -/
theorem crlf_injective {s t : Text} (h : crlf s = crlf t) : s = t := by
  induction s generalizing t with
  | nil =>
    cases t with
    | nil => rfl
    | cons d t => by_cases hd : d = '\n' <;> simp [hd, crlf_cons] at h
  | cons c s ih =>
    cases t with
    | nil => by_cases hc : c = '\n' <;> simp [hc, crlf_cons] at h
    | cons d t =>
      -- A CR LF stands for a line feed only: no character is mapped to LF alone.
      by_cases hc : c = '\n' <;> by_cases hd : d = '\n'
      · rw [hc, hd, crlf_lf, crlf_lf] at h
        injection h with _ h
        injection h with _ h
        rw [hc, hd, ih h]
      · rw [hc, crlf_lf, crlf_cons hd] at h
        injection h with _ h
        exact absurd (by rw [← h]; rfl) (head?_crlf t)
      · rw [hd, crlf_lf, crlf_cons hc] at h
        injection h with _ h
        exact absurd (by rw [h]; rfl) (head?_crlf s)
      · rw [crlf_cons hc, crlf_cons hd] at h
        injection h with hcd h
        rw [hcd, ih h]

/-! ### Cutting and counting -/

theorem map_crlf_consLine {c : Char} (h : c ≠ '\n') (ls : List Text) :
    (consLine c ls).map crlf = consLine c (ls.map crlf) := by
  cases ls with
  | nil => simp [consLine, crlf_cons h]
  | cons l ls => simp [consLine, crlf_cons h]

theorem lines_crlf (t : Text) : lines (crlf t) = (lines t).map crlf := by
  induction t with
  | nil => rfl
  | cons c t ih =>
    by_cases hc : c = '\n'
    · rw [hc, crlf_lf, lines, if_neg (by decide), lines, if_pos rfl, ih, lines, if_pos rfl]
      rfl
    · rw [crlf_cons hc, lines, if_neg hc, lines, if_neg hc, ih, map_crlf_consLine hc]

/-- CR LF stands nowhere but where LF stood. -/
theorem not_prefix_cons_crlf (c : Char) (t : Text) :
    ¬ Newline.crlf.text <+: c :: crlf t := by
  rintro ⟨u, hu⟩
  injection hu with _ hu
  exact absurd (by rw [← hu]; rfl) (head?_crlf t)

theorem splitOn_crlf (t : Text) :
    splitOn Newline.crlf.text (crlf t) = splitOn Newline.lf.text t := by
  induction t with
  | nil => rfl
  | cons c t ih =>
    by_cases hc : c = '\n'
    · have hlf := splitOn_newline_append .lf t
      have hcrlf := splitOn_newline_append .crlf (crlf t)
      rw [ih] at hcrlf
      rw [hc]
      exact hcrlf.trans hlf.symm
    · have hlf : ¬ Newline.lf.text <+: c :: t := by
        simpa [Newline.text, List.cons_prefix_cons] using Ne.symm hc
      rw [crlf_cons hc, splitOn_cons .crlf (not_prefix_cons_crlf c t), splitOn_cons .lf hlf, ih]

theorem occurrences_crlf (t : Text) :
    occurrences Newline.crlf.text (crlf t) = occurrences Newline.lf.text t := by
  induction t with
  | nil => rfl
  | cons c t ih =>
    by_cases hc : c = '\n'
    · rw [hc, crlf_lf, occurrences, occurrences, occurrences, ih]
      simp [Newline.text]
    · have hp : Newline.crlf.text.isPrefixOf (c :: crlf t) = false := by
        rw [Bool.eq_false_iff]
        exact fun h => not_prefix_cons_crlf c t (List.isPrefixOf_iff_prefix.mp h)
      rw [crlf_cons hc, occurrences, occurrences, ih, hp]
      simp [Newline.text, Ne.symm hc]

/-! ### Newlines -/

/-- All newlines are CR LF. -/
theorem tally_crlf_lf (after : Bool) (t : Text) :
    (tallyFrom '\r' '\n' after (crlf t)).lf = 0 := by
  induction t generalizing after with
  | nil => rfl
  | cons c t ih =>
    by_cases hc : c = '\n'
    · rw [hc, crlf_lf, tallyFrom_of_ne (by decide), decide_eq_true rfl, tallyFrom_paired]
      exact ih _
    · rw [crlf_cons hc, tallyFrom_of_ne hc]
      exact ih _

theorem newline_crlf {t : Text} (h : '\n' ∈ t) : newline (crlf t) = .crlf :=
  newline_eq_crlf (tally_crlf_lf false t) (lf_mem_crlf.mpr h)

/-- Without CR there is no CR LF. -/
theorem newline_eq_lf {t : Text} (h : '\r' ∉ t) : newline t = .lf := by
  have hcrlf : (tally t).crlf = 0 := by
    rw [tally]
    induction t with
    | nil => rfl
    | cons c t ih =>
      rw [List.mem_cons, not_or] at h
      have hflag : decide (c = '\r') = false := decide_eq_false (Ne.symm h.1)
      by_cases hc : c = '\n'
      · rw [hc, tallyFrom_bare]
        exact ih h.2
      · rw [tallyFrom_of_ne hc, hflag, ih h.2]
  rw [newline, Tally.newline, if_neg (by omega)]

/-! ### Runs of characters -/

section
variable {p : Char → Bool}

theorem dropWhile_crlf (h : p '\r' = p '\n') (t : Text) :
    (crlf t).dropWhile p = crlf (t.dropWhile p) := by
  induction t with
  | nil => rfl
  | cons c t ih =>
    by_cases hc : c = '\n'
    · subst hc
      cases hp : p '\n' with
      | true => simp [hp, h, ih]
      | false => simp [hp, h]
    · rw [crlf_cons hc]
      cases hp : p c with
      | true => simp [hp, ih]
      | false => simp [hp, crlf_cons hc]

theorem takeWhile_crlf (h : p '\r' = p '\n') (t : Text) :
    (crlf t).takeWhile p = crlf (t.takeWhile p) := by
  induction t with
  | nil => rfl
  | cons c t ih =>
    by_cases hc : c = '\n'
    · subst hc
      cases hp : p '\n' with
      | true => simp [hp, h, ih]
      | false => simp [hp, h]
    · rw [crlf_cons hc]
      cases hp : p c with
      | true => simp [hp, ih, crlf_cons hc]
      | false => simp [hp]

/-- A run that stops at newlines is the same in both forms. -/
theorem takeWhile_crlf_eq (hcr : p '\r' = false) (hlf : p '\n' = false) (t : Text) :
    (crlf t).takeWhile p = t.takeWhile p := by
  rw [takeWhile_crlf (hcr.trans hlf.symm)]
  refine crlf_eq_self fun h => ?_
  rw [List.mem_takeWhile_imp h] at hlf
  cases hlf

end

theorem dropIndent_crlf (t : Text) : dropIndent (crlf t) = crlf (dropIndent t) :=
  dropWhile_crlf rfl t

theorem indent_crlf (t : Text) : indent (crlf t) = indent t := takeWhile_crlf_eq rfl rfl t

theorem trimStart_crlf (t : Text) : trimStart (crlf t) = crlf (trimStart t) :=
  dropWhile_crlf rfl t

theorem isBlank_crlf (t : Text) : isBlank (crlf t) = isBlank t := by
  rw [isBlank, isBlank]
  induction t with
  | nil => rfl
  | cons c t ih =>
    by_cases hc : c = '\n'
    · rw [hc, crlf_lf, List.all_cons, List.all_cons, List.all_cons, ih]
      rfl
    · rw [crlf_cons hc, List.all_cons, List.all_cons, ih]

/-- Both forms end with the same character. -/
theorem getLast?_crlf (t : Text) : (crlf t).getLast? = t.getLast? := by
  rcases List.eq_nil_or_concat t with rfl | ⟨t, c, rfl⟩
  · rfl
  · by_cases hc : c = '\n'
    · simp [hc]
    · simp [crlf_cons hc]

theorem trimEnd_crlf (t : Text) : trimEnd (crlf t) = crlf (trimEnd t) := by
  obtain ⟨w, hw, ht⟩ := exists_eq_trimEnd t
  have hw' : IsSpaces (crlf w) := by
    rw [← isBlank_iff, isBlank_crlf, isBlank_iff]
    exact hw
  have hlast : ∀ c ∈ (crlf (trimEnd t)).getLast?, isSpace c = false := by
    rw [getLast?_crlf]
    exact getLast?_trimEnd t
  calc trimEnd (crlf t) = trimEnd (crlf (trimEnd t) ++ crlf w) := by rw [← crlf_append, ← ht]
    _ = trimEnd (crlf (trimEnd t)) := trimEnd_append hw'
    _ = crlf (trimEnd t) := trimEnd_eq_self hlast

/-- Openings without newlines are found in both forms. -/
theorem after?_crlf {opening : Text} (h : ∀ c ∈ opening, c ≠ '\r' ∧ c ≠ '\n') (t : Text) :
    after? opening (crlf t) = (after? opening t).map crlf := by
  induction opening generalizing t with
  | nil => rfl
  | cons c opening ih =>
    have hc := h c (by simp)
    cases t with
    | nil => rfl
    | cons d t =>
      by_cases hd : d = '\n'
      · rw [hd, crlf_lf, after?, if_neg hc.1, after?, if_neg hc.2]
        rfl
      · rw [crlf_cons hd, after?, after?]
        by_cases hcd : c = d
        · rw [if_pos hcd, if_pos hcd, ih fun x hx => h x (by simp [hx])]
        · rw [if_neg hcd, if_neg hcd]
          rfl

/-- Lines are joined with either newline. -/
theorem joinWith_crlf {ls : List Text} (h : ∀ l ∈ ls, '\n' ∉ l) :
    joinWith Newline.crlf.text ls = crlf (joinWith Newline.lf.text ls) := by
  induction ls with
  | nil => rfl
  | cons l ls ih =>
    have hl := crlf_eq_self (h l (by simp))
    cases ls with
    | nil => exact hl.symm
    | cons l' ls =>
      have hnl : crlf Newline.lf.text = Newline.crlf.text := rfl
      rw [joinWith_cons_cons, joinWith_cons_cons, crlf_append, crlf_append, hl, hnl,
        ih fun x hx => h x (by simp [List.mem_cons.mp hx])]

theorem joinLines_crlf {ps : List Text} (h : ∀ p ∈ ps, '\n' ∉ p) :
    joinLines .crlf ps = crlf (joinLines .lf ps) := by
  induction ps with
  | nil => rfl
  | cons p ps ih =>
    have hnl : crlf Newline.lf.text = Newline.crlf.text := rfl
    rw [joinLines_cons, joinLines_cons, crlf_append, crlf_append, crlf_eq_self (h p (by simp)), hnl,
      ih fun q hq => h q (by simp [hq])]

/-! ### Lines -/

/-- A line without CR, with its line feed or without. -/
def IsLine (line : Text) : Prop :=
  ∃ body, '\n' ∉ body ∧ '\r' ∉ body ∧ (line = body ∨ line = body ++ ['\n'])

theorem isLine_of_mem_lines {t line : Text} (ht : '\r' ∉ t) (h : line ∈ lines t) :
    IsLine line := by
  have hcr : '\r' ∉ line := by
    intro hc
    rw [← flatten_lines t] at ht
    exact ht (List.mem_flatten.mpr ⟨line, h, hc⟩)
  rcases isWhole_or_isLast h with ⟨body, hbody, rfl⟩ | ⟨-, hbody⟩
  · exact ⟨body, hbody, fun hc => hcr (by simp [hc]), .inr rfl⟩
  · exact ⟨line, hbody, hcr, .inl rfl⟩

theorem IsLine.cr_notMem {line : Text} (h : IsLine line) : '\r' ∉ line := by
  obtain ⟨body, -, hcr, rfl | rfl⟩ := h
  · exact hcr
  · simpa using hcr

/-- What is left of a line is a line. -/
theorem IsLine.of_append {s line : Text} (h : IsLine (s ++ line)) : IsLine line := by
  obtain ⟨body, hlf, hcr, heq | heq⟩ := h
  · rw [← heq, List.mem_append, not_or] at hlf hcr
    exact ⟨line, hlf.2, hcr.2, .inl rfl⟩
  · rcases List.eq_nil_or_concat line with rfl | ⟨line, c, rfl⟩
    · exact ⟨[], by simp, by simp, .inl rfl⟩
    · rw [List.concat_eq_append, ← List.append_assoc] at heq
      obtain ⟨heq, hc⟩ := List.append_inj' heq rfl
      rw [← heq, List.mem_append, not_or] at hlf hcr
      exact ⟨line, hlf.2, hcr.2, .inr (by rw [List.concat_eq_append, hc])⟩

end Text

end FenceSync
