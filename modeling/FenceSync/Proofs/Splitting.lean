import FenceSync.Newline
import FenceSync.Text.Split
import FenceSync.Proofs.Lines

namespace FenceSync

/-!
# Cutting at newlines

`Text.splitOn` at one of the two newlines.  Neither newline overlaps itself, so that a text can be
cut at any of its newlines without a look at the rest.

* `Text.splitOn_induction` is induction along the cuts.
* `Text.splitOn_append_newline` cuts at a newline in the middle, and `Text.joinWith_splitOn` puts the
  pieces together again; `Text.length_splitOn` counts them.
* `Text.IsPiece` is a text without a newline, and `Text.eq_splitOn_iff` says that cutting yields the
  only pieces that make up the text.
* `Text.joinLines` ends each of several pieces with a newline; `Text.splitOn_joinLines` and
  `Text.lines_joinLines` take the result apart.
-/

namespace Text

variable (nl : Newline)

/-! ### One cut -/

@[simp] theorem splitOn_nil : splitOn nl.text [] = [[]] := by
  cases nl <;> rfl

theorem splitOn_newline_append (t : Text) :
    splitOn nl.text (nl.text ++ t) = [] :: splitOn nl.text t := by
  cases nl <;> simp [splitOn, Newline.text, piecesFrom]

theorem splitOn_cons {c : Char} {t : Text} (h : ¬ nl.text <+: c :: t) :
    splitOn nl.text (c :: t) = consLine c (splitOn nl.text t) := by
  have h' : nl.text.isPrefixOf (c :: t) = false := by
    rw [Bool.eq_false_iff]
    exact fun hp => h (List.isPrefixOf_iff_prefix.mp hp)
  cases nl <;> simp_all [splitOn, Newline.text, piecesFrom]

/-- **Induction along the cuts of a text.** -/
theorem splitOn_induction {motive : Text → Prop} (nil : motive [])
    (newline : ∀ t, motive t → motive (nl.text ++ t))
    (char : ∀ c t, ¬ nl.text <+: c :: t → motive t → motive (c :: t)) (t : Text) : motive t := by
  induction hn : t.length using Nat.strongRecOn generalizing t with
  | ind n ih =>
    cases t with
    | nil => exact nil
    | cons c t =>
      by_cases hp : nl.text <+: c :: t
      · obtain ⟨u, hu⟩ := hp
        have hlen : u.length < n := by
          have hne : 0 < nl.text.length := List.length_pos_iff.mpr nl.text_ne_nil
          have := congrArg List.length hu
          rw [List.length_append] at this
          omega
        rw [← hu]
        exact newline u (ih u.length hlen u rfl)
      · refine char c t hp (ih t.length ?_ t rfl)
        rw [← hn, List.length_cons]
        exact Nat.lt_succ_self _

theorem joinWith_nil_cons {ps : List Text} (h : ps ≠ []) (sep : Text) :
    joinWith sep ([] :: ps) = sep ++ joinWith sep ps := by
  obtain ⟨p, ps, rfl⟩ := List.exists_cons_of_ne_nil h
  rfl

theorem joinWith_consLine {ps : List Text} (h : ps ≠ []) (sep : Text) (c : Char) :
    joinWith sep (consLine c ps) = c :: joinWith sep ps := by
  obtain ⟨p, ps, rfl⟩ := List.exists_cons_of_ne_nil h
  cases ps <;> rfl

/-- Cutting at the newlines loses nothing. -/
theorem joinWith_splitOn (t : Text) : joinWith nl.text (splitOn nl.text t) = t := by
  induction t using splitOn_induction nl with
  | nil => rw [splitOn_nil]; rfl
  | newline t ih => rw [splitOn_newline_append, joinWith_nil_cons (splitOn_ne_nil _ _), ih]
  | char c t h ih => rw [splitOn_cons nl h, joinWith_consLine (splitOn_ne_nil _ _), ih]

theorem occurrences_newline_append (t : Text) :
    occurrences nl.text (nl.text ++ t) = 1 + occurrences nl.text t := by
  cases nl <;> simp [Newline.text, occurrences]

theorem occurrences_cons {c : Char} {t : Text} (h : ¬ nl.text <+: c :: t) :
    occurrences nl.text (c :: t) = occurrences nl.text t := by
  rw [occurrences, if_neg (by rwa [List.isPrefixOf_iff_prefix]), Nat.zero_add]

theorem length_consLine {ps : List Text} (h : ps ≠ []) (c : Char) :
    (consLine c ps).length = ps.length := by
  obtain ⟨p, ps, rfl⟩ := List.exists_cons_of_ne_nil h
  rfl

/-- There is one piece more than there are newlines. -/
theorem length_splitOn (t : Text) : (splitOn nl.text t).length = 1 + occurrences nl.text t := by
  induction t using splitOn_induction nl with
  | nil => rw [splitOn_nil]; rfl
  | newline t ih =>
    rw [splitOn_newline_append, List.length_cons, ih, occurrences_newline_append, Nat.add_comm]
  | char c t h ih =>
    rw [splitOn_cons nl h, length_consLine (splitOn_ne_nil _ _), ih, occurrences_cons nl h]

/-- The characters of joined pieces are those of the pieces and of the newlines between them. -/
theorem mem_or_mem_of_mem_joinWith {sep : Text} {ps : List Text} {c : Char}
    (h : c ∈ joinWith sep ps) : c ∈ sep ∨ ∃ p ∈ ps, c ∈ p := by
  induction ps with
  | nil => cases h
  | cons p ps ih =>
    cases ps with
    | nil => exact .inr ⟨p, by simp, h⟩
    | cons q ps =>
      rw [joinWith_cons_cons, List.mem_append, List.mem_append] at h
      rcases h with (h | h) | h
      · exact .inr ⟨p, by simp, h⟩
      · exact .inl h
      · exact (ih h).imp id fun ⟨r, hr, hc⟩ => ⟨r, List.mem_cons_of_mem _ hr, hc⟩

/-- The characters of a piece come from the text that was cut. -/
theorem mem_of_mem_splitOn {t p : Text} (h : p ∈ splitOn nl.text t) {c : Char} (hc : c ∈ p) :
    c ∈ t := by
  rw [← joinWith_splitOn nl t]
  generalize splitOn nl.text t = ps at h
  induction ps with
  | nil => cases h
  | cons q ps ih =>
    cases ps with
    | nil =>
      rw [List.mem_singleton] at h
      exact h ▸ hc
    | cons r ps =>
      rw [joinWith_cons_cons, List.mem_append, List.mem_append]
      rcases List.mem_cons.mp h with rfl | h
      · exact .inl (.inl hc)
      · exact .inr (ih h)

/-- A newline does not straddle the place where another one begins. -/
theorem not_prefix_append_newline {c : Char} {s : Text} (h : ¬ nl.text <+: c :: s) (t : Text) :
    ¬ nl.text <+: c :: (s ++ nl.text ++ t) := by
  cases nl with
  | lf => simpa [Newline.text] using h
  | crlf =>
    intro hp
    cases s with
    | nil => simp [Newline.text] at hp
    | cons d s => exact h (by simpa [Newline.text] using hp)

theorem consLine_append {ps : List Text} (h : ps ≠ []) (c : Char) (qs : List Text) :
    consLine c (ps ++ qs) = consLine c ps ++ qs := by
  obtain ⟨p, ps, rfl⟩ := List.exists_cons_of_ne_nil h
  rfl

/-- **A text can be cut at any of its newlines.** -/
theorem splitOn_append_newline (s t : Text) :
    splitOn nl.text (s ++ nl.text ++ t) = splitOn nl.text s ++ splitOn nl.text t := by
  induction s using splitOn_induction nl with
  | nil => rw [List.nil_append, splitOn_newline_append, splitOn_nil]; rfl
  | newline s ih =>
    rw [List.append_assoc, List.append_assoc, splitOn_newline_append, splitOn_newline_append,
      ← List.append_assoc, ih, List.cons_append]
  | char c s h ih =>
    rw [List.cons_append, List.cons_append,
      splitOn_cons nl (not_prefix_append_newline nl h t), splitOn_cons nl h, ih,
      consLine_append (splitOn_ne_nil _ _)]

/-! ### Pieces -/

/-- A text that is not cut. -/
def IsPiece (p : Text) : Prop := splitOn nl.text p = [p]

theorem isPiece_nil : IsPiece nl [] := splitOn_nil nl

/-- Without a line feed there is no cut. -/
theorem isPiece_of_lf_notMem {p : Text} (h : '\n' ∉ p) : IsPiece nl p := by
  induction p with
  | nil => exact isPiece_nil nl
  | cons c p ih =>
    rw [List.mem_cons, not_or] at h
    have hp : ¬ nl.text <+: c :: p := by
      intro hp
      have hlf : '\n' ∈ nl.text := by cases nl <;> simp [Newline.text]
      rcases List.mem_cons.mp (hp.subset hlf) with hc | hc
      · exact h.1 hc
      · exact h.2 hc
    rw [IsPiece, splitOn_cons nl hp, ih h.2]
    rfl

/-- What a text is cut into is not cut any further. -/
theorem isPiece_of_mem_splitOn {t p : Text} (h : p ∈ splitOn nl.text t) : IsPiece nl p := by
  induction t using splitOn_induction nl generalizing p with
  | nil =>
    rw [splitOn_nil, List.mem_singleton] at h
    exact h ▸ isPiece_nil nl
  | newline t ih =>
    rw [splitOn_newline_append] at h
    rcases List.mem_cons.mp h with rfl | h
    · exact isPiece_nil nl
    · exact ih h
  | char c t hc ih =>
    obtain ⟨q, qs, hqs⟩ := List.exists_cons_of_ne_nil (splitOn_ne_nil nl.text t)
    rw [splitOn_cons nl hc, hqs, consLine] at h
    rcases List.mem_cons.mp h with rfl | h
    · have hq : IsPiece nl q := ih (by rw [hqs]; simp)
      have hbegin : c :: q <+: c :: t := by
        rw [List.prefix_cons_inj, ← joinWith_splitOn nl t, hqs]
        cases qs with
        | nil => exact List.prefix_rfl
        | cons r qs =>
          rw [joinWith_cons_cons, List.append_assoc]
          exact List.prefix_append _ _
      rw [IsPiece, splitOn_cons nl fun hp => hc (hp.trans hbegin), hq]
      rfl
    · exact ih (by rw [hqs]; exact List.mem_cons_of_mem _ h)

/-- A newline in a text is a place to cut it. -/
theorem not_isPiece_append_newline (a b : Text) :
    ¬ IsPiece nl (a ++ nl.text ++ b) := by
  intro h
  have hcut := splitOn_append_newline nl a b
  rw [show splitOn nl.text (a ++ nl.text ++ b) = _ from h] at hcut
  have hlen := congrArg List.length hcut
  have ha := List.length_pos_iff.mpr (splitOn_ne_nil nl.text a)
  have hb := List.length_pos_iff.mpr (splitOn_ne_nil nl.text b)
  rw [List.length_append] at hlen
  simp only [List.length_cons, List.length_nil] at hlen
  omega

/-- **Pieces are the texts in which no newline stands.** -/
theorem isPiece_iff {p : Text} : IsPiece nl p ↔ ¬ nl.text <:+: p := by
  constructor
  · rintro hp ⟨a, b, rfl⟩
    exact not_isPiece_append_newline nl a b hp
  · intro h
    induction p with
    | nil => exact isPiece_nil nl
    | cons c p ih =>
      have hp : IsPiece nl p := ih fun hinfix => h (List.infix_cons hinfix)
      rw [IsPiece, splitOn_cons nl fun hprefix => h hprefix.isInfix, hp]
      rfl

/-- Pieces that are put together with newlines are cut apart again, but for no piece at all. -/
theorem splitOn_joinWith {ps : List Text} (hne : ps ≠ []) (h : ∀ p ∈ ps, IsPiece nl p) :
    splitOn nl.text (joinWith nl.text ps) = ps := by
  induction ps with
  | nil => exact absurd rfl hne
  | cons p ps ih =>
    obtain ⟨hp, hps⟩ := List.forall_mem_cons.mp h
    have hcut : splitOn nl.text p = [p] := hp
    cases ps with
    | nil => exact hcut
    | cons q ps =>
      rw [joinWith_cons_cons, splitOn_append_newline, hcut, ih (by simp) hps]
      rfl

/-- **Cutting is determined by what it yields**: pieces in which no newline stands, at least one of
    them, that make up the text when newlines are put between them. -/
theorem eq_splitOn_iff {t : Text} {ps : List Text} :
    ps = splitOn nl.text t ↔
      ps ≠ [] ∧ joinWith nl.text ps = t ∧ ∀ p ∈ ps, ¬ nl.text <:+: p := by
  constructor
  · rintro rfl
    exact ⟨splitOn_ne_nil _ _, joinWith_splitOn nl t, fun p hp =>
      (isPiece_iff nl).mp (isPiece_of_mem_splitOn nl hp)⟩
  · rintro ⟨hne, rfl, hps⟩
    exact (splitOn_joinWith nl hne fun p hp => (isPiece_iff nl).mpr (hps p hp)).symm

/-- Pieces, each ended by a newline. -/
def joinLines (ps : List Text) : Text := ps.flatMap (· ++ nl.text)

@[simp] theorem joinLines_nil : joinLines nl [] = [] := rfl

@[simp] theorem joinLines_cons (p : Text) (ps : List Text) :
    joinLines nl (p :: ps) = p ++ nl.text ++ joinLines nl ps := by
  rw [joinLines, List.flatMap_cons, joinLines]

@[simp] theorem joinLines_append (ps qs : List Text) :
    joinLines nl (ps ++ qs) = joinLines nl ps ++ joinLines nl qs := List.flatMap_append

theorem joinLines_eq_flatten (ps : List Text) :
    joinLines nl ps = (ps.map (· ++ nl.text)).flatten := List.flatMap_def

theorem splitOn_joinLines_append {ps : List Text} (h : ∀ p ∈ ps, IsPiece nl p) (t : Text) :
    splitOn nl.text (joinLines nl ps ++ t) = ps ++ splitOn nl.text t := by
  induction ps with
  | nil => rfl
  | cons p ps ih =>
    have hp : splitOn nl.text p = [p] := h p (by simp)
    rw [joinLines_cons, List.append_assoc, splitOn_append_newline, hp,
      ih fun q hq => h q (by simp [hq])]
    rfl

/-- Pieces are read back, with an empty one behind the last newline. -/
theorem splitOn_joinLines {ps : List Text} (h : ∀ p ∈ ps, IsPiece nl p) :
    splitOn nl.text (joinLines nl ps) = ps ++ [[]] := by
  have h' := splitOn_joinLines_append nl h []
  rwa [List.append_nil, splitOn_nil] at h'

/-- All pieces but the last one are ended by a newline. -/
theorem joinWith_concat (ps : List Text) (last : Text) :
    joinWith nl.text (ps ++ [last]) = joinLines nl ps ++ last := by
  induction ps with
  | nil => rfl
  | cons p ps ih =>
    rw [joinLines_cons, List.append_assoc, ← ih]
    cases ps <;> rfl

/-- An empty last piece stands for a newline at the end. -/
theorem joinWith_append_nil (ps : List Text) :
    joinWith nl.text (ps ++ [[]]) = joinLines nl ps := by
  rw [joinWith_concat, List.append_nil]

/-- A text that ends with a newline is made of pieces. -/
theorem joinLines_splitOn (t : Text) : joinLines nl (splitOn nl.text t) = t ++ nl.text := by
  have hcut : splitOn nl.text (t ++ nl.text) = splitOn nl.text t ++ [[]] := by
    have h := splitOn_append_newline nl t []
    rwa [List.append_nil, splitOn_nil] at h
  rw [← joinWith_append_nil, ← hcut, joinWith_splitOn]

/-! ### Pieces and lines -/

/-- A text on one line is ended by a newline. -/
theorem isWhole_append_newline {p : Text} (h : '\n' ∉ p) : IsWhole (p ++ nl.text) := by
  cases nl with
  | lf => exact isWhole_append_lf h
  | crlf => exact ⟨p ++ ['\r'], by simpa using h, by simp [Newline.text]⟩

/-- A text that ends with a newline is made of whole lines. -/
theorem exists_whole_append_newline (s : Text) :
    ∃ ls : List Text, (∀ line ∈ ls, IsWhole line) ∧ s ++ nl.text = ls.flatten := by
  obtain ⟨u, hu⟩ : ∃ u, nl.text = u ++ ['\n'] := by
    cases nl with
    | lf => exact ⟨[], rfl⟩
    | crlf => exact ⟨['\r'], rfl⟩
  obtain ⟨ls, last, hls, hlast, hs, -⟩ := exists_whole_append (s ++ u)
  refine ⟨ls ++ [last ++ ['\n']], ?_, ?_⟩
  · intro line hline
    rcases List.mem_append.mp hline with hline | hline
    · exact hls line hline
    · rw [List.mem_singleton] at hline
      exact hline ▸ isWhole_append_lf hlast
  · rw [hu, ← List.append_assoc, hs]
    simp

/-- A text behind a newline is cut into lines on its own. -/
theorem lines_append_newline (s t : Text) :
    lines (s ++ nl.text ++ t) = lines (s ++ nl.text) ++ lines t := by
  obtain ⟨ls, hls, hflat⟩ := exists_whole_append_newline nl s
  rw [hflat, lines_flatten_append hls, lines_flatten hls]

/-- The lines of pieces are those of each of them. -/
theorem lines_joinLines (ps : List Text) :
    lines (joinLines nl ps) = ps.flatMap fun p => lines (p ++ nl.text) := by
  induction ps with
  | nil => rfl
  | cons p ps ih => rw [joinLines_cons, lines_append_newline, ih, List.flatMap_cons]

/-- Pieces that are ended by a newline are made of whole lines. -/
theorem isWhole_of_mem_lines_joinLines {ps : List Text} {line : Text}
    (h : line ∈ lines (joinLines nl ps)) : IsWhole line := by
  rw [lines_joinLines, List.mem_flatMap] at h
  obtain ⟨p, -, hline⟩ := h
  obtain ⟨ls, hls, hflat⟩ := exists_whole_append_newline nl p
  rw [hflat, lines_flatten hls] at hline
  exact hls line hline

/-- Nothing stands behind the last newline. -/
theorem endsLine_joinLines (ps : List Text) : EndsLine (joinLines nl ps) :=
  endsLine_of_lines fun _ h => isWhole_of_mem_lines_joinLines nl h

end Text

end FenceSync
