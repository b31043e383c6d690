import FenceSync.Comment
import FenceSync.Proofs.Splitting
import FenceSync.Proofs.Trimming

namespace FenceSync

/-!
# Comments that are written and found again

What a comment says is found again behind white space, and in front of anything on later lines.

* `CommentStyle.Says` are the texts that a style can say: not blank, on one line, and in markup one
  word without the end of a comment.
* `CommentStyle.first?_eq_bind`: the first line that is not blank decides on a comment without an end.
* `CommentStyle.says_of_first?`: whatever is found in a comment can be said in one.
* `CommentStyle.first?_render`: whatever can be said is found again, up to the white space around it.
* `CommentStyle.first?_render_round_trip` puts the two directions together.
-/

namespace CommentStyle

/-- One word without the end of a markup comment in it. -/
def IsWord (w : Text) : Prop := (∀ c ∈ w, isSpace c = false) ∧ ¬ ['-', '-', '>'] <:+: w

/-- The texts that a comment can say. -/
structure Says (style : CommentStyle) (text : Text) : Prop where
  notBlank : Text.isBlank text = false
  inLine : ∀ c ∈ text, c ≠ '\r' ∧ c ≠ '\n'
  word : style = .markup → IsWord (Text.trim text)

/-! ### Comments without an end -/

theorem startsNewline_iff {t : Text} : startsNewline t = true ↔ ∃ nl : Newline, nl.text <+: t := by
  constructor
  · intro h
    unfold startsNewline at h
    split at h
    · exact ⟨.lf, List.prefix_append ['\n'] _⟩
    · exact ⟨.crlf, List.prefix_append ['\r', '\n'] _⟩
    · cases h
  · rintro ⟨nl, t, rfl⟩
    cases nl <;> rfl

theorem takeWhile_inLine_append {r : Text} (hr : ∀ c ∈ r, c ≠ '\r' ∧ c ≠ '\n') (nl : Newline)
    (t : Text) :
    (r ++ nl.text ++ t).takeWhile (fun c => c ≠ '\r' && c ≠ '\n') = r ∧
      (r ++ nl.text ++ t).dropWhile (fun c => c ≠ '\r' && c ≠ '\n') = nl.text ++ t := by
  have hr' : ∀ c ∈ r, (decide (c ≠ '\r') && decide (c ≠ '\n')) = true := by
    intro c hc
    simp [hr c hc]
  rw [List.append_assoc, List.takeWhile_append_of_pos hr', List.dropWhile_append_of_pos hr']
  cases nl <;> simp [Newline.text]

/-- A line ends at its newline. -/
theorem restOfLine?_append {r : Text} (hr : ∀ c ∈ r, c ≠ '\r' ∧ c ≠ '\n') (nl : Newline)
    (t : Text) : restOfLine? (r ++ nl.text ++ t) = some r := by
  obtain ⟨htake, hdrop⟩ := takeWhile_inLine_append hr nl t
  rw [restOfLine?, htake, hdrop, if_pos (startsNewline_iff.mpr ⟨nl, List.prefix_append _ _⟩)]

theorem inLine_of_restOfLine? {t r : Text} (h : restOfLine? t = some r) :
    ∀ c ∈ r, c ≠ '\r' ∧ c ≠ '\n' := by
  unfold restOfLine? at h
  simp only at h
  split at h
  · injection h with h
    intro c hc
    rw [← h] at hc
    simpa using List.mem_takeWhile_imp hc
  · cases h

/-- There are no comments, or they have an end, or they have an opening only. -/
theorem cases_opening? (style : CommentStyle) :
    style = .none ∨ style = .markup ∨ ∃ opening, style.opening? = some opening := by
  cases style with
  | none => exact .inl rfl
  | markup => exact .inr (.inl rfl)
  | _ => exact .inr (.inr ⟨_, rfl⟩)

/-- The openings of comments hold no white space, and start no markup and no fence. -/
theorem opening?_spec {style : CommentStyle} {opening : Text} (h : style.opening? = some opening) :
    style ≠ .markup ∧ ∃ c t, opening = c :: t ∧ isSpace c = false ∧ c ≠ '\x60' ∧
      ∀ d ∈ opening, d ≠ '\r' ∧ d ≠ '\n' := by
  cases style <;> simp only [opening?, reduceCtorEq, Option.some.injEq] at h <;> subst h <;>
    exact ⟨by decide, _, _, rfl, by decide, by decide, inLine_of_all rfl⟩

theorem first?_of_opening? {style : CommentStyle} {opening : Text}
    (h : style.opening? = some opening) (code : Text) :
    first? style code = (Text.after? opening (Text.trimStart code)).bind restOfLine? := by
  have hne := (opening?_spec h).1
  cases style <;> first | exact absurd rfl hne | (simp only [first?, h]; rfl)

theorem render?_of_opening? {style : CommentStyle} {opening : Text}
    (h : style.opening? = some opening) (text : Text) :
    style.render? text = some (opening ++ ' ' :: Text.trim text) := by
  have hne := (opening?_spec h).1
  cases style <;> first | exact absurd rfl hne | (simp only [render?, h]; rfl)

/-! ### The first line that is not blank -/

/-- What follows the first line feed is not looked at. -/
theorem restOfLine?_append_lf (s t : Text) :
    restOfLine? (s ++ '\n' :: t) = restOfLine? (s ++ ['\n']) := by
  induction s with
  | nil => rfl
  | cons c s ih =>
    by_cases hc : isInLine c = true
    · have hcons : ∀ u, restOfLine? (c :: u) = (restOfLine? u).map (c :: ·) := by
        intro u
        obtain ⟨hcr, hlf⟩ := isInLine_iff.mp hc
        simp only [restOfLine?, ne_eq, hcr, hlf, not_false_eq_true, decide_true, Bool.and_self,
          List.dropWhile_cons_of_pos, List.takeWhile_cons_of_pos]
        split <;> rfl
      rw [List.cons_append, List.cons_append, hcons, hcons, ih]
    · rw [isInLine_iff, not_and_or, Decidable.not_not, Decidable.not_not] at hc
      rcases hc with rfl | rfl
      · -- Whether the line ends at a CR depends on the next character.
        have hcr : ∀ d u u', restOfLine? ('\r' :: d :: u) = restOfLine? ('\r' :: d :: u') := by
          intro d u u'
          by_cases hd : d = '\n'
          · rw [hd]
            rfl
          · simp [restOfLine?, startsNewline, hd]
        cases s with
        | nil => exact hcr _ _ _
        | cons d s => exact hcr _ _ _
      · rfl

/-- Behind a line that is not blank nothing else is looked at. -/
theorem first?_isWhole_append {style : CommentStyle} {opening : Text}
    (hopen : style.opening? = some opening) {line : Text} (hline : Text.IsWhole line)
    (hb : Text.isBlank line = false) (t : Text) :
    first? style (line ++ t) = first? style line := by
  obtain ⟨-, -, -, -, -, -, hin⟩ := opening?_spec hopen
  obtain ⟨body, -, rfl⟩ := hline
  have hbody : (body.dropWhile isSpace).isEmpty = false := by
    rw [Bool.eq_false_iff]
    intro hempty
    have hspaces := List.dropWhile_eq_nil_iff.mp (List.isEmpty_iff.mp hempty)
    rw [Text.isBlank, List.all_append, List.all_eq_true.mpr hspaces] at hb
    cases hb
  have hstart : ∀ u, Text.trimStart (body ++ '\n' :: u) = Text.trimStart body ++ '\n' :: u := by
    intro u
    rw [Text.trimStart, List.dropWhile_append, hbody, if_neg Bool.false_ne_true, Text.trimStart]
  have hfind : ∀ u, first? style (body ++ '\n' :: u) =
      (Text.after? opening (Text.trimStart body)).bind fun rest =>
        restOfLine? (rest ++ ['\n']) := by
    intro u
    have hlf : ∀ d ∈ ('\n' :: u).head?, d ∉ opening := by
      intro d hd hmem
      cases hd
      exact (hin _ hmem).2 rfl
    rw [first?_of_opening? hopen, hstart, Text.after?_append_right hlf,
      Option.bind_map]
    exact congrArg _ (funext fun rest => restOfLine?_append_lf rest u)
  rw [List.append_assoc]
  exact (hfind t).trans (hfind []).symm

/-- **The first line that is not blank decides** on the comment that opens a block. -/
theorem first?_eq_bind {style : CommentStyle} {opening : Text}
    (hopen : style.opening? = some opening) (code : Text) :
    first? style code =
      ((Text.lines code).find? fun line => !Text.isBlank line).bind (first? style) := by
  have hnil : first? style [] = Option.none := by
    obtain ⟨-, c, u, rfl, -⟩ := opening?_spec hopen
    rw [first?_of_opening? hopen]
    rfl
  have hblank : ∀ line t, Text.isBlank line = true → first? style (line ++ t) = first? style t := by
    intro line t hb
    rw [first?_of_opening? hopen, first?_of_opening? hopen,
      Text.trimStart_append (Text.isBlank_iff.mp hb)]
  induction code using Text.lines_induction with
  | nil => exact hnil
  | last line hlast =>
    rw [Text.lines_isLast hlast, List.find?_singleton]
    cases hb : Text.isBlank line with
    | true =>
      have hline := hblank line [] hb
      rw [List.append_nil, hnil] at hline
      exact hline
    | false => rfl
  | whole line t hline ih =>
    rw [Text.lines_isWhole_append hline, List.find?_cons]
    cases hb : Text.isBlank line with
    | true => exact (hblank line t hb).trans ih
    | false => exact first?_isWhole_append hopen hline hb t

/-! ### Markup comments -/

theorem wordBeforeEnd?_spec {t w : Text} (h : wordBeforeEnd? t = some w) :
    w <+: t ∧ IsWord w := by
  induction t generalizing w with
  | nil => cases h
  | cons c t ih =>
    unfold wordBeforeEnd? at h
    split at h
    · injection h with h
      subst h
      exact ⟨List.nil_prefix, by simp, by simp⟩
    · next hend =>
      split at h
      · cases h
      · next hspace =>
        obtain ⟨w', hw', rfl⟩ := Option.map_eq_some_iff.mp h
        obtain ⟨hbegin, hspaces, hinfix⟩ := ih hw'
        have hbegin' : c :: w' <+: c :: t := (List.prefix_cons_inj c).mpr hbegin
        refine ⟨hbegin', ?_, ?_⟩
        · intro d hd
          rcases List.mem_cons.mp hd with rfl | hd
          · simpa using hspace
          · exact hspaces d hd
        · intro hin
          rcases List.infix_cons_iff.mp hin with hp | hin
          · -- An end of comment here would have been found in front of `c`.
            apply hend
            obtain ⟨rest, hrest⟩ := hp.trans hbegin'
            have hstart : Text.trimStart (c :: t) = c :: t :=
              Text.trimStart_eq_self (by simpa using hspace)
            rw [hstart, ← hrest, Text.after?_append]
            rfl
          · exact hinfix hin

theorem isWord_of_markupWord? {t w : Text} (h : markupWord? t = some w) : IsWord w := by
  induction t with
  | nil => cases h
  | cons c t ih =>
    unfold markupWord? at h
    split at h
    · next rest hrest =>
      rcases Option.or_eq_some_iff.mp h with h | ⟨-, h⟩
      · exact (wordBeforeEnd?_spec h).2
      · exact ih h
    · exact ih h

/-- An end of comment behind a blank does not reach into the word before it. -/
theorem not_end_prefix {c : Char} {w : Text} (h : ¬ ['-', '-', '>'] <:+: c :: w) (t : Text) :
    ¬ ['-', '-', '>'] <+: c :: w ++ ' ' :: t := by
  intro hp
  apply h
  match w with
  | [] => simp [List.cons_prefix_cons] at hp
  | [d] => simp [List.cons_prefix_cons] at hp
  | d :: e :: w =>
    simp only [List.cons_append, List.cons_prefix_cons, List.nil_prefix, and_true] at hp
    obtain ⟨rfl, rfl, rfl⟩ := hp
    exact (List.prefix_append ['-', '-', '>'] w).isInfix

theorem wordBeforeEnd?_append {w : Text} (hw : IsWord w) (t : Text) :
    wordBeforeEnd? (w ++ " -->".toList ++ t) = some w := by
  obtain ⟨hspaces, hinfix⟩ := hw
  induction w with
  | nil =>
    have h : Text.trimStart (" -->".toList ++ t) = ['-', '-', '>'] ++ t := by
      rw [show " -->".toList ++ t = [' '] ++ (['-', '-', '>'] ++ t) from rfl,
        Text.trimStart_append (by simp [Text.IsSpaces]; decide)]
      rfl
    rw [List.nil_append]
    show wordBeforeEnd? (' ' :: (['-', '-', '>'] ++ t)) = _
    rw [wordBeforeEnd?]
    rw [show ' ' :: (['-', '-', '>'] ++ t) = " -->".toList ++ t from rfl, h, Text.after?_append]
    rfl
  | cons c w ih =>
    have hc : isSpace c = false := hspaces c (by simp)
    have hstart : Text.trimStart (c :: w ++ " -->".toList ++ t) = c :: w ++ " -->".toList ++ t :=
      Text.trimStart_eq_self (by simpa using hc)
    have hnone : Text.after? ['-', '-', '>'] (c :: w ++ " -->".toList ++ t) = Option.none := by
      rw [Option.eq_none_iff_forall_ne_some]
      intro rest hrest
      have h := Text.eq_append_of_after? hrest
      refine not_end_prefix hinfix ("-->".toList ++ t) ?_
      rw [List.append_assoc] at h
      exact ⟨rest, h.symm⟩
    rw [List.cons_append, List.cons_append, wordBeforeEnd?]
    rw [← List.cons_append, ← List.cons_append, hstart, hnone, hc]
    rw [ih (fun d hd => hspaces d (by simp [hd]))
      fun h => hinfix (h.trans (List.suffix_cons c w).isInfix)]
    rfl

theorem markupWord?_skip {v t : Text} (hv : ∀ c ∈ v, c ≠ '<') :
    markupWord? (v ++ t) = markupWord? t := by
  induction v with
  | nil => rfl
  | cons c v ih =>
    have hc : Text.after? ['<', '!', '-', '-'] (c :: (v ++ t)) = Option.none := by
      rw [Text.after?, if_neg (Ne.symm (hv c (by simp)))]
    rw [List.cons_append, markupWord?, hc]
    exact ih fun d hd => hv d (by simp [hd])

/-- A rendered word is the first word of its line. -/
theorem markupWord?_append {v w : Text} (hv : ∀ c ∈ v, c ≠ '<') (hw : IsWord w) (hne : w ≠ []) :
    markupWord? (v ++ ("<!-- ".toList ++ w ++ " -->".toList)) = some w := by
  rw [markupWord?_skip hv]
  have hstart : Text.trimStart (' ' :: (w ++ " -->".toList)) = w ++ " -->".toList := by
    rw [show ' ' :: (w ++ " -->".toList) = [' '] ++ (w ++ " -->".toList) from rfl,
      Text.trimStart_append (by simp [Text.IsSpaces]; decide)]
    obtain ⟨c, w, rfl⟩ := List.exists_cons_of_ne_nil hne
    exact Text.trimStart_eq_self (by simpa using hw.1 c (by simp))
  have hword := wordBeforeEnd?_append hw []
  rw [List.append_nil] at hword
  show markupWord? ('<' :: ('!' :: '-' :: '-' :: ' ' :: (w ++ " -->".toList))) = _
  rw [markupWord?]
  simp only [Text.after?, if_true]
  rw [hstart, hword]
  rfl

/-! ### Finding again what was written -/

/-- **What is found in a comment can be said in one.** -/
theorem says_of_first? {style : CommentStyle} {code text : Text}
    (h : first? style code = some text) (hb : Text.isBlank text = false) : Says style text := by
  rcases cases_opening? style with rfl | rfl | ⟨opening, hopen⟩
  · cases h
  · simp only [first?] at h
    split at h
    · have hw := isWord_of_markupWord? h
      have hcore : Text.IsCore text :=
        ⟨fun c hc => hw.1 c (List.mem_of_mem_head? hc),
          fun c hc => hw.1 c (List.mem_of_mem_getLast? hc)⟩
      refine ⟨hb, ?_, fun _ => by rwa [Text.trim_eq_self hcore]⟩
      intro c hc
      constructor
      · rintro rfl
        exact absurd (hw.1 _ hc) (by decide)
      · rintro rfl
        exact absurd (hw.1 _ hc) (by decide)
    · cases h
  · rw [first?_of_opening? hopen] at h
    obtain ⟨rest, -, hrest⟩ := Option.bind_eq_some_iff.mp h
    exact ⟨hb, inLine_of_restOfLine? hrest, fun hs => absurd hs (opening?_spec hopen).1⟩

/-- A line without the newline that ends it. -/
theorem withoutNewline_append {line : Text} {last : Char} (hl : last ≠ '\r') (nl : Newline) :
    withoutNewline (line ++ [last] ++ nl.text) = line ++ [last] := by
  cases nl with
  | crlf =>
    have h : Text.before? ['\r', '\n'] (line ++ [last] ++ Newline.crlf.text) =
        some (line ++ [last]) := by
      simp [Text.before?, Newline.text, Text.after?]
    rw [withoutNewline, h]
  | lf =>
    have h : Text.before? ['\r', '\n'] (line ++ [last] ++ Newline.lf.text) = Option.none := by
      simp [Text.before?, Newline.text, Text.after?, Ne.symm hl]
    have h' : Text.before? ['\n'] (line ++ [last] ++ Newline.lf.text) = some (line ++ [last]) := by
      simp [Text.before?, Newline.text, Text.after?]
    rw [withoutNewline, h, h']
    rfl

/-- The first line that is not blank, behind white space. -/
theorem find?_line {v line : Text} (hv : Text.IsSpaces v) (hline : '\n' ∉ line)
    (hb : Text.isBlank line = false) (nl : Newline) (t : Text) :
    ∃ w, Text.IsSpaces w ∧ (Text.lines (v ++ line ++ nl.text ++ t)).find?
      (fun l => !Text.isBlank l) = some (w ++ line ++ nl.text) := by
  obtain ⟨ls, last, hls, hlast, rfl, -⟩ := Text.exists_whole_append v
  have hlsb : ∀ l ∈ ls, (!Text.isBlank l) = false := by
    intro l hl
    rw [Bool.not_eq_false', Text.isBlank_iff]
    intro c hc
    exact hv c (List.mem_append_left _ (List.mem_flatten.mpr ⟨l, hl, hc⟩))
  -- White space behind the last line feed belongs to the line.
  have hwhole : Text.IsWhole (last ++ line ++ nl.text) := by
    have hno : '\n' ∉ last ++ line := by
      rw [List.mem_append]
      rintro (h | h)
      · exact hlast h
      · exact hline h
    exact Text.isWhole_append_newline nl hno
  refine ⟨last, fun c hc => hv c (by simp [hc]), ?_⟩
  have hcut : ls.flatten ++ last ++ line ++ nl.text ++ t =
      ls.flatten ++ (last ++ line ++ nl.text ++ t) := by simp
  have hkeep : (!Text.isBlank (last ++ line ++ nl.text)) = true := by
    rw [Bool.not_eq_true', Text.isBlank, List.all_append, List.all_append]
    rw [Text.isBlank] at hb
    simp [hb]
  rw [hcut, Text.lines_flatten_append hls, Text.lines_isWhole_append hwhole, List.find?_append,
    List.find?_eq_none.mpr fun l hl => by simp [hlsb l hl], Option.none_or, List.find?_cons, hkeep]

theorem render?_markup (text : Text) :
    render? .markup text = some ("<!-- ".toList ++ Text.trim text ++ " -->".toList) := rfl

theorem Says.trim_inLine {style : CommentStyle} {text : Text} (h : Says style text) :
    ∀ c ∈ Text.trim text, c ≠ '\r' ∧ c ≠ '\n' :=
  fun c hc => h.inLine c (Text.mem_of_mem_trim hc)

theorem first?_render_markup {text : Text} (hs : Says .markup text) {v : Text}
    (hv : Text.IsSpaces v) (nl : Newline) (t : Text) :
    first? .markup (v ++ ("<!-- ".toList ++ Text.trim text ++ " -->".toList) ++ nl.text ++ t) =
      some (Text.trim text) := by
  have hw : IsWord (Text.trim text) := hs.word rfl
  have hne : Text.trim text ≠ [] := by
    intro h
    rw [← Text.isBlank_iff_trim, hs.notBlank] at h
    cases h
  have hline : '\n' ∉ "<!-- ".toList ++ Text.trim text ++ " -->".toList := by
    simpa using fun h => (hs.trim_inLine _ h).2 rfl
  obtain ⟨w, hw', hfind⟩ := find?_line hv hline rfl nl t
  -- The line ends with the last character of the comment, which is no CR.
  have hlast : w ++ ("<!-- ".toList ++ Text.trim text ++ " -->".toList) =
      w ++ ("<!-- ".toList ++ Text.trim text ++ " --".toList) ++ ['>'] := by
    simp
  have hangle : ∀ c ∈ w, c ≠ '<' := by
    rintro c hc rfl
    exact absurd (hw' _ hc) (by decide)
  have hword := markupWord?_append hangle hw hne
  rw [hlast] at hfind hword
  unfold first?
  rw [hfind]
  simp only
  rw [withoutNewline_append (by decide)]
  exact hword

theorem first?_render_of_opening? {style : CommentStyle} {text opening : Text}
    (hs : Says style text) (hopen : style.opening? = some opening) {v : Text}
    (hv : Text.IsSpaces v) (nl : Newline) (t : Text) :
    first? style (v ++ (opening ++ ' ' :: Text.trim text) ++ nl.text ++ t) =
      some (' ' :: Text.trim text) := by
  obtain ⟨-, c, u, rfl, hspace, -⟩ := opening?_spec hopen
  have hstart : Text.trimStart (v ++ (c :: u ++ ' ' :: Text.trim text) ++ nl.text ++ t) =
      c :: u ++ (' ' :: Text.trim text ++ nl.text ++ t) := by
    rw [List.append_assoc, List.append_assoc, Text.trimStart_append hv,
      Text.trimStart_eq_self (by simpa using hspace)]
    simp
  rw [first?_of_opening? hopen, hstart, Text.after?_append, Option.bind_some]
  exact restOfLine?_append (List.forall_mem_cons.mpr ⟨by decide, hs.trim_inLine⟩) nl t

/-- **What is said is found again**, behind white space and in front of other lines, up to the white
    space around it. -/
theorem first?_render {style : CommentStyle} {text comment : Text} (hs : Says style text)
    (hc : style.render? text = some comment) {v : Text} (hv : Text.IsSpaces v) (nl : Newline)
    (t : Text) :
    ∃ again, first? style (v ++ comment ++ nl.text ++ t) = some again ∧
      Text.trim again = Text.trim text := by
  rcases cases_opening? style with rfl | rfl | ⟨opening, hopen⟩
  · cases hc
  · rw [render?_markup, Option.some.injEq] at hc
    subst hc
    exact ⟨Text.trim text, first?_render_markup hs hv nl t, Text.trim_trim text⟩
  · rw [render?_of_opening? hopen, Option.some.injEq] at hc
    subst hc
    refine ⟨' ' :: Text.trim text, first?_render_of_opening? hs hopen hv nl t, ?_⟩
    -- The blank behind the opening is read as part of the text.
    have htrim := Text.trim_append_left (v := [' ']) (by simp [Text.IsSpaces]; decide)
      (Text.trim text)
    rwa [Text.trim_trim] at htrim

/-- A rendered comment stands on one line. -/
theorem inLine_of_render? {style : CommentStyle} {text comment : Text} (hs : Says style text)
    (hc : style.render? text = some comment) : ∀ c ∈ comment, c ≠ '\r' ∧ c ≠ '\n' := by
  rcases cases_opening? style with rfl | rfl | ⟨opening, hopen⟩
  · cases hc
  · rw [render?_markup, Option.some.injEq] at hc
    subst hc
    intro c hc
    simp only [List.mem_append] at hc
    rcases hc with (hc | hc) | hc
    · exact inLine_of_all (by decide) c hc
    · exact hs.trim_inLine c hc
    · exact inLine_of_all (by decide) c hc
  · obtain ⟨-, c, u, rfl, -, -, hin⟩ := opening?_spec hopen
    rw [render?_of_opening? hopen, Option.some.injEq] at hc
    subst hc
    intro d hd
    rcases List.mem_append.mp hd with hd | hd
    · exact hin d hd
    · rcases List.mem_cons.mp hd with rfl | hd
      · decide
      · exact hs.trim_inLine d hd

/-- A rendered comment does not start with a backtick. -/
theorem head?_render? {style : CommentStyle} {text comment : Text}
    (hc : style.render? text = some comment) : ∀ c ∈ comment.head?, c ≠ '\x60' := by
  rcases cases_opening? style with rfl | rfl | ⟨opening, hopen⟩
  · cases hc
  · rw [render?_markup, Option.some.injEq] at hc
    subst hc
    intro c hc
    cases hc
    decide
  · obtain ⟨-, c, u, rfl, -, htick, -⟩ := opening?_spec hopen
    rw [render?_of_opening? hopen, Option.some.injEq] at hc
    subst hc
    intro d hd
    cases hd
    exact htick

/-- How a comment looks depends on the trimmed text alone. -/
theorem render?_congr (style : CommentStyle) {s t : Text} (h : Text.trim s = Text.trim t) :
    style.render? s = style.render? t := by
  cases style <;> simp [render?, h]

/-! ### Both directions -/

/-- All other styles than that without comments render any text. -/
theorem exists_render? {style : CommentStyle} (hstyle : style ≠ .none) (text : Text) :
    ∃ comment, style.render? text = some comment := by
  rcases cases_opening? style with rfl | rfl | ⟨opening, hopen⟩
  · exact absurd rfl hstyle
  · exact ⟨_, render?_markup text⟩
  · exact ⟨_, render?_of_opening? hopen text⟩

/-- The white space around a text has no part in whether it can be said. -/
theorem Says.trim {style : CommentStyle} {text : Text} (h : Says style text) :
    Says style (Text.trim text) where
  notBlank := by
    rw [Bool.eq_false_iff, ne_eq, Text.isBlank_iff_trim, Text.trim_trim, ← Text.isBlank_iff_trim,
      h.notBlank]
    exact Bool.false_ne_true
  inLine := h.trim_inLine
  word hs := by
    rw [Text.trim_trim]
    exact h.word hs

/-- **Rendering and recognising comments are inverse** for every style that has comments, up to the
    white space around what they say.

    * What can be said is rendered, and is recognised again behind any white space, in front of either
      newline and of any text on the lines below.
    * Whatever is recognised can be said, unless it is blank; so it is rendered and recognised again.
    * Nothing else can be said than what is recognised somewhere. -/
theorem first?_render_round_trip {style : CommentStyle} (hstyle : style ≠ .none) :
    (∀ (v text : Text) (nl : Newline) (t : Text), Text.IsSpaces v → Says style text →
      ∃ comment again, style.render? text = some comment ∧
        first? style (v ++ comment ++ nl.text ++ t) = some again ∧
          Text.trim again = Text.trim text) ∧
    (∀ code text, first? style code = some text → Text.isBlank text = false →
      Says style text ∧ ∀ (v : Text) (nl : Newline) (t : Text), Text.IsSpaces v →
        ∃ comment again, style.render? text = some comment ∧
          first? style (v ++ comment ++ nl.text ++ t) = some again ∧
            Text.trim again = Text.trim text) ∧
    ∀ text, Says style (Text.trim text) ↔ ∃ code again, first? style code = some again ∧
      Text.isBlank again = false ∧ Text.trim again = Text.trim text := by
  have hagain : ∀ (v text : Text) (nl : Newline) (t : Text), Text.IsSpaces v → Says style text →
      ∃ comment again, style.render? text = some comment ∧
        first? style (v ++ comment ++ nl.text ++ t) = some again ∧
          Text.trim again = Text.trim text := by
    intro v text nl t hv hs
    obtain ⟨comment, hc⟩ := exists_render? hstyle text
    obtain ⟨again, hfirst, htrim⟩ := first?_render hs hc hv nl t
    exact ⟨comment, again, hc, hfirst, htrim⟩
  refine ⟨hagain, fun code text h hb => ?_, fun text => ⟨fun hs => ?_, ?_⟩⟩
  · have hs := says_of_first? h hb
    exact ⟨hs, fun v nl t hv => hagain v text nl t hv hs⟩
  · obtain ⟨comment, again, -, hfirst, htrim⟩ := hagain [] _ .lf [] (by simp [Text.IsSpaces]) hs
    refine ⟨_, again, hfirst, ?_, htrim.trans (Text.trim_trim text)⟩
    rw [Bool.eq_false_iff, ne_eq, Text.isBlank_iff_trim, htrim, ← Text.isBlank_iff_trim, hs.notBlank]
    exact Bool.false_ne_true
  · rintro ⟨code, again, hfirst, hb, htrim⟩
    rw [← htrim]
    exact (says_of_first? hfirst hb).trim

/-- A word in markup that looks like the start and nearly like the end of a comment, behind white space
    on two lines and in front of a late end; and a comment behind one that holds more than a word. -/
theorem first?_render_round_trip_markup :
    let v := "\n\t\u2003".toList
    let text := "\u00A0<!--x->- ".toList
    let code := "<p><!-- a <!-- page.html--></p>\n".toList
    Text.IsSpaces v ∧ Says .markup text ∧
      (∃ again, Text.trim again = "<!--x->-".toList ∧
        first? .markup (v ++ "<!-- <!--x->- -->".toList ++ Newline.crlf.text ++ "-->".toList) =
          some again) ∧
      first? .markup code = some "page.html".toList ∧ Says .markup "page.html".toList := by
  intro v text code
  have hv : Text.IsSpaces v := List.all_eq_true.mp (by decide)
  have htrim : Text.trim text = "<!--x->-".toList := by decide
  have hword : IsWord (Text.trim text) := by
    rw [htrim]
    have hall : "<!--x->-".toList.all (!isSpace ·) = true := by decide
    exact ⟨fun c hc => by simpa using List.all_eq_true.mp hall c hc, by decide +kernel⟩
  have hs : Says .markup text :=
    ⟨by decide, inLine_of_all (by decide), fun _ => hword⟩
  obtain ⟨hagain, hread, -⟩ := @first?_render_round_trip .markup (by decide)
  obtain ⟨comment, again, hc, hfirst, hsame⟩ := hagain v text .crlf "-->".toList hv hs
  have hcomment : comment = "<!-- <!--x->- -->".toList := by
    rw [render?_markup, htrim] at hc
    exact (Option.some.inj hc).symm.trans (by decide)
  have hcode : first? .markup code = some "page.html".toList := by decide
  rw [hcomment] at hfirst
  exact ⟨hv, hs, ⟨again, hsame.trans htrim, hfirst⟩, hcode,
    (hread _ _ hcode (by decide)).1⟩

end CommentStyle

end FenceSync
