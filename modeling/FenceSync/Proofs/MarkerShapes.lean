import FenceSync.Proofs.Trimming
import Mathlib.Data.List.Basic

namespace FenceSync

/-!
# What a marker says

What the lines above a block say about it, in terms of their shapes.

* `IsBlank`, `Marks`, `AsksToIgnore` and `Carries` are the shapes of blank lines and of markers.
  `Marker.ofLine_eq_ignoreNext_iff` and `Marker.inlineDirective_ofLine` compare `Marker.ofLine` with
  them.
* `NearestAbove` is the line that counts, and `Marker.foldl_across` says that `Marker.across` finds
  it.
-/

/-! ### The shapes -/

/-- Tabs and spaces, and a newline. -/
def IsBlank (line : Text) : Prop :=
  ∃ blanks ending, line = blanks ++ ending ∧ IsIndent blanks ∧ ending ∈ lineEndings

/-- A comment whose first word is the keyword: the body stands between the keyword and the last
    `-->`, behind which there are only tabs and spaces. -/
def Marks (line body : Text) : Prop :=
  ∃ before between behind ending,
    line = before ++ ("<!--".toList ++ (between ++ (Marker.keyword ++
      (body ++ ("-->".toList ++ (behind ++ ending)))))) ∧
    IsIndent before ∧ IsIndent between ∧ IsIndent behind ∧ ending ∈ lineEndings

/-- The shape of what a marker says in order to leave a block alone: tabs, spaces and hyphens, the
    ignore word, tabs and spaces. -/
def IgnoreShape (body : Text) : Prop :=
  ∃ separators blanks, body = separators ++ (Marker.ignoreWord ++ blanks) ∧ separators ≠ [] ∧
    (∀ c ∈ separators, Marker.isIgnoreSeparator c = true) ∧ IsIndent blanks

/-- A marker that asks to leave the next block alone. -/
def AsksToIgnore (line : Text) : Prop := ∃ body, Marks line body ∧ IgnoreShape body

/-- A text that begins like the end of a marker that asks to leave a block alone. -/
def BeginsIgnoring (t : Text) : Prop :=
  ∃ blanks blanks' more, t = blanks ++ (Marker.ignoreWord ++ (blanks' ++ ("-->".toList ++ more))) ∧
    IsIndent blanks ∧ IsIndent blanks'

/-- A marker that carries the directive `d`: the text behind the keyword and at least one tab or
    space, without the white space around it.  It holds no CR, and it does not begin like the end of
    a marker that asks to leave a block alone. -/
def Carries (line d : Text) : Prop :=
  ∃ gap text, Marks line (gap ++ text) ∧ gap ≠ [] ∧ IsIndent gap ∧ '\r' ∉ text ∧
    ¬ BeginsIgnoring text ∧ d = Text.trim text

theorem isBlankLine_iff {line : Text} : isBlankLine line = true ↔ IsBlank line := by
  rw [isBlankLine, decide_eq_true_iff]
  constructor
  · intro h
    exact ⟨Text.indent line, Text.dropIndent line, (Text.indent_append_dropIndent line).symm,
      isIndent_indent line, h⟩
  · rintro ⟨blanks, ending, rfl, hblanks, hending⟩
    rwa [dropIndent_append hblanks (head?_closingEnding (List.mem_append_right _ hending))]

/-! ### Reading a marker -/

/-- What a text starts with decides about its first character. -/
theorem forall_head?_append {p : Char → Bool} {w : Text} (h : w.head?.map p = some false)
    (t : Text) : ∀ c ∈ (w ++ t).head?, p c = false := by
  cases w with
  | nil => cases h
  | cons d w =>
    intro c hc
    cases hc
    exact Option.some.inj h

theorem takeWhile_ne_nil {p : Char → Bool} {t : Text} (h : t.head?.any p = true) :
    t.takeWhile p ≠ [] := by
  cases t with
  | nil => cases h
  | cons c t =>
    have hc : p c = true := h
    rw [List.takeWhile_cons_of_pos hc]
    exact List.cons_ne_nil _ _

namespace Marker

theorem afterKeyword?_eq_some_iff {line rest : Text} :
    afterKeyword? line = some rest ↔ ∃ before between,
      line = before ++ ("<!--".toList ++ (between ++ (keyword ++ rest))) ∧ IsIndent before ∧
        IsIndent between := by
  rw [afterKeyword?, Option.bind_eq_some_iff]
  constructor
  · rintro ⟨t, ht, hrest⟩
    refine ⟨Text.indent line, Text.indent t, ?_, isIndent_indent line, isIndent_indent t⟩
    rw [← Text.eq_append_of_after? hrest, Text.indent_append_dropIndent,
      ← Text.eq_append_of_after? ht, Text.indent_append_dropIndent]
  · rintro ⟨before, between, rfl, hbefore, hbetween⟩
    have hopen : ∀ c ∈ ("<!--".toList ++ (between ++ (keyword ++ rest))).head?,
        isTabOrSpace c = false := forall_head?_append rfl _
    have hkeyword : ∀ c ∈ (keyword ++ rest).head?, isTabOrSpace c = false :=
      forall_head?_append rfl _
    refine ⟨between ++ (keyword ++ rest), ?_, ?_⟩
    · rw [dropIndent_append hbefore hopen, Text.after?_append]
    · rw [dropIndent_append hbetween hkeyword, Text.after?_append]

theorem isWhole_of_afterKeyword? {line said : Text} (h : afterKeyword? line = some said)
    (hsaid : Text.IsWhole said) : Text.IsWhole line := by
  obtain ⟨before, between, rfl, hbefore, hbetween⟩ := afterKeyword?_eq_some_iff.mp h
  exact (((hsaid.append_left (by decide)).append_left hbetween.lf_notMem).append_left
    (by decide)).append_left hbefore.lf_notMem

theorem isBlankLine_of_afterKeyword? {line said : Text} (h : afterKeyword? line = some said) :
    isBlankLine line = false := by
  obtain ⟨before, between, rfl, hbefore, -⟩ := afterKeyword?_eq_some_iff.mp h
  rw [isBlankLine, dropIndent_append hbefore (forall_head?_append rfl _)]
  simp [lineEndings]

/-- A newline is taken off a text that does not end with CR. -/
theorem beforeNewline?_append {t ending : Text} (hcr : ∀ c ∈ t.getLast?, c ≠ '\r')
    (h : ending ∈ lineEndings) : beforeNewline? (t ++ ending) = some t := by
  simp only [lineEndings, List.mem_cons, List.not_mem_nil, or_false] at h
  rcases h with rfl | rfl
  · have hnone : Text.before? ['\r', '\n'] (t ++ ['\n']) = none := by
      refine Text.before?_eq_none fun s hs => ?_
      have hs' : t ++ ['\n'] = (s ++ ['\r']) ++ ['\n'] := by rw [hs]; simp
      exact hcr '\r' (by rw [List.append_cancel_right hs']; simp) rfl
    rw [beforeNewline?, hnone, Text.before?_eq_some_iff.mpr rfl, Option.none_or]
  · rw [beforeNewline?, Text.before?_eq_some_iff.mpr rfl, Option.some_or]

theorem exists_of_beforeNewline? {t u : Text} (h : beforeNewline? t = some u) :
    ∃ ending ∈ lineEndings, t = u ++ ending := by
  rw [beforeNewline?, Option.or_eq_some_iff] at h
  rcases h with h | ⟨-, h⟩
  · exact ⟨['\r', '\n'], by simp [lineEndings], Text.before?_eq_some_iff.mp h⟩
  · exact ⟨['\n'], by simp [lineEndings], Text.before?_eq_some_iff.mp h⟩

/-- Tabs and spaces behind the end of a comment are taken off. -/
theorem dropBlanks_append (body : Text) {behind : Text} (h : IsIndent behind) :
    ((body ++ ("-->".toList ++ behind)).reverse.dropWhile isTabOrSpace).reverse =
      body ++ "-->".toList := by
  have hend : ∀ c ∈ ("-->".toList.reverse ++ body.reverse).head?, isTabOrSpace c = false :=
    forall_head?_append rfl _
  rw [← List.append_assoc, List.reverse_append, List.reverse_append,
    (Fence.takeWhile_append_eq (fun c hc => h c (List.mem_reverse.mp hc)) hend).2,
    List.reverse_append, List.reverse_reverse, List.reverse_reverse]

theorem beforeEnd?_eq_some_iff {t body : Text} :
    beforeEnd? t = some body ↔ ∃ behind ending,
      t = body ++ ("-->".toList ++ (behind ++ ending)) ∧ IsIndent behind ∧
        ending ∈ lineEndings := by
  rw [beforeEnd?, Option.bind_eq_some_iff]
  constructor
  · rintro ⟨u, hu, hbody⟩
    obtain ⟨ending, hending, rfl⟩ := exists_of_beforeNewline? hu
    have hsplit : u = (u.reverse.dropWhile isTabOrSpace).reverse ++
        (u.reverse.takeWhile isTabOrSpace).reverse := by
      rw [← List.reverse_append, List.takeWhile_append_dropWhile, List.reverse_reverse]
    refine ⟨(u.reverse.takeWhile isTabOrSpace).reverse, ending, ?_, ?_, hending⟩
    · rw [Text.before?_eq_some_iff.mp hbody] at hsplit
      calc u ++ ending
          = body ++ "-->".toList ++ (u.reverse.takeWhile isTabOrSpace).reverse ++ ending :=
            congrArg (· ++ ending) hsplit
        _ = _ := by simp only [List.append_assoc]
    · intro c hc
      exact List.mem_takeWhile_imp (List.mem_reverse.mp hc)
  · rintro ⟨behind, ending, rfl, hbehind, hending⟩
    have hlast : ∀ c ∈ (body ++ ("-->".toList ++ behind)).getLast?, c ≠ '\r' := by
      intro c hc heq
      have hmem : c ∈ "-->".toList ++ behind := by
        rw [List.getLast?_append_of_ne_nil _ (by simp)] at hc
        exact List.mem_of_getLast? hc
      rw [heq, List.mem_append] at hmem
      exact hmem.elim (by decide) hbehind.cr_notMem
    refine ⟨body ++ ("-->".toList ++ behind), ?_, ?_⟩
    · rw [← beforeNewline?_append hlast hending]
      simp
    · rw [dropBlanks_append body hbehind, Text.before?_eq_some_iff.mpr rfl]

/-- What a line has behind the keyword ends with the line. -/
theorem isWhole_of_beforeEnd? {said body : Text} (h : beforeEnd? said = some body)
    (hbody : '\n' ∉ body) : Text.IsWhole said := by
  obtain ⟨behind, ending, rfl, hbehind, hending⟩ := beforeEnd?_eq_some_iff.mp h
  have hend := Fence.isWhole_lineEnding hending
  exact ((hend.append_left hbehind.lf_notMem).append_left (by decide)).append_left hbody

theorem beforeEnd?_append {said body : Text} (h : beforeEnd? said = some body) (t : Text) :
    beforeEnd? (t ++ said) = some (t ++ body) := by
  obtain ⟨behind, ending, rfl, hbehind, hending⟩ := beforeEnd?_eq_some_iff.mp h
  exact beforeEnd?_eq_some_iff.mpr ⟨behind, ending, by simp, hbehind, hending⟩

theorem isIgnoreBody_iff {body : Text} : isIgnoreBody body = true ↔ IgnoreShape body := by
  constructor
  · intro h
    rw [isIgnoreBody] at h
    split at h
    · next rest hrest =>
      rw [Bool.and_eq_true] at h
      refine ⟨body.takeWhile isIgnoreSeparator, rest, ?_, ?_, ?_, List.all_eq_true.mp h.2⟩
      · rw [← Text.eq_append_of_after? hrest, List.takeWhile_append_dropWhile]
      · exact takeWhile_ne_nil h.1
      · intro c hc
        exact List.mem_takeWhile_imp hc
    · cases h
  · rintro ⟨separators, blanks, rfl, hne, hseparators, hblanks⟩
    have hword : ∀ c ∈ (ignoreWord ++ blanks).head?, isIgnoreSeparator c = false :=
      forall_head?_append rfl _
    rw [isIgnoreBody, (Fence.takeWhile_append_eq hseparators hword).2, Text.after?_append]
    simp only
    rw [Bool.and_eq_true]
    refine ⟨?_, List.all_eq_true.mpr hblanks⟩
    obtain ⟨c, separators, rfl⟩ := List.exists_cons_of_ne_nil hne
    simpa using hseparators c (by simp)

theorem startsIgnoring_iff {t : Text} : startsIgnoring t = true ↔ BeginsIgnoring t := by
  constructor
  · intro h
    rw [startsIgnoring] at h
    split at h
    · next rest hrest =>
      obtain ⟨more, hmore⟩ := Option.isSome_iff_exists.mp h
      refine ⟨Text.indent t, Text.indent rest, more, ?_, isIndent_indent t, isIndent_indent rest⟩
      rw [← Text.eq_append_of_after? hmore, Text.indent_append_dropIndent,
        ← Text.eq_append_of_after? hrest, Text.indent_append_dropIndent]
    · cases h
  · rintro ⟨blanks, blanks', more, rfl, hblanks, hblanks'⟩
    have hword : ∀ c ∈ (ignoreWord ++ (blanks' ++ ("-->".toList ++ more))).head?,
        isTabOrSpace c = false := forall_head?_append rfl _
    have hend : ∀ c ∈ ("-->".toList ++ more).head?, isTabOrSpace c = false :=
      forall_head?_append rfl _
    rw [startsIgnoring, dropIndent_append hblanks hword, Text.after?_append]
    simp only
    rw [dropIndent_append hblanks' hend, Text.after?_append]
    rfl

/-- Tabs and spaces in front do not matter. -/
theorem startsIgnoring_append {gap : Text} (hgap : IsIndent gap) (t : Text) :
    startsIgnoring (gap ++ t) = startsIgnoring t := by
  rw [startsIgnoring, startsIgnoring, Text.dropIndent, List.dropWhile_append_of_pos hgap,
    ← Text.dropIndent]

/-- Nor do further lines. -/
theorem startsIgnoring_isWhole_append {line : Text} (h : Text.IsWhole line) (t : Text) :
    startsIgnoring (line ++ t) = startsIgnoring line := by
  obtain ⟨said, hsaid, rfl⟩ := h
  rw [Bool.eq_iff_iff, startsIgnoring_iff, startsIgnoring_iff]
  constructor
  · rintro ⟨blanks, blanks', more, heq, hblanks, hblanks'⟩
    -- The end of the comment is found in front of the line feed.
    have hlf : '\n' ∉ blanks ++ (ignoreWord ++ (blanks' ++ "-->".toList)) := by
      simp only [List.mem_append, not_or]
      exact ⟨hblanks.lf_notMem, by decide, hblanks'.lf_notMem, by decide⟩
    have hcut : said ++ ('\n' :: t) =
        (blanks ++ (ignoreWord ++ (blanks' ++ "-->".toList))) ++ more := by
      simpa using heq
    rcases List.append_eq_append_iff.mp hcut with ⟨u, hu, hmore⟩ | ⟨u, rfl, -⟩
    · cases u with
      | nil => exact ⟨blanks, blanks', ['\n'], by rw [← List.append_nil said, ← hu]; simp,
          hblanks, hblanks'⟩
      | cons c u =>
        rw [List.cons_append, List.cons.injEq] at hmore
        rw [hu, ← hmore.1] at hlf
        exact absurd (by simp) hlf
    · exact ⟨blanks, blanks', u ++ ['\n'], by simp, hblanks, hblanks'⟩
  · rintro ⟨blanks, blanks', more, heq, hblanks, hblanks'⟩
    exact ⟨blanks, blanks', more ++ t, by rw [heq]; simp, hblanks, hblanks'⟩

end Marker

/-! ### The last end of a comment -/

/-- Two ends of a comment do not overlap: one that is found in front of the last one ends before
    that begins. -/
theorem eq_or_exists_of_append_eq {p z body tail : Text} (htail : '>' ∉ tail)
    (h : p ++ ("-->".toList ++ z) = body ++ ("-->".toList ++ tail)) :
    body = p ∨ ∃ z', body = p ++ ("-->".toList ++ z') := by
  -- The one that begins first is over when the other one begins, since `>` only stands at its end.
  rcases List.append_eq_append_iff.mp h with ⟨a, hbody, ha⟩ | ⟨a, hp, ha⟩
  · match a, ha with
    | [], _ => exact .inl (by simpa using hbody)
    | [_], ha => simp at ha
    | [_, _], ha => simp at ha
    | _ :: _ :: _ :: z', ha =>
      refine .inr ⟨z', ?_⟩
      simp only [String.reduceToList, List.cons_append, List.nil_append, List.cons.injEq] at ha
      obtain ⟨rfl, rfl, rfl, -⟩ := ha
      exact hbody
  · match a, ha with
    | [], _ => exact .inl (by simpa using hp.symm)
    | [_], ha => simp at ha
    | [_, _], ha => simp at ha
    | _ :: _ :: _ :: z', ha =>
      refine absurd ?_ htail
      simp only [String.reduceToList, List.cons_append, List.nil_append, List.cons.injEq] at ha
      rw [ha.2.2.2]
      simp

namespace Marks

/-- What a marker says is what the reading finds. -/
theorem iff_exists {line body : Text} :
    Marks line body ↔ ∃ behind ending,
      Marker.afterKeyword? line = some (body ++ ("-->".toList ++ (behind ++ ending))) ∧
        IsIndent behind ∧ ending ∈ lineEndings := by
  constructor
  · rintro ⟨before, between, behind, ending, hline, hbefore, hbetween, hbehind, hending⟩
    exact ⟨behind, ending,
      Marker.afterKeyword?_eq_some_iff.mpr ⟨before, between, hline, hbefore, hbetween⟩, hbehind,
      hending⟩
  · rintro ⟨behind, ending, hrest, hbehind, hending⟩
    obtain ⟨before, between, hline, hbefore, hbetween⟩ := Marker.afterKeyword?_eq_some_iff.mp hrest
    exact ⟨before, between, behind, ending, hline, hbefore, hbetween, hbehind, hending⟩

/-- A marker says one thing: what it says ends at the last `-->`. -/
theorem unique {line body body' : Text} (h : Marks line body) (h' : Marks line body') :
    body = body' := by
  obtain ⟨behind, ending, hrest, hbehind, hending⟩ := iff_exists.mp h
  obtain ⟨behind', ending', hrest', hbehind', hending'⟩ := iff_exists.mp h'
  rw [hrest, Option.some.injEq] at hrest'
  have hbody : Marker.beforeEnd? (body ++ ("-->".toList ++ (behind ++ ending))) = some body :=
    Marker.beforeEnd?_eq_some_iff.mpr ⟨behind, ending, rfl, hbehind, hending⟩
  have hbody' : Marker.beforeEnd? (body ++ ("-->".toList ++ (behind ++ ending))) = some body' :=
    Marker.beforeEnd?_eq_some_iff.mpr ⟨behind', ending', hrest', hbehind', hending'⟩
  rw [hbody] at hbody'
  exact Option.some.inj hbody'

/-- What a marker says stands on one line. -/
theorem lf_notMem {line body : Text} (h : Marks line body)
    (hline : Text.IsWhole line ∨ Text.IsLast line) : '\n' ∉ body := by
  obtain ⟨before, between, behind, ending, rfl, -, -, -, hending⟩ := h
  obtain ⟨e, -, rfl⟩ := Fence.isWhole_lineEnding hending
  rcases hline with ⟨said, hsaid, heq⟩ | hlast
  · have hsaid' : said = before ++ ("<!--".toList ++ (between ++ (Marker.keyword ++
        (body ++ ("-->".toList ++ (behind ++ e)))))) := by
      rw [← List.append_left_inj ['\n'], ← heq]
      simp only [List.append_assoc]
    intro hmem
    exact hsaid (by rw [hsaid']; simp [hmem])
  · exact absurd (by simp) hlast.2

end Marks

/-! ### What a line says -/

namespace Marker

/-- A marker is read by what stands behind its keyword. -/
theorem ofLine_of_said {line said body : Text} (h : afterKeyword? line = some said)
    (hbody : beforeEnd? said = some body) :
    ofLine line = if isIgnoreBody body then .ignoreNext else directiveOf said body := by
  rw [ofLine, h]
  simp only
  rw [hbody]

/-- A marker is read by what it says; behind that there is no further `-->`. -/
theorem ofLine_of_marks {line body : Text} (h : Marks line body) :
    ∃ tail, '>' ∉ tail ∧ ofLine line =
      if isIgnoreBody body then .ignoreNext
      else directiveOf (body ++ ("-->".toList ++ tail)) body := by
  obtain ⟨behind, ending, hrest, hbehind, hending⟩ := Marks.iff_exists.mp h
  refine ⟨behind ++ ending, ?_, ?_⟩
  · rw [List.mem_append, not_or]
    refine ⟨fun hmem => absurd (hbehind _ hmem) (by decide), ?_⟩
    simp only [lineEndings, List.mem_cons, List.not_mem_nil, or_false] at hending
    rcases hending with rfl | rfl <;> decide
  · exact ofLine_of_said hrest (beforeEnd?_eq_some_iff.mpr ⟨behind, ending, rfl, hbehind, hending⟩)

/-- Only such a line says anything. -/
theorem exists_said_of_ofLine {line : Text} (h : ofLine line ≠ .absent) :
    ∃ said body, afterKeyword? line = some said ∧ beforeEnd? said = some body := by
  rw [ofLine] at h
  split at h
  · exact absurd rfl h
  · next said hsaid =>
    split at h
    · exact absurd rfl h
    · next body hbody => exact ⟨said, body, hsaid, hbody⟩

/-- Any other line says nothing. -/
theorem ofLine_of_not_marks {line : Text} (h : ∀ body, ¬ Marks line body) :
    ofLine line = .absent := by
  by_contra hsome
  obtain ⟨said, body, hsaid, hbody⟩ := exists_said_of_ofLine hsome
  obtain ⟨behind, ending, rfl, hbehind, hending⟩ := beforeEnd?_eq_some_iff.mp hbody
  exact h body (Marks.iff_exists.mpr ⟨behind, ending, hsaid, hbehind, hending⟩)

theorem directiveOf_ne_ignoreNext (rest body : Text) : directiveOf rest body ≠ .ignoreNext := by
  simp only [directiveOf]
  split <;> simp

/-- **`ofLine` leaves a block alone exactly when it is asked to.** -/
theorem ofLine_eq_ignoreNext_iff {line : Text} : ofLine line = .ignoreNext ↔ AsksToIgnore line := by
  constructor
  · intro h
    by_cases hmarks : ∃ body, Marks line body
    · obtain ⟨body, hbody⟩ := hmarks
      refine ⟨body, hbody, isIgnoreBody_iff.mp ?_⟩
      obtain ⟨tail, -, heq⟩ := ofLine_of_marks hbody
      by_contra hnot
      rw [heq, if_neg hnot] at h
      exact directiveOf_ne_ignoreNext _ _ h
    · rw [ofLine_of_not_marks (not_exists.mp hmarks)] at h
      cases h
  · rintro ⟨body, hbody, hshape⟩
    obtain ⟨tail, -, heq⟩ := ofLine_of_marks hbody
    rw [heq, if_pos (isIgnoreBody_iff.mpr hshape)]

/-- A comment that does not ask to leave a block alone begins like one that does only if it goes on
    behind that one's end. -/
theorem startsIgnoring_comment_iff {gap text tail : Text} (hne : gap ≠ []) (hgap : IsIndent gap)
    (hshape : ¬ IgnoreShape (gap ++ text)) (htail : '>' ∉ tail) :
    startsIgnoring (gap ++ text ++ ("-->".toList ++ tail)) = true ↔ BeginsIgnoring text := by
  rw [List.append_assoc, startsIgnoring_append hgap, startsIgnoring_iff]
  constructor
  · rintro ⟨blanks, blanks', more, heq, hblanks, hblanks'⟩
    have hcut : (blanks ++ (ignoreWord ++ blanks')) ++ ("-->".toList ++ more) =
        text ++ ("-->".toList ++ tail) := by
      rw [heq]
      simp only [List.append_assoc]
    -- The end that was found is the last one, or there is another one behind it.
    rcases eq_or_exists_of_append_eq htail hcut with rfl | ⟨z, rfl⟩
    · refine absurd ⟨gap ++ blanks, blanks', ?_, by simp [hne], ?_, hblanks'⟩ hshape
      · simp only [List.append_assoc]
      · intro c hc
        rw [isIgnoreSeparator, hgap.append hblanks c hc, Bool.true_or]
    · exact ⟨blanks, blanks', z, by simp only [List.append_assoc], hblanks, hblanks'⟩
  · rintro ⟨blanks, blanks', more, rfl, hblanks, hblanks'⟩
    exact ⟨blanks, blanks', more ++ ("-->".toList ++ tail), by simp only [List.append_assoc],
      hblanks, hblanks'⟩

/-- **A line that carries a directive is read as that one**, if it does not ask to leave a block
    alone. -/
theorem inlineDirective_ofLine {line d : Text} (hline : Text.IsWhole line ∨ Text.IsLast line)
    (h : Carries line d) (hnot : ¬ AsksToIgnore line) : (ofLine line).inlineDirective = d := by
  obtain ⟨gap, text, hmarks, hne, hgap, hcr, hbegins, rfl⟩ := h
  have hshape : ¬ IgnoreShape (gap ++ text) := fun hs => hnot ⟨_, hmarks, hs⟩
  obtain ⟨tail, htail, heq⟩ := ofLine_of_marks hmarks
  have hhead : (gap ++ text).head?.any isTabOrSpace = true := by
    obtain ⟨c, gap, rfl⟩ := List.exists_cons_of_ne_nil hne
    simpa using hgap c (by simp)
  have hstarts : startsIgnoring (gap ++ text ++ ("-->".toList ++ tail)) = false := by
    rwa [← Bool.not_eq_true, startsIgnoring_comment_iff hne hgap hshape htail]
  have hall : (gap ++ text).all isInLine = true := by
    refine List.all_eq_true.mpr fun c hc => isInLine_iff.mpr ⟨?_, ?_⟩
    · rintro rfl
      exact (List.mem_append.mp hc).elim hgap.cr_notMem hcr
    · rintro rfl
      exact hmarks.lf_notMem hline hc
  rw [heq, if_neg (mt isIgnoreBody_iff.mp hshape), directiveOf, Text.trim_append_left hgap.isSpaces,
    hhead, hstarts, hall]
  by_cases htext : Text.trim text = []
  · simp [htext, inlineDirective]
  · simp [htext, inlineDirective]

/-- A directive stands behind at least one tab or space, and it holds no CR. -/
theorem exists_of_directiveOf {rest body d : Text} (h : directiveOf rest body = .directive d) :
    ∃ gap text, body = gap ++ text ∧ gap ≠ [] ∧ IsIndent gap ∧ '\r' ∉ text ∧
      startsIgnoring rest = false ∧ d = Text.trim text := by
  simp only [directiveOf] at h
  split at h
  · next hcond =>
    rw [Bool.and_eq_true, Bool.and_eq_true, Bool.and_eq_true, Bool.not_eq_true'] at hcond
    obtain ⟨⟨⟨hhead, hstarts⟩, hall⟩, -⟩ := hcond
    refine ⟨Text.indent body, Text.dropIndent body, (Text.indent_append_dropIndent body).symm,
      takeWhile_ne_nil hhead, isIndent_indent body, ?_, hstarts, ?_⟩
    · intro hcr
      have hmem : '\r' ∈ body := (List.dropWhile_suffix _).subset hcr
      exact absurd (List.all_eq_true.mp hall _ hmem) (by decide)
    · injection h with h
      rw [← Text.trim_append_left (isIndent_indent body).isSpaces,
        Text.indent_append_dropIndent, h]
  · cases h

/-- **A line that is read as a directive carries it.** -/
theorem carries_of_ofLine {line d : Text} (h : ofLine line = .directive d) : Carries line d := by
  by_cases hmarks : ∃ body, Marks line body
  · obtain ⟨body, hbody⟩ := hmarks
    obtain ⟨tail, htail, heq⟩ := ofLine_of_marks hbody
    by_cases hignore : isIgnoreBody body = true
    · rw [heq, if_pos hignore] at h
      cases h
    · rw [heq, if_neg hignore] at h
      obtain ⟨gap, text, rfl, hne, hgap, hcr, hstarts, hd⟩ := exists_of_directiveOf h
      refine ⟨gap, text, hbody, hne, hgap, hcr, ?_, hd⟩
      rw [← startsIgnoring_comment_iff hne hgap (mt isIgnoreBody_iff.mpr hignore) htail, hstarts]
      exact Bool.false_ne_true
  · rw [ofLine_of_not_marks (not_exists.mp hmarks)] at h
    cases h

end Marker

/-! ### The line that counts -/

/-- The nearest line above that is not blank. -/
def NearestAbove (above : List Text) (line : Text) : Prop :=
  ∃ before blanks, above = before ++ line :: blanks ∧ ¬ IsBlank line ∧ ∀ l ∈ blanks, IsBlank l

theorem exists_nearestAbove_or (above : List Text) :
    (∃ line, NearestAbove above line) ∨ ∀ l ∈ above, IsBlank l := by
  induction above with
  | nil => exact .inr (by simp)
  | cons line above ih =>
    rcases ih with ⟨l, before, blanks, rfl, hl, hblanks⟩ | hall
    · exact .inl ⟨l, line :: before, blanks, rfl, hl, hblanks⟩
    · by_cases hline : IsBlank line
      · refine .inr fun l hl => ?_
        rcases List.mem_cons.mp hl with rfl | hl
        · exact hline
        · exact hall l hl
      · exact .inl ⟨line, [], above, rfl, hline, hall⟩

theorem NearestAbove.mem {above : List Text} {line : Text} (h : NearestAbove above line) :
    line ∈ above := by
  obtain ⟨before, blanks, rfl, -⟩ := h
  simp

namespace Marker

/-- Blank lines keep the marker that is in force. -/
theorem foldl_across_blank {ls : List Text} (h : ∀ l ∈ ls, IsBlank l) (m : Marker) :
    ls.foldl across m = m := by
  induction ls with
  | nil => rfl
  | cons line ls ih =>
    rw [List.foldl_cons, across, if_pos (isBlankLine_iff.mpr (h line (by simp)))]
    exact ih fun l hl => h l (by simp [hl])

/-- **The nearest line that is not blank decides.** -/
theorem foldl_across {above : List Text} {line : Text} (h : NearestAbove above line) (m : Marker) :
    above.foldl across m = ofLine line := by
  obtain ⟨before, blanks, rfl, hline, hblanks⟩ := h
  rw [List.foldl_append, List.foldl_cons, foldl_across_blank hblanks, across,
    if_neg (mt isBlankLine_iff.mp hline)]

end Marker

end FenceSync
