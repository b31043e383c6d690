import FenceSync.Proofs.Following
import FenceSync.Proofs.MarkerShapes

namespace FenceSync

/-!
# The way to a fence

At the start of a line the search looks for an opening fence, be it behind a marker and blank lines.
There are many ways to pass over a marker, but it says the same in each of them; and none of the
lines that are passed over begins a fence.

* `Search.findsOnly_fence` and `Search.finds_fence` lead from an opening fence to its end.
* `Search.findsOnly_marker` leads along all ways from a marker to a fence: what is captured is what
  `Marker.ofLine` reads.  `Search.finds_marker` says that one of them is found.
-/

theorem isInLine_of_isTabOrSpace {c : Char} (h : isTabOrSpace c = true) : isInLine c = true := by
  simp only [isTabOrSpace, Bool.or_eq_true, beq_iff_eq] at h
  rcases h with rfl | rfl <;> decide

theorem isInLine_of_isLanguageChar {c : Char} (h : isLanguageChar c = true) :
    isInLine c = true := by
  rw [isInLine_iff]
  refine ⟨?_, ?_⟩
  · rintro rfl
    exact absurd h (by decide)
  · rintro rfl
    exact absurd h (by decide)

theorem isInLine_of_isIgnoreSeparator {c : Char} (h : Marker.isIgnoreSeparator c = true) :
    isInLine c = true := by
  rw [Marker.isIgnoreSeparator, Bool.or_eq_true, beq_iff_eq] at h
  rcases h with h | rfl
  · exact isInLine_of_isTabOrSpace h
  · decide

namespace Fence

/-- What looks like an opening fence opens a fence. -/
theorem exists_opens {i info ending : Text} (hi : IsIndent i)
    (hinfo : ∀ c ∈ info, isInLine c = true) (hending : ending ∈ lineEndings) :
    ∃ f : Fence, f.Opens (i ++ fenceMark ++ info ++ ending) := by
  refine ⟨⟨i, (info ++ ending).takeWhile isLanguageChar⟩, info, ending, rfl, hi, ?_, hending,
    (info ++ ending).dropWhile isLanguageChar, ?_, ?_, head?_dropWhile_false _ _⟩
  · intro c hc
    exact isInLine_iff.mp (hinfo c hc)
  · exact List.takeWhile_append_dropWhile.symm
  · intro c hc
    exact List.mem_takeWhile_imp hc

theorem Opens.indent_append {f : Fence} {line : Text} (h : f.Opens line) (t : Text) :
    Text.indent (line ++ t) = f.indent := by
  obtain ⟨info, ending, rfl, hi, -⟩ := h
  rw [List.append_assoc, List.append_assoc, List.append_assoc]
  exact FenceSync.indent_append hi (head?_fenceMark_append _)

end Fence

namespace Search

open Trial

/-! ### From an opening fence to its end -/

section
variable {β : Type} {k : Text → Text → Text → Trial β}

/-- What is passed over as an opening fence is one. -/
theorem findsOnly_opening {r : Option β} {t : Text}
    (h : ∀ (f : Fence) line info behind u, t = line ++ u → f.Opens line →
      FindsOnly (k info behind u) r) : FindsOnly (opening k t) r := by
  refine FindsOnly.many ?_
  rintro i u rfl hi
  refine FindsOnly.word ?_
  rintro info rfl
  refine FindsOnly.many ?_
  rintro language behind rfl hlanguage
  refine FindsOnly.many ?_
  rintro more u rfl hmore
  refine FindsOnly.newline ?_
  rintro ending hending u rfl
  -- What is passed over as a language and what follows it make up the info string.
  have hinfo : ∀ c ∈ language ++ more, isInLine c = true := by
    intro c hc
    rcases List.mem_append.mp hc with hc | hc
    · exact isInLine_of_isLanguageChar (hlanguage c hc)
    · exact hmore c hc
  obtain ⟨f, hopens⟩ := Fence.exists_opens hi hinfo hending
  exact h f _ _ _ u (by simp) hopens

theorem dropWhile_dropWhile_of_imp {p q : Char → Bool} (h : ∀ c, q c = true → p c = true)
    (t : Text) : (t.dropWhile q).dropWhile p = t.dropWhile p := by
  induction t with
  | nil => rfl
  | cons c t ih =>
    by_cases hc : q c = true
    · rw [List.dropWhile_cons_of_pos hc, ih, List.dropWhile_cons_of_pos (h c hc)]
    · rw [List.dropWhile_cons_of_neg hc]

/-- An opening fence is passed over, and its language is known then. -/
theorem finds_opening {x : β} {f : Fence} {line t : Text} (hopens : f.Opens line)
    (h : ∀ info behind, Text.upTo info behind = f.language → Finds (k info behind t) x) :
    Finds (opening k (line ++ t)) x := by
  obtain ⟨info, ending, rfl, hi, hinfo, hending, more, hmore, hlanguage, hnext⟩ := hopens
  have hbehind : more ≠ [] := by
    rintro rfl
    have hlf : '\n' ∈ f.language ++ [] := by
      rw [← hmore]
      exact List.mem_append_right _ (Fence.isWhole_lineEnding hending).lf_mem
    rw [List.append_nil] at hlf
    exact absurd (hlanguage '\n' hlf) (by decide)
  have hnext' : ∀ c ∈ (more ++ t).head?, isLanguageChar c = false := by
    rwa [List.head?_append_of_ne_nil more hbehind]
  have hcut : f.language ++ (more ++ t) = info ++ (ending ++ t) := by
    rw [← List.append_assoc, ← hmore, List.append_assoc]
  have hhead : ∀ c ∈ (ending ++ t).head?, isInLine c = false := by
    rw [List.head?_append_of_ne_nil ending (Fence.isWhole_lineEnding hending).ne_nil]
    exact Fence.head?_lineEnding hending
  -- What follows the language is the rest of the info string.
  have hrest : (more ++ t).dropWhile isInLine = ending ++ t := by
    rw [← (Fence.takeWhile_append_eq hlanguage hnext').2, hcut,
      dropWhile_dropWhile_of_imp fun c hc => isInLine_of_isLanguageChar hc]
    exact (Fence.takeWhile_append_eq (fun c hc => isInLine_iff.mpr (hinfo c hc)) hhead).2
  have hline : f.indent ++ fenceMark ++ info ++ ending ++ t =
      f.indent ++ (fenceMark ++ (f.language ++ (more ++ t))) := by
    rw [hcut]
    simp
  -- The longest ways are tried first, and they lead to the end of the line.
  rw [hline]
  refine Finds.many_append ?_ hi (head?_fenceMark_append _)
  refine Finds.word ?_ fenceMark
  refine Finds.many_append ?_ hlanguage hnext'
  refine Finds.many ?_
  rw [hrest]
  exact (h _ _ (Text.upTo_append _ _)).newline hending

end

/-- A fence that is never closed leads to nothing. -/
theorem findsOnly_fence (c : Capture) {ls : List Text} (hls : Text.lines ls.flatten = ls)
    (h : ∀ line later, ls = line :: later → ∀ f : Fence, f.Opens line →
      ∀ l ∈ later, ¬ Closes f.indent l) : FindsOnly (fence c ls.flatten) none := by
  refine findsOnly_opening ?_
  intro f line info behind u ht hopens
  have hcut : ls = line :: Text.lines u := by
    rw [← hls, ht, Text.lines_isWhole_append hopens.isWhole]
  have hu : Text.lines (Text.lines u).flatten = Text.lines u := by rw [Text.flatten_lines]
  rw [ht, hopens.indent_append, ← Text.flatten_lines u]
  exact findsOnly_interior hopens.isIndent hu (h line _ hcut f hopens)

/-- **At an opening fence that is closed** a search finds the block, with the marker that was
    captured. -/
theorem finds_fence (c : Capture) {f : Fence} {line closer : Text} {inner later : List Text}
    (hopens : f.Opens line)
    (hls : Text.lines (inner ++ closer :: later).flatten = inner ++ closer :: later)
    (hinner : ∀ l ∈ inner, ¬ Closes f.indent l) (hcloser : Closes f.indent closer) :
    Finds (fence c (line :: (inner ++ closer :: later)).flatten)
      ⟨⟨c.marker, f, inner.flatten⟩, lineFeed closer ++ later.flatten⟩ := by
  have hcode : Text.upTo (inner ++ closer :: later).flatten (closer :: later).flatten =
      inner.flatten := by
    rw [List.flatten_append, Text.upTo_append]
  rw [List.flatten_cons, fence, hopens.indent_append]
  refine finds_opening hopens ?_
  intro info behind hlanguage
  have hinterior := finds_interior (k := fun closing rest =>
    (⟨⟨c.marker, f, Text.upTo (inner ++ closer :: later).flatten closing⟩, rest⟩ : Hit))
    hopens.isIndent hls hinner hcloser
  rw [hcode] at hinterior
  rw [hlanguage]
  exact hinterior

/-! ### Blank lines and the end of a marker -/

/-- A line that holds no fence, and is followed by others. -/
def Passes (line : Text) : Prop := Text.IsWhole line ∧ ¬ BeginsFence line

theorem passes_of_isBlank {line : Text} (h : IsBlank line) : Passes line := by
  obtain ⟨i, ending, rfl, hi, hending⟩ := h
  refine ⟨(Fence.isWhole_lineEnding hending).append_left hi.lf_notMem, ?_⟩
  rw [BeginsFence, dropIndent_append hi (head?_closingEnding (List.mem_append_right _ hending))]
  rintro ⟨u, rfl⟩
  exact absurd (Fence.head?_lineEnding hending '\x60' rfl) (by decide)

theorem passes_of_afterKeyword? {line said : Text} (hline : Text.IsWhole line)
    (h : Marker.afterKeyword? line = some said) : Passes line := by
  obtain ⟨i, j, rfl, hi, -⟩ := Marker.afterKeyword?_eq_some_iff.mp h
  refine ⟨hline, ?_⟩
  rw [BeginsFence, dropIndent_append hi (forall_head?_append rfl _)]
  rintro ⟨u, hu⟩
  cases hu

section
variable {β : Type} {k : Text → Trial β} {r : Option β} {size : Nat} {t : Text}

/-- What is passed over as a blank line is one. -/
theorem findsOnly_blank (h : ∀ line u, t = line ++ u → IsBlank line → FindsOnly (k u) r) :
    FindsOnly (blanks (newline k) t) r := by
  refine FindsOnly.many ?_
  rintro i u rfl hi
  refine FindsOnly.newline ?_
  rintro ending hending u rfl
  exact h (i ++ ending) u (List.append_assoc i ending u).symm ⟨i, ending, rfl, hi, hending⟩

theorem findsOnly_blankLines
    (h : ∀ (ls : List Text) u, t = ls.flatten ++ u → (∀ line ∈ ls, IsBlank line) →
      FindsOnly (k u) r) :
    FindsOnly (blankLines k size t) r := by
  induction size generalizing t with
  | zero => exact h [] t rfl (by simp)
  | succ size ih =>
    refine FindsOnly.orElse (findsOnly_blank ?_) (h [] t rfl (by simp))
    rintro line u rfl hline
    refine ih ?_
    rintro ls u rfl hls
    exact h (line :: ls) u (by simp) (List.forall_mem_cons.mpr ⟨hline, hls⟩)

/-- The end of a marker is the end of its line. -/
theorem findsOnly_markerEnd
    (h : ∀ said blanks (ls : List Text) u, t = said ++ (ls.flatten ++ u) →
      Marker.beforeEnd? said = some blanks → IsIndent blanks → (∀ line ∈ ls, IsBlank line) →
        FindsOnly (k u) r) :
    FindsOnly (markerEnd size k t) r := by
  refine FindsOnly.many ?_
  rintro i u rfl hi
  refine FindsOnly.word ?_
  rintro u rfl
  refine findsOnly_blank ?_
  rintro behind u rfl ⟨j, ending, rfl, hj, hending⟩
  refine findsOnly_blankLines ?_
  rintro ls u rfl hls
  exact h (i ++ ("-->".toList ++ (j ++ ending))) i ls u (by simp)
    (Marker.beforeEnd?_eq_some_iff.mpr ⟨j, ending, rfl, hj, hending⟩) hi hls

theorem finds_blank {x : β} {line : Text} (hline : IsBlank line) (h : Finds (k t) x) :
    Finds (blanks (newline k) (line ++ t)) x := by
  obtain ⟨i, ending, rfl, hi, hending⟩ := hline
  have hhead : ∀ c ∈ (ending ++ t).head?, isTabOrSpace c = false := by
    rw [List.head?_append_of_ne_nil ending (Fence.isWhole_lineEnding hending).ne_nil]
    exact head?_closingEnding (List.mem_append_right _ hending)
  rw [List.append_assoc]
  exact Finds.many_append (h.newline hending) hi hhead

variable {bs : List Text} {x : β} (hbs : ∀ b ∈ bs, IsBlank b) (hlen : bs.length ≤ size)
  (ht : ∀ b u, t = b ++ u → ¬ IsBlank b)
include hbs hlen ht

/-- All blank lines are passed over first. -/
theorem finds_blankLines (h : Finds (k t) x) : Finds (blankLines k size (bs.flatten ++ t)) x := by
  induction size generalizing bs with
  | zero =>
    rw [List.length_eq_zero_iff.mp (Nat.le_zero.mp hlen)]
    exact h
  | succ size ih =>
    cases bs with
    | nil => exact Finds.orElse_right (findsOnly_blank fun b u hu hb => absurd hb (ht b u hu)) h
    | cons b bs =>
      obtain ⟨hb, hbs'⟩ := List.forall_mem_cons.mp hbs
      rw [List.flatten_cons, List.append_assoc]
      exact (finds_blank hb (ih hbs' (Nat.le_of_succ_le_succ hlen))).orElse_left _

theorem finds_markerEnd {said blanks : Text} (hsaid : Marker.beforeEnd? said = some blanks)
    (hblanks : IsIndent blanks) (h : Finds (k t) x) :
    Finds (markerEnd size k (said ++ (bs.flatten ++ t))) x := by
  obtain ⟨behind, ending, rfl, hbehind, hending⟩ := Marker.beforeEnd?_eq_some_iff.mp hsaid
  rw [List.append_assoc, List.append_assoc]
  refine Finds.many_append ?_ hblanks (forall_head?_append rfl _)
  refine Finds.word ?_ _
  exact finds_blank ⟨behind, ending, rfl, hbehind, hending⟩ (finds_blankLines hbs hlen ht h)

end

/-! ### What a marker says -/

section
variable {β : Type} {k : Capture → Text → Trial β} {r : Option β} {size : Nat} {t : Text}

theorem lf_notMem_of_inLine {t : Text} (h : ∀ c ∈ t, isInLine c = true) : '\n' ∉ t := by
  intro hlf
  exact absurd (h '\n' hlf) (by decide)

/-- A marker that is passed over as one that asks to leave a block alone is one. -/
theorem findsOnly_ignoring
    (h : ∀ said body (ls : List Text) u, t = said ++ (ls.flatten ++ u) → '\n' ∉ body →
      Marker.beforeEnd? said = some body → Marker.isIgnoreBody body = true →
        (∀ line ∈ ls, IsBlank line) → FindsOnly (k .ignoring u) r) :
    FindsOnly (ignoring size k t) r := by
  refine FindsOnly.manyOne ?_
  rintro separators u rfl hne hseparators
  refine FindsOnly.word ?_
  rintro u rfl
  refine findsOnly_markerEnd ?_
  rintro said blanks ls u rfl hsaid hblanks hls
  have hbody := Marker.beforeEnd?_append hsaid (separators ++ Marker.ignoreWord)
  refine h _ _ ls u (by simp) ?_ hbody ?_ hls
  · simp only [List.mem_append, not_or]
    exact ⟨⟨lf_notMem_of_inLine fun c hc => isInLine_of_isIgnoreSeparator (hseparators c hc),
      by decide⟩, hblanks.lf_notMem⟩
  · exact Marker.isIgnoreBody_iff.mpr
      ⟨separators, blanks, List.append_assoc _ _ _, hne, hseparators, hblanks⟩

/-- **What is captured of a directive** is what the reading makes of its line. -/
theorem Capture.marker_directive {gap text blanks said more : Text} (hne : gap ≠ [])
    (hgap : IsIndent gap) (htext : ∀ c ∈ text, isInLine c = true) (hblanks : IsIndent blanks)
    (hsaid : Marker.beforeEnd? said = some blanks)
    (hstarts : Marker.startsIgnoring (text ++ (said ++ more)) = false) :
    (Capture.directive (text ++ (said ++ more)) (said ++ more)).marker =
      Marker.directiveOf (gap ++ (text ++ said)) (gap ++ (text ++ blanks)) := by
  have hwhole : Text.IsWhole (text ++ said) :=
    (Marker.isWhole_of_beforeEnd? hsaid hblanks.lf_notMem).append_left (lf_notMem_of_inLine htext)
  rw [← List.append_assoc, Marker.startsIgnoring_isWhole_append hwhole,
    ← Marker.startsIgnoring_append hgap] at hstarts
  have hhead : (gap ++ (text ++ blanks)).head?.any isTabOrSpace = true := by
    obtain ⟨c, gap, rfl⟩ := List.exists_cons_of_ne_nil hne
    exact hgap c (by simp)
  have hline : (gap ++ (text ++ blanks)).all isInLine = true := by
    rw [List.all_append, List.all_append, Bool.and_eq_true, Bool.and_eq_true]
    exact ⟨List.all_eq_true.mpr fun c hc => isInLine_of_isTabOrSpace (hgap c hc),
      List.all_eq_true.mpr htext,
      List.all_eq_true.mpr fun c hc => isInLine_of_isTabOrSpace (hblanks c hc)⟩
  have htrim : Text.trim (gap ++ (text ++ blanks)) = Text.trim text := by
    rw [Text.trim_append_left hgap.isSpaces, Text.trim_append_right hblanks.isSpaces]
  rw [Capture.marker, Text.upTo_append, Marker.directiveOf, hhead, hstarts, hline, htrim]
  by_cases hnil : Text.trim text = [] <;> simp [hnil]

/-- A marker that is passed over as one with a directive has what is captured. -/
theorem findsOnly_directive
    (h : ∀ c said body (ls : List Text) u, t = said ++ (ls.flatten ++ u) → '\n' ∉ body →
      Marker.beforeEnd? said = some body → c.marker = Marker.directiveOf said body →
        (∀ line ∈ ls, IsBlank line) → FindsOnly (k c u) r) :
    FindsOnly (directive size k t) r := by
  refine FindsOnly.manyOne ?_
  rintro gap t rfl hne hgap
  split
  · exact findsOnly_fail r
  · next hstarts =>
    refine (FindsOnly.few ?_).retreat
    rintro text u rfl htext
    refine findsOnly_markerEnd ?_
    rintro said blanks ls u rfl hsaid hblanks hls
    have hbody := Marker.beforeEnd?_append (Marker.beforeEnd?_append hsaid text) gap
    refine h _ _ _ ls u (by simp) ?_ hbody
      (Capture.marker_directive hne hgap htext hblanks hsaid (Bool.eq_false_iff.mpr hstarts)) hls
    simp only [List.mem_append, not_or]
    exact ⟨IsIndent.lf_notMem hgap, lf_notMem_of_inLine htext, hblanks.lf_notMem⟩

/-- A marker is a line of its own, only blank lines may follow it, and it has what `Marker.ofLine`
    reads; the directive of a line that asks to leave a block alone may be captured, but is not
    looked for first. -/
theorem findsOnly_marker
    (h : ∀ c line (ls : List Text) u, t = line ++ (ls.flatten ++ u) → Passes line →
      isBlankLine line = false →
      (c.marker = Marker.ofLine line ∨ Marker.ofLine line = .ignoreNext) →
        (∀ line ∈ ls, IsBlank line) → FindsOnly (k c u) r) :
    FindsOnly (marker size k t) r := by
  refine FindsOnly.many ?_
  rintro i u rfl hi
  refine FindsOnly.word ?_
  rintro u rfl
  refine FindsOnly.many ?_
  rintro j u rfl hj
  refine FindsOnly.word ?_
  rintro u rfl
  -- Whatever follows the keyword, the marker ends with the line.
  have hsaid : ∀ c said body (ls : List Text) v, u = said ++ (ls.flatten ++ v) → '\n' ∉ body →
      Marker.beforeEnd? said = some body →
      (Marker.isIgnoreBody body = false → c.marker = Marker.directiveOf said body) →
        (∀ line ∈ ls, IsBlank line) → FindsOnly (k c v) r := by
    rintro c said body ls v rfl hlf hbody hc hls
    have hkey : Marker.afterKeyword? (i ++ ("<!--".toList ++ (j ++ (Marker.keyword ++ said)))) =
        some said := Marker.afterKeyword?_eq_some_iff.mpr ⟨i, j, rfl, hi, hj⟩
    have hwhole := Marker.isWhole_of_afterKeyword? hkey (Marker.isWhole_of_beforeEnd? hbody hlf)
    refine h c _ ls v (by simp) (passes_of_afterKeyword? hwhole hkey)
      (Marker.isBlankLine_of_afterKeyword? hkey) ?_ hls
    rw [Marker.ofLine_of_said hkey hbody]
    cases hignore : Marker.isIgnoreBody body with
    | true => exact .inr rfl
    | false => exact .inl (hc hignore)
  refine FindsOnly.orElse (findsOnly_ignoring ?_) (findsOnly_directive ?_)
  · rintro said body ls v hu hlf hbody hignore hls
    exact hsaid .ignoring said body ls v hu hlf hbody (fun hnot => by rw [hignore] at hnot; cases hnot)
      hls
  · rintro c said body ls v hu hlf hbody hc hls
    exact hsaid c said body ls v hu hlf hbody (fun _ => hc) hls

variable {bs : List Text} {x : β} (hbs : ∀ b ∈ bs, IsBlank b) (hlen : bs.length ≤ size)
  (ht : ∀ b u, t = b ++ u → ¬ IsBlank b)
include hbs hlen ht

/-- A marker that asks to leave a block alone is passed over as one. -/
theorem finds_ignoring {said body : Text} (hsaid : Marker.beforeEnd? said = some body)
    (hbody : Marker.isIgnoreBody body = true) (h : Finds (k .ignoring t) x) :
    Finds (ignoring size k (said ++ (bs.flatten ++ t))) x := by
  obtain ⟨separators, blanks, rfl, hne, hseparators, hblanks⟩ := Marker.isIgnoreBody_iff.mp hbody
  obtain ⟨behind, ending, rfl, hbehind, hending⟩ := Marker.beforeEnd?_eq_some_iff.mp hsaid
  have hend : Marker.beforeEnd? (blanks ++ ("-->".toList ++ (behind ++ ending))) = some blanks :=
    Marker.beforeEnd?_eq_some_iff.mpr ⟨behind, ending, rfl, hbehind, hending⟩
  have hrest := (finds_markerEnd hbs hlen ht hend hblanks h).word Marker.ignoreWord
  have hall := Finds.manyOne_append hrest hne hseparators (forall_head?_append rfl _)
  rw [ignoring]
  simpa only [List.append_assoc] using hall

omit hbs hlen ht in
/-- The parts of what a line with a directive has behind the keyword: tabs and spaces, the directive,
    and the end of the marker. -/
theorem exists_of_directiveOf_ne_absent {said body : Text}
    (hsaid : Marker.beforeEnd? said = some body) (h : Marker.directiveOf said body ≠ .absent) :
    ∃ gap text tail, said = gap ++ (text ++ tail) ∧ body = gap ++ text ∧
      Marker.beforeEnd? tail = some [] ∧ IsIndent gap ∧ gap ≠ [] ∧ text ≠ [] ∧
      (∀ c ∈ text.head?, isTabOrSpace c = false) ∧ (∀ c ∈ text, isInLine c = true) ∧
      Marker.startsIgnoring (text ++ tail) = false := by
  obtain ⟨hhead, hstarts, hline, htrim⟩ : body.head?.any isTabOrSpace = true ∧
      Marker.startsIgnoring said = false ∧ body.all isInLine = true ∧ Text.trim body ≠ [] := by
    by_contra hnot
    refine h (if_neg ?_)
    simpa [and_assoc] using hnot
  obtain ⟨behind, ending, rfl, hbehind, hending⟩ := Marker.beforeEnd?_eq_some_iff.mp hsaid
  have hgap : IsIndent (Text.indent body) := isIndent_indent body
  have hcut : body = Text.indent body ++ Text.dropIndent body :=
    (Text.indent_append_dropIndent body).symm
  have hcut' : body ++ ("-->".toList ++ (behind ++ ending)) =
      Text.indent body ++ (Text.dropIndent body ++ ("-->".toList ++ (behind ++ ending))) := by
    rw [← List.append_assoc (Text.indent body), ← hcut]
  refine ⟨Text.indent body, Text.dropIndent body, "-->".toList ++ (behind ++ ending), hcut', hcut,
    Marker.beforeEnd?_eq_some_iff.mpr ⟨behind, ending, rfl, hbehind, hending⟩, hgap,
    takeWhile_ne_nil hhead, ?_, Fence.head?_dropWhile_false _ _, ?_, ?_⟩
  · intro hnil
    rw [hcut, hnil, Text.trim_append_left hgap.isSpaces] at htrim
    exact htrim rfl
  · intro c hc
    refine List.all_eq_true.mp hline c ?_
    rw [hcut]
    exact List.mem_append_right _ hc
  · rwa [hcut', Marker.startsIgnoring_append hgap] at hstarts

/-- **A marker with a directive** is passed over as one, and the directive is captured. -/
theorem finds_directive {said body : Text} (hsaid : Marker.beforeEnd? said = some body)
    (hbody : Marker.directiveOf said body ≠ .absent)
    (h : ∀ c, c.marker = Marker.directiveOf said body → Finds (k c t) x)
    (hall : ∀ c (ls : List Text) u, bs.flatten ++ t = ls.flatten ++ u → (∀ l ∈ ls, IsBlank l) →
      c.marker = Marker.directiveOf said body → FindsOnly (k c u) (some x)) :
    Finds (directive size k (said ++ (bs.flatten ++ t))) x := by
  obtain ⟨gap, text, tail, rfl, rfl, htail, hgap, hne, hnil, hfirst, hinline, hstarts⟩ :=
    exists_of_directiveOf_ne_absent hsaid hbody
  have hwhole : Text.IsWhole (text ++ tail) :=
    (Marker.isWhole_of_beforeEnd? htail (by simp)).append_left (lf_notMem_of_inLine hinline)
  have hcut : gap ++ (text ++ tail) ++ (bs.flatten ++ t) =
      gap ++ (text ++ (tail ++ (bs.flatten ++ t))) := by simp
  have hbehind : Marker.startsIgnoring (text ++ (tail ++ (bs.flatten ++ t))) = false := by
    rw [← List.append_assoc, Marker.startsIgnoring_isWhole_append hwhole, hstarts]
  have hfirst' : ∀ c ∈ (text ++ (tail ++ (bs.flatten ++ t))).head?, isTabOrSpace c = false := by
    rwa [List.head?_append_of_ne_nil text hnil]
  rw [directive, hcut]
  refine Finds.manyOne_append ?_ hne hgap hfirst'
  rw [hbehind, if_neg Bool.false_ne_true]
  refine (Finds.few_append ?_ hnil hinline ?_).retreat
  · refine finds_markerEnd hbs hlen ht htail (by simp [IsIndent]) (h _ ?_)
    have hmarker := Capture.marker_directive hne hgap hinline (by simp [IsIndent]) htail hbehind
    rwa [List.append_nil] at hmarker
  · intro text' u hu htext'
    refine findsOnly_markerEnd ?_
    rintro tail' blanks ls v rfl htail' hblanks hls
    -- Every way passes over the same line, and so it captures the same up to white space.
    have hwhole' : Text.IsWhole (text' ++ tail') :=
      (Marker.isWhole_of_beforeEnd? htail' hblanks.lf_notMem).append_left
        (lf_notMem_of_inLine htext')
    have hsame : (text ++ tail) ++ (bs.flatten ++ t) = (text' ++ tail') ++ (ls.flatten ++ v) := by
      simpa using hu
    obtain ⟨hline, hrest⟩ := hwhole.append_inj hwhole' hsame
    have hbody' := Marker.beforeEnd?_append htail' text'
    rw [← hline, Marker.beforeEnd?_append htail text, Option.some.injEq, List.append_nil] at hbody'
    refine hall _ ls v hrest hls ?_
    rw [hu] at hbehind ⊢
    rw [Capture.marker_directive hne hgap htext' hblanks htail' hbehind, hline, hbody']

/-- **A marker is passed over**, and what is captured is what `Marker.ofLine` reads. -/
theorem finds_marker {line : Text} (hline : Text.IsWhole line)
    (hsome : Marker.ofLine line ≠ .absent)
    (h : ∀ c, c.marker = Marker.ofLine line → Finds (k c t) x)
    (hall : ∀ c (ls : List Text) u, bs.flatten ++ t = ls.flatten ++ u → (∀ l ∈ ls, IsBlank l) →
      c.marker = Marker.ofLine line → FindsOnly (k c u) (some x)) :
    Finds (marker size k (line ++ (bs.flatten ++ t))) x := by
  obtain ⟨said, body, hkey, hbody⟩ := Marker.exists_said_of_ofLine hsome
  have hof := Marker.ofLine_of_said hkey hbody
  have hlf : '\n' ∉ body := by
    obtain ⟨behind, ending, rfl, hbehind, hending⟩ := Marker.beforeEnd?_eq_some_iff.mp hbody
    exact (Marks.iff_exists.mpr ⟨behind, ending, hkey, hbehind, hending⟩).lf_notMem (.inl hline)
  obtain ⟨i, j, rfl, hi, hj⟩ := Marker.afterKeyword?_eq_some_iff.mp hkey
  simp only [List.append_assoc]
  refine Finds.many_append ?_ hi (forall_head?_append rfl _)
  refine Finds.word ?_ _
  refine Finds.many_append ?_ hj (forall_head?_append rfl _)
  refine Finds.word ?_ _
  cases hignore : Marker.isIgnoreBody body with
  | true =>
    rw [hignore, if_pos rfl] at hof
    exact (finds_ignoring hbs hlen ht hbody hignore (h .ignoring hof.symm)).orElse_left _
  | false =>
    rw [hignore, if_neg Bool.false_ne_true] at hof
    rw [hof] at h hall hsome
    refine Finds.orElse_right (findsOnly_ignoring ?_)
      (finds_directive hbs hlen ht hbody hsome h hall)
    -- The line does not ask to leave a block alone, and so there is no such way.
    rintro said' body' ls u hu hlf' hbody' hignore' -
    obtain ⟨rfl, -⟩ := (Marker.isWhole_of_beforeEnd? hbody hlf).append_inj
      (Marker.isWhole_of_beforeEnd? hbody' hlf') hu
    rw [hbody, Option.some.injEq] at hbody'
    rw [hbody', hignore'] at hignore
    cases hignore

end

end Search

end FenceSync
