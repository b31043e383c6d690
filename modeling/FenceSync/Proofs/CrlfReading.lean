import FenceSync.Proofs.Crlf
import FenceSync.Proofs.Reading

namespace FenceSync

/-!
# Documents with CR LF in the place of LF

A document without CR reads in the same way in both forms.

* `Fence.ofLine?_crlf` and `closesIndent_crlf` are about fences, `Marker.ofLine_crlf` about markers.
* `Greedy.crlf` says that the lines of both forms have the same pairs.
* `Document.ofText_crlf` says that the documents have the same sections.
-/

/-! ### Fences -/

/-- An ending of a line stays one, and nothing becomes one. -/
theorem crlf_mem_lineEndings {t : Text} (h : '\r' ∉ t) :
    Text.crlf t ∈ lineEndings ↔ t ∈ lineEndings := by
  have hlf : Text.crlf ['\n'] = ['\r', '\n'] := rfl
  simp only [lineEndings, List.mem_cons, List.not_mem_nil, or_false]
  constructor
  · rintro (ht | ht)
    · exact absurd (by rw [ht]; rfl) (Text.head?_crlf t)
    · exact .inl (Text.crlf_injective (ht.trans hlf.symm))
  · rintro (rfl | rfl)
    · exact .inr rfl
    · simp at h

theorem crlf_mem_closingEndings {t : Text} (h : '\r' ∉ t) :
    Text.crlf t ∈ closingEndings ↔ t ∈ closingEndings := by
  rw [closingEndings, List.mem_append, List.mem_append, crlf_mem_lineEndings h]
  refine or_congr_left ?_
  simp only [List.mem_cons, List.not_mem_nil, or_false]
  constructor
  · rintro (ht | ht)
    · exact .inl (Text.crlf_injective ht)
    · have hcr : Text.crlf ['\r'] = ['\r'] := rfl
      exact .inr (Text.crlf_injective (ht.trans hcr.symm))
  · rintro (rfl | rfl)
    · exact .inl rfl
    · exact .inr rfl

theorem cr_notMem_of_append {s t : Text} (h : '\r' ∉ s ++ t) : '\r' ∉ t :=
  fun ht => h (List.mem_append_right _ ht)

theorem cr_notMem_dropWhile {t : Text} (h : '\r' ∉ t) (p : Char → Bool) :
    '\r' ∉ t.dropWhile p := fun hc => h ((List.dropWhile_suffix p).subset hc)

theorem cr_notMem_dropIndent {t : Text} (h : '\r' ∉ t) : '\r' ∉ Text.dropIndent t :=
  cr_notMem_dropWhile h _

theorem fenceMark_inLine : ∀ c ∈ fenceMark, c ≠ '\r' ∧ c ≠ '\n' := inLine_of_all rfl

theorem Fence.ofLine?_crlf {line : Text} (h : '\r' ∉ line) :
    Fence.ofLine? (Text.crlf line) = Fence.ofLine? line := by
  rw [Fence.ofLine?, Text.dropIndent_crlf, Text.after?_crlf fenceMark_inLine, Text.indent_crlf,
    Fence.ofLine?]
  cases hinfo : Text.after? fenceMark (Text.dropIndent line) with
  | none => rfl
  | some info =>
    have hcr : '\r' ∉ info := by
      have hdrop := cr_notMem_dropIndent h
      rw [Text.eq_append_of_after? hinfo] at hdrop
      exact cr_notMem_of_append hdrop
    simp only [Option.map_some]
    rw [Text.dropWhile_crlf rfl, Text.takeWhile_crlf_eq rfl rfl]
    simp only [crlf_mem_lineEndings (cr_notMem_dropWhile hcr _)]

theorem closesIndent_crlf {i line : Text} (hi : IsIndent i) (h : '\r' ∉ line) :
    closesIndent i (Text.crlf line) = closesIndent i line := by
  have hopening : ∀ c ∈ i ++ fenceMark, c ≠ '\r' ∧ c ≠ '\n' := by
    intro c hc
    rcases List.mem_append.mp hc with hc | hc
    · exact ⟨fun h => hi.cr_notMem (h ▸ hc), fun h => hi.lf_notMem (h ▸ hc)⟩
    · exact fenceMark_inLine c hc
  rw [closesIndent, Text.after?_crlf hopening, closesIndent]
  cases hrest : Text.after? (i ++ fenceMark) line with
  | none => rfl
  | some rest =>
    have hcr : '\r' ∉ rest := by
      rw [Text.eq_append_of_after? hrest] at h
      exact cr_notMem_of_append h
    simp only [Option.map_some]
    rw [Text.dropIndent_crlf, decide_eq_decide]
    exact crlf_mem_closingEndings (cr_notMem_dropIndent hcr)

theorem isBlankLine_crlf {line : Text} (h : '\r' ∉ line) :
    isBlankLine (Text.crlf line) = isBlankLine line := by
  rw [isBlankLine, isBlankLine, Text.dropIndent_crlf, decide_eq_decide]
  exact crlf_mem_lineEndings (cr_notMem_dropIndent h)

theorem Fence.opens_crlf_iff {f : Fence} {line : Text} (h : '\r' ∉ line) :
    f.Opens (Text.crlf line) ↔ f.Opens line := by
  rw [← Fence.ofLine?_eq_some_iff, ← Fence.ofLine?_eq_some_iff, Fence.ofLine?_crlf h]

theorem closes_crlf_iff {i line : Text} (hi : IsIndent i) (h : '\r' ∉ line) :
    Closes i (Text.crlf line) ↔ Closes i line := by
  rw [← closesIndent_iff, ← closesIndent_iff, closesIndent_crlf hi h]

/-! ### Markers -/

namespace Marker

/-- What stands before the newline of a line is the same in both forms. -/
theorem beforeNewline?_crlf {t : Text} (h : Text.IsLine t) :
    beforeNewline? (Text.crlf t) = beforeNewline? t := by
  obtain ⟨body, hlf, hcr, rfl | rfl⟩ := h
  · rw [Text.crlf_eq_self hlf]
  · have hnone : Text.before? ['\r', '\n'] (body ++ ['\n']) = none := by
      refine Text.before?_eq_none fun s hs => hcr ?_
      have hs' : body ++ ['\n'] = (s ++ ['\r']) ++ ['\n'] := by rw [hs]; simp
      rw [List.append_cancel_right hs']
      simp
    have hcrlf : Text.crlf (body ++ ['\n']) = body ++ ['\r', '\n'] := by
      rw [Text.crlf_append, Text.crlf_eq_self hlf]
      rfl
    rw [beforeNewline?, beforeNewline?, hnone, hcrlf, Text.before?_eq_some_iff.mpr rfl,
      Text.before?_eq_some_iff.mpr rfl]
    rfl

theorem isLine_dropIndent {t : Text} (h : Text.IsLine t) : Text.IsLine (Text.dropIndent t) := by
  rw [← Text.indent_append_dropIndent t] at h
  exact h.of_append

theorem isLine_after? {opening t rest : Text} (h : Text.IsLine t)
    (hrest : Text.after? opening t = some rest) : Text.IsLine rest := by
  rw [Text.eq_append_of_after? hrest] at h
  exact h.of_append

theorem afterKeyword?_crlf (line : Text) :
    afterKeyword? (Text.crlf line) = (afterKeyword? line).map Text.crlf := by
  rw [afterKeyword?, afterKeyword?, Text.dropIndent_crlf, Text.after?_crlf (inLine_of_all (by decide))]
  cases Text.after? "<!--".toList (Text.dropIndent line) with
  | none => rfl
  | some t =>
    simp only [Option.map_some, Option.bind_some]
    rw [Text.dropIndent_crlf, Text.after?_crlf (inLine_of_all (by decide))]

theorem isLine_afterKeyword? {line rest : Text} (h : Text.IsLine line)
    (hrest : afterKeyword? line = some rest) : Text.IsLine rest := by
  rw [afterKeyword?, Option.bind_eq_some_iff] at hrest
  obtain ⟨t, ht, hrest⟩ := hrest
  exact isLine_after? (isLine_dropIndent (isLine_after? (isLine_dropIndent h) ht)) hrest

theorem startsIgnoring_crlf (t : Text) : startsIgnoring (Text.crlf t) = startsIgnoring t := by
  rw [startsIgnoring, startsIgnoring, Text.dropIndent_crlf, Text.after?_crlf (inLine_of_all (by decide))]
  cases Text.after? ignoreWord (Text.dropIndent t) with
  | none => rfl
  | some rest =>
    simp only [Option.map_some]
    rw [Text.dropIndent_crlf, Text.after?_crlf (inLine_of_all (by decide)), Option.isSome_map]

/-- A marker reads the same in both forms. -/
theorem ofLine_crlf {line : Text} (h : Text.IsLine line) :
    ofLine (Text.crlf line) = ofLine line := by
  rw [ofLine, ofLine, afterKeyword?_crlf]
  cases hrest : afterKeyword? line with
  | none => rfl
  | some rest =>
    simp only [Option.map_some]
    rw [beforeEnd?, beforeNewline?_crlf (isLine_afterKeyword? h hrest), ← beforeEnd?]
    cases beforeEnd? rest with
    | none => rfl
    | some body => simp only [directiveOf, startsIgnoring_crlf]

theorem across_crlf (m : Marker) {line : Text} (h : Text.IsLine line) :
    m.across (Text.crlf line) = m.across line := by
  rw [across, across, isBlankLine_crlf h.cr_notMem, ofLine_crlf h]

end Marker

/-! ### Pairs -/

/-- The pair with CR LF in the place of LF. -/
def Pair.crlf (p : Pair) : Pair :=
  ⟨p.before.map Text.crlf, Text.crlf p.opener, p.fence, p.inner.map Text.crlf,
    Text.crlf p.closer⟩

theorem Unpaired.crlf {ls later : List Text} (h : Unpaired ls later)
    (hcr : ∀ line ∈ ls ++ later, '\r' ∉ line) :
    Unpaired (ls.map Text.crlf) (later.map Text.crlf) := by
  intro pre op post hls f hf line hline
  obtain ⟨pre', post', hsplit, hpre, hpost⟩ := List.map_eq_append_iff.mp hls
  obtain ⟨op', post'', rfl, rfl, rfl⟩ := List.map_eq_cons_iff.mp hpost
  rw [← List.map_append, List.mem_map] at hline
  obtain ⟨line', hline', rfl⟩ := hline
  have hop : '\r' ∉ op' := hcr op' (by rw [hsplit]; simp)
  have hl : '\r' ∉ line' := by
    refine hcr line' ?_
    rw [hsplit]
    rcases List.mem_append.mp hline' with hl | hl <;> simp [hl]
  have hf' := (Fence.opens_crlf_iff hop).mp hf
  rw [closes_crlf_iff hf'.isIndent hl]
  exact h pre' op' post'' hsplit f hf' line' hline'

/-- **Both forms have the same pairs.** -/
theorem Greedy.crlf {ls tail : List Text} {ps : List Pair} (h : Greedy ls ps tail)
    (hcr : ∀ line ∈ ls, '\r' ∉ line) :
    Greedy (ls.map Text.crlf) (ps.map Pair.crlf) (tail.map Text.crlf) := by
  induction h with
  | done unpaired => exact .done (unpaired.crlf (by simpa using hcr))
  | @pair p later tail ps skipped opens inside closes rest ih =>
    have hlater : ∀ line ∈ later, '\r' ∉ line := fun line hline => hcr line (by simp [hline])
    have hopener : '\r' ∉ p.opener := hcr p.opener (by simp)
    have hcloser : '\r' ∉ p.closer := hcr p.closer (by simp)
    have hinner : ∀ line ∈ p.inner, '\r' ∉ line := fun line hline => hcr line (by simp [hline])
    have hskipped := skipped.crlf hcr
    simp only [List.map_append, List.map_cons] at hskipped ⊢
    refine Greedy.pair (p := p.crlf) hskipped ((Fence.opens_crlf_iff hopener).mpr opens) ?_
      ((closes_crlf_iff opens.isIndent hcloser).mpr closes) (ih hlater)
    intro line hline
    obtain ⟨line', hline', rfl⟩ := List.mem_map.mp hline
    show ¬ Closes p.fence.indent (Text.crlf line')
    rw [closes_crlf_iff opens.isIndent (hinner line' hline')]
    exact inside line' hline'

/-! ### Documents -/

/-- The snippet with CR LF in the place of LF. -/
def Snippet.crlf (s : Snippet) : Snippet := { s with code := Text.crlf s.code }

/-- The section with CR LF in the place of LF. -/
def Section.crlf (s : Section) : Section := ⟨s.toSnippet.crlf, Text.crlf s.lead⟩

/-- The document with CR LF in the place of LF. -/
def Document.crlf (d : Document) : Document := ⟨d.sections.map Section.crlf, Text.crlf d.rest⟩

namespace Document

theorem sectionOf_crlf (m : Marker) (lead : Text) {p : Pair}
    (h : ∀ line ∈ p.before, Text.IsLine line) :
    sectionOf m (Text.crlf lead) p.crlf = (sectionOf m lead p).crlf := by
  have hmarker : (p.before.map Text.crlf).foldl Marker.across m =
      p.before.foldl Marker.across m := by
    generalize p.before = ls at h
    induction ls generalizing m with
    | nil => rfl
    | cons line ls ih =>
      rw [List.map_cons, List.foldl_cons, List.foldl_cons, Marker.across_crlf m (h line (by simp)),
        ih _ fun l hl => h l (by simp [hl])]
  simp only [sectionOf, Pair.crlf, Section.crlf, Snippet.crlf, hmarker, Text.crlf_append,
    Text.crlf_flatten]

theorem ofPairs_crlf (m : Marker) (lead : Text) {ps : List Pair}
    (h : ∀ p ∈ ps, ∀ line ∈ p.before, Text.IsLine line) (tail : List Text) :
    ofPairs m (Text.crlf lead) (ps.map Pair.crlf) (tail.map Text.crlf) =
      (ofPairs m lead ps tail).crlf := by
  induction ps generalizing m lead with
  | nil => simp [ofPairs, sectionsOf, restOf, crlf, Text.crlf_flatten]
  | cons p ps ih =>
    have htail := ih .absent p.closer fun q hq => h q (by simp [hq])
    rw [List.map_cons, ofPairs_cons, ofPairs_cons, sectionOf_crlf m lead (h p (by simp)),
      show p.crlf.closer = Text.crlf p.closer from rfl, htail]
    rfl

/-- **A document reads in the same way in both forms.** -/
theorem ofText_crlf {t : Text} (h : '\r' ∉ t) : ofText (Text.crlf t) = (ofText t).crlf := by
  obtain ⟨ps, tail, hgreedy⟩ := Greedy.exists (Text.lines t)
  have hd : ofText t = ofPairs .absent [] ps tail := ofLines_greedy hgreedy
  have hlines : ∀ line ∈ Text.lines t, Text.IsLine line :=
    fun line hline => Text.isLine_of_mem_lines h hline
  have hcrlf := hgreedy.crlf fun line hline => (hlines line hline).cr_notMem
  have hbefore : ∀ p ∈ ps, ∀ line ∈ p.before, Text.IsLine line := by
    intro p hp line hline
    refine hlines line ?_
    rw [hgreedy.lines_eq, List.mem_append, List.mem_flatMap]
    exact .inl ⟨p, hp, by simp [Pair.lines, hline]⟩
  rw [hd, ofText, Text.lines_crlf, ofLines_greedy hcrlf]
  exact ofPairs_crlf .absent [] hbefore tail

end Document

end FenceSync
