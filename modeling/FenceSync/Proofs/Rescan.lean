import FenceSync.Proofs.Reading
import FenceSync.Proofs.Resolution

namespace FenceSync

/-!
# Documents with other interiors

A document whose blocks get new interiors is read back as the same document with these interiors,
provided that the interiors leave their fences open and close no other fence that waits above them.

* `Document.prose` are the lines of a document outside its blocks and their fences, and
  `Document.proseAbove` those of them above each block.
* `Fence.Holds` says that a text can stand between a fence and its closing line.
* `Undisturbed` says that new interiors close no opening fence that waits above them.
* `Document.ofText_spec` says what is known of the sections of a document that was read.
* `Document.ofText_splice_of_undisturbed` is the main result, and `Document.ofText_splice` the case
  of a document in which nothing else looks like a fence.
-/

/-! ### The shape of a document that was read -/

namespace Document

/-- The lines of some sections, and of the text behind them, that belong to no block; whether they
    start with a closing fence is known. -/
def proseFrom (rest : Text) : Bool → List Section → List Text
  | behind, [] => (Text.lines rest).drop behind.toNat
  | behind, s :: ss =>
    ((Text.lines s.lead).drop behind.toNat).dropLast ++ proseFrom rest true ss

/-- The lines of a document outside its blocks and their fences. -/
def prose (d : Document) : List Text := proseFrom d.rest false d.sections

/-- The lines above each of some sections that belong to no block. -/
def proseAbove : Bool → List Section → List (List Text)
  | _, [] => []
  | behind, s :: ss => ((Text.lines s.lead).drop behind.toNat).dropLast :: proseAbove true ss

theorem mem_proseFrom {rest line : Text} {ls : List Text} {behind : Bool} {ss : List Section}
    (hls : ls ∈ proseAbove behind ss) (hline : line ∈ ls) : line ∈ proseFrom rest behind ss := by
  induction ss generalizing behind with
  | nil => cases hls
  | cons s ss ih =>
    rcases List.mem_cons.mp hls with rfl | hls
    · exact List.mem_append_left _ hline
    · exact List.mem_append_right _ (ih hls)

end Document

/-- The text can stand below an opening fence: it is made of whole lines that do not close it. -/
def Fence.Holds (f : Fence) (t : Text) : Prop :=
  ∀ line ∈ Text.lines t, Text.IsWhole line ∧ ¬ Closes f.indent line

theorem Fence.Holds.endsLine {f : Fence} {t : Text} (h : f.Holds t) : Text.EndsLine t :=
  Text.endsLine_of_lines fun line hline => (h line hline).1

/-- Every line of a pair is whole, except perhaps the closing fence. -/
theorem Pair.isWhole_of_cut {p : Pair} (leads : List Text) {later : List Text}
    (hcut : Text.lines (leads ++ (p.before ++ p.opener :: (p.inner ++ p.closer :: later))).flatten =
      leads ++ (p.before ++ p.opener :: (p.inner ++ p.closer :: later))) :
    (∀ line ∈ leads ++ p.before ++ [p.opener], Text.IsWhole line) ∧
      (∀ line ∈ p.inner, Text.IsWhole line) ∧
      Text.lines ([p.closer] ++ later).flatten = [p.closer] ++ later := by
  have hsplit : leads ++ (p.before ++ p.opener :: (p.inner ++ p.closer :: later)) =
      (leads ++ p.before ++ [p.opener] ++ p.inner) ++ p.closer :: later := by
    simp
  obtain ⟨hwhole, hrest⟩ := Text.lines_eq_append_cons (hcut.trans hsplit)
  refine ⟨fun line hline => hwhole line ?_, fun line hline => hwhole line ?_, hrest⟩
  · exact List.mem_append_left _ hline
  · exact List.mem_append_right _ hline

/-- The lines in front of an interior. -/
theorem Document.lines_lead {p : Pair} (m : Marker) {leads : List Text}
    (hwhole : ∀ line ∈ leads ++ p.before ++ [p.opener], Text.IsWhole line) :
    Text.lines (sectionOf m leads.flatten p).lead = leads ++ (p.before ++ [p.opener]) := by
  have hlead : (sectionOf m leads.flatten p).lead =
      (leads ++ (p.before ++ [p.opener])).flatten := by
    simp [sectionOf]
  rw [hlead]
  exact Text.lines_flatten (by rwa [← List.append_assoc])

/-- The lines above the blocks of a document that was read are those in front of the pairs. -/
theorem Document.proseAbove_greedy {ls tail : List Text} {ps : List Pair} (h : Greedy ls ps tail)
    (m : Marker) {leads : List Text} {behind : Bool} (hlen : leads.length = behind.toNat)
    (hcut : Text.lines (leads ++ ls).flatten = leads ++ ls) :
    proseAbove behind (sectionsOf m leads.flatten ps) = ps.map Pair.before := by
  induction h generalizing m leads behind with
  | done _ => rfl
  | @pair p later tail ps skipped opens inside closes rest ih =>
    obtain ⟨hwhole, -, hrest⟩ := Pair.isWhole_of_cut leads hcut
    have hone : [p.closer].length = true.toNat := rfl
    have hnext := ih .absent hone hrest
    rw [List.flatten_singleton] at hnext
    rw [sectionsOf, proseAbove, lines_lead m hwhole, ← hlen, List.drop_left, List.dropLast_concat,
      hnext, List.map_cons]

theorem Document.proseAbove_ofText {t : Text} {ps : List Pair} {tail : List Text}
    (h : Greedy (Text.lines t) ps tail) :
    proseAbove false (Document.ofText t).sections = ps.map Pair.before := by
  have hd : Document.ofText t = ofPairs .absent [] ps tail := Document.ofLines_greedy h
  have hcut : Text.lines ([] ++ Text.lines t).flatten = [] ++ Text.lines t := by
    rw [List.nil_append, Text.flatten_lines]
  rw [hd]
  exact Document.proseAbove_greedy h .absent rfl hcut

/-- **What is known of the sections of a document that was read.**  Their fences are indented by
    tabs and spaces and hold their interiors, and the interiors start on lines of their own. -/
theorem Document.ofText_spec {t : Text} {s : Section} (hs : s ∈ (Document.ofText t).sections) :
    IsIndent s.fence.indent ∧ s.fence.Holds s.code ∧ s.lead.getLast? = some '\n' := by
  obtain ⟨ps, tail, h⟩ := Greedy.exists (Text.lines t)
  have hd : Document.ofText t = ofPairs .absent [] ps tail := Document.ofLines_greedy h
  have hcut : Text.lines (Text.lines t).flatten = Text.lines t := by rw [Text.flatten_lines]
  rw [hd] at hs
  -- The induction is on the pairs, with any text and any marker in front of them.
  generalize Text.lines t = ls at h hcut
  simp only [ofPairs] at hs
  generalize hm : Marker.absent = m at hs
  generalize hlead : ([] : Text) = lead at hs
  clear hm hlead hd
  induction h generalizing m lead with
  | done _ => cases hs
  | @pair p later tail ps skipped opens inside closes rest ih =>
    obtain ⟨-, hinner, hrest⟩ := Pair.isWhole_of_cut [] hcut
    rw [sectionsOf] at hs
    rcases List.mem_cons.mp hs with rfl | hs
    · refine ⟨opens.isIndent, ?_, ?_⟩
      · intro line hline
        rw [show (sectionOf m lead p).code = p.inner.flatten from rfl,
          Text.lines_flatten hinner] at hline
        exact ⟨hinner line hline, inside line hline⟩
      · obtain ⟨body, -, hbody⟩ := opens.isWhole
        show (lead ++ p.before.flatten ++ p.opener).getLast? = some '\n'
        rw [hbody, ← List.append_assoc, List.getLast?_concat]
    · exact ih (Text.lines_of_lines_eq_append hrest) .absent p.closer hs

/-- Neither in front of an interior nor in it does anything stand behind the last line feed. -/
theorem Document.endsLine_section {t : Text} {s : Section} (hs : s ∈ (Document.ofText t).sections) :
    Text.EndsLine s.lead ∧ Text.EndsLine s.code := by
  obtain ⟨-, hholds, hlead⟩ := Document.ofText_spec hs
  refine ⟨?_, hholds.endsLine⟩
  rw [Text.EndsLine, hlead]
  simp

/-- The sections of a document are parts of its text. -/
theorem Document.mem_of_mem_section {t : Text} {s : Section}
    (hs : s ∈ (Document.ofText t).sections) {c : Char} (hc : c ∈ s.lead ++ s.code) : c ∈ t := by
  rw [← Document.text_ofText t, Document.text, Document.textWith, List.mem_append,
    List.mem_flatMap]
  exact .inl ⟨s, hs, hc⟩

/-- The sections of a document without CR have none. -/
theorem Document.cr_notMem_code {t : Text} (h : '\r' ∉ t) {s : Section}
    (hs : s ∈ (Document.ofText t).sections) : '\r' ∉ s.code :=
  fun hcr => h (Document.mem_of_mem_section hs (List.mem_append_right _ hcr))

/-! ### Other interiors -/

/-- The section with the interior that its outcome gives it. -/
def Section.embedded (s : Section) (out : Outcome) : Section :=
  { s with code := out.interior s.code }

/-- The pair with the interior that its outcome gives it. -/
def Pair.embedded (p : Pair) (out : Outcome) : Pair :=
  { p with inner := Text.lines (out.interior p.inner.flatten) }

/-- The text of a document with other interiors. -/
theorem text_splice (ss : List Section) (outs : List Outcome) (rest : Text) :
    (Document.mk (List.zipWith Section.embedded ss outs) rest).text = splice ss outs ++ rest := by
  rw [Document.text, Document.textWith, splice, List.flatMap_def, List.map_zipWith]
  rfl

theorem Document.ofPairs_embedded {ps : List Pair} {outs : List Outcome}
    (hlen : ps.length = outs.length) (m : Marker) (lead : Text) (tail : List Text) :
    ofPairs m lead (List.zipWith Pair.embedded ps outs) tail =
      ⟨List.zipWith Section.embedded (sectionsOf m lead ps) outs, restOf lead ps tail⟩ := by
  induction ps generalizing outs m lead with
  | nil => rfl
  | cons p ps ih =>
    cases outs with
    | nil => cases hlen
    | cons out outs =>
      have hps : ps.length = outs.length := by simpa using hlen
      have hsection : sectionOf m lead (p.embedded out) = (sectionOf m lead p).embedded out := by
        simp [sectionOf, Pair.embedded, Section.embedded, Text.flatten_lines]
      rw [List.zipWith_cons_cons, ofPairs_cons, hsection]
      have hnext := ih hps .absent p.closer
      rw [show (p.embedded out).closer = p.closer from rfl, hnext]
      rfl

/-- What holds of the sections of pairs is what holds of the pairs. -/
theorem Document.forall₂_sectionsOf {P : Fence → Text → Outcome → Prop} {ps : List Pair}
    {outs : List Outcome} {m : Marker} {lead : Text} :
    List.Forall₂ (fun s out => P s.fence s.code out) (sectionsOf m lead ps) outs ↔
      List.Forall₂ (fun p out => P p.fence p.inner.flatten out) ps outs := by
  induction ps generalizing outs m lead with
  | nil => simp [sectionsOf]
  | cons p ps ih =>
    rw [sectionsOf, List.forall₂_cons_left_iff, List.forall₂_cons_left_iff]
    simp only [ih]
    rfl

/-! ### Fences that wait -/

/-- The lines of a new interior. -/
def Outcome.newLines : Outcome → List Text
  | .resolved replacement _ => Text.lines replacement
  | _ => []

/-- New interiors close no opening fence that waits above them; `above` are the lines above each
    block that belong to no block. -/
def Undisturbed : List (List Text) → List Outcome → Prop
  | ls :: above, out :: outs =>
    (∀ f ∈ ls.filterMap Fence.ofLine?, ∀ line ∈ (out :: outs).flatMap Outcome.newLines,
      ¬ Closes f.indent line) ∧ Undisturbed above outs
  | _, _ => True

instance decidableUndisturbed : (above : List (List Text)) → (outs : List Outcome) →
    Decidable (Undisturbed above outs)
  | _ :: above, _ :: outs =>
    have := decidableUndisturbed above outs
    inferInstanceAs (Decidable (_ ∧ _))
  | [], _ => isTrue (by simp [Undisturbed])
  | _ :: _, [] => isTrue (by simp [Undisturbed])

/-- Lines that look like no fence cannot be closed. -/
theorem undisturbed_of_plain {above : List (List Text)}
    (h : ∀ ls ∈ above, ∀ line ∈ ls, ¬ BeginsFence line) (outs : List Outcome) :
    Undisturbed above outs := by
  induction above generalizing outs with
  | nil => simp [Undisturbed]
  | cons ls above ih =>
    cases outs with
    | nil => simp [Undisturbed]
    | cons out outs =>
      refine ⟨?_, ih (fun ls' hls' => h ls' (List.mem_cons_of_mem _ hls')) outs⟩
      intro f hf
      obtain ⟨op, hop, hopens⟩ := List.mem_filterMap.mp hf
      have hbegins := (Fence.ofLine?_eq_some_iff.mp hopens).beginsFence
      exact absurd hbegins (h ls (by simp) op hop)

/-- The lines of an interior are new, or they are the ones that were there. -/
theorem Pair.mem_inner_embedded {p : Pair} (hinner : Text.lines p.inner.flatten = p.inner)
    {out : Outcome} {line : Text} (h : line ∈ (p.embedded out).inner) :
    line ∈ p.inner ∨ line ∈ out.newLines := by
  cases out with
  | resolved replacement n => exact .inr h
  | _ => exact .inl (hinner ▸ h)

/-- A line of pairs with other interiors is new, or it is one that was there. -/
theorem mem_lines_embedded {ps : List Pair}
    (hinner : ∀ p ∈ ps, Text.lines p.inner.flatten = p.inner) {outs : List Outcome}
    {tail : List Text} {line : Text}
    (h : line ∈ (List.zipWith Pair.embedded ps outs).flatMap Pair.lines ++ tail) :
    line ∈ ps.flatMap Pair.lines ++ tail ∨ line ∈ outs.flatMap Outcome.newLines := by
  induction ps generalizing outs with
  | nil => exact .inl (by simpa using h)
  | cons p ps ih =>
    cases outs with
    | nil => exact .inl (List.mem_append_right _ (by simpa using h))
    | cons out outs =>
      rw [List.zipWith_cons_cons, List.flatMap_cons, List.append_assoc] at h
      rw [List.flatMap_cons, List.flatMap_cons, List.append_assoc]
      rcases List.mem_append.mp h with h | h
      · -- Only the interior of the first pair has changed.
        have hp : line ∈ p.lines ∨ line ∈ (p.embedded out).inner := by
          simp only [Pair.lines, Pair.embedded, List.mem_append, List.mem_cons] at h ⊢
          tauto
        rcases hp with hp | hp
        · exact .inl (List.mem_append_left _ hp)
        · rcases Pair.mem_inner_embedded (hinner p (by simp)) hp with hp | hp
          · exact .inl (List.mem_append_left _ (by simp [Pair.lines, hp]))
          · exact .inr (List.mem_append_left _ hp)
      · rcases ih (fun q hq => hinner q (List.mem_cons_of_mem _ hq)) h with h | h
        · exact .inl (List.mem_append_right _ h)
        · exact .inr (List.mem_append_right _ h)

/-- The interiors of pairs are whole lines. -/
theorem Greedy.lines_inner {ls tail : List Text} {ps : List Pair} (h : Greedy ls ps tail)
    (hcut : Text.lines ls.flatten = ls) : ∀ p ∈ ps, Text.lines p.inner.flatten = p.inner := by
  induction h with
  | done _ => simp
  | pair _ _ _ _ _ ih =>
    obtain ⟨-, hinner, hrest⟩ := Pair.isWhole_of_cut [] hcut
    intro q hq
    rcases List.mem_cons.mp hq with rfl | hq
    · exact Text.lines_flatten hinner
    · exact ih (Text.lines_of_lines_eq_append hrest) q hq

/-- What the lines of embedded pairs were cut into is a cut again. -/
theorem Greedy.lines_embedded {ls tail : List Text} {ps : List Pair} (h : Greedy ls ps tail)
    (hcut : Text.lines ls.flatten = ls) {outs : List Outcome}
    (hholds : List.Forall₂ (fun p out => p.fence.Holds (out.interior p.inner.flatten)) ps outs) :
    let ls' := (List.zipWith Pair.embedded ps outs).flatMap Pair.lines ++ tail
    Text.lines ls'.flatten = ls' := by
  induction h generalizing outs with
  | done _ =>
    cases hholds
    exact hcut
  | @pair p later tail ps skipped opens inside closes rest ih =>
    cases hholds with
    | @cons _ out _ outs hp hps =>
      obtain ⟨hwhole, -, hrest⟩ := Pair.isWhole_of_cut [] hcut
      have hcut' := ih (Text.lines_of_lines_eq_append hrest) hps
      -- The lines behind the pair are those that the other pairs are embedded in.
      generalize hqs : List.zipWith Pair.embedded ps outs = qs at hcut'
      generalize hls : qs.flatMap Pair.lines ++ tail = ls' at hcut'
      -- The closing fence stays the last line, or it was whole and stays so.
      have hcloser : Text.lines (p.closer :: ls').flatten = p.closer :: ls' := by
        refine Text.lines_cons_of_cut hrest hcut' ?_
        rintro rfl
        obtain ⟨rfl, rfl⟩ := rest.unique (.done (unpaired_nil []))
        cases hps
        cases hqs
        exact hls.symm
      have hbefore : ∀ line ∈ p.before ++ [p.opener] ++ (p.embedded out).inner,
          Text.IsWhole line := by
        intro line hline
        rcases List.mem_append.mp hline with hline | hline
        · exact hwhole line (by simpa using hline)
        · exact (hp line hline).1
      have hshape : (List.zipWith Pair.embedded (p :: ps) (out :: outs)).flatMap Pair.lines ++
          tail = (p.before ++ [p.opener] ++ (p.embedded out).inner) ++ p.closer :: ls' := by
        rw [List.zipWith_cons_cons, hqs, List.flatMap_cons, List.append_assoc, hls, Pair.lines]
        simp [Pair.embedded]
      show Text.lines (List.flatten _) = _
      rw [hshape, List.flatten_append, Text.lines_flatten_append hbefore, hcloser]

/-- **Pairs stay pairs** when their interiors change, as long as no fence that waits above is closed
    by a new line: the fences still go together in the same way. -/
theorem Greedy.embedded {ls tail : List Text} {ps : List Pair} (h : Greedy ls ps tail)
    (hcut : Text.lines ls.flatten = ls) {outs : List Outcome}
    (hundisturbed : Undisturbed (ps.map Pair.before) outs)
    (hholds : List.Forall₂ (fun p out => p.fence.Holds (out.interior p.inner.flatten)) ps outs) :
    let ps' := List.zipWith Pair.embedded ps outs
    Greedy (ps'.flatMap Pair.lines ++ tail) ps' tail := by
  induction h generalizing outs with
  | done unpaired =>
    cases hholds
    exact .done unpaired
  | @pair p later tail ps skipped opens inside closes rest ih =>
    cases hholds with
    | @cons _ out _ outs hp hps =>
      obtain ⟨hfirst, hothers⟩ := hundisturbed
      obtain ⟨-, hinner, hrest⟩ := Pair.isWhole_of_cut [] hcut
      have hcut' := Text.lines_of_lines_eq_append hrest
      have hgreedy := ih hcut' hothers hps
      have hlines : ∀ line ∈ (List.zipWith Pair.embedded ps outs).flatMap Pair.lines ++ tail,
          line ∈ later ∨ line ∈ outs.flatMap Outcome.newLines := by
        intro line hline
        rw [rest.lines_eq]
        exact mem_lines_embedded (rest.lines_inner hcut') hline
      have heq : (List.zipWith Pair.embedded (p :: ps) (out :: outs)).flatMap Pair.lines ++ tail =
          p.before ++ p.opener :: ((p.embedded out).inner ++ p.closer ::
            ((List.zipWith Pair.embedded ps outs).flatMap Pair.lines ++ tail)) := by
        rw [List.zipWith_cons_cons, List.flatMap_cons, List.append_assoc, Pair.lines]
        simp [Pair.embedded]
      show Greedy (List.flatMap _ _ ++ _) _ _
      rw [heq]
      refine Greedy.pair (p := p.embedded out) ?_ opens (fun line hline => (hp line hline).2)
        closes hgreedy
      -- A line behind an opening fence that waits was there before, or it is new.
      intro pre op post hls f hf line hline hcloses
      have hwait : f ∈ p.before.filterMap Fence.ofLine? := by
        refine List.mem_filterMap.mpr ⟨op, ?_, Fence.ofLine?_eq_some_iff.mpr hf⟩
        rw [show p.before = pre ++ op :: post from hls]
        simp
      have hold : line ∉ post ++ p.opener :: (p.inner ++ p.closer :: later) :=
        fun hmem => skipped.not_closes hls hf hmem hcloses
      have hnew : line ∉ (out :: outs).flatMap Outcome.newLines :=
        fun hmem => hfirst f hwait line hmem hcloses
      simp only [List.flatMap_cons, List.mem_append, List.mem_cons, not_or] at hold hnew
      simp only [List.mem_append, List.mem_cons] at hline
      rcases hline with hline | hline | hline | hline | hline
      · exact hold.1 hline
      · exact hold.2.1 hline
      · rcases Pair.mem_inner_embedded (Text.lines_flatten hinner) hline with hline | hline
        · exact hold.2.2.1 hline
        · exact hnew.1 hline
      · exact hold.2.2.2.1 hline
      · rcases hlines line (by simpa using hline) with hline | hline
        · exact hold.2.2.2.2 hline
        · exact hnew.2 hline

/-- The text of a document with other interiors, by its pairs. -/
theorem Document.lines_splice {t : Text} {ps : List Pair} {tail : List Text}
    (h : Greedy (Text.lines t) ps tail) {outs : List Outcome}
    (hholds : List.Forall₂ (fun s out => s.fence.Holds (out.interior s.code))
      (Document.ofText t).sections outs) :
    List.Forall₂ (fun p out => p.fence.Holds (out.interior p.inner.flatten)) ps outs ∧
      Text.lines (splice (Document.ofText t).sections outs ++ (Document.ofText t).rest) =
        (List.zipWith Pair.embedded ps outs).flatMap Pair.lines ++ tail := by
  have hd : Document.ofText t = ofPairs .absent [] ps tail := Document.ofLines_greedy h
  rw [hd] at hholds ⊢
  have hpairs := (Document.forall₂_sectionsOf
    (P := fun f code out => f.Holds (out.interior code))).mp hholds
  have hcut : Text.lines (Text.lines t).flatten = Text.lines t := by rw [Text.flatten_lines]
  have hembedded := Document.ofPairs_embedded hpairs.length_eq .absent [] tail
  refine ⟨hpairs, ?_⟩
  rw [← text_splice, show Document.mk (List.zipWith Section.embedded
    (ofPairs .absent [] ps tail).sections outs) (ofPairs .absent [] ps tail).rest = _ from
      hembedded.symm, text_ofPairs, List.nil_append]
  exact h.lines_embedded hcut hpairs

/-- **A document with other interiors is read back** as what it is, if the interiors leave their
    fences open and close none that waits above them. -/
theorem Document.ofText_splice_of_undisturbed {t : Text} {outs : List Outcome}
    (hundisturbed : Undisturbed (proseAbove false (Document.ofText t).sections) outs)
    (hholds : List.Forall₂ (fun s out => s.fence.Holds (out.interior s.code))
      (Document.ofText t).sections outs) :
    Document.ofText (splice (Document.ofText t).sections outs ++ (Document.ofText t).rest) =
      ⟨List.zipWith Section.embedded (Document.ofText t).sections outs,
        (Document.ofText t).rest⟩ := by
  obtain ⟨ps, tail, h⟩ := Greedy.exists (Text.lines t)
  obtain ⟨hpairs, hlines⟩ := Document.lines_splice h hholds
  have hd : Document.ofText t = ofPairs .absent [] ps tail := Document.ofLines_greedy h
  have hcut : Text.lines (Text.lines t).flatten = Text.lines t := by rw [Text.flatten_lines]
  rw [Document.proseAbove_ofText h] at hundisturbed
  have hgreedy := h.embedded hcut hundisturbed hpairs
  rw [Document.ofText, hlines, Document.ofLines_greedy hgreedy, hd]
  exact Document.ofPairs_embedded hpairs.length_eq .absent [] tail

/-- A document in which nothing but its blocks looks like a fence is read back with any interiors
    that leave their fences open. -/
theorem Document.ofText_splice {t : Text} {outs : List Outcome}
    (hplain : ∀ line ∈ (Document.ofText t).prose, ¬ BeginsFence line)
    (hholds : List.Forall₂ (fun s out => s.fence.Holds (out.interior s.code))
      (Document.ofText t).sections outs) :
    Document.ofText (splice (Document.ofText t).sections outs ++ (Document.ofText t).rest) =
      ⟨List.zipWith Section.embedded (Document.ofText t).sections outs,
        (Document.ofText t).rest⟩ := by
  refine Document.ofText_splice_of_undisturbed (undisturbed_of_plain ?_ outs) hholds
  intro ls hls line hline
  exact hplain line (mem_proseFrom hls hline)

end FenceSync
