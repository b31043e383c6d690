import FenceSync.Proofs.Pairing

namespace FenceSync

/-!
# The document that lines make up

`Document.walk` decides line by line; its spec says what it decides in terms of the pairs of the
lines.

* `Document.ofPairs` is the document that pairs and the lines behind them describe.
* `Document.ofLines_greedy` says that `Document.ofLines` yields it.
-/

namespace Marker

/-- A line that begins a fence puts no marker in force. -/
theorem across_of_beginsFence (m : Marker) {line : Text} (h : BeginsFence line) :
    m.across line = .absent := by
  obtain ⟨t, ht⟩ := h
  have hblank : isBlankLine line = false := by
    rw [isBlankLine, ← ht]
    simp [fenceMark, lineEndings]
  have hkey : afterKeyword? line = none := by
    rw [afterKeyword?, ← ht]
    rfl
  rw [across, hblank, if_neg Bool.false_ne_true, ofLine, hkey]

end Marker

namespace Document

/-! ### Text in front of a document -/

@[simp] theorem consLine_nil (d : Document) : d.consLine [] = d := by
  rcases d with ⟨_ | ⟨s, ss⟩, rest⟩ <;> rfl

theorem consLine_consLine (a b : Text) (d : Document) :
    (d.consLine b).consLine a = d.consLine (a ++ b) := by
  rcases d with ⟨_ | ⟨s, ss⟩, rest⟩ <;> simp [consLine]

theorem consLine_consSection (a : Text) (s : Section) (d : Document) :
    (d.consSection s).consLine a = d.consSection { s with lead := a ++ s.lead } := rfl

/-! ### Documents from pairs -/

/-- The section of a pair, behind the closing fence `lead` of the previous one, with the marker `m`
    in force behind that. -/
def sectionOf (m : Marker) (lead : Text) (p : Pair) : Section :=
  ⟨⟨p.before.foldl Marker.across m, p.fence, p.inner.flatten⟩,
    lead ++ p.before.flatten ++ p.opener⟩

/-- The sections of pairs. -/
def sectionsOf (m : Marker) (lead : Text) : List Pair → List Section
  | [] => []
  | p :: ps => sectionOf m lead p :: sectionsOf .absent p.closer ps

/-- The text behind the last pair. -/
def restOf (lead : Text) : List Pair → List Text → Text
  | [], tail => lead ++ tail.flatten
  | p :: ps, tail => restOf p.closer ps tail

/-- The document of pairs and the lines behind them. -/
def ofPairs (m : Marker) (lead : Text) (ps : List Pair) (tail : List Text) : Document :=
  ⟨sectionsOf m lead ps, restOf lead ps tail⟩

theorem ofPairs_cons (m : Marker) (lead : Text) (p : Pair) (ps : List Pair) (tail : List Text) :
    ofPairs m lead (p :: ps) tail =
      (ofPairs .absent p.closer ps tail).consSection (sectionOf m lead p) := rfl

/-- Text in front of a document goes in front of the first closing fence. -/
theorem consLine_ofPairs (m : Marker) (a lead : Text) (ps : List Pair) (tail : List Text) :
    (ofPairs m lead ps tail).consLine a = ofPairs m (a ++ lead) ps tail := by
  cases ps with
  | nil => simp [ofPairs, sectionsOf, restOf, consLine]
  | cons p ps =>
    rw [ofPairs_cons, consLine_consSection, ofPairs_cons]
    simp [sectionOf]

/-- The text of a document is made of its pairs. -/
theorem text_ofPairs (m : Marker) (lead : Text) (ps : List Pair) (tail : List Text) :
    (ofPairs m lead ps tail).text = lead ++ (ps.flatMap Pair.lines ++ tail).flatten := by
  induction ps generalizing m lead with
  | nil => simp [ofPairs, sectionsOf, restOf, text, textWith]
  | cons p ps ih =>
    rw [ofPairs_cons, text_consSection, ih]
    simp [sectionOf, Pair.lines]

/-! ### Walking -/

/-- Walking over lines without a pair only takes note of markers. -/
theorem walk_unpaired {ls later : List Text} (h : Unpaired ls later) (m : Marker) :
    walk none m (ls ++ later) =
      ([], (walk none (ls.foldl Marker.across m) later).2.consLine ls.flatten) := by
  induction ls generalizing m with
  | nil =>
    rw [List.nil_append, List.flatten_nil, consLine_nil, List.foldl_nil]
    exact Prod.ext (walk_none_fst m later) rfl
  | cons line ls ih =>
    obtain ⟨hline, hls⟩ := unpaired_cons.mp h
    rw [List.cons_append, walk, List.foldl_cons, List.flatten_cons]
    split
    · next f hf =>
      have hop : f.Opens line := Fence.ofLine?_eq_some_iff.mp hf
      -- An opening fence that is never closed is read like any other line.
      have hnone : (ls ++ later).any f.isClosedBy = false := by
        rw [List.any_eq_false]
        intro l hl hc
        exact hline f hop l hl (Fence.isClosedBy_iff.mp hc)
      rw [hnone, if_neg Bool.false_ne_true, ih hls, Marker.across_of_beginsFence m hop.beginsFence,
        consLine_consLine]
    · rw [ih hls, consLine_consLine]

/-- Walking inside a block collects the lines before the first closing fence. -/
theorem walk_inner {f : Fence} {inner later : List Text} {closer : Text}
    (hinner : ∀ line ∈ inner, ¬ Closes f.indent line) (hcloser : Closes f.indent closer)
    (m : Marker) :
    walk (some f) m (inner ++ closer :: later) =
      (inner.flatten, (walk none .absent later).2.consLine closer) := by
  induction inner with
  | nil => rw [List.nil_append, walk, if_pos (Fence.isClosedBy_iff.mpr hcloser), List.flatten_nil]
  | cons line inner ih =>
    have hline : f.isClosedBy line ≠ true := fun hc =>
      hinner line (by simp) (Fence.isClosedBy_iff.mp hc)
    rw [List.cons_append, walk, if_neg hline, ih fun l hl => hinner l (by simp [hl]),
      List.flatten_cons]

/-- **The spec of `walk`.**  Between two blocks it yields the document of the pairs. -/
theorem walk_greedy {ls tail : List Text} {ps : List Pair} (h : Greedy ls ps tail) (m : Marker) :
    (walk none m ls).2 = ofPairs m [] ps tail := by
  induction h generalizing m with
  | @done ls unpaired =>
    have hwalk := walk_unpaired unpaired m
    rw [List.append_nil] at hwalk
    rw [hwalk]
    simp [walk, ofPairs, sectionsOf, restOf, consLine]
  | @pair p later tail ps skipped opens inside closes rest ih =>
    have hany : (p.inner ++ p.closer :: later).any p.fence.isClosedBy = true := by
      rw [List.any_eq_true]
      exact ⟨p.closer, by simp, Fence.isClosedBy_iff.mpr closes⟩
    rw [walk_unpaired skipped, walk, Fence.ofLine?_eq_some_iff.mpr opens]
    simp only
    rw [if_pos hany, walk_inner inside closes, ih, consLine_consSection, ofPairs_cons,
      consLine_ofPairs, List.append_nil]
    rfl

/-- Lines make up the document that their pairs describe. -/
theorem ofLines_greedy {ls tail : List Text} {ps : List Pair} (h : Greedy ls ps tail) :
    ofLines ls = ofPairs .absent [] ps tail := walk_greedy h .absent

end Document

end FenceSync
