import FenceSync.Proofs.Extraction
import Mathlib.Data.List.Forall2

namespace FenceSync

/-!
# Which block a marker is about

A block is marked by the nearest line above it that is not blank, if that line belongs to no other
block, and by nothing else.

* `Attributed` says what the lines above a block make of its marker.
* `extract?_markers` says so of the blocks of a text, and that the searches capture these markers.
-/

/-- What the lines above a block make of its marker. -/
structure Attributed (above : List Text) (m : Marker) : Prop where
  /-- The block is left alone exactly when the line that counts asks for it. -/
  ignored_iff : m = .ignoreNext ↔ ∃ line, NearestAbove above line ∧ AsksToIgnore line
  /-- Otherwise it has the directive that this line carries. -/
  directive : ∀ line d, NearestAbove above line → ¬ AsksToIgnore line → Carries line d →
    m.inlineDirective = d
  /-- If there is no such directive, then it has none. -/
  no_directive : (∀ line d, NearestAbove above line → Carries line d → AsksToIgnore line) →
    m.inlineDirective = []
  /-- It is never left alone and given a directive at the same time. -/
  exclusive : m = .ignoreNext → m.inlineDirective = []

theorem attributed_foldl {above : List Text}
    (h : ∀ line ∈ above, Text.IsWhole line ∨ Text.IsLast line) :
    Attributed above (above.foldl Marker.across .absent) where
  ignored_iff := by
    constructor
    · intro hignore
      rcases exists_nearestAbove_or above with ⟨line, hline⟩ | hall
      · rw [Marker.foldl_across hline] at hignore
        exact ⟨line, hline, Marker.ofLine_eq_ignoreNext_iff.mp hignore⟩
      · rw [Marker.foldl_across_blank hall] at hignore
        cases hignore
    · rintro ⟨line, hline, hasks⟩
      rw [Marker.foldl_across hline]
      exact Marker.ofLine_eq_ignoreNext_iff.mpr hasks
  directive := by
    intro line d hline hasks hcarries
    rw [Marker.foldl_across hline]
    exact Marker.inlineDirective_ofLine (h line hline.mem) hcarries hasks
  no_directive := by
    intro hnone
    rcases exists_nearestAbove_or above with ⟨line, hline⟩ | hall
    · rw [Marker.foldl_across hline]
      cases hm : Marker.ofLine line with
      | absent => rfl
      | ignoreNext => rfl
      | directive d =>
        have hasks := hnone line d hline (Marker.carries_of_ofLine hm)
        rw [Marker.ofLine_eq_ignoreNext_iff.mpr hasks] at hm
        cases hm
    · rw [Marker.foldl_across_blank hall]
      rfl
  exclusive := by
    intro hignore
    rw [hignore]
    rfl

/-- **Markers are attributed exactly.**  If the scan ends, then the blocks of a text are the pairs
    of its lines, and each has its marker from the lines between the previous pair and its own
    opening fence: from the nearest of them that is not blank, by the shape of that line, and from
    no other line of the text.  The searches of the text capture these markers. -/
theorem extract?_markers (source : Text) (hscan : Search.givesUp source = false) :
    ∃ bs ps tail hits, Block.extract? source = .ok bs ∧ Greedy (Text.lines source) ps tail ∧
      Text.lines source = ps.flatMap Pair.lines ++ tail ∧ bs.map Block.span = spansFrom 0 ps ∧
      List.Forall₂ (fun b p => Attributed p.before b.marker) bs ps ∧
      Search.Visits source.length true source hits ∧
      bs.map (fun b => b.toSnippet) = hits.map fun hit => hit.toSnippet := by
  obtain ⟨ps, tail, h⟩ := Greedy.exists (Text.lines source)
  have hbs := Block.extract?_eq_ok_iff.mpr ⟨hscan, rfl⟩
  obtain ⟨hspans, hsnippets, -⟩ := Block.extract?_of_greedy hbs h
  refine ⟨_, ps, tail, Search.hits ps tail, hbs, h, h.lines_eq, hspans, ?_,
    Search.visits_of_greedy hscan h, hsnippets.trans (Search.toSnippet_hits ps tail).symm⟩
  rw [← List.forall₂_map_left_iff (R := fun (s : Snippet) (p : Pair) => Attributed p.before s.marker),
    hsnippets, List.forall₂_map_left_iff, List.forall₂_same]
  intro p hp
  refine attributed_foldl fun line hline => Text.isWhole_or_isLast (t := source) ?_
  rw [h.lines_eq, List.mem_append, List.mem_flatMap]
  exact .inl ⟨p, hp, by simp [Pair.lines, hline]⟩

/-- Three blocks, the first two of them with a marker. -/
def markedBlocks : Text :=
  ("<!-- embedme ignore-next -->\n \n```\n```\n" ++
    "<!--embedme a --> b -->\r\n```\n```\n" ++ "```\n```\n").toList

/-- A blank line keeps a marker for the block below it, a directive may hold `-->`, and neither
    marker has a part in the blocks behind its own.  The searches capture the same. -/
theorem extract?_markers_three :
    ∃ (bs : List Block) (ps : List Pair) (tail : List Text) (hits : List Search.Hit),
      Greedy (Text.lines markedBlocks) ps tail ∧
      List.Forall₂ (fun b p => Attributed p.before b.marker) bs ps ∧
      Search.Visits markedBlocks.length true markedBlocks hits ∧
      bs.map (fun b => b.marker) = [.ignoreNext, .directive "a --> b".toList, .absent] ∧
      hits.map (fun hit => hit.marker) = [.ignoreNext, .directive "a --> b".toList, .absent] := by
  obtain ⟨bs, ps, tail, hits, hbs, hgreedy, -, -, hmarkers, hvisits, hsnippets⟩ :=
    extract?_markers markedBlocks (by decide)
  have hblocks :
      bs.map (fun b => b.marker) = [.ignoreNext, .directive "a --> b".toList, .absent] := by
    obtain ⟨-, rfl⟩ := Block.extract?_eq_ok_iff.mp hbs
    decide
  have hcaptured := congrArg (List.map fun s : Snippet => s.marker) hsnippets
  rw [List.map_map, List.map_map] at hcaptured
  exact ⟨bs, ps, tail, hits, hgreedy, hmarkers, hvisits, hblocks, hcaptured.symm.trans hblocks⟩

end FenceSync
