import FenceSync.Proofs.FixedPoint
import FenceSync.Proofs.Indenting

namespace FenceSync

/-!
# Documents that are moved to the right

A document reads in the same way at any depth: its fences stand further to the right, and nothing
else changes.

* `Fence.ofLine?_indented` and `closesIndent_indented` are about fences, `Marker.across_indented`
  about markers.
* `Document.ofText_indented` says that the sections of a moved document are the moved sections.
* `CommentStyle.first?_indented` is about comments, and `Snippet.demand_indented` says that a moved
  block asks for the same.
-/

/-! ### Fences and markers -/

/-- The fence with a further indentation in front. -/
def Fence.indented (w : Text) (f : Fence) : Fence := { f with indent := w ++ f.indent }

section
variable {w : Text} (hw : IsIndent w)
include hw

theorem Fence.ofLine?_indented (line : Text) :
    Fence.ofLine? (w ++ line) = (Fence.ofLine? line).map (Fence.indented w) := by
  rw [Fence.ofLine?, Text.dropIndent_indent_append hw, Text.indent_indent_append hw, Fence.ofLine?]
  cases Text.after? fenceMark (Text.dropIndent line) with
  | none => rfl
  | some info =>
    simp only
    split <;> rfl

theorem isBlankLine_indented (line : Text) : isBlankLine (w ++ line) = isBlankLine line := by
  rw [isBlankLine, isBlankLine, Text.dropIndent_indent_append hw]

/-- A marker reads the same at any depth. -/
theorem Marker.ofLine_indented (line : Text) : Marker.ofLine (w ++ line) = Marker.ofLine line := by
  rw [Marker.ofLine, Marker.ofLine, Marker.afterKeyword?, Marker.afterKeyword?,
    Text.dropIndent_indent_append hw]

theorem Marker.across_indented (m : Marker) (line : Text) :
    m.across (w ++ line) = m.across line := by
  rw [Marker.across, Marker.across, isBlankLine_indented hw, Marker.ofLine_indented hw]

end

/-- A line closes the same fences at any depth. -/
theorem closesIndent_indented (w i line : Text) :
    closesIndent (w ++ i) (w ++ line) = closesIndent i line := by
  rw [closesIndent, List.append_assoc, Text.after?_append_append, closesIndent]

theorem Fence.isClosedBy_indented (w : Text) (f : Fence) (line : Text) :
    (f.indented w).isClosedBy (w ++ line) = f.isClosedBy line := closesIndent_indented w _ _

/-! ### Documents -/

/-- The snippet at a further indentation. -/
def Snippet.indented (w : Text) (s : Snippet) : Snippet :=
  { s with fence := s.fence.indented w, code := Text.indented w s.code }

/-- The section at a further indentation. -/
def Section.indented (w : Text) (s : Section) : Section :=
  ⟨s.toSnippet.indented w, Text.indented w s.lead⟩

namespace Document

/-- The document at a further indentation. -/
def indented (w : Text) (d : Document) : Document :=
  ⟨d.sections.map (Section.indented w), Text.indented w d.rest⟩

/-- The first line of a cut is moved, and so is what is put together of the other lines. -/
theorem indented_line_append (w : Text) {line : Text} {ls : List Text}
    (h : Text.lines (line :: ls).flatten = line :: ls) {t : Text} (ht : ls = [] → t = []) :
    Text.indented w (line ++ t) = w ++ line ++ Text.indented w t := by
  obtain ⟨-, hwhole | ⟨hlast, hls⟩⟩ := Text.lines_eq_cons h
  · exact Text.indented_isWhole_append w hwhole t
  · rw [ht hls, List.append_nil, Text.indented_isLast w hlast, Text.indented_nil, List.append_nil]

theorem indented_consLine (w : Text) {line : Text} {ls : List Text}
    (h : Text.lines (line :: ls).flatten = line :: ls) {d : Document}
    (hd : ls = [] → d = ⟨[], []⟩) :
    (d.consLine line).indented w = (d.indented w).consLine (w ++ line) := by
  rcases d with ⟨_ | ⟨s, ss⟩, rest⟩
  · have hrest := indented_line_append w h (t := rest) fun hls => by
      cases hd hls
      rfl
    simp [consLine, indented, hrest]
  · have hlead := indented_line_append w h (t := s.lead) fun hls => by cases hd hls
    simp [consLine, indented, Section.indented, hlead]

/-- **Moved lines are read as the moved document**, inside a block and between two. -/
theorem walk_indented {w : Text} (hw : IsIndent w) {ls : List Text}
    (hcut : Text.lines ls.flatten = ls) (state : Option Fence) (m : Marker) :
    walk (state.map (Fence.indented w)) m (ls.map (w ++ ·)) =
      (Text.indented w (walk state m ls).1, (walk state m ls).2.indented w) := by
  induction ls generalizing state m with
  | nil => cases state <;> rfl
  | cons line ls ih =>
    have hrest := ih (Text.lines_eq_cons hcut).1
    -- Nothing is read behind the last line.
    have hempty : ∀ state m, ls = [] → walk state m ls = ([], ⟨[], []⟩) := by
      rintro state m rfl
      cases state <;> rfl
    have hconsLine : ∀ state m, ((walk state m ls).2.consLine line).indented w =
        ((walk state m ls).2.indented w).consLine (w ++ line) := fun state m =>
      indented_consLine w hcut fun hls => by rw [hempty state m hls]
    rw [List.map_cons]
    cases state with
    | some f =>
      rw [Option.map_some, walk, walk, Fence.isClosedBy_indented]
      split
      · rw [hconsLine]
        exact congrArg (fun r => (([] : Text), consLine (w ++ line) r.2)) (hrest none .absent)
      · have hcode := indented_line_append w hcut (t := (walk (some f) m ls).1) fun hls => by
          rw [hempty (some f) m hls]
        rw [hcode]
        exact congrArg (fun r => (w ++ line ++ r.1, r.2)) (hrest (some f) m)
    | none =>
      rw [Option.map_none, walk, walk, Fence.ofLine?_indented hw]
      cases hline : Fence.ofLine? line with
      | some f =>
        have hany : (ls.map (w ++ ·)).any (f.indented w).isClosedBy = ls.any f.isClosedBy := by
          rw [List.any_map]
          exact congrArg ls.any (funext fun l => Fence.isClosedBy_indented w f l)
        rw [Option.map_some]
        simp only [hany]
        split
        · have hwhole := (Fence.ofLine?_eq_some_iff.mp hline).isWhole
          have hnext := hrest (some f) .absent
          rw [Option.map_some] at hnext
          rw [hnext]
          simp [consSection, indented, Section.indented, Snippet.indented,
            Text.indented_isWhole w hwhole]
        · rw [hconsLine]
          exact congrArg (fun r => (([] : Text), consLine (w ++ line) r.2)) (hrest none .absent)
      | none =>
        rw [Option.map_none]
        simp only
        rw [Marker.across_indented hw, hconsLine]
        exact congrArg (fun r => (([] : Text), consLine (w ++ line) r.2))
          (hrest none (m.across line))

/-- **A moved document is read as the moved sections.** -/
theorem ofText_indented {w : Text} (hw : IsIndent w) (t : Text) :
    ofText (Text.indented w t) = (ofText t).indented w := by
  have hcut : Text.lines (Text.lines t).flatten = Text.lines t := by rw [Text.flatten_lines]
  have hwalk := walk_indented hw hcut none .absent
  rw [ofText, Text.lines_indented hw, ofLines]
  exact congrArg Prod.snd hwalk

end Document

/-! ### Comments -/

namespace CommentStyle

section
variable {w : Text} (hw : IsIndent w)
include hw

/-- A markup comment reads the same at any depth. -/
theorem markupWord?_indented (line : Text) :
    markupWord? (withoutNewline (w ++ line)) = markupWord? (withoutNewline line) := by
  have hlast : ∀ c ∈ w.getLast?, c ∉ ['\r', '\n'] ∧ c ∉ ['\n'] := by
    intro c hc
    have hmem := List.mem_of_getLast? hc
    have hcr : c ≠ '\r' := fun h => hw.cr_notMem (h ▸ hmem)
    have hlf : c ≠ '\n' := fun h => hw.lf_notMem (h ▸ hmem)
    simp [hcr, hlf]
  have hskip : ∀ t, markupWord? (w ++ t) = markupWord? t := fun t =>
    markupWord?_skip fun c hc => by
      rintro rfl
      exact absurd (hw _ hc) (by decide)
  rw [withoutNewline, withoutNewline, Text.before?_append_left fun c hc => (hlast c hc).1,
    Text.before?_append_left fun c hc => (hlast c hc).2]
  cases Text.before? ['\r', '\n'] line with
  | some t => exact hskip t
  | none => cases Text.before? ['\n'] line <;> exact hskip _

/-- The comment that opens a block reads the same at any depth. -/
theorem first?_indented (style : CommentStyle) (code : Text) :
    first? style (Text.indented w code) = first? style code := by
  have hblank : (fun line => !Text.isBlank line) ∘ (w ++ ·) = fun line => !Text.isBlank line := by
    funext line
    have hspaces : w.all isSpace = true := List.all_eq_true.mpr hw.isSpaces
    simp [Text.isBlank, hspaces]
  rcases cases_opening? style with rfl | rfl | ⟨opening, hopen⟩
  · rfl
  · unfold first?
    simp only
    rw [Text.lines_indented hw, List.find?_map, hblank]
    cases (Text.lines code).find? fun line => !Text.isBlank line with
    | none => rfl
    | some line => exact markupWord?_indented hw line
  · have hline : first? style ∘ (w ++ ·) = first? style := by
      funext line
      rw [Function.comp_apply, first?_of_opening? hopen, first?_of_opening? hopen,
        Text.trimStart_append hw.isSpaces]
    rw [first?_eq_bind hopen, first?_eq_bind hopen, Text.lines_indented hw, List.find?_map, hblank,
      Option.bind_map, hline]

end

end CommentStyle

/-- A moved block asks for the same. -/
theorem Snippet.demand_indented {w : Text} (hw : IsIndent w) (s : Snippet) :
    (s.indented w).demand = s.demand := by
  have htext : ∀ style, (s.indented w).directiveText? style = s.directiveText? style := by
    intro style
    have hfirst := CommentStyle.first?_indented hw style s.code
    rw [Snippet.directiveText?, Snippet.directiveText?,
      show (s.indented w).marker = s.marker from rfl,
      show (s.indented w).code = Text.indented w s.code from rfl, hfirst]
  unfold Snippet.demand
  simp only [htext]
  rfl

end FenceSync
