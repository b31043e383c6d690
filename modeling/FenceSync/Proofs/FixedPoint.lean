import FenceSync.Proofs.Demand

namespace FenceSync

/-!
# Blocks that are resolved twice

A block with a new interior asks for the same directive again: the comment above the new interior
is read back, up to the white space around the directive, which does not matter.

* `Outcome.settled` is what becomes of an outcome on a second run.
* `Snippet.demand_newInterior` says that the directive is read back.
* `Snippet.newInterior_eq_iff` says that a new interior shows which text was embedded.
* `Snippet.outcome?_interior_of_embeds` says that a second run changes nothing where the same text is
  embedded, and `Snippet.embeds_of_outcome?_interior` that it changes something elsewhere.
-/

variable (env : Surroundings Id) (o : Options) (nl : Newline)

/-- The outcome of a second run. -/
def Outcome.settled : Outcome → Outcome
  | .resolved _ _ => .upToDate
  | out => out

theorem Outcome.settled_eq_self {out : Outcome} (h : out.isResolved = false) :
    out.settled = out := by
  cases out with
  | resolved r n => cases h
  | _ => rfl

/-- Only new interiors change anything. -/
theorem Outcome.interior_eq_self {out : Outcome} (h : out.isResolved = false) (t : Text) :
    out.interior t = t := by
  cases out with
  | resolved r n => cases h
  | _ => rfl

@[simp] theorem Outcome.isResolved_settled (out : Outcome) : out.settled.isResolved = false := by
  cases out <;> rfl

/-- The second run leaves all interiors as they are. -/
@[simp] theorem Outcome.interior_settled (out : Outcome) (t : Text) : out.settled.interior t = t := by
  cases out <;> rfl

/-! ### The comment -/

theorem Text.isBlank_congr {s t : Text} (h : Text.trim s = Text.trim t) :
    Text.isBlank s = Text.isBlank t := by
  rw [Bool.eq_iff_iff, Text.isBlank_iff_trim, Text.isBlank_iff_trim, h]

/-! ### One block -/

variable {s : Snippet} {style : CommentStyle} {text : Text} {d : Directive}

/-- A new interior depends neither on the old one nor on white space around the directive. -/
theorem Snippet.newInterior_congr {again : Text} (h : Text.trim again = Text.trim text)
    (code : Text) (ls : List Text) :
    ({ s with code } : Snippet).newInterior nl o style again ls =
      s.newInterior nl o style text ls := by
  have hheader : ({ s with code } : Snippet).headerPieces o style again =
      s.headerPieces o style text := by
    unfold Snippet.headerPieces
    rw [CommentStyle.render?_congr style h]
  rw [Snippet.newInterior, Snippet.newPieces, hheader, Snippet.newInterior, Snippet.newPieces]

/-- The comment stands at the top of the new interior. -/
theorem Snippet.exists_newInterior_eq (hm : ∀ t, s.marker ≠ .directive t)
    (hkeep : o.stripComment = false) {comment : Text} (hc : style.render? text = some comment)
    (ls : List Text) :
    ∃ t, s.newInterior nl o style text ls = s.fence.indent ++ comment ++ nl.text ++ t := by
  rw [Snippet.newInterior, Snippet.newPieces, Snippet.headerPieces_of_comment hm hkeep hc,
    List.cons_append, List.map_cons, Text.joinLines_cons]
  exact ⟨_, rfl⟩

/-- **The directive is read back** from the new interior, up to the white space around it. -/
theorem Snippet.demand_newInterior (h : s.demand = .wanted style text d)
    (hi : IsIndent s.fence.indent) (hkeep : o.stripComment = false) (ls : List Text) :
    ∃ again, Text.trim again = Text.trim text ∧
      ({ s with code := s.newInterior nl o style text ls } : Snippet).demand =
        .wanted style again d := by
  obtain ⟨hm, hl, ht, hd⟩ := Snippet.demand_eq_wanted_iff.mp h
  by_cases hmark : ∃ t, s.marker = .directive t
  · -- A marker is not part of the interior.
    obtain ⟨t, hmark⟩ := hmark
    refine ⟨text, rfl, Snippet.demand_eq_wanted_iff.mpr ⟨hm, hl, ?_, hd⟩⟩
    rw [Snippet.directiveText?, hmark] at ht ⊢
    exact ht
  · have hmark' : ∀ t, s.marker ≠ .directive t := fun t ht => hmark ⟨t, ht⟩
    have hsays := Snippet.says_of_demand h hmark'
    rw [Snippet.directiveText?_of_comment hmark', Option.filter_eq_some_iff] at ht
    have hstyle : style ≠ .none := by
      rintro rfl
      cases ht.1
    obtain ⟨comment, hc⟩ := CommentStyle.exists_render? hstyle text
    obtain ⟨t, hnew⟩ := Snippet.exists_newInterior_eq o nl hmark' hkeep hc ls
    obtain ⟨again, hfirst, htrim⟩ := CommentStyle.first?_render hsays hc hi.isSpaces nl t
    have hblank : Text.isBlank again = false := by
      rw [Text.isBlank_congr htrim, hsays.notBlank]
    refine ⟨again, htrim, Snippet.demand_eq_wanted_iff.mpr ⟨hm, hl, ?_, ?_⟩⟩
    · have hread : ∀ code : Text, Snippet.directiveText? ⟨s.marker, s.fence, code⟩ style =
          (style.first? code).filter fun t => !Text.isBlank t := fun code =>
        Snippet.directiveText?_of_comment (s := ⟨s.marker, s.fence, code⟩) hmark' style
      rw [hread, hnew, Option.filter_eq_some_iff]
      exact ⟨hfirst, by simp [hblank]⟩
    · rw [Directive.ofText?_congr htrim, hd]

/-- **Two new interiors of a block are the same** if the embedded texts are. -/
theorem Snippet.newInterior_eq_iff (hd : s.demand = .wanted style text d)
    (hi : IsIndent s.fence.indent) {ls ls' : List Text} :
    s.newInterior nl o style text ls = s.newInterior nl o style text ls' ↔
      embeddedText nl.text ls = embeddedText nl.text ls' := by
  have hcut : ∀ ls, Text.splitOn nl.text (s.newInterior nl o style text ls) =
      (s.headerPieces o style text ++ embeddedPieces nl ls).map (s.fence.indent ++ ·) ++ [[]] := by
    intro ls
    refine Text.splitOn_joinLines nl fun q hq => ?_
    obtain ⟨p, hp, rfl⟩ := List.mem_map.mp hq
    refine hi.isPiece_append nl ?_
    rcases List.mem_append.mp hp with hp | hp
    · exact Text.isPiece_of_lf_notMem nl (Snippet.headerPieces_spec o hd hp).1
    · exact isPiece_of_mem_embeddedPieces nl hp
  rw [← embeddedPieces_eq_iff]
  constructor
  · intro h
    have hsame := congrArg (Text.splitOn nl.text) h
    rw [hcut, hcut, List.append_cancel_right_eq] at hsame
    have hpieces := List.map_injective_iff.mpr (List.append_right_injective s.fence.indent) hsame
    exact List.append_cancel_left hpieces
  · intro h
    rw [Snippet.newInterior, Snippet.newPieces, h, Snippet.newInterior, Snippet.newPieces]

/-- A new interior is never made of a tolerated error. -/
theorem Snippet.resolve_of_outcome? {newline r : Text} {n : Nat}
    (h : s.outcome? env o newline = some (.resolved r n)) :
    (s.resolve env o newline).run.run = .ok (.resolved r n) := by
  unfold Snippet.outcome? at h
  split at h
  · next out hout => rw [hout, Option.some.inj h]
  · cases ResolveError.isResolved_of_tolerated? o h

theorem Snippet.canBecome_of_outcome? {newline : Text} {out : Outcome}
    (h : s.outcome? env o newline = some out) : s.CanBecome o newline out := by
  intro hres
  cases out with
  | resolved r n =>
    obtain ⟨style, text, d, ls, hd, -, hs⟩ :=
      Snippet.exists_settle_of_resolve env o (Snippet.resolve_of_outcome? env o h)
    exact ⟨style, text, d, ls, hd, hs⟩
  | _ => cases hres

/-- The interior that a block with a directive gets, also if it has it already. -/
theorem Snippet.exists_interior_eq (hd : s.demand = .wanted style text d) {out : Outcome}
    (h : s.outcome? env o nl.text = some out) :
    ∃ ls, (d.lines env o).run.run = .ok ls ∧ (embeddedPieces nl ls).any startsFence = false ∧
      out.interior s.code = s.newInterior nl o style text ls ∧ out.settled = .upToDate := by
  obtain ⟨ls, hl, hany, rfl⟩ := (Snippet.outcome?_eq_some_iff env o nl hd).mp h
  refine ⟨ls, hl, hany, ?_⟩
  split
  · next hsame => exact ⟨hsame.symm, rfl⟩
  · exact ⟨rfl, rfl⟩

/-! ### A second run, perhaps elsewhere -/

section
variable (env' : Surroundings Id) {out : Outcome} (hi : IsIndent s.fence.indent)
  (hkeep : o.stripComment = false)
include hi hkeep

/-- A block with a new interior asks for its lines again, and its next interior is made of them in
    the same way. -/
theorem Snippet.outcome?_newInterior_iff (hd : s.demand = .wanted style text d) (ls : List Text) :
    ({ s with code := s.newInterior nl o style text ls } : Snippet).outcome? env' o nl.text =
        some out ↔
      ∃ ls', (d.lines env' o).run.run = .ok ls' ∧
        (embeddedPieces nl ls').any startsFence = false ∧
        out = if embeddedText nl.text ls' = embeddedText nl.text ls then .upToDate
          else .resolved (s.newInterior nl o style text ls') (embeddedPieces nl ls').length := by
  obtain ⟨again, htrim, hagain⟩ := Snippet.demand_newInterior o nl hd hi hkeep ls
  rw [Snippet.outcome?_eq_some_iff env' o nl hagain]
  simp only [Snippet.newInterior_congr o nl htrim, Snippet.newInterior_eq_iff o nl hd hi]

variable (h : s.outcome? env o nl.text = some out)
include h

/-- **On a second run nothing changes** where the block embeds the same text: a block with a new
    interior is up to date, and any other block has the outcome that it had. -/
theorem Snippet.outcome?_interior_of_embeds
    (hsame : ∀ t, s.Embeds env o nl t → s.Embeds env' o nl t) :
    ({ s with code := out.interior s.code } : Snippet).outcome? env' o nl.text =
      some out.settled := by
  by_cases hwanted : ∃ style text d, s.demand = .wanted style text d
  · obtain ⟨style, text, d, hd⟩ := hwanted
    obtain ⟨ls, hl, hany, hinterior, hsettled⟩ := Snippet.exists_interior_eq env o nl hd h
    obtain ⟨style', text', d', ls', hd', hl', htext⟩ := hsame _ ⟨style, text, d, ls, hd, hl, rfl⟩
    rw [hd] at hd'
    cases hd'
    rw [hinterior, hsettled, Snippet.outcome?_newInterior_iff o nl env' hi hkeep hd]
    refine ⟨ls', hl', ?_, ?_⟩
    · rwa [← (embeddedPieces_eq_iff nl).mpr htext]
    · rw [if_pos htext.symm]
  · have hnone : ∀ style text d, s.demand ≠ .wanted style text d :=
      fun style text d hd => hwanted ⟨style, text, d, hd⟩
    have hout : out.isResolved = false := by
      rw [Bool.eq_false_iff]
      intro hres
      obtain ⟨style, text, d, ls, hd, -⟩ := Snippet.canBecome_of_outcome? env o h hres
      exact hnone style text d hd
    rw [Outcome.interior_eq_self hout, Outcome.settled_eq_self hout,
      Snippet.outcome?_congr env o env' hnone, h]

/-- **A block that stays as it is elsewhere embeds the same text there.** -/
theorem Snippet.embeds_of_outcome?_interior {out' : Outcome}
    (h' : ({ s with code := out.interior s.code } : Snippet).outcome? env' o nl.text = some out')
    (hstays : out'.interior (out.interior s.code) = out.interior s.code) {t : Text}
    (ht : s.Embeds env o nl t) : s.Embeds env' o nl t := by
  obtain ⟨style, text, d, ls, hd, hl, rfl⟩ := ht
  obtain ⟨ls₀, hl₀, -, hinterior, -⟩ := Snippet.exists_interior_eq env o nl hd h
  rw [hl] at hl₀
  cases hl₀
  rw [hinterior] at h' hstays
  obtain ⟨ls', hl', -, rfl⟩ := (Snippet.outcome?_newInterior_iff o nl env' hi hkeep hd ls).mp h'
  refine ⟨style, text, d, ls', hd, hl', ?_⟩
  split at hstays
  · next hsame => exact hsame.symm
  · exact ((Snippet.newInterior_eq_iff o nl hd hi).mp hstays).symm

end

end FenceSync
