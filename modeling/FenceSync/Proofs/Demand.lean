import FenceSync.Proofs.Interior
import FenceSync.Proofs.Resolution

namespace FenceSync

/-!
# What a block asks for

* `Snippet.demand_eq_wanted_iff` says what is known of the directive that a block asks for.
* `Snippet.settle_of_demand` is the spec of `Snippet.settle` for a block with a directive.
* `Snippet.CanBecome` says what is known of an outcome without knowing what the directive leads to.
* `Snippet.settle_eq_resolved` and `Snippet.resolve_eq_resolved` take a new interior apart.
* `Snippet.Embeds` is the text that a block embeds, and `Snippet.outcome?_eq_some_iff` is the spec of
  `Snippet.outcome?` for a block with a directive.
-/

variable (env : Surroundings Id) (o : Options) (nl : Newline)

/-- A block asks for a directive if nothing stands in the way and its text can be read. -/
theorem Snippet.demand_eq_wanted_iff {s : Snippet} {style : CommentStyle} {text : Text}
    {d : Directive} :
    s.demand = .wanted style text d ↔
      s.marker ≠ .ignoreNext ∧ CommentStyle.ofLanguage? s.fence.language = some style ∧
        s.directiveText? style = some text ∧ Directive.ofText? text = some d := by
  unfold Snippet.demand
  by_cases hm : s.marker = .ignoreNext
  · rw [if_pos hm]
    simp [hm]
  · rw [if_neg hm]
    cases hl : CommentStyle.ofLanguage? s.fence.language with
    | none => simp
    | some style' =>
      cases ht : s.directiveText? style' with
      | none =>
        simp only [ht, reduceCtorEq, Option.some.injEq, false_iff, not_and]
        rintro - rfl h
        rw [ht] at h
        cases h
      | some text' =>
        cases hd : Directive.ofText? text' with
        | none =>
          simp only [ht, hd, reduceCtorEq, Option.some.injEq, false_iff, not_and]
          rintro - rfl h
          rw [ht] at h
          cases h
          simp [hd]
        | some d' =>
          simp only [ht, hd, Demand.wanted.injEq, Option.some.injEq]
          constructor
          · rintro ⟨rfl, rfl, rfl⟩
            exact ⟨hm, rfl, ht, hd⟩
          · rintro ⟨-, rfl, h, hd'⟩
            rw [ht] at h
            cases h
            rw [hd] at hd'
            cases hd'
            exact ⟨rfl, rfl, rfl⟩

/-- Without a marker a directive stands in a comment. -/
theorem Snippet.directiveText?_of_comment {s : Snippet} (h : ∀ t, s.marker ≠ .directive t)
    (style : CommentStyle) :
    s.directiveText? style =
      (style.first? s.code).filter fun text => !Text.isBlank text := by
  rw [Snippet.directiveText?]
  cases hm : s.marker with
  | directive t => exact absurd hm (h t)
  | absent => rfl
  | ignoreNext => rfl

/-- What a comment asks for can be said in a comment. -/
theorem Snippet.says_of_demand {s : Snippet} {style : CommentStyle} {text : Text} {d : Directive}
    (h : s.demand = .wanted style text d) (hm : ∀ t, s.marker ≠ .directive t) :
    style.Says text := by
  obtain ⟨-, -, htext, -⟩ := Snippet.demand_eq_wanted_iff.mp h
  rw [Snippet.directiveText?_of_comment hm, Option.filter_eq_some_iff] at htext
  exact CommentStyle.says_of_first? htext.1 (by simpa using htext.2)

/-- The pieces in front of the embedded text stand on one line each, and are no fences. -/
theorem Snippet.headerPieces_spec {s : Snippet} {style : CommentStyle} {text : Text}
    {d : Directive} (h : s.demand = .wanted style text d) {p : Text}
    (hp : p ∈ s.headerPieces o style text) : '\n' ∉ p ∧ startsFence p = false := by
  rcases Snippet.mem_headerPieces hp with rfl | ⟨hm, hc⟩
  · exact ⟨by simp, rfl⟩
  · refine ⟨fun hlf => ?_, ?_⟩
    · exact (CommentStyle.inLine_of_render? (Snippet.says_of_demand h hm) hc _ hlf).2 rfl
    · rw [Bool.eq_false_iff]
      intro hs
      obtain ⟨t, rfl⟩ := startsFence_iff.mp hs
      exact CommentStyle.head?_render? hc '\x60' rfl rfl

/-- The settle step of a block whose demand is known. -/
theorem Snippet.settle_of_demand {s : Snippet} {style : CommentStyle} {text : Text}
    {d : Directive} (h : s.demand = .wanted style text d) (ls : List Text) :
    s.settle o style text nl.text ls =
      if (embeddedPieces nl ls).any startsFence then
        .error (.nestedFence (Text.joinWith nl.text
          (Text.preview fencePreviewLines (embeddedPieces nl ls ++ [[]]))))
      else if s.newInterior nl o style text ls = s.code then .ok .upToDate
      else .ok (.resolved (s.newInterior nl o style text ls) (embeddedPieces nl ls).length) :=
  s.settle_eq nl o style text ls fun _ hp =>
    Text.isPiece_of_lf_notMem nl (Snippet.headerPieces_spec o h hp).1

/-- What is settled from the start is one of three outcomes. -/
theorem Snippet.settled_cases {s : Snippet} {out : Outcome} (h : s.demand = .settled out) :
    out = .ignored ∨ (∃ language, out = .languageUnresolved language) ∨ out = .noDirective := by
  unfold Snippet.demand at h
  split at h
  · cases h
    exact .inl rfl
  · split at h
    · cases h
      exact .inr (.inl ⟨_, rfl⟩)
    · split at h
      · cases h
        exact .inr (.inr rfl)
      · split at h <;> cases h

/-- What is settled from the start is no new interior. -/
theorem Snippet.isResolved_of_demand {s : Snippet} {out : Outcome}
    (h : s.demand = .settled out) : out.isResolved = false := by
  rcases Snippet.settled_cases h with rfl | ⟨_, rfl⟩ | rfl <;> rfl

/-- A tolerated error leaves the interior as it is. -/
theorem ResolveError.isResolved_of_tolerated? {e : ResolveError} {out : Outcome}
    (h : e.tolerated? o = some out) : out.isResolved = false := by
  cases e with
  | invalidDirective directive =>
    simp only [ResolveError.tolerated?] at h
    split at h
    · cases h
    · cases h
      rfl
  | _ => cases h

/-- The outcome is possible for the block, whatever its directive leads to: if it is a new interior,
    then the block asks for a directive, and the interior was made of some lines. -/
def Snippet.CanBecome (o : Options) (newline : Text) (s : Snippet) (out : Outcome) : Prop :=
  out.isResolved = true →
    ∃ style text d ls, s.demand = .wanted style text d ∧ s.settle o style text newline ls = .ok out

/-- **A settled interior taken apart**: the lines hold no fence at the start of a piece, and the
    interior is made of them. -/
theorem Snippet.settle_eq_resolved {s : Snippet} {style : CommentStyle} {text : Text}
    {d : Directive} (hd : s.demand = .wanted style text d) {ls : List Text} {r : Text} {n : Nat}
    (h : s.settle o style text nl.text ls = .ok (.resolved r n)) :
    (∀ p ∈ embeddedPieces nl ls, startsFence p = false) ∧
      r = s.newInterior nl o style text ls ∧ r ≠ s.code ∧ n = (embeddedPieces nl ls).length := by
  rw [Snippet.settle_of_demand o nl hd] at h
  split at h
  · cases h
  · next hany =>
    split at h
    · cases h
    · next hne =>
      cases h
      refine ⟨?_, rfl, hne, rfl⟩
      intro p hp
      rw [Bool.not_eq_true, List.any_eq_false] at hany
      simpa using hany p hp

/-- A possible interior ends with a line feed, if the old one does or is empty. -/
theorem Snippet.CanBecome.endsLine_interior {s : Snippet} {out : Outcome}
    (h : s.CanBecome o nl.text out) (hcode : Text.EndsLine s.code) :
    Text.EndsLine (out.interior s.code) := by
  cases out with
  | resolved r n =>
    obtain ⟨style, text, d, ls, hd, hs⟩ := h rfl
    obtain ⟨-, rfl, -⟩ := Snippet.settle_eq_resolved o nl hd hs
    exact Text.endsLine_joinLines nl _
  | _ => exact hcode

/-- A block that resolves to a new interior asked for a directive, and the interior was settled. -/
theorem Snippet.exists_settle_of_resolve {s : Snippet} {newline r : Text} {n : Nat}
    (h : (s.resolve env o newline).run.run = .ok (.resolved r n)) :
    ∃ style text d ls, s.demand = .wanted style text d ∧ (d.lines env o).run.run = .ok ls ∧
      s.settle o style text newline ls = .ok (.resolved r n) := by
  rw [Snippet.resolve_run] at h
  cases hd : s.demand with
  | settled out =>
    rw [hd] at h
    have hres := Snippet.isResolved_of_demand hd
    simp only [Except.ok.injEq] at h
    rw [h] at hres
    cases hres
  | invalid directive =>
    rw [hd] at h
    cases h
  | wanted style text d =>
    rw [hd] at h
    simp only at h
    cases hl : (d.lines env o).run.run with
    | error e => rw [hl] at h; cases h
    | ok ls =>
      rw [hl] at h
      exact ⟨style, text, d, ls, rfl, hl, h⟩

/-- **A new interior taken apart**: the lines that the block asked for hold no fence at the start of
    a piece, and the interior is made of them. -/
theorem Snippet.resolve_eq_resolved {s : Snippet} {r : Text} {n : Nat}
    (h : (s.resolve env o nl.text).run.run = .ok (.resolved r n)) :
    ∃ style text d ls, s.demand = .wanted style text d ∧ (d.lines env o).run.run = .ok ls ∧
      (∀ p ∈ embeddedPieces nl ls, startsFence p = false) ∧
      r = s.newInterior nl o style text ls ∧ r ≠ s.code ∧ n = (embeddedPieces nl ls).length := by
  obtain ⟨style, text, d, ls, hd, hl, hs⟩ := Snippet.exists_settle_of_resolve env o h
  exact ⟨style, text, d, ls, hd, hl, Snippet.settle_eq_resolved o nl hd hs⟩

/-! ### What becomes of a block -/

/-- The text that a block embeds. -/
def Snippet.Embeds (s : Snippet) (t : Text) : Prop :=
  ∃ style text d ls, s.demand = .wanted style text d ∧ (d.lines env o).run.run = .ok ls ∧
    t = embeddedText nl.text ls

/-- No failure to fetch lines is tolerated. -/
theorem Directive.tolerated?_of_lines {d : Directive} {e : ResolveError}
    (h : (d.lines env o).run.run = .error e) : e.tolerated? o = none := by
  cases d with
  | file path range =>
    rw [Directive.lines, fileLines_run] at h
    split at h
    · cases h
      rfl
    · split at h <;> cases h
      rfl
  | command line =>
    rw [Directive.lines, commandLines_run] at h
    split at h
    · cases h
      rfl
    · split at h <;> cases h
      rfl

/-- **What becomes of a block with a directive.**  Its lines are fetched, none of them looks like a
    fence, and it gets the interior that is made of them, unless it has that already. -/
theorem Snippet.outcome?_eq_some_iff {s : Snippet} {style : CommentStyle} {text : Text}
    {d : Directive} {out : Outcome} (hd : s.demand = .wanted style text d) :
    s.outcome? env o nl.text = some out ↔
      ∃ ls, (d.lines env o).run.run = .ok ls ∧ (embeddedPieces nl ls).any startsFence = false ∧
        out = if s.newInterior nl o style text ls = s.code then .upToDate
          else .resolved (s.newInterior nl o style text ls) (embeddedPieces nl ls).length := by
  rw [Snippet.outcome?, Snippet.resolve_run, hd]
  simp only
  cases hl : (d.lines env o).run.run with
  | error e => simp [Directive.tolerated?_of_lines env o hl]
  | ok ls =>
    simp only [Snippet.settle_of_demand o nl hd, Except.ok.injEq, exists_eq_left']
    cases hany : (embeddedPieces nl ls).any startsFence with
    | true => simp [ResolveError.tolerated?]
    | false =>
      rw [if_neg Bool.false_ne_true]
      by_cases hsame : s.newInterior nl o style text ls = s.code <;> simp [hsame, eq_comm]

/-- Without a directive nothing is asked of the surroundings. -/
theorem Snippet.outcome?_congr (env' : Surroundings Id) {s : Snippet}
    (h : ∀ style text d, s.demand ≠ .wanted style text d) (newline : Text) :
    s.outcome? env' o newline = s.outcome? env o newline := by
  rw [Snippet.outcome?, Snippet.outcome?, Snippet.resolve_run, Snippet.resolve_run]
  cases hd : s.demand with
  | wanted style text d => exact absurd hd (h style text d)
  | _ => rfl

end FenceSync
