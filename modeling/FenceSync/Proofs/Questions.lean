import FenceSync.Proofs.Coupling
import FenceSync.Proofs.FixedPoint
import FenceSync.Proofs.Running

namespace FenceSync

/-!
# What a block asks for twice

Resolving a block asks the surroundings a sequence of questions.  A block that has got a new interior
asks the same questions when it is resolved again, and is up to date if the answers are the same.

* `Question` is what surroundings can be asked, and `Surroundings.noting` takes note of it.
* `Snippet.runFrom_resolve` is the spec of `Snippet.resolve` for a block with a directive, whatever
  the surroundings do.
* `Snippet.resolve_again` says that nothing changes on a second resolution from the same state.
* `Snippet.resolve_fixed` is the statement for files and commands that are functions, with the
  questions of both resolutions.
-/

/-! ### Questions -/

/-- What surroundings can be asked. -/
inductive Question where
  | isFile (p : Path)
  | read (p : Path)
  | run (line : Text) (dir : Path)
  deriving DecidableEq, Repr

/-- The same answers, with a note of every question. -/
def Surroundings.noting (env : Surroundings Id) : Surroundings (StateM (List Question)) where
  isFile p := fun asked => ((env.isFile p).run, asked ++ [.isFile p])
  read p := fun asked => ((env.read p).run, asked ++ [.read p])
  run line dir := fun asked => ((env.run line dir).run, asked ++ [.run line dir])
  log _ := pure ()

/-- Computations that have a given result and ask some questions, whatever was asked before. -/
def notes : Coupling (StateM (List Question)) Id where
  Rel x y := ∃ asked, ∀ before, x.run before = (y.run, before ++ asked)
  rel_pure _ := ⟨[], fun before => by rw [List.append_nil]; rfl⟩
  rel_bind := by
    rintro α β x y f g ⟨asked, hx⟩ hf
    obtain ⟨more, hmore⟩ := hf y.run
    refine ⟨asked ++ more, fun before => ?_⟩
    rw [StateT.run_bind, hx]
    show (f y.run).run (before ++ asked) = _
    rw [hmore, List.append_assoc]
    rfl

theorem Surroundings.noting_envs (env : Surroundings Id) : notes.Envs env.noting env where
  isFile p := ⟨[.isFile p], fun _ => rfl⟩
  read p := ⟨[.read p], fun _ => rfl⟩
  run line dir := ⟨[.run line dir], fun _ => rfl⟩
  log _ _ := ⟨[], fun before => by rw [List.append_nil]; rfl⟩

/-- The questions of a block do not depend on what was asked before, and neither does its outcome. -/
theorem Snippet.exists_asked (env : Surroundings Id) (o : Options) (s : Snippet) (newline : Text) :
    ∃ asked, ∀ before, runFrom (s.resolve env.noting o newline) before =
      ((s.resolve env o newline).run.run, before ++ asked) :=
  Snippet.resolve_coupled env.noting_envs o o.mode s newline

/-! ### The same state -/

section
variable {σ : Type} {env : Surroundings (StateM σ)} {o : Options}

/-- **A block with a directive fetches its lines**, behind a message, and is settled with them. -/
theorem Snippet.runFrom_resolve {s : Snippet} {style : CommentStyle} {text : Text} {d : Directive}
    (hd : s.demand = .wanted style text d) (newline : Text) (st : σ) :
    runFrom (s.resolve env o newline) st =
      match runFrom (d.lines env o) ((env.log ⟨.debug, .resolving,
        s!"resolving {String.ofList d.text} ({String.ofList s.fence.language} block)"⟩).run st).2 with
      | (.ok ls, st') => (s.settle o style text newline ls, st')
      | (.error e, st') => (.error e, st') := by
  unfold Snippet.resolve
  rw [hd]
  simp only
  rw [runFrom_bind, runFrom_lift]
  simp only
  rw [runFrom_bind]
  rcases runFrom (d.lines env o) _ with ⟨e | ls, st'⟩
  · rfl
  · simp only
    cases s.settle o style text newline ls <;> rfl

/-- A block without a directive gets no new interior. -/
theorem Snippet.exists_demand_of_resolve {s : Snippet} {newline r : Text} {n : Nat} {st st' : σ}
    (h : runFrom (s.resolve env o newline) st = (.ok (.resolved r n), st')) :
    ∃ style text d, s.demand = .wanted style text d := by
  cases hd : s.demand with
  | settled out =>
    unfold Snippet.resolve at h
    rw [hd] at h
    cases h
    cases Snippet.isResolved_of_demand hd
  | invalid directive =>
    unfold Snippet.resolve at h
    rw [hd] at h
    cases h
  | wanted style text d => exact ⟨style, text, d, rfl⟩

/-- **From the same state nothing changes on a second resolution**: the block asks for the same lines,
    gets the same answers, and has the interior already that is made of them. -/
theorem Snippet.resolve_again (nl : Newline) {s : Snippet} (hi : IsIndent s.fence.indent)
    (hkeep : o.stripComment = false) {r : Text} {n : Nat} {st st' : σ}
    (h : runFrom (s.resolve env o nl.text) st = (.ok (.resolved r n), st')) :
    runFrom (Snippet.resolve env o { s with code := r } nl.text) st = (.ok .upToDate, st') := by
  obtain ⟨style, text, d, hd⟩ := Snippet.exists_demand_of_resolve h
  rw [Snippet.runFrom_resolve hd] at h
  split at h
  · next ls st₁ hlines =>
    obtain ⟨hsettle, rfl⟩ := Prod.mk.inj h
    obtain ⟨hfences, rfl, -, -⟩ := Snippet.settle_eq_resolved o nl hd hsettle
    -- The comment above the new interior is read as the same directive.
    obtain ⟨again, htrim, hagain⟩ := Snippet.demand_newInterior o nl hd hi hkeep ls
    have hnone : (embeddedPieces nl ls).any startsFence = false := by
      rw [List.any_eq_false]
      exact fun p hp => by simp [hfences p hp]
    rw [Snippet.runFrom_resolve hagain, hlines]
    simp only
    rw [Snippet.settle_of_demand o nl hagain, hnone, if_neg Bool.false_ne_true,
      if_pos (Snippet.newInterior_congr o nl htrim _ ls)]
  · cases h

end

/-! ### Files and commands that are functions -/

/-- **A resolved block is a fixed point of resolution.**  Where files and commands are functions, a
    block with a new interior is up to date when it is resolved again at any later time, and it asks
    the same questions in the same order, commands included. -/
theorem Snippet.resolve_fixed (env : Surroundings Id) (o : Options) (nl : Newline) {s : Snippet}
    (hi : IsIndent s.fence.indent) (hkeep : o.stripComment = false) {r : Text} {n : Nat}
    {before after : List Question}
    (h : runFrom (s.resolve env.noting o nl.text) before = (.ok (.resolved r n), after)) :
    ∃ asked, after = before ++ asked ∧
      ∀ later, runFrom (Snippet.resolve env.noting o { s with code := r } nl.text) later =
        (.ok .upToDate, later ++ asked) := by
  obtain ⟨asked, hfirst⟩ := Snippet.exists_asked env o s nl.text
  obtain ⟨asked', hsecond⟩ := Snippet.exists_asked env o { s with code := r } nl.text
  have hagain := Snippet.resolve_again nl hi hkeep h
  rw [hfirst] at h
  rw [hsecond] at hagain
  obtain ⟨-, rfl⟩ := Prod.mk.inj h
  obtain ⟨hresult, hasked⟩ := Prod.mk.inj hagain
  refine ⟨asked, rfl, fun later => ?_⟩
  rw [hsecond, hresult, List.append_cancel_left hasked]

/-- An indented block with a command, in a document with CR LF. -/
theorem Snippet.resolve_fixed_command :
    let env := Surroundings.constant "x\n".toList
    let o := Options.inDir ⟨['/']⟩
    let s : Snippet := ⟨.absent, ⟨['\t'], "sh".toList⟩, "\t#  $ w \r\n".toList⟩
    let r : Text := "\t# $ w\r\n\t\r\n\tx\r\n".toList
    runFrom (s.resolve env.noting o Newline.crlf.text) [] =
        (.ok (.resolved r 1), [.run ['w'] ⟨['/']⟩]) ∧
      runFrom (Snippet.resolve env.noting o { s with code := r } Newline.crlf.text) [] =
        (.ok .upToDate, [.run ['w'] ⟨['/']⟩]) := by
  intro env o s r
  have h : runFrom (s.resolve env.noting o Newline.crlf.text) [] =
      (.ok (.resolved r 1), [.run ['w'] ⟨['/']⟩]) := by
    decide
  have hi : IsIndent s.fence.indent := by decide
  obtain ⟨asked, hasked, hagain⟩ := Snippet.resolve_fixed env o .crlf hi rfl h
  have hlast := hagain []
  rw [← hasked] at hlast
  exact ⟨h, hlast⟩

end FenceSync
