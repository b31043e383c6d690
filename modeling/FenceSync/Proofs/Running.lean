import FenceSync.Proofs.Demand

namespace FenceSync

/-!
# Embedding where files and commands may change

In a state monad every answer may depend on what happened before, and may change what happens next.
Whatever the answers are, an embedded document is its text with some interiors in new places.

* `runFrom` runs a computation that may fail from a state.
* `Snippet.Becomes` says that a new interior was reached by resolving its block, and
  `Snippet.MadeOf` which lines it was made of.
* `becomes_of_embed` is the spec of `embed`: the result is made of outcomes that were reached;
  `embed_runFrom` forgets how they were reached.
-/

/-! ### Running from a state -/

theorem map_eq_ok_iff {ε α β : Type} {f : α → β} {x : Except ε α} {b : β} :
    x.map f = .ok b ↔ ∃ a, x = .ok a ∧ f a = b := by
  cases x <;> simp [Except.map]

/-- The result of a computation that starts in the state `s`, and the state behind it. -/
def runFrom {ε σ α : Type} (x : ExceptT ε (StateM σ) α) (s : σ) : Except ε α × σ := x.run.run s

section
variable {ε σ α β : Type}

@[simp] theorem runFrom_pure (a : α) (s : σ) :
    runFrom (pure a : ExceptT ε (StateM σ) α) s = (.ok a, s) := rfl

@[simp] theorem runFrom_throw (e : ε) (s : σ) :
    runFrom (throw e : ExceptT ε (StateM σ) α) s = (.error e, s) := rfl

@[simp] theorem runFrom_lift (x : StateM σ α) (s : σ) :
    runFrom (liftM x : ExceptT ε (StateM σ) α) s = (.ok (x.run s).1, (x.run s).2) := rfl

/-- A lifted computation does not fail, and does what it does. -/
theorem run_of_runFrom_lift {x : StateM σ α} {a : α} {s t : σ}
    (h : runFrom (liftM x : ExceptT ε (StateM σ) α) s = (.ok a, t)) : x.run s = (a, t) := by
  rw [runFrom_lift] at h
  obtain ⟨ha, ht⟩ := Prod.mk.inj h
  exact Prod.ext (Except.ok.inj ha) ht

/-- Two computations run one after the other, unless the first one fails. -/
theorem runFrom_bind (x : ExceptT ε (StateM σ) α) (f : α → ExceptT ε (StateM σ) β) (s : σ) :
    runFrom (x >>= f) s =
      match runFrom x s with
      | (.ok a, s') => runFrom (f a) s'
      | (.error e, s') => (.error e, s') := by
  unfold runFrom
  rw [ExceptT.run_bind, StateT.run_bind]
  rcases x.run.run s with ⟨_ | a, s'⟩ <;> rfl

theorem runFrom_map (f : α → β) (x : ExceptT ε (StateM σ) α) (s : σ) :
    runFrom (f <$> x) s = Prod.map (Except.map f) id (runFrom x s) := by
  rw [map_eq_pure_bind, runFrom_bind]
  rcases runFrom x s with ⟨e | a, s'⟩ <;> rfl

/-- A sequence succeeds if both of its parts do. -/
theorem runFrom_bind_eq_ok {x : ExceptT ε (StateM σ) α} {f : α → ExceptT ε (StateM σ) β}
    {s t : σ} {b : β} (h : runFrom (x >>= f) s = (.ok b, t)) :
    ∃ a s', runFrom x s = (.ok a, s') ∧ runFrom (f a) s' = (.ok b, t) := by
  rw [runFrom_bind] at h
  rcases hx : runFrom x s with ⟨e | a, s'⟩
  · rw [hx] at h
    cases h
  · rw [hx] at h
    exact ⟨a, s', rfl, h⟩

end

/-! ### One block -/

variable {σ : Type} {env : Surroundings (StateM σ)} {o : Options} {path newline : Text}

/-- A new interior was reached by resolving the block, from whatever state. -/
def Snippet.Becomes (env : Surroundings (StateM σ)) (o : Options) (newline : Text) (s : Snippet)
    (out : Outcome) : Prop :=
  out.isResolved = true → ∃ st st', runFrom (s.resolve env o newline) st = (.ok out, st')

/-- The lines were fetched for the block, from whatever state, and the new interior was made of
    them. -/
def Snippet.MadeOf (env : Surroundings (StateM σ)) (o : Options) (newline : Text) (s : Snippet)
    (out : Outcome) (ls : List Text) : Prop :=
  out.isResolved = true ∧ ∃ style text d, s.demand = .wanted style text d ∧
    (∃ st st', runFrom (d.lines env o) st = (.ok ls, st')) ∧
      s.settle o style text newline ls = .ok out

/-- Every new interior was made of some lines. -/
theorem Snippet.Becomes.exists_madeOf {s : Snippet} {out : Outcome}
    (h : s.Becomes env o newline out) (hres : out.isResolved = true) :
    ∃ ls, s.MadeOf env o newline out ls := by
  obtain ⟨st, st', h⟩ := h hres
  unfold Snippet.resolve at h
  cases hd : s.demand with
  | settled out' =>
    rw [hd] at h
    cases h
    rw [Snippet.isResolved_of_demand hd] at hres
    cases hres
  | invalid directive =>
    rw [hd] at h
    cases h
  | wanted style text d =>
    rw [hd] at h
    obtain ⟨-, st₁, -, h⟩ := runFrom_bind_eq_ok h
    obtain ⟨lines, st₂, hlines, h⟩ := runFrom_bind_eq_ok h
    cases hs : s.settle o style text newline lines with
    | error e =>
      rw [hs] at h
      cases h
    | ok out' =>
      rw [hs] at h
      cases h
      exact ⟨lines, hres, style, text, d, hd, ⟨st₁, _, hlines⟩, hs⟩

theorem Snippet.Becomes.canBecome {s : Snippet} {out : Outcome}
    (h : s.Becomes env o newline out) : s.CanBecome o newline out := by
  intro hres
  obtain ⟨ls, -, style, text, d, hd, -, hs⟩ := h.exists_madeOf hres
  exact ⟨style, text, d, ls, hd, hs⟩

theorem becomes_of_embedBlock {b : Block} {out : Outcome} {st st' : σ}
    (h : runFrom (embedBlock env o path newline b) st = (.ok out, st')) :
    b.toSnippet.Becomes env o newline out := by
  unfold embedBlock at h
  obtain ⟨result, st₁, hrun, h⟩ := runFrom_bind_eq_ok h
  have hresolve : runFrom (b.toSnippet.resolve env o newline) st = (result, st₁) := by
    rw [runFrom_lift] at hrun
    cases hrun
    rfl
  -- Whether there is a message on the outcome or not, it is not changed.
  cases result with
  | ok out' =>
    have hout : out' = out := by
      simp only at h
      obtain ⟨_, _, hpure, h⟩ := runFrom_bind_eq_ok h
      cases hpure
      split at h
      · cases h
        rfl
      · cases h
        rfl
    exact fun _ => ⟨st, st₁, hout ▸ hresolve⟩
  | error e =>
    cases he : e.tolerated? o with
    | none =>
      simp only [he] at h
      cases h
    | some out' =>
      simp only [he] at h
      obtain ⟨-, st₂, -, h⟩ := runFrom_bind_eq_ok h
      obtain ⟨_, _, hpure, h⟩ := runFrom_bind_eq_ok h
      have hout : out' = out := by
        cases hpure
        split at h
        · cases h
          rfl
        · cases h
          rfl
      intro hres
      rw [← hout, e.isResolved_of_tolerated? o he] at hres
      cases hres

/-! ### A document -/

theorem becomes_of_embedSections {before : Text} {ss : List Section}
    {r : Text × List BlockReport} {st st' : σ}
    (h : runFrom (embedSections env o path newline before ss) st = (.ok r, st')) :
    ∃ outs, List.Forall₂ (fun s out => s.toSnippet.Becomes env o newline out) ss outs ∧
      r = (splice ss outs, reportsOn (Block.listFrom newline before ss) outs) := by
  induction ss generalizing before r st st' with
  | nil =>
    cases h
    exact ⟨[], .nil, rfl⟩
  | cons s ss ih =>
    rw [embedSections] at h
    obtain ⟨out, st₁, hout, h⟩ := runFrom_bind_eq_ok h
    obtain ⟨rest, st₂, hrest, h⟩ := runFrom_bind_eq_ok h
    obtain ⟨outs, houts, rfl⟩ := ih hrest
    cases h
    exact ⟨out :: outs, .cons (becomes_of_embedBlock hout) houts, rfl⟩

/-- **The spec of `embed`, whatever the surroundings do.**  The scan ended, every new interior was
    reached by resolving its block, and the result puts the new interiors in the places of the old
    ones. -/
theorem becomes_of_embed {markdown : Text} {r : EmbedResult} {st st' : σ}
    (h : runFrom (embed env o path markdown) st = (.ok r, st')) :
    Search.givesUp markdown = false ∧
      let d := Document.ofText markdown
      let nl := (Text.newline markdown).text
      ∃ outs, List.Forall₂ (fun s out => s.toSnippet.Becomes env o nl out) d.sections outs ∧
        r = ⟨splice d.sections outs ++ d.rest,
          reportsOn (Block.listFrom nl [] d.sections) outs⟩ := by
  rw [embed, Document.scan?] at h
  obtain ⟨-, st₁, -, h⟩ := runFrom_bind_eq_ok h
  cases hgives : Search.givesUp markdown with
  | true =>
    rw [hgives] at h
    cases h
  | false =>
    rw [hgives, if_neg Bool.false_ne_true] at h
    obtain ⟨r', st₂, hr', h⟩ := runFrom_bind_eq_ok h
    obtain ⟨outs, houts, rfl⟩ := becomes_of_embedSections hr'
    cases h
    exact ⟨rfl, outs, houts, rfl⟩

/-- Every block of an embedded document has an outcome that is possible for it. -/
theorem embed_runFrom {markdown : Text} {r : EmbedResult} {st st' : σ}
    (h : runFrom (embed env o path markdown) st = (.ok r, st')) :
    Search.givesUp markdown = false ∧
      let d := Document.ofText markdown
      let nl := (Text.newline markdown).text
      ∃ outs, List.Forall₂ (fun s out => s.toSnippet.CanBecome o nl out) d.sections outs ∧
        r = ⟨splice d.sections outs ++ d.rest,
          reportsOn (Block.listFrom nl [] d.sections) outs⟩ := by
  obtain ⟨hscan, outs, houts, hr⟩ := becomes_of_embed h
  exact ⟨hscan, outs, houts.imp fun _ _ hout => hout.canBecome, hr⟩

end FenceSync
