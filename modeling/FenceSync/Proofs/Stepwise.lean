import FenceSync.Proofs.Splicing

namespace FenceSync

/-!
# One block after the other

In a state monad a block is resolved in the state that the blocks above it have left behind.  What
becomes of a document follows from the results of resolving all of its blocks in this way.

* `Surroundings.quiet` leaves the messages out, so that nothing but resolving blocks changes the
  state.
* `Block.conclude` is what embedding makes of the result of resolving a block.
* `resolutions` are the results for all blocks, whatever becomes of the document.
* `concludeAll` concludes from them in order; `concludeAll_eq_ok_iff` and `concludeAll_eq_error_iff`
  say how that ends.  `FirstError` is what the latter is about.
* `runFrom_embed_fst` says that this is what becomes of a document.
-/

variable {σ : Type} {env : Surroundings (StateM σ)} {o : Options} {path newline : Text}

/-- The same files and commands, with messages that are lost. -/
def Surroundings.quiet (env : Surroundings (StateM σ)) : Surroundings (StateM σ) :=
  { env with log := fun _ => pure () }

/-- Surroundings without files, in which commands print nothing, and `false` fails. -/
def Surroundings.failing : Surroundings (StateM Unit) where
  isFile _ := pure false
  read _ := pure (.error .notFound)
  run line _ := pure (.ok ⟨[], 1, line ≠ "false".toList⟩)
  log _ := pure ()

/-! ### One block -/

/-- The error ends the work on a document. -/
def ResolveError.stops (o : Options) (e : ResolveError) : Bool := o.strict || e.isFatal

theorem ResolveError.tolerated?_eq_none_iff {e : ResolveError} :
    e.tolerated? o = none ↔ e.stops o = true := by
  cases e with
  | invalidDirective directive => cases h : o.strict <;> simp [tolerated?, stops, isFatal, h]
  | _ => simp [tolerated?, stops, isFatal]

/-- What becomes of a block that was resolved with the given result: its outcome, or the error that
    ends the work on the document `path`. -/
def Block.conclude (o : Options) (path : Text) (b : Block) :
    Except ResolveError Outcome → Except EmbedError Outcome
  | .ok out => .ok out
  | .error e =>
    match e.tolerated? o with
    | none => .error (.block path b.startLine b.endLine e)
    | some out => .ok out

/-- Either the block ends the work, with its lines and its error, or it has an outcome. -/
theorem Block.conclude_cases (o : Options) (path : Text) (b : Block)
    (x : Except ResolveError Outcome) :
    (∃ e, x = .error e ∧ e.stops o = true ∧
        b.conclude o path x = .error (.block path b.startLine b.endLine e)) ∨
      ∃ out, b.conclude o path x = .ok out ∧ ∀ e, x = .error e → e.stops o = false := by
  cases x with
  | ok out => exact .inr ⟨out, rfl, by simp⟩
  | error e =>
    have hstops := ResolveError.tolerated?_eq_none_iff (o := o) (e := e)
    cases h : e.tolerated? o with
    | none => exact .inl ⟨e, rfl, hstops.mp h, by simp [conclude, h]⟩
    | some out => exact .inr ⟨out, by simp [conclude, h], by simpa [h] using hstops⟩

theorem Block.pass_of_conclude {b : Block} {x : Except ResolveError Outcome} {out : Outcome}
    (h : b.conclude o path x = .ok out) : ∀ e, x = .error e → e.stops o = false := by
  rcases b.conclude_cases o path x with ⟨e, -, -, hx⟩ | ⟨-, -, hpass⟩
  · rw [hx] at h
    cases h
  · exact hpass

/-- A message on the way changes nothing. -/
private theorem runFrom_message (message : Option LogEntry) (out : Outcome) (st : σ) :
    runFrom
      (do
        match message with
          | none => pure ()
          | some entry => (env.quiet.log entry : ExceptT EmbedError (StateM σ) Unit)
        pure out) st = (.ok out, st) := by
  cases message <;> rfl

/-- **A block is embedded by resolving it**, and by concluding from the result. -/
theorem runFrom_embedBlock (b : Block) (st : σ) :
    runFrom (embedBlock env.quiet o path newline b) st =
      Prod.map (b.conclude o path) id (runFrom (b.toSnippet.resolve env.quiet o newline) st) := by
  unfold embedBlock
  rw [runFrom_bind, runFrom_lift]
  show _ = Prod.map _ id ((b.toSnippet.resolve env.quiet o newline).run.run st)
  rcases (b.toSnippet.resolve env.quiet o newline).run.run st with ⟨e | out, st'⟩
  · cases he : e.tolerated? o with
    | none =>
      simp only [he, Prod.map, Block.conclude]
      rfl
    | some out =>
      simp only [he, Prod.map, Block.conclude]
      exact runFrom_message _ out st'
  · exact runFrom_message _ out st'

/-! ### The results for all blocks -/

/-- The results of resolving blocks one after the other, whether or not the work ends on the way. -/
def resolutions (env : Surroundings (StateM σ)) (o : Options) (newline : Text) :
    List Block → σ → List (Block × Except ResolveError Outcome)
  | [], _ => []
  | b :: bs, st =>
    let r := runFrom (b.toSnippet.resolve env.quiet o newline) st
    (b, r.1) :: resolutions env o newline bs r.2

theorem map_fst_resolutions (env : Surroundings (StateM σ)) (o : Options) (newline : Text)
    (bs : List Block) (st : σ) :
    (resolutions env o newline bs st).map (·.1) = bs := by
  induction bs generalizing st with
  | nil => rfl
  | cons b bs ih => rw [resolutions, List.map_cons, ih]

/-- What is done with the results has no influence on them. -/
theorem resolutions_congr (env : Surroundings (StateM σ)) (o : Options) (newline : Text)
    (mode : OutputMode) (strict : Bool) (bs : List Block) (st : σ) :
    resolutions env { o with mode := mode, strict := strict } newline bs st =
      resolutions env o newline bs st := by
  induction bs generalizing st with
  | nil => rfl
  | cons b bs ih =>
    -- Resolving a block looks neither at the mode nor at strictness.
    rw [resolutions, resolutions]
    exact congrArg (_ :: ·) (ih _)

/-! ### Concluding from the results -/

/-- Conclude from the results in order, up to the first one that ends the work. -/
def concludeAll (o : Options) (path : Text) (results : List (Block × Except ResolveError Outcome)) :
    Except EmbedError (List Outcome) :=
  results.mapM fun x => x.1.conclude o path x.2

theorem concludeAll_cons (b : Block) (x : Except ResolveError Outcome)
    (results : List (Block × Except ResolveError Outcome)) :
    concludeAll o path ((b, x) :: results) =
      match b.conclude o path x with
      | .error e => .error e
      | .ok out => (concludeAll o path results).map (out :: ·) := by
  rw [concludeAll, List.mapM_cons]
  cases b.conclude o path x with
  | error e => rfl
  | ok out =>
    show _ = (concludeAll o path results).map (out :: ·)
    rw [concludeAll]
    cases results.mapM fun x => x.1.conclude o path x.2 <;> rfl

/-- The work ends well if it does for every block. -/
theorem concludeAll_eq_ok_iff {results : List (Block × Except ResolveError Outcome)}
    {outs : List Outcome} :
    concludeAll o path results = .ok outs ↔
      List.Forall₂ (fun x out => x.1.conclude o path x.2 = .ok out) results outs := by
  induction results generalizing outs with
  | nil => cases outs <;> simp [concludeAll, pure, Except.pure]
  | cons x results ih =>
    rw [concludeAll_cons]
    cases hx : x.1.conclude o path x.2 with
    | error e => cases outs <;> simp [hx]
    | ok out =>
      cases hrest : concludeAll o path results with
      | error e => cases outs <;> simp [Except.map, ← ih, hrest]
      | ok later => cases outs <;> simp [Except.map, ← ih, hrest, hx]

/-- The first error of the given kind among results is that of this block. -/
def FirstError (p : ResolveError → Bool) (results : List (Block × Except ResolveError Outcome))
    (b : Block) (cause : ResolveError) : Prop :=
  ∃ front back, results = front ++ (b, .error cause) :: back ∧ p cause = true ∧
    ∀ x ∈ front, ∀ e, x.2 = .error e → p e = false

section
variable {p : ResolveError → Bool} {results : List (Block × Except ResolveError Outcome)}
  {b b' : Block} {cause : ResolveError}

/-- Behind an error of the given kind no other one is the first. -/
theorem firstError_cons_error {e : ResolveError} (h : p e = true) :
    FirstError p ((b', .error e) :: results) b cause ↔ b = b' ∧ cause = e := by
  constructor
  · rintro ⟨_ | ⟨y, front⟩, back, heq, -, hfront⟩
    · cases heq
      exact ⟨rfl, rfl⟩
    · -- An error in front of the first one would have to be of another kind.
      cases heq
      have hpass := hfront _ List.mem_cons_self e rfl
      rw [h] at hpass
      cases hpass
  · rintro ⟨rfl, rfl⟩
    exact ⟨[], results, rfl, h, by simp⟩

/-- Other results do not count. -/
theorem firstError_cons_of_pass {x : Block × Except ResolveError Outcome}
    (h : ∀ e, x.2 = .error e → p e = false) :
    FirstError p (x :: results) b cause ↔ FirstError p results b cause := by
  constructor
  · rintro ⟨_ | ⟨y, front⟩, back, heq, hp, hfront⟩
    · cases heq
      rw [h cause rfl] at hp
      cases hp
    · cases heq
      exact ⟨front, back, rfl, hp, fun y hy => hfront y (List.mem_cons_of_mem _ hy)⟩
  · rintro ⟨front, back, rfl, hp, hfront⟩
    exact ⟨x :: front, back, rfl, hp, List.forall_mem_cons.mpr ⟨h, hfront⟩⟩

/-- The first error of a kind is the first one of a narrower kind, if it is of that kind at all. -/
theorem FirstError.of_imp {q : ResolveError → Bool} (h : FirstError p results b cause)
    (hq : q cause = true) (himp : ∀ e, q e = true → p e = true) : FirstError q results b cause := by
  obtain ⟨front, back, rfl, -, hfront⟩ := h
  refine ⟨front, back, rfl, hq, fun x hx e he => ?_⟩
  rw [Bool.eq_false_iff]
  exact fun hqe => Bool.eq_false_iff.mp (hfront x hx e he) (himp e hqe)

end

/-- **The work ends with the first error that stops it.** -/
theorem concludeAll_eq_error_iff {results : List (Block × Except ResolveError Outcome)}
    {e : EmbedError} :
    concludeAll o path results = .error e ↔
      ∃ b cause, FirstError (ResolveError.stops o) results b cause ∧
        e = .block path b.startLine b.endLine cause := by
  induction results with
  | nil => simp [concludeAll, FirstError, pure, Except.pure]
  | cons x results ih =>
    obtain ⟨b, x⟩ := x
    rw [concludeAll_cons]
    rcases b.conclude_cases o path x with ⟨cause, rfl, hstops, hx⟩ | ⟨out, hx, hpass⟩
    · simp only [firstError_cons_error hstops, hx]
      simp [eq_comm]
    · simp only [firstError_cons_of_pass (x := (b, x)) hpass, hx]
      rw [← ih]
      cases concludeAll o path results <;> simp [Except.map]

/-! ### All blocks -/

theorem runFrom_embedSections_cons (before : Text) (s : Section) (ss : List Section) (st : σ) :
    runFrom (embedSections env o path newline before (s :: ss)) st =
      match runFrom (embedBlock env o path newline (Block.ofSection newline before s)) st with
      | (.error e, st') => (.error e, st')
      | (.ok out, st') =>
        Prod.map (Except.map fun rest =>
            let b := Block.ofSection newline before s
            (s.lead ++ out.interior s.code ++ rest.1, ⟨b.startLine, b.endLine, out⟩ :: rest.2)) id
          (runFrom (embedSections env o path newline (before ++ s.lead ++ s.code) ss) st') := by
  rw [embedSections]
  simp only
  rw [runFrom_bind]
  rcases runFrom (embedBlock env o path newline (Block.ofSection newline before s)) st with
    ⟨e | out, st'⟩
  · rfl
  · simp only
    rw [← runFrom_map, map_eq_pure_bind]

/-- **Blocks are embedded by concluding from the results in order.** -/
theorem embedSections_quiet (before : Text) (ss : List Section) (st : σ) :
    (runFrom (embedSections env.quiet o path newline before ss) st).1 =
      (concludeAll o path (resolutions env o newline (Block.listFrom newline before ss) st)).map
        fun outs => (splice ss outs, reportsOn (Block.listFrom newline before ss) outs) := by
  induction ss generalizing before st with
  | nil => rfl
  | cons s ss ih =>
    rw [runFrom_embedSections_cons, runFrom_embedBlock, Block.listFrom, resolutions,
      concludeAll_cons]
    have hlater := ih (before ++ s.lead ++ s.code)
    rcases runFrom ((Block.ofSection newline before s).toSnippet.resolve env.quiet o newline) st
      with ⟨x, st'⟩
    simp only [Prod.map_apply, id_eq]
    cases (Block.ofSection newline before s).conclude o path x with
    | error e => rfl
    | ok out =>
      simp only [Prod.map_fst, hlater]
      cases concludeAll o path _ <;> rfl

/-! ### A document -/

/-- Without messages, scanning a document changes nothing. -/
theorem runFrom_embed (markdown : Text) (st : σ) :
    runFrom (embed env.quiet o path markdown) st =
      match Document.scan? markdown with
      | .error e => (.error (.scan path e), st)
      | .ok d =>
        Prod.map (Except.map fun r => ⟨r.1 ++ d.rest, r.2⟩) id
          (runFrom (embedSections env.quiet o path (Text.newline markdown).text [] d.sections)
            st) := by
  rw [embed, runFrom_bind, runFrom_lift]
  cases Document.scan? markdown with
  | error e => rfl
  | ok d =>
    simp only
    rw [← runFrom_map, map_eq_pure_bind]
    rfl

/-- Where the scan gives up, no block is resolved. -/
theorem runFrom_embed_of_extract?_error {markdown : Text} {e : Document.ScanFault}
    (h : Block.extract? markdown = .error e) (st : σ) :
    runFrom (embed env.quiet o path markdown) st = (.error (.scan path e), st) := by
  rw [Block.extract?] at h
  split at h
  · cases h
  · next e' hscan =>
    cases h
    rw [runFrom_embed, hscan]

/-- **What becomes of a document** follows from the results of resolving its blocks. -/
theorem runFrom_embed_fst {markdown : Text} {bs : List Block}
    (h : Block.extract? markdown = .ok bs) (st : σ) :
    (runFrom (embed env.quiet o path markdown) st).1 =
      (concludeAll o path (resolutions env o (Text.newline markdown).text bs st)).map fun outs =>
        ⟨splice (Document.ofText markdown).sections outs ++ (Document.ofText markdown).rest,
          reportsOn bs outs⟩ := by
  obtain ⟨hscan, rfl⟩ := Block.extract?_eq_ok_iff.mp h
  rw [runFrom_embed, Document.scan?, hscan, if_neg Bool.false_ne_true]
  simp only [Prod.map_fst]
  rw [embedSections_quiet, Block.list]
  cases concludeAll o path _ <;> rfl

end FenceSync
