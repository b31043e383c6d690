import FenceSync.Proofs.Idempotence
import FenceSync.Proofs.Questions
import FenceSync.Proofs.Stepwise

namespace FenceSync

/-!
# Strictness

Strictness turns directives that cannot be read from reports into failures, and changes nothing else.

* `Outcome.IsInvalid` are the outcomes of tolerated errors.  Resolving a block never leads to one, so
  that each of them is a place at which strictness would have failed.
* `concludeAll_strict_iff` compares the work on a document with strictness and without.
* `embed_strict_ok_iff` is the case of success, and `embed_error_iff` that of failure.
* `embed_strictness` is the full statement.
-/

/-- The directive of the block could not be read. -/
def Outcome.IsInvalid (out : Outcome) : Prop := ∃ directive, out = .directiveInvalid directive

variable {σ : Type} {env : Surroundings (StateM σ)} {o : Options} {path newline : Text}

/-! ### Tolerated errors -/

/-- What is settled from the start is no tolerated error. -/
theorem Snippet.not_isInvalid_of_demand {s : Snippet} {out : Outcome}
    (h : s.demand = .settled out) : ¬ out.IsInvalid := by
  rintro ⟨directive, rfl⟩
  rcases Snippet.settled_cases h with hout | ⟨_, hout⟩ | hout <;> cases hout

/-- Resolving a block fails, or its directive could be read. -/
theorem Snippet.not_isInvalid_of_resolve {s : Snippet} {st : σ} {out : Outcome}
    (h : (runFrom (s.resolve env o newline) st).1 = .ok out) : ¬ out.IsInvalid := by
  rintro ⟨directive, rfl⟩
  cases hd : s.demand with
  | settled out =>
    unfold Snippet.resolve at h
    rw [hd] at h
    cases h
    exact Snippet.not_isInvalid_of_demand hd ⟨directive, rfl⟩
  | invalid directive =>
    unfold Snippet.resolve at h
    rw [hd] at h
    cases h
  | wanted style text d =>
    rw [Snippet.runFrom_resolve hd] at h
    split at h
    · next ls st' _ =>
      unfold Snippet.settle at h
      simp only at h
      split at h
      · cases h
      · split at h <;> cases h
    · cases h

theorem not_isInvalid_of_mem_resolutions {bs : List Block} {st : σ}
    {x : Block × Except ResolveError Outcome} (hx : x ∈ resolutions env o newline bs st)
    {out : Outcome} (hout : x.2 = .ok out) : ¬ out.IsInvalid := by
  induction bs generalizing st with
  | nil => cases hx
  | cons b bs ih =>
    rcases List.mem_cons.mp hx with rfl | hx
    · exact Snippet.not_isInvalid_of_resolve hout
    · exact ih hx

/-! ### Concluding with strictness and without -/

/-- A block has the same outcome with strictness, unless that is a tolerated error. -/
theorem Block.conclude_strict_iff {b : Block} {x : Except ResolveError Outcome}
    (h : ∀ out, x = .ok out → ¬ out.IsInvalid) {out : Outcome} :
    b.conclude { o with strict := true } path x = .ok out ↔
      b.conclude { o with strict := false } path x = .ok out ∧ ¬ out.IsInvalid := by
  cases x with
  | ok out' =>
    constructor
    · rintro ⟨⟩
      exact ⟨rfl, h out rfl⟩
    · exact fun hboth => hboth.1
  | error e =>
    constructor
    · intro hok
      have hpass := Block.pass_of_conclude hok e rfl
      cases hpass
    · rintro ⟨hok, hnot⟩
      cases e with
      | invalidDirective directive =>
        cases hok
        exact absurd ⟨directive, rfl⟩ hnot
      | _ => cases hok

/-- **The work ends well with strictness** if it does without, and no error was tolerated. -/
theorem concludeAll_strict_iff {results : List (Block × Except ResolveError Outcome)}
    (h : ∀ x ∈ results, ∀ out, x.2 = .ok out → ¬ out.IsInvalid) {outs : List Outcome} :
    concludeAll { o with strict := true } path results = .ok outs ↔
      concludeAll { o with strict := false } path results = .ok outs ∧
        ∀ out ∈ outs, ¬ out.IsInvalid := by
  rw [concludeAll_eq_ok_iff, concludeAll_eq_ok_iff]
  induction results generalizing outs with
  | nil => cases outs <;> simp
  | cons x results ih =>
    obtain ⟨hx, hresults⟩ := List.forall_mem_cons.mp h
    cases outs with
    | nil => simp
    | cons out outs =>
      rw [List.forall₂_cons, List.forall₂_cons, List.forall_mem_cons, ih hresults,
        Block.conclude_strict_iff hx]
      tauto

/-! ### A document -/

/-- The reports on blocks are about their outcomes. -/
theorem forall_mem_reportsOn_iff {results : List (Block × Except ResolveError Outcome)}
    {outs : List Outcome} (h : concludeAll o path results = .ok outs) {P : Outcome → Prop} :
    (∀ b ∈ reportsOn (results.map (·.1)) outs, P b.outcome) ↔ ∀ out ∈ outs, P out := by
  have hlen : (results.map (·.1)).length = outs.length :=
    List.length_map _ |>.trans (concludeAll_eq_ok_iff.mp h).length_eq
  conv_rhs => rw [← outcomes_reportsOn hlen]
  exact List.forall_mem_map.symm

section
variable {markdown : Text} {bs : List Block}

theorem embed_strict_ok_iff (h : Block.extract? markdown = .ok bs) (st : σ) {r : EmbedResult} :
    (runFrom (embed env.quiet { o with strict := true } path markdown) st).1 = .ok r ↔
      (runFrom (embed env.quiet { o with strict := false } path markdown) st).1 = .ok r ∧
        ∀ b ∈ r.blocks, ¬ b.outcome.IsInvalid := by
  have hsame : ∀ strict, resolutions env { o with strict := strict } (Text.newline markdown).text bs
      st = resolutions env o (Text.newline markdown).text bs st :=
    fun strict => resolutions_congr env o _ o.mode strict bs st
  have hvalid : ∀ x ∈ resolutions env o (Text.newline markdown).text bs st, ∀ out, x.2 = .ok out →
      ¬ out.IsInvalid :=
    fun x hx out hout => not_isInvalid_of_mem_resolutions hx hout
  have hblocks := map_fst_resolutions env o (Text.newline markdown).text bs st
  rw [runFrom_embed_fst h, runFrom_embed_fst h, hsame true, hsame false]
  generalize resolutions env o (Text.newline markdown).text bs st = results at hvalid hblocks ⊢
  subst hblocks
  simp only [map_eq_ok_iff, concludeAll_strict_iff hvalid]
  constructor
  · rintro ⟨outs, ⟨houts, hnot⟩, rfl⟩
    exact ⟨⟨outs, houts, rfl⟩, (forall_mem_reportsOn_iff houts).mpr hnot⟩
  · rintro ⟨⟨outs, houts, rfl⟩, hnot⟩
    exact ⟨outs, ⟨houts, (forall_mem_reportsOn_iff houts).mp hnot⟩, rfl⟩

/-- **A document fails at the first block with an error that ends the work.** -/
theorem embed_error_iff (h : Block.extract? markdown = .ok bs) (st : σ) {e : EmbedError} :
    (runFrom (embed env.quiet o path markdown) st).1 = .error e ↔
      ∃ b cause, FirstError (ResolveError.stops o)
          (resolutions env o (Text.newline markdown).text bs st) b cause ∧
        e = .block path b.startLine b.endLine cause := by
  rw [runFrom_embed_fst h, ← concludeAll_eq_error_iff]
  cases concludeAll o path _ <;> simp [Except.map]

end

/-- **Strictness only turns invalid directives into failures.**  A document is embedded with strictness
    if it is embedded without, and no directive was found to be invalid; the result is the same.
    Otherwise it fails at its first block with a fatal error, or with any error if strictness is
    asked for, and the failure names that block and its error; a fatal error that ends the work with
    strictness ends it without.  If the blocks cannot be found, it fails either way. -/
theorem embed_strictness (env : Surroundings (StateM σ)) (o : Options) (path markdown : Text)
    (st : σ) :
    let result := fun strict =>
      (runFrom (embed env.quiet { o with strict := strict } path markdown) st).1
    (∀ r, result true = .ok r ↔
      result false = .ok r ∧ ∀ b ∈ r.blocks, ¬ b.outcome.IsInvalid) ∧
    (∀ bs, Block.extract? markdown = .ok bs →
      let results := resolutions env o (Text.newline markdown).text bs st
      (∀ e, result true = .error e ↔ ∃ b cause, FirstError (fun _ => true) results b cause ∧
        e = .block path b.startLine b.endLine cause) ∧
      ∀ e, result false = .error e ↔ ∃ b cause, FirstError ResolveError.isFatal results b cause ∧
        e = .block path b.startLine b.endLine cause) ∧
    (∀ p start stop cause, result true = .error (.block p start stop cause) →
      cause.isFatal = true → result false = .error (.block p start stop cause)) ∧
    ∀ e, Block.extract? markdown = .error e → ∀ strict, result strict = .error (.scan path e) := by
  intro result
  have hscan : ∀ e, Block.extract? markdown = .error e → ∀ strict,
      result strict = .error (.scan path e) :=
    fun e he strict => congrArg Prod.fst (runFrom_embed_of_extract?_error he st)
  have herror : ∀ bs, Block.extract? markdown = .ok bs → ∀ strict e, result strict = .error e ↔
      ∃ b cause, FirstError (fun e => strict || e.isFatal)
          (resolutions env o (Text.newline markdown).text bs st) b cause ∧
        e = .block path b.startLine b.endLine cause := by
    intro bs hbs strict e
    rw [← resolutions_congr env o (Text.newline markdown).text o.mode strict bs st]
    exact embed_error_iff hbs st
  refine ⟨fun r => ?_, fun bs hbs => ⟨herror bs hbs true, herror bs hbs false⟩, ?_, hscan⟩
  · cases hbs : Block.extract? markdown with
    | error e => simp [hscan e hbs]
    | ok bs => exact embed_strict_ok_iff hbs st
  · intro p start stop cause hstrict hfatal
    cases hbs : Block.extract? markdown with
    | error e =>
      rw [hscan e hbs] at hstrict
      cases hstrict
    | ok bs =>
      obtain ⟨b, cause', hfirst, heq⟩ := (herror bs hbs true _).mp hstrict
      cases heq
      exact (herror bs hbs false _).mpr ⟨b, cause, hfirst.of_imp hfatal fun _ _ => rfl, rfl⟩

/-- An invalid directive and a command that fails, in both orders. -/
theorem embed_strictness_two_blocks :
    let result := fun strict markdown => (runFrom (embed Surroundings.failing.quiet
      { Options.inDir ⟨['/']⟩ with strict := strict } [] markdown) ()).1
    let invalid := "```sh\n# a b\n```\n".toList
    let fatal := "```sh\n# $ false\n```\n".toList
    let cause : ResolveError := .commandFailed "false".toList 1 []
    (∃ r, result false invalid = .ok r ∧ result true invalid ≠ .ok r) ∧
      result true (invalid ++ fatal) = .error (.block [] 2 3 (.invalidDirective "a b".toList)) ∧
      result false (invalid ++ fatal) = .error (.block [] 5 6 cause) ∧
      result true (fatal ++ invalid) = .error (.block [] 2 3 cause) ∧
      result false (fatal ++ invalid) = .error (.block [] 2 3 cause) := by
  intro result invalid fatal cause
  have hstrict : result true (fatal ++ invalid) = .error (.block [] 2 3 cause) := by
    decide
  have hok : result false invalid =
      .ok ⟨invalid, [⟨2, 3, .directiveInvalid "a b".toList⟩]⟩ := by
    decide
  obtain ⟨hsuccess, -, -, -⟩ :=
    embed_strictness .failing (Options.inDir ⟨['/']⟩) [] invalid ()
  obtain ⟨-, -, hfatal, -⟩ :=
    embed_strictness .failing (Options.inDir ⟨['/']⟩) [] (fatal ++ invalid) ()
  refine ⟨⟨_, hok, fun h => ?_⟩, by decide, by decide, hstrict,
    hfatal _ _ _ cause hstrict rfl⟩
  exact ((hsuccess _).mp h).2 _ List.mem_cons_self ⟨_, rfl⟩

end FenceSync
