import FenceSync.Delivery

namespace FenceSync

/-!
# Comparing surroundings

Embedding asks its surroundings and goes on with the answers.  Where two surroundings can be
compared question by question, the embedding of a document can be compared as a whole, even if they
work in different monads.

* `Coupling` is a relation between computations in two monads that sequences keep; `Coupling.RelE`
  extends it to computations that may fail.
* `Coupling.Envs` says that two surroundings are related in all answers.
* `embedSource_coupled` says that embedding is related then.  The output mode makes no difference
  but to messages.
-/

/-- A relation between computations in two monads, with equal results in mind. -/
structure Coupling (m n : Type → Type) [Monad m] [Monad n] where
  Rel : {α : Type} → m α → n α → Prop
  rel_pure : ∀ {α : Type} (a : α), Rel (pure a) (pure a)
  rel_bind : ∀ {α β : Type} {x : m α} {y : n α} {f : α → m β} {g : α → n β}, Rel x y →
    (∀ a, Rel (f a) (g a)) → Rel (x >>= f) (y >>= g)

namespace Coupling

variable {m n : Type → Type} [Monad m] [Monad n] (c : Coupling m n)

/-! ### Computations that may fail -/

/-- Computations that may fail are related as what they are without that. -/
def RelE {ε α : Type} (x : ExceptT ε m α) (y : ExceptT ε n α) : Prop := c.Rel x.run y.run

theorem relE_pure {ε α : Type} (a : α) :
    c.RelE (pure a : ExceptT ε m α) (pure a) := c.rel_pure _

theorem relE_throw {ε α : Type} (e : ε) :
    c.RelE (throw e : ExceptT ε m α) (throw e) := c.rel_pure _

theorem relE_bind {ε α β : Type} {x : ExceptT ε m α} {y : ExceptT ε n α}
    {f : α → ExceptT ε m β} {g : α → ExceptT ε n β} (h : c.RelE x y)
    (hf : ∀ a, c.RelE (f a) (g a)) : c.RelE (x >>= f) (y >>= g) := by
  rw [RelE, ExceptT.run_bind, ExceptT.run_bind]
  refine c.rel_bind h fun r => ?_
  cases r with
  | ok a => exact hf a
  | error e => exact c.rel_pure _

theorem relE_lift [LawfulMonad m] [LawfulMonad n] {ε α : Type} {x : m α} {y : n α}
    (h : c.Rel x y) : c.RelE (liftM x : ExceptT ε m α) (liftM y) := by
  show c.Rel (Except.ok <$> x) (Except.ok <$> y)
  rw [map_eq_pure_bind, map_eq_pure_bind]
  exact c.rel_bind h fun a => c.rel_pure _

/-- Behind an error nothing has to be related. -/
theorem relE_throw_bind [LawfulMonad m] [LawfulMonad n] {ε α β : Type} (e : ε)
    (f : α → ExceptT ε m β) (g : α → ExceptT ε n β) :
    c.RelE (throw e >>= f) (throw e >>= g) := by
  rw [RelE, ExceptT.run_bind, ExceptT.run_bind, ExceptT.run_throw, ExceptT.run_throw, pure_bind,
    pure_bind]
  exact c.rel_pure _

/-- Surroundings that are related in all answers; messages are related whatever they say. -/
structure Envs (env : Surroundings m) (env' : Surroundings n) : Prop where
  isFile : ∀ p, c.Rel (env.isFile p) (env'.isFile p)
  read : ∀ p, c.Rel (env.read p) (env'.read p)
  run : ∀ line dir, c.Rel (env.run line dir) (env'.run line dir)
  log : ∀ entry entry', c.Rel (env.log entry) (env'.log entry')

end Coupling

variable {m n : Type → Type} [Monad m] [Monad n] [LawfulMonad m] [LawfulMonad n]
  {c : Coupling m n} {env : Surroundings m} {env' : Surroundings n} (h : c.Envs env env')
  (o : Options) (mode : OutputMode)

/-! ### Fetching lines -/

section
include h

omit [LawfulMonad m] [LawfulMonad n] in
theorem firstFile?_coupled (ps : List Path) : c.Rel (firstFile? env ps) (firstFile? env' ps) := by
  induction ps with
  | nil => exact c.rel_pure none
  | cons p ps ih =>
    refine c.rel_bind (h.isFile p) fun found => ?_
    cases found with
    | true => exact c.rel_pure (some p)
    | false => exact ih

theorem fileLines_coupled (path : Text) (range : Option LineRange) :
    c.RelE (fileLines env o path range) (fileLines env' { o with mode := mode } path range) := by
  refine c.relE_bind (c.relE_lift (firstFile?_coupled h _)) fun found => ?_
  cases found with
  | none => exact c.relE_throw _
  | some p =>
    refine c.relE_bind (c.relE_lift (h.read p)) fun content => ?_
    cases content with
    | error e => exact c.relE_throw _
    | ok bytes => exact c.relE_pure _

theorem commandLines_coupled (line : Text) :
    c.RelE (commandLines env o line) (commandLines env' { o with mode := mode } line) := by
  refine c.relE_bind (c.relE_lift (h.run line o.workingDir)) fun answer => ?_
  cases answer with
  | error e => exact c.relE_throw _
  | ok result =>
    rcases result with ⟨output, exitCode, success⟩
    cases success with
    | true => exact c.relE_pure _
    | false => exact c.relE_throw _

theorem Directive.lines_coupled (d : Directive) :
    c.RelE (d.lines env o) (d.lines env' { o with mode := mode }) := by
  cases d with
  | file path range => exact fileLines_coupled h o mode path range
  | command line => exact commandLines_coupled h o mode line

/-! ### One block -/

theorem Snippet.resolve_coupled (s : Snippet) (newline : Text) :
    c.RelE (s.resolve env o newline) (s.resolve env' { o with mode := mode } newline) := by
  unfold Snippet.resolve
  cases s.demand with
  | settled outcome => exact c.relE_pure _
  | invalid directive => exact c.relE_throw _
  | wanted style text d =>
    refine c.relE_bind (c.relE_lift (h.log _ _)) fun _ => ?_
    refine c.relE_bind (Directive.lines_coupled h o mode d) fun ls => ?_
    have hsettle : s.settle { o with mode := mode } style text newline ls =
        s.settle o style text newline ls := rfl
    rw [hsettle]
    cases s.settle o style text newline ls with
    | ok outcome => exact c.relE_pure _
    | error e => exact c.relE_throw _

/-- The message on an outcome makes no difference. -/
theorem logOutcome_coupled (message message' : Option LogEntry) (outcome : Outcome)
    (hsame : message.isSome = message'.isSome) :
    c.RelE
      (do
        match message with
          | none => pure ()
          | some entry => (env.log entry : ExceptT EmbedError m Unit)
        pure outcome)
      (do
        match message' with
          | none => pure ()
          | some entry => (env'.log entry : ExceptT EmbedError n Unit)
        pure outcome) := by
  cases message with
  | none =>
    cases message' with
    | none => exact c.relE_pure _
    | some _ => cases hsame
  | some entry =>
    cases message' with
    | none => cases hsame
    | some entry' => exact c.relE_bind (c.relE_lift (h.log _ _)) fun _ => c.relE_pure _

theorem embedBlock_coupled (path newline : Text) (b : Block) :
    c.RelE (embedBlock env o path newline b)
      (embedBlock env' { o with mode := mode } path newline b) := by
  -- The mode decides on the level of a message, and never on whether there is one.
  have hsame : ∀ (label : String) (outcome : Outcome), (outcome.logEntry? o label).isSome =
      (outcome.logEntry? { o with mode := mode } label).isSome := by
    intro label outcome
    cases outcome with
    | languageUnresolved language => cases language <;> rfl
    | _ => rfl
  unfold embedBlock
  refine c.relE_bind (c.relE_lift (Snippet.resolve_coupled h o mode _ _)) fun result => ?_
  cases result with
  | ok outcome =>
    refine c.relE_bind (c.relE_pure outcome) fun outcome => ?_
    exact logOutcome_coupled h _ _ outcome (hsame _ outcome)
  | error e =>
    have htolerated : e.tolerated? { o with mode := mode } = e.tolerated? o := by
      cases e <;> rfl
    simp only [htolerated]
    cases e.tolerated? o with
    | none => exact c.relE_throw_bind _ _ _
    | some outcome =>
      refine c.relE_bind (c.relE_lift (h.log _ _)) fun _ => ?_
      refine c.relE_bind (c.relE_pure outcome) fun outcome => ?_
      exact logOutcome_coupled h _ _ outcome (hsame _ outcome)

/-! ### A document -/

theorem embedSections_coupled (path newline before : Text) (ss : List Section) :
    c.RelE (embedSections env o path newline before ss)
      (embedSections env' { o with mode := mode } path newline before ss) := by
  induction ss generalizing before with
  | nil => exact c.relE_pure _
  | cons s ss ih =>
    rw [embedSections, embedSections]
    refine c.relE_bind (embedBlock_coupled h o mode path newline _) fun outcome => ?_
    exact c.relE_bind (ih _) fun rest => c.relE_pure _

theorem embed_coupled (path markdown : Text) :
    c.RelE (embed env o path markdown) (embed env' { o with mode := mode } path markdown) := by
  unfold embed
  refine c.relE_bind (c.relE_lift (h.log _ _)) fun _ => ?_
  cases Document.scan? markdown with
  | error e => exact c.relE_throw _
  | ok d =>
    exact c.relE_bind (embedSections_coupled h o mode path _ [] d.sections) fun r => c.relE_pure _

omit [LawfulMonad m] [LawfulMonad n] in
theorem readText_coupled (p : Path) : c.Rel (env.readText p) (env'.readText p) := by
  refine c.rel_bind (h.read p) fun content => ?_
  cases content with
  | error e => exact c.rel_pure _
  | ok bytes =>
    simp only
    cases Bytes.text? bytes with
    | none => exact c.rel_pure _
    | some t => exact c.rel_pure _

/-- **Embedding a document is related** wherever the answers of the surroundings are. -/
theorem embedSource_coupled (source : Path) :
    c.RelE (embedSource env o source) (embedSource env' { o with mode := mode } source) := by
  unfold embedSource
  refine c.relE_bind (c.relE_lift (h.isFile source)) fun found => ?_
  cases found with
  | false => exact c.relE_throw_bind _ _ _
  | true =>
    refine c.relE_bind (c.relE_lift (readText_coupled h source)) fun content => ?_
    cases content with
    | error e => exact c.relE_throw _
    | ok markdown =>
      refine c.relE_bind (c.relE_lift (embed_coupled h o mode _ markdown)) fun result => ?_
      cases result with
      | error e => exact c.relE_throw _
      | ok r => exact c.relE_pure _

end

end FenceSync
