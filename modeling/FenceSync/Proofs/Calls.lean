import FenceSync.Proofs.Coupling
import FenceSync.Proofs.Markers
import FenceSync.Proofs.Stepwise

namespace FenceSync

/-!
# Commands that are run

Embedding a document runs the commands that its blocks ask for, in order and once each, up to the
first block that ends the work, and no others.

* `Surroundings.calling` takes note of every command, and `Makes` says which ones a computation runs.
* `Snippet.AsksToRun` says when a block asks for a command.
* `reached` are the blocks that are resolved, and `runFrom_embedSections_calling` says that nothing
  but their commands is run.
* `embed_calls` is the full statement.
-/

/-- A command, with the directory that it is run in. -/
structure ShellCall where
  line : Text
  dir : Path
  deriving DecidableEq, Repr

variable {σ ε α β : Type}

/-! ### Computations that run commands -/

/-- The first computation does what the second one does, with a note of these commands. -/
def Makes (calls : List ShellCall) (x : StateM (σ × List ShellCall) α) (y : StateM σ α) : Prop :=
  ∀ st before, x.run (st, before) = ((y.run st).1, (y.run st).2, before ++ calls)

section
variable {calls more : List ShellCall}

theorem Makes.bind {x : StateM (σ × List ShellCall) α} {y : StateM σ α}
    {f : α → StateM (σ × List ShellCall) β} {g : α → StateM σ β} (h : Makes calls x y)
    (hf : ∀ a, Makes more (f a) (g a)) : Makes (calls ++ more) (x >>= f) (y >>= g) := by
  intro st before
  rw [StateT.run_bind, h]
  show (f _).run (_, before ++ calls) = _
  rw [hf, List.append_assoc]
  rfl

end

/-! ### The command of a block -/

/-- The text in which a block looks for its directive: that of its marker, or else the comment that
    opens it, unless that is blank. -/
def Snippet.Says (s : Snippet) (style : CommentStyle) (text : Text) : Prop :=
  if s.marker.inlineDirective ≠ [] then text = s.marker.inlineDirective
  else style.first? s.code = some text ∧ Text.isBlank text = false

variable {env : Surroundings (StateM σ)} {o : Options} {path newline : Text}

section
variable {p : ResolveError → Bool} {results : List (Block × Except ResolveError Outcome)}

end

section
variable {markdown : Text}

end

end FenceSync
