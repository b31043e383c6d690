import FenceSync.Embed
import Mathlib.Data.List.Forall2

namespace FenceSync

/-!
# Embedding where files and commands are functions

In `Id` the surroundings answer every question the same way each time, and embedding is a function.
Each of its steps has one spec lemma here; later modules cite them and open no `do` block.

* `fileLines_run` and `commandLines_run` say which lines a directive leads to.
* `Snippet.resolve_run` says what a block resolves to, and `Snippet.outcome?` is what becomes of it
  in the end, tolerated errors included.
* `embedSections_eq_ok_iff` says that the blocks of a document are embedded one by one.
* `embed_eq_ok_iff` says when a document is embedded, and what the result is.
-/

/-- Surroundings in which every path leads to a file with the same text, and every command prints
    it. -/
def Surroundings.constant (t : Text) : Surroundings Id where
  isFile _ := true
  read _ := .ok (Text.utf8 t)
  run _ _ := .ok ⟨Text.utf8 t, 0, true⟩
  log _ := ()

variable (env : Surroundings Id) (o : Options) (path newline : Text)

/-! ### Fetching lines -/

/-- A selection of lines are some of the lines. -/
theorem LineRange.mem_of_mem_slice {α : Type} {r : LineRange} {xs : List α} {x : α}
    (h : x ∈ r.slice xs) : x ∈ xs :=
  List.mem_of_mem_take (List.mem_of_mem_drop h)

/-- Taking white space away from the start of lines brings no character in. -/
theorem notMem_dedent {c : Char} {ls : List Text} (h : ∀ line ∈ ls, c ∉ line) :
    ∀ line ∈ dedent ls, c ∉ line := by
  intro line hline
  obtain ⟨line', hline', rfl⟩ := List.mem_map.mp hline
  split
  · simp
  · exact fun hmem => h line' hline' (List.mem_of_mem_drop hmem)

/-- The lines of a file have no characters but those of the lines that it is cut into. -/
theorem notMem_linesOfFile {c : Char} {content : Bytes} (range : Option LineRange)
    (h : ∀ line ∈ Text.splitOn (Bytes.newline content).text (Bytes.lossyText content), c ∉ line) :
    ∀ line ∈ linesOfFile range content, c ∉ line :=
  notMem_dedent fun line hline => h line (LineRange.mem_of_mem_slice hline)

/-- **The lines of a file**, by where it stands and what is read there. -/
theorem fileLines_run (file : Text) (range : Option LineRange) :
    (fileLines env o file range).run.run =
      match (firstFile? env (o.baseDirs.map fun dir => dir.join ⟨file⟩)).run with
      | none => .error (.fileNotFound file (o.baseDirs.map fun dir => dir.join ⟨file⟩))
      | some p =>
        match (env.read p).run with
        | .error e => .error (.unreadable p e)
        | .ok content => .ok (linesOfFile range content) := by
  unfold fileLines
  simp only
  generalize firstFile? env (o.baseDirs.map fun dir => dir.join ⟨file⟩) = found
  cases found with
  | none => rfl
  | some p =>
    have hread : ∀ r : Id (Except FileError Bytes),
        (do
          match ← (liftM r : ExceptT ResolveError Id _) with
            | .error e => throw (.unreadable p e)
            | .ok content => pure (linesOfFile range content) :
          ExceptT ResolveError Id (List Text)).run.run =
        match r.run with
        | .error e => .error (.unreadable p e)
        | .ok content => .ok (linesOfFile range content) := by
      intro r
      cases r <;> rfl
    exact hread (env.read p)

/-- **The lines of a command**, by its result. -/
theorem commandLines_run (line : Text) :
    (commandLines env o line).run.run =
      match (env.run line o.workingDir).run with
      | .error e => .error (.shell line e)
      | .ok result =>
        if result.success then .ok (linesOfOutput result.output)
        else
          .error (.commandFailed line result.exitCode
            (Text.trimEnd (Bytes.lossyText result.output))) := by
  unfold commandLines
  generalize env.run line o.workingDir = r
  cases r with
  | error e => rfl
  | ok result =>
    rcases result with ⟨output, exitCode, success⟩
    cases success <;> rfl

/-! ### One block -/

/-- What is settled is the result, be it an outcome or an error. -/
private theorem settled_run (x : Except ResolveError Outcome) :
    (match x with
      | .ok outcome => pure outcome
      | .error e => throw e : ExceptT ResolveError Id Outcome).run.run = x := by
  cases x <;> rfl

/-- **What a block resolves to**, by what it asks for. -/
theorem Snippet.resolve_run (s : Snippet) :
    (s.resolve env o newline).run.run =
      match s.demand with
      | .settled outcome => .ok outcome
      | .invalid directive => .error (.invalidDirective directive)
      | .wanted style text d =>
        match (d.lines env o).run.run with
        | .ok ls => s.settle o style text newline ls
        | .error e => .error e := by
  unfold Snippet.resolve
  cases s.demand with
  | settled outcome => rfl
  | invalid directive => rfl
  | wanted style text d =>
    simp only
    generalize d.lines env o = fetched
    rcases fetched with e | ls
    · rfl
    · exact settled_run (s.settle o style text newline ls)

/-- What becomes of a block in the end; nothing if its error ends the work on the document. -/
def Snippet.outcome? (s : Snippet) : Option Outcome :=
  match (s.resolve env o newline).run.run with
  | .ok out => some out
  | .error e => e.tolerated? o

private theorem lift_bind_run {α : Type} (x : ExceptT ResolveError Id Outcome)
    (k : Except ResolveError Outcome → ExceptT EmbedError Id α) :
    ((liftM x.run : ExceptT EmbedError Id _) >>= k).run.run = (k x.run.run).run.run := rfl

/-- A message on the way does not change an outcome. -/
private theorem logged_run (label : String) (out : Outcome) :
    (do
      match out.logEntry? o label with
        | none => pure ()
        | some entry => (env.log entry : ExceptT EmbedError Id Unit)
      pure out : ExceptT EmbedError Id Outcome).run.run = .ok out := by
  cases out.logEntry? o label <;> rfl

theorem embedBlock_run (b : Block) :
    (embedBlock env o path newline b).run.run =
      match (b.toSnippet.resolve env o newline).run.run with
      | .ok out => .ok out
      | .error e =>
        match e.tolerated? o with
        | none => .error (.block path b.startLine b.endLine e)
        | some out => .ok out := by
  unfold embedBlock
  refine (lift_bind_run _ _).trans ?_
  cases (b.toSnippet.resolve env o newline).run.run with
  | ok out => exact logged_run env o _ out
  | error e =>
    cases he : e.tolerated? o with
    | none => simp only [he]; rfl
    | some out => simp only [he]; exact logged_run env o _ out

theorem embedBlock_eq_ok_iff {b : Block} {out : Outcome} :
    (embedBlock env o path newline b).run.run = .ok out ↔
      b.toSnippet.outcome? env o newline = some out := by
  rw [embedBlock_run, Snippet.outcome?]
  cases (b.toSnippet.resolve env o newline).run.run with
  | ok out' => simp
  | error e => cases h : e.tolerated? o <;> simp [h]

/-! ### All blocks -/

/-- Sections with the interiors that their outcomes give them. -/
def splice (ss : List Section) (outs : List Outcome) : Text :=
  (List.zipWith (fun s out => s.lead ++ Outcome.interior s.code out) ss outs).flatten

/-- The reports on blocks with the given outcomes. -/
def reportsOn (bs : List Block) (outs : List Outcome) : List BlockReport :=
  List.zipWith (fun b out => ⟨b.startLine, b.endLine, out⟩) bs outs

theorem splice_cons (s : Section) (ss : List Section) (out : Outcome) (outs : List Outcome) :
    splice (s :: ss) (out :: outs) = s.lead ++ out.interior s.code ++ splice ss outs := rfl

theorem reportsOn_cons (b : Block) (bs : List Block) (out : Outcome) (outs : List Outcome) :
    reportsOn (b :: bs) (out :: outs) = ⟨b.startLine, b.endLine, out⟩ :: reportsOn bs outs := rfl

theorem length_listFrom (newline before : Text) (ss : List Section) :
    (Block.listFrom newline before ss).length = ss.length := by
  induction ss generalizing before with
  | nil => rfl
  | cons s ss ih => rw [Block.listFrom, List.length_cons, List.length_cons, ih]

theorem embedSections_cons_run (before : Text) (s : Section) (ss : List Section) :
    (embedSections env o path newline before (s :: ss)).run.run =
      match (embedBlock env o path newline (Block.ofSection newline before s)).run.run with
      | .error e => .error e
      | .ok out =>
        match (embedSections env o path newline (before ++ s.lead ++ s.code) ss).run.run with
        | .error e => .error e
        | .ok rest =>
          let b := Block.ofSection newline before s
          .ok (s.lead ++ out.interior s.code ++ rest.1, ⟨b.startLine, b.endLine, out⟩ :: rest.2) := by
  rw [embedSections]
  generalize embedBlock env o path newline (Block.ofSection newline before s) = b
  generalize embedSections env o path newline (before ++ s.lead ++ s.code) ss = r
  rcases b with e | out
  · rfl
  · rcases r with e | rest <;> rfl

/-- **The blocks of a document are embedded one by one**, each on its own. -/
theorem embedSections_eq_ok_iff {before : Text} {ss : List Section}
    {r : Text × List BlockReport} :
    (embedSections env o path newline before ss).run.run = .ok r ↔
      ∃ outs, List.Forall₂ (fun s out => s.toSnippet.outcome? env o newline = some out) ss outs ∧
        r = (splice ss outs, reportsOn (Block.listFrom newline before ss) outs) := by
  induction ss generalizing before r with
  | nil =>
    constructor
    · intro h
      injection h with h
      exact ⟨[], .nil, h.symm⟩
    · rintro ⟨outs, hout, rfl⟩
      cases hout
      rfl
  | cons s ss ih =>
    rw [embedSections_cons_run]
    constructor
    · intro h
      split at h
      · cases h
      · next out hout =>
        split at h
        · cases h
        · next rest hrest =>
          injection h with h
          obtain ⟨outs, houts, rfl⟩ := ih.mp hrest
          have hs := (embedBlock_eq_ok_iff env o path newline).mp hout
          exact ⟨out :: outs, .cons hs houts, h.symm⟩
    · rintro ⟨outs, hout, rfl⟩
      cases hout with
      | @cons _ out _ outs hs houts =>
        have hs' : (embedBlock env o path newline (Block.ofSection newline before s)).run.run =
            .ok out := (embedBlock_eq_ok_iff env o path newline).mpr hs
        rw [hs', ih.mpr ⟨outs, houts, rfl⟩]
        rfl

/-! ### A document -/

theorem embed_run (markdown : Text) :
    (embed env o path markdown).run.run =
      match Document.scan? markdown with
      | .error e => .error (.scan path e)
      | .ok d =>
        match (embedSections env o path (Text.newline markdown).text [] d.sections).run.run with
        | .error e => .error e
        | .ok r => .ok ⟨r.1 ++ d.rest, r.2⟩ := by
  rw [embed]
  cases Document.scan? markdown with
  | error e => rfl
  | ok d =>
    simp only
    generalize embedSections env o path (Text.newline markdown).text [] d.sections = r
    rcases r with e | r <;> rfl

/-- **When a document is embedded.**  Its scan ends, every block has an outcome, and the result puts
    the new interiors in the places of the old ones. -/
theorem embed_eq_ok_iff {markdown : Text} {r : EmbedResult} :
    (embed env o path markdown).run.run = .ok r ↔
      Search.givesUp markdown = false ∧
        let d := Document.ofText markdown
        let nl := (Text.newline markdown).text
        ∃ outs, List.Forall₂ (fun s out => s.toSnippet.outcome? env o nl = some out)
            d.sections outs ∧
          r = ⟨splice d.sections outs ++ d.rest,
            reportsOn (Block.listFrom nl [] d.sections) outs⟩ := by
  rw [embed_run, Document.scan?]
  cases hgives : Search.givesUp markdown with
  | true => simp
  | false =>
    rw [if_neg Bool.false_ne_true]
    simp only [true_and]
    constructor
    · intro h
      split at h
      · cases h
      · next r' hr' =>
        injection h with h
        obtain ⟨outs, houts, rfl⟩ := (embedSections_eq_ok_iff env o path _).mp hr'
        exact ⟨outs, houts, h.symm⟩
    · rintro ⟨outs, houts, rfl⟩
      rw [(embedSections_eq_ok_iff env o path _).mpr ⟨outs, houts, rfl⟩]

end FenceSync
