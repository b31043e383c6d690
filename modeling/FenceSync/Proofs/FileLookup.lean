import FenceSync.Proofs.Questions

namespace FenceSync

/-!
# Looking files up

A file directive is about the first of a few places at which a file stands.  Places behind that one
are not looked at, and neither is anything else.

* `Options.candidates` are the places, and `FirstFile` says which one it is.
* `runFrom_fileLines_of_missing` and `runFrom_fileLines_of_first` say what is asked on the way, and
  what comes of it.
* `Snippet.runFrom_resolve_of_first` is the spec of `Snippet.resolve` for a block with a file
  directive, and `Snippet.resolve_file` the full statement.
-/

/-- The places at which a file directive looks for its file, in order. -/
def Options.candidates (o : Options) (path : Text) : List Path :=
  o.baseDirs.map fun dir => dir.join ⟨path⟩

/-- A file stands at `p`, and at none of the places before it. -/
structure FirstFile (env : Surroundings Id) (before : List Path) (p : Path) : Prop where
  missing : ∀ q ∈ before, (env.isFile q).run = false
  found : (env.isFile p).run = true

/-! ### The directories -/

theorem Path.same_refl (p : Path) : p.same p = true := beq_self_eq_true p.components

/-- No directory is looked in twice. -/
theorem Options.pairwise_baseDirs (o : Options) :
    o.baseDirs.Pairwise fun dir dir' => dir.same dir' = false := by
  unfold Options.baseDirs
  split
  · exact List.pairwise_singleton _ _
  · next base _ =>
    simp only
    split
    · exact List.pairwise_singleton _ _
    · next hdiff => exact List.pairwise_pair.mpr (Bool.eq_false_iff.mpr hdiff)

/-- The last directory is the working directory. -/
theorem Options.exists_getLast?_baseDirs (o : Options) :
    ∃ dir, o.baseDirs.getLast? = some dir ∧ dir.same o.workingDir = true := by
  unfold Options.baseDirs
  split
  · exact ⟨_, rfl, Path.same_refl _⟩
  · simp only
    split
    · next hsame => exact ⟨_, rfl, hsame⟩
    · exact ⟨_, rfl, Path.same_refl _⟩

/-! ### Asking for files -/

section
variable (env : Surroundings Id) (asked : List Question)

theorem run_firstFile?_cons (p : Path) (ps : List Path) :
    (firstFile? env.noting (p :: ps)).run asked =
      if (env.isFile p).run then (some p, asked ++ [.isFile p])
      else (firstFile? env.noting ps).run (asked ++ [.isFile p]) := by
  have hask : (env.noting.isFile p).run asked = ((env.isFile p).run, asked ++ [.isFile p]) := rfl
  rw [firstFile?, StateT.run_bind, hask]
  cases (env.isFile p).run <;> rfl

/-- Places without a file are asked for one after the other. -/
theorem run_firstFile?_append {before : List Path} (h : ∀ q ∈ before, (env.isFile q).run = false)
    (ps : List Path) :
    (firstFile? env.noting (before ++ ps)).run asked =
      (firstFile? env.noting ps).run (asked ++ before.map .isFile) := by
  induction before generalizing asked with
  | nil => rw [List.map_nil, List.append_nil, List.nil_append]
  | cons q before ih =>
    obtain ⟨hq, hbefore⟩ := List.forall_mem_cons.mp h
    rw [List.cons_append, run_firstFile?_cons, hq, if_neg Bool.false_ne_true, ih _ hbefore,
      List.append_assoc]
    rfl

variable {env} (o : Options) {path : Text} (range : Option LineRange)

/-- **A file that stands nowhere** is looked for in all places. -/
theorem runFrom_fileLines_of_missing (h : ∀ q ∈ o.candidates path, (env.isFile q).run = false) :
    runFrom (fileLines env.noting o path range) asked =
      (.error (.fileNotFound path (o.candidates path)),
        asked ++ (o.candidates path).map .isFile) := by
  have hfirst : (firstFile? env.noting (o.candidates path)).run asked =
      (none, asked ++ (o.candidates path).map .isFile) := by
    have hall := run_firstFile?_append env asked h []
    rwa [List.append_nil] at hall
  unfold fileLines
  rw [← Options.candidates, runFrom_bind, runFrom_lift, hfirst]
  rfl

/-- **The first file is read**, and nothing is looked at behind it. -/
theorem runFrom_fileLines_of_first {before after : List Path} {p : Path}
    (hplaces : o.candidates path = before ++ p :: after) (h : FirstFile env before p) :
    runFrom (fileLines env.noting o path range) asked =
      (match (env.read p).run with
        | .error e => .error (.unreadable p e)
        | .ok content => .ok (linesOfFile range content),
        asked ++ ((before ++ [p]).map .isFile ++ [.read p])) := by
  have hfirst : (firstFile? env.noting (o.candidates path)).run asked =
      (some p, asked ++ (before ++ [p]).map .isFile) := by
    rw [hplaces, run_firstFile?_append env asked h.missing, run_firstFile?_cons, h.found,
      if_pos rfl, List.map_append, List.append_assoc]
    rfl
  have hread : ∀ asked, (env.noting.read p).run asked = ((env.read p).run, asked ++ [.read p]) :=
    fun _ => rfl
  unfold fileLines
  rw [← Options.candidates, runFrom_bind, runFrom_lift, hfirst]
  simp only
  rw [runFrom_bind, runFrom_lift, hread, List.append_assoc]
  cases (env.read p).run <;> rfl

end

/-! ### Blocks with a file directive -/

theorem exists_firstFile (env : Surroundings Id) (ps : List Path) :
    (∀ q ∈ ps, (env.isFile q).run = false) ∨
      ∃ before p after, ps = before ++ p :: after ∧ FirstFile env before p := by
  cases hfind : ps.find? fun q => (env.isFile q).run with
  | none =>
    left
    simpa using List.find?_eq_none.mp hfind
  | some p =>
    right
    obtain ⟨hp, before, after, hps, hbefore⟩ := List.find?_eq_some_iff_append.mp hfind
    exact ⟨before, p, after, hps, by simpa using hbefore, hp⟩

/-- The only reason not to embed given lines is a fence among them. -/
theorem Snippet.exists_nestedFence_of_settle {s : Snippet} {o : Options} {style : CommentStyle}
    {text newline : Text} {ls : List Text} {e : ResolveError}
    (h : s.settle o style text newline ls = .error e) : ∃ preview, e = .nestedFence preview := by
  unfold Snippet.settle at h
  simp only at h
  split at h
  · cases h
    exact ⟨_, rfl⟩
  · split at h <;> cases h

section
variable {env : Surroundings Id} {o : Options} {s : Snippet} {style : CommentStyle}
  {text path : Text} {range : Option LineRange} (newline : Text)

/-- A block with a directive is settled with the lines that are fetched. -/
theorem Snippet.runFrom_resolve_noting {d : Directive} (hd : s.demand = .wanted style text d)
    {asked more : List Question} {fetched : Except ResolveError (List Text)}
    (h : runFrom (d.lines env.noting o) asked = (fetched, more)) :
    runFrom (s.resolve env.noting o newline) asked =
      (fetched.bind (s.settle o style text newline), more) := by
  have hlog : ∀ entry, ((env.noting.log entry).run asked).2 = asked := fun _ => rfl
  rw [Snippet.runFrom_resolve hd, hlog, h]
  cases fetched <;> rfl

/-- The result does not depend on taking note of questions. -/
theorem Snippet.resolve_run_of_noting {asked more : List Question}
    {result : Except ResolveError Outcome}
    (h : runFrom (s.resolve env.noting o newline) asked = (result, more)) :
    (s.resolve env o newline).run.run = result := by
  obtain ⟨_, hasked⟩ := s.exists_asked env o newline
  rw [hasked] at h
  exact (Prod.mk.inj h).1

variable (hd : s.demand = .wanted style text (.file path range))
include hd

theorem Snippet.runFrom_resolve_of_missing
    (h : ∀ q ∈ o.candidates path, (env.isFile q).run = false) (asked : List Question) :
    runFrom (s.resolve env.noting o newline) asked =
      (.error (.fileNotFound path (o.candidates path)),
        asked ++ (o.candidates path).map .isFile) :=
  Snippet.runFrom_resolve_noting newline hd (runFrom_fileLines_of_missing asked o range h)

/-- What becomes of the block once the first file has been read. -/
theorem Snippet.runFrom_resolve_of_first {before after : List Path} {p : Path}
    (hplaces : o.candidates path = before ++ p :: after) (h : FirstFile env before p)
    (asked : List Question) :
    runFrom (s.resolve env.noting o newline) asked =
      (match (env.read p).run with
        | .error e => .error (.unreadable p e)
        | .ok content => s.settle o style text newline (linesOfFile range content),
        asked ++ ((before ++ [p]).map .isFile ++ [.read p])) := by
  rw [Snippet.runFrom_resolve_noting newline hd
    (runFrom_fileLines_of_first asked o range hplaces h)]
  cases (env.read p).run <;> rfl

theorem Snippet.resolve_run_of_first {before after : List Path} {p : Path}
    (hplaces : o.candidates path = before ++ p :: after) (h : FirstFile env before p) :
    (s.resolve env o newline).run.run =
      match (env.read p).run with
      | .error e => .error (.unreadable p e)
      | .ok content => s.settle o style text newline (linesOfFile range content) :=
  Snippet.resolve_run_of_noting newline
    (Snippet.runFrom_resolve_of_first newline hd hplaces h [])

/-- **A block's file is not found** exactly if none of the candidates is a file. -/
theorem Snippet.resolve_eq_fileNotFound_iff {q : Text} {searched : List Path} :
    (s.resolve env o newline).run.run = .error (.fileNotFound q searched) ↔
      (∀ p ∈ o.candidates path, (env.isFile p).run = false) ∧
        q = path ∧ searched = o.candidates path := by
  rcases exists_firstFile env (o.candidates path) with hnone | ⟨before, p, after, hplaces, h⟩
  · rw [Snippet.resolve_run_of_noting newline
      (Snippet.runFrom_resolve_of_missing newline hd hnone [])]
    constructor
    · rintro ⟨⟩
      exact ⟨hnone, rfl, rfl⟩
    · rintro ⟨-, rfl, rfl⟩
      rfl
  · rw [Snippet.resolve_run_of_first newline hd hplaces h]
    constructor
    · intro hresult
      split at hresult
      · cases hresult
      · obtain ⟨preview, hpreview⟩ := Snippet.exists_nestedFence_of_settle hresult
        cases hpreview
    · rintro ⟨hnone, -, -⟩
      have hp := hnone p (by rw [hplaces]; simp)
      rw [h.found] at hp
      cases hp

end

/-- **File lookup takes the first candidate at which a file stands, and nothing else.**  For a block
    with a file directive, wherever files stand and whatever commands do:

    * The file is not found exactly if none of the candidates is a file, and the failure lists all
      of them.
    * Otherwise the first one that is a file decides: a failure to read it is final, and its content
      is what the block is settled with.  The candidates up to that one are asked for, in order, it
      is read, and nothing else is asked; so other surroundings that agree on these answers make no
      difference.
    * No directory is looked in twice, and the working directory comes last. -/
theorem Snippet.resolve_file (o : Options) {s : Snippet} {style : CommentStyle} {text path : Text}
    {range : Option LineRange} (hd : s.demand = .wanted style text (.file path range))
    (newline : Text) :
    let result := fun env : Surroundings Id => (s.resolve env o newline).run.run
    (∀ env q searched, result env = .error (.fileNotFound q searched) ↔
      (∀ p ∈ o.candidates path, (env.isFile p).run = false) ∧
        q = path ∧ searched = o.candidates path) ∧
    (∀ env before p after, o.candidates path = before ++ p :: after → FirstFile env before p →
      (∀ e, (env.read p).run = .error e → result env = .error (.unreadable p e)) ∧
      (∀ content, (env.read p).run = .ok content →
        result env = s.settle o style text newline (linesOfFile range content)) ∧
      runFrom (s.resolve env.noting o newline) [] =
        (result env, (before ++ [p]).map .isFile ++ [.read p]) ∧
      ∀ env' : Surroundings Id,
        (∀ q ∈ before ++ [p], (env'.isFile q).run = (env.isFile q).run) →
        (env'.read p).run = (env.read p).run → result env' = result env) ∧
    (o.baseDirs.Pairwise fun dir dir' => dir.same dir' = false) ∧
    ∃ dir, o.baseDirs.getLast? = some dir ∧ dir.same o.workingDir = true := by
  intro result
  refine ⟨fun env q searched => Snippet.resolve_eq_fileNotFound_iff newline hd,
    fun env before p after hplaces h => ?_, o.pairwise_baseDirs, o.exists_getLast?_baseDirs⟩
  have hresult : ∀ env, FirstFile env before p → result env = _ :=
    fun env h => Snippet.resolve_run_of_first newline hd hplaces h
  refine ⟨fun e he => ?_, fun content hcontent => ?_, ?_, fun env' hfiles hread => ?_⟩
  · rw [hresult env h, he]
  · rw [hresult env h, hcontent]
  · rw [hresult env h, Snippet.runFrom_resolve_of_first newline hd hplaces h]
    rfl
  · have h' : FirstFile env' before p :=
      ⟨fun q hq => (hfiles q (by simp [hq])).trans (h.missing q hq),
        (hfiles p (by simp)).trans h.found⟩
    rw [hresult env' h', hresult env h, hread]

/-- Surroundings with the given files, and without commands. -/
def Surroundings.ofFiles (files : List (Path × Except FileError Bytes)) : Surroundings Id where
  isFile p := (files.lookup p).isSome
  read p := (files.lookup p).getD (.error .notFound)
  run _ _ := .error (.spawn .notFound)
  log _ := ()

/-- No file, the second candidate with another file beside it, and a first one that cannot be
    read. -/
theorem Snippet.resolve_file_two_places :
    let o := { Options.inDir ⟨"/work".toList⟩ with base := some ⟨"/base".toList⟩ }
    let s : Snippet := ⟨.directive "a.sh".toList, ⟨[], "sh".toList⟩, []⟩
    let result := fun files => (s.resolve (.ofFiles files) o ['\n']).run.run
    let base : Path := ⟨"/base/a.sh".toList⟩
    let work : Path := ⟨"/work/a.sh".toList⟩
    let good : Path × Except FileError Bytes := (work, .ok (Text.utf8 "x\n".toList))
    result [] = .error (.fileNotFound "a.sh".toList [base, work]) ∧
      result [good] = .ok (.resolved "x\n".toList 1) ∧
      result [(⟨"/a.sh".toList⟩, .ok []), good] = .ok (.resolved "x\n".toList 1) ∧
      result [(base, .error .permissionDenied), good] =
        .error (.unreadable base .permissionDenied) := by
  intro o s result base work good
  have hd : s.demand = .wanted .hash "a.sh".toList (.file "a.sh".toList none) := by
    decide
  obtain ⟨hnone, hfirst, -, -⟩ := Snippet.resolve_file o hd ['\n']
  have hplaces : o.candidates "a.sh".toList = [base] ++ work :: [] := by decide
  have hwork : FirstFile (.ofFiles [good]) [base] work := ⟨by decide, by decide⟩
  obtain ⟨-, hcontent, -, hsame⟩ := hfirst _ _ _ _ hplaces hwork
  have hgood : result [good] = .ok (.resolved "x\n".toList 1) :=
    (hcontent _ rfl).trans (by decide)
  refine ⟨(hnone _ _ _).mpr ⟨fun _ _ => rfl, rfl, by decide⟩, hgood, ?_, ?_⟩
  · exact (hsame _ (by decide) (by decide)).trans hgood
  · obtain ⟨hfail, -, -, -⟩ := hfirst (.ofFiles [(base, .error .permissionDenied), good]) [] base
      [work] hplaces ⟨by simp, by decide⟩
    exact hfail _ (by decide)

end FenceSync
