import FenceSync.Discovery
import FenceSync.Proofs.FileLookup
import FenceSync.Proofs.PathOrder

namespace FenceSync

/-!
# Finding sources

The sources of a run are a set of places: they come in order, and none comes twice, however it is
spelled.

* `Increasing` and `Path.Among` are what such a list is about; `forall₂_same_of_among_iff` says that
  they determine it up to the spelling.
* `increasing_canonical` and `among_canonical` say that `canonical` makes one of any paths.
* `run_discover_paths` and `eq_sourcesBy_of_discover` say what is found for paths and globs.
* `discover_canonical` is the full statement.
-/

/-- Paths in strictly increasing order, so that no two of them have the same components. -/
def Increasing (ps : List Path) : Prop := ps.Pairwise fun p q => p.before q = true

/-- A path with the components of `p` is in the list. -/
def Path.Among (p : Path) (ps : List Path) : Prop := ∃ q ∈ ps, p.same q = true

/-! ### Lists without repetition -/

theorem Path.among_iff {p : Path} {ps : List Path} : p.Among ps ↔ p.key ∈ ps.map key := by
  simp only [Among, same_iff, List.mem_map, eq_comm (a := p.key)]

theorem Path.among_cons {p q : Path} {ps : List Path} :
    p.Among (q :: ps) ↔ p.same q = true ∨ p.Among ps := List.exists_mem_cons_iff _ _ _

theorem increasing_iff {ps : List Path} : Increasing ps ↔ (ps.map Path.key).SortedLT := by
  simp only [Increasing, Path.before_iff, List.sortedLT_iff_pairwise, List.pairwise_map]

theorem forall₂_same_iff {ps qs : List Path} :
    List.Forall₂ (fun p q => p.same q = true) ps qs ↔ ps.map Path.key = qs.map Path.key := by
  simp only [Path.same_iff]
  conv_rhs => rw [← List.forall₂_eq_eq_eq]
  rw [List.forall₂_map_left_iff, List.forall₂_map_right_iff]

/-- **The order leaves no choice**: increasing lists of the same paths differ in the spelling only. -/
theorem forall₂_same_of_among_iff {ps qs : List Path} (hp : Increasing ps) (hq : Increasing qs)
    (h : ∀ p : Path, p.Among ps ↔ p.Among qs) :
    List.Forall₂ (fun p q => p.same q = true) ps qs := by
  simp only [Path.among_iff] at h
  refine forall₂_same_iff.mpr ((increasing_iff.mp hp).eq_of_mem_iff (increasing_iff.mp hq) ?_)
  intro k
  constructor
  · intro hk
    obtain ⟨p, -, rfl⟩ := List.mem_map.mp hk
    exact (h p).mp hk
  · intro hk
    obtain ⟨p, -, rfl⟩ := List.mem_map.mp hk
    exact (h p).mpr hk

/-! ### Putting paths in order -/

theorem among_insertPath {p r : Path} {qs : List Path} :
    r.Among (insertPath p qs) ↔ r.same p = true ∨ r.Among qs := by
  simp only [Path.among_iff, Path.same_iff]
  induction qs with
  | nil => simp [insertPath]
  | cons q qs ih =>
    rw [insertPath]
    split
    · rw [List.map_cons, List.mem_cons]
    · split
      · next hsame =>
        rw [Path.same_iff.mp hsame, List.map_cons, List.mem_cons]
        tauto
      · rw [List.map_cons, List.mem_cons, ih, List.map_cons, List.mem_cons]
        tauto

/-- What comes before `p` and before all others comes before all that are there afterwards. -/
theorem before_insertPath {p q : Path} {qs : List Path} (hp : q.before p = true)
    (hqs : ∀ r ∈ qs, q.before r = true) : ∀ r ∈ insertPath p qs, q.before r = true := by
  intro r hr
  rw [Path.before_iff] at hp ⊢
  rcases among_insertPath.mp ⟨r, hr, Path.same_iff.mpr rfl⟩ with h | ⟨s, hs, h⟩
  · rwa [Path.same_iff.mp h]
  · rw [Path.same_iff.mp h, ← Path.before_iff]
    exact hqs s hs

theorem increasing_insertPath (p : Path) {qs : List Path} (h : Increasing qs) :
    Increasing (insertPath p qs) := by
  induction qs with
  | nil => exact List.pairwise_singleton _ _
  | cons q qs ih =>
    obtain ⟨hfirst, hrest⟩ := List.pairwise_cons.mp h
    rw [insertPath]
    rcases p.before_trichotomy q with ⟨hbefore, -⟩ | ⟨hbefore, hsame, -⟩ | ⟨hbefore, hsame, hafter⟩
    · rw [if_pos hbefore]
      refine List.pairwise_cons.mpr ⟨List.forall_mem_cons.mpr ⟨hbefore, fun r hr => ?_⟩, h⟩
      exact Path.before_trans hbefore (hfirst r hr)
    · rwa [if_neg (by simp [hbefore]), if_pos hsame]
    · rw [if_neg (by simp [hbefore]), if_neg (by simp [hsame])]
      exact List.pairwise_cons.mpr ⟨before_insertPath hafter hfirst, ih hrest⟩

/-- One path after the other is put into a list. -/
theorem foldl_insertPath (ps : List Path) {qs : List Path} (h : Increasing qs) :
    Increasing (ps.foldl (fun qs p => insertPath p qs) qs) ∧
      ∀ r : Path, r.Among (ps.foldl (fun qs p => insertPath p qs) qs) ↔ r.Among ps ∨ r.Among qs := by
  induction ps generalizing qs with
  | nil => exact ⟨h, fun r => by simp [Path.Among]⟩
  | cons p ps ih =>
    obtain ⟨hincreasing, hamong⟩ := ih (increasing_insertPath p h)
    refine ⟨hincreasing, fun r => ?_⟩
    rw [List.foldl_cons, hamong, among_insertPath, Path.among_cons]
    tauto

/-- **Paths are put in order** and repeated nowhere. -/
theorem increasing_canonical (ps : List Path) : Increasing (canonical ps) :=
  (foldl_insertPath ps List.Pairwise.nil).1

/-- **No path is lost**, and none is added. -/
theorem among_canonical {p : Path} {ps : List Path} : p.Among (canonical ps) ↔ p.Among ps := by
  have h := (foldl_insertPath ps List.Pairwise.nil).2 p
  rw [canonical, h]
  simp [Path.Among]

/-! ### What is found -/

section
variable (host : Host Id) (dir : Path)

/-- Paths are always found. -/
theorem run_discover_paths (args : List Text) :
    (discover host dir false args).run.run = .ok (namedSources dir args) := rfl

theorem among_namedSources {p : Path} {args : List Text} :
    p.Among (namedSources dir args) ↔ ∃ arg ∈ args, p.same (dir.join ⟨arg⟩) = true := by
  rw [namedSources, among_canonical]
  simp [Path.Among]

/-- The glob of an argument matches a path. -/
def globMatches (arg path : Text) : Bool :=
  match WrittenGlob.ofText? false (dropHere arg) with
  | .ok g => g.accepts path
  | .error _ => false

theorem exists_of_readGlobs_cons {arg : Text} {args : List Text} {globs : List WrittenGlob}
    (h : readGlobs (arg :: args) = .ok globs) :
    ∃ g gs, WrittenGlob.ofText? false (dropHere arg) = .ok g ∧ readGlobs args = .ok gs ∧
      globs = g :: gs := by
  rw [readGlobs] at h
  cases hglob : WrittenGlob.ofText? false (dropHere arg) with
  | error e =>
    rw [hglob] at h
    cases h
  | ok g =>
    rw [hglob] at h
    cases hrest : readGlobs args with
    | error e =>
      rw [hrest] at h
      cases h
    | ok gs =>
      rw [hrest] at h
      cases h
      exact ⟨g, gs, rfl, rfl, rfl⟩

/-- A path is matched by some glob if it is matched by that of some argument. -/
theorem any_accepts_of_readGlobs {args : List Text} {globs : List WrittenGlob}
    (h : readGlobs args = .ok globs) (path : Text) :
    (globs.any fun g => g.accepts path) = args.any fun arg => globMatches arg path := by
  induction args generalizing globs with
  | nil => cases h; rfl
  | cons arg args ih =>
    obtain ⟨g, gs, hglob, hrest, rfl⟩ := exists_of_readGlobs_cons h
    rw [List.any_cons, List.any_cons, ih hrest, globMatches, hglob]

/-- The files below a directory, none if it cannot be walked. -/
def Host.tree : List Path :=
  match (host.walk dir).run with
  | .ok files => files
  | .error _ => []

/-- Globs are read first, and then the tree is walked. -/
theorem run_discover_globs {args : List Text} (h : args ≠ []) :
    (discover host dir true args).run.run =
      (readGlobs args).bind fun globs =>
        match (host.walk dir).run with
        | .error e => .error (DiscoveryError.walk dir e.1 e.2)
        | .ok files => .ok (matchingSources dir (fun t => globs.any fun g => g.accepts t) files) := by
  rw [discover, if_neg (by simp), if_neg (by simpa using h)]
  cases readGlobs args with
  | error e => rfl
  | ok globs =>
    show (match (host.walk dir).run with
      | .error e => throw (DiscoveryError.walk dir e.1 e.2)
      | .ok files => _ : ExceptT DiscoveryError Id (List Path)).run.run = _
    cases (host.walk dir).run <;> rfl

/-- Globs that can be read find something in a tree that can be walked. -/
theorem exists_discover_globs {args : List Text} {globs : List WrittenGlob} {files : List Path}
    (hglobs : readGlobs args = .ok globs) (hwalk : (host.walk dir).run = .ok files) :
    ∃ ps, (discover host dir true args).run.run = .ok ps := by
  cases args with
  | nil => exact ⟨[], rfl⟩
  | cons arg args =>
    rw [run_discover_globs host dir (by simp), hglobs, hwalk]
    exact ⟨_, rfl⟩

/-- The files of a tree that some argument stands for, whatever it takes to match a path. -/
def sourcesBy (stands : Text → Text → Bool) (tree : List Path) (args : List Text) : List Path :=
  matchingSources dir (fun path => args.any fun arg => stands arg path) tree

/-- **What is found for globs** are the files of the tree that some argument matches. -/
theorem eq_sourcesBy_of_discover {args : List Text} {found : List Path}
    (h : (discover host dir true args).run.run = .ok found) :
    found = sourcesBy dir globMatches (host.tree dir) args := by
  cases args with
  | nil =>
    cases h
    simp [sourcesBy, matchingSources, canonical]
  | cons arg args =>
    rw [run_discover_globs host dir (by simp)] at h
    cases hglobs : readGlobs (arg :: args) with
    | error e =>
      rw [hglobs] at h
      cases h
    | ok globs =>
      simp only [hglobs, Except.bind] at h
      rw [Host.tree]
      cases hwalk : (host.walk dir).run with
      | error e =>
        rw [hwalk] at h
        cases h
      | ok files =>
        rw [hwalk] at h
        cases h
        simp only [sourcesBy, any_accepts_of_readGlobs hglobs]

theorem among_sourcesBy {stands : Text → Text → Bool} {tree : List Path} {args : List Text}
    {p : Path} :
    p.Among (sourcesBy dir stands tree args) ↔
      ∃ file ∈ tree, p.same file = true ∧ ∃ q, file.relativeTo? dir = some q ∧
        ∃ arg ∈ args, stands arg q.spelling = true := by
  rw [sourcesBy, matchingSources, among_canonical]
  simp only [Path.Among, List.mem_filter, Option.any_eq_true, List.any_eq_true]
  exact exists_congr fun file => and_right_comm.trans and_assoc

/-- More arguments stand for more files. -/
theorem among_sourcesBy_append {stands : Text → Text → Bool} {tree : List Path}
    {args₁ args₂ : List Text} {p : Path} :
    p.Among (sourcesBy dir stands tree (args₁ ++ args₂)) ↔
      p.Among (sourcesBy dir stands tree args₁) ∨ p.Among (sourcesBy dir stands tree args₂) := by
  simp only [among_sourcesBy, List.mem_append, or_and_right, exists_or, and_or_left]

end

/-- **Discovery yields a canonical set.**  In every directory:

    * Paths are always found.  They come in strictly increasing order, are just those that the
      arguments lead to from the directory, and neither the order nor the repetition of the arguments
      makes a difference, up to the spelling.
    * Files are found for globs if these can be read and the tree can be walked.  They come in strictly
      increasing order too, and more arguments find the union of what they find by themselves.
    * This is so for every tree and every way of matching a pattern with the path of a file, seen from
      the directory: a file is found if some argument matches it.

    Strictly increasing means that of two paths the earlier one comes before the later one component
    by component; so no two of them have the same components. -/
theorem discover_canonical (host : Host Id) (dir : Path) :
    let found := fun globbing args => (discover host dir globbing args).run.run
    (∀ args, ∃ ps, found false args = .ok ps ∧ Increasing ps ∧
      (∀ p : Path, p.Among ps ↔ ∃ arg ∈ args, p.same (dir.join ⟨arg⟩) = true) ∧
      ∀ args', (∀ arg, arg ∈ args' ↔ arg ∈ args) →
        ∃ ps', found false args' = .ok ps' ∧ List.Forall₂ (fun p q => p.same q = true) ps' ps) ∧
    (∀ args globs files, readGlobs args = .ok globs → (host.walk dir).run = .ok files →
      ∃ ps, found true args = .ok ps) ∧
    (∀ args ps, found true args = .ok ps →
      ps = sourcesBy dir globMatches (host.tree dir) args ∧ Increasing ps) ∧
    (∀ args₁ args₂ ps₁ ps₂ ps, found true args₁ = .ok ps₁ → found true args₂ = .ok ps₂ →
      found true (args₁ ++ args₂) = .ok ps → ∀ p : Path, p.Among ps ↔ p.Among ps₁ ∨ p.Among ps₂) ∧
    ∀ (stands : Text → Text → Bool) (tree : List Path),
      let sources := sourcesBy dir stands tree
      (∀ args, Increasing (sources args) ∧
        ∀ p : Path, p.Among (sources args) ↔ ∃ file ∈ tree, p.same file = true ∧
          ∃ q, file.relativeTo? dir = some q ∧ ∃ arg ∈ args, stands arg q.spelling = true) ∧
      ∀ args₁ args₂, ∀ p : Path,
        p.Among (sources (args₁ ++ args₂)) ↔ p.Among (sources args₁) ∨ p.Among (sources args₂) := by
  intro found
  refine ⟨fun args => ⟨_, run_discover_paths host dir args, increasing_canonical _,
    fun p => among_namedSources dir, fun args' hargs => ⟨_, run_discover_paths host dir args', ?_⟩⟩,
    fun _ _ _ => exists_discover_globs host dir, fun args ps h => ?_,
    fun args₁ args₂ ps₁ ps₂ ps h₁ h₂ h p => ?_, fun stands tree => ⟨fun args =>
      ⟨increasing_canonical _, fun p => among_sourcesBy dir⟩, fun args₁ args₂ p =>
        among_sourcesBy_append dir⟩⟩
  · refine forall₂_same_of_among_iff (increasing_canonical _) (increasing_canonical _) fun p => ?_
    rw [among_namedSources, among_namedSources]
    simp only [hargs]
  · have hps := eq_sourcesBy_of_discover host dir h
    exact ⟨hps, hps ▸ increasing_canonical _⟩
  · rw [eq_sourcesBy_of_discover host dir h₁, eq_sourcesBy_of_discover host dir h₂,
      eq_sourcesBy_of_discover host dir h]
    exact among_sourcesBy_append dir

/-- A host with the given files, all of them empty, and without commands. -/
def Host.ofTree (files : List Path) : Host Id where
  toSurroundings := .ofFiles (files.map fun p => (p, .ok []))
  write _ _ := .error .permissionDenied
  print _ := .ok ()
  isDir _ := true
  walk _ := .ok files

/-- Globs that overlap, and paths in several spellings and orders. -/
theorem discover_canonical_spellings :
    let host := Host.ofTree (["/w/docs/c.md", "/w/b.md", "/w/a.txt", "/w/docs/deep/d.md"].map
      Path.ofString)
    let found := fun globbing args =>
      (discover host ⟨"/w".toList⟩ globbing (args.map String.toList)).run.run
    let ps := ["/w/a.txt", "/w/b.md", "/w/docs/c.md"].map Path.ofString
    let ps₁ := ["/w/b.md", "/w/docs/c.md"].map Path.ofString
    let ps₂ := ["/w/a.txt", "/w/docs/c.md"].map Path.ofString
    let qs := ["/v/x.md", "/w/../b.md", "/w/./a.md", "/w/docs//b.md"].map Path.ofString
    let qs' := ["/v/x.md", "/w/../b.md", "/w/a.md/", "/w/docs/b.md"].map Path.ofString
    let args := ["docs//b.md", "./a.md", "../b.md", "/v/x.md", "a.md/", "docs/b.md"]
    (found true ["./*.md", "docs/*"] = .ok ps₁ ∧ found true ["*.txt", "**/c.md"] = .ok ps₂ ∧
        found true ["./*.md", "docs/*", "*.txt", "**/c.md"] = .ok ps ∧ Increasing ps ∧
        ∀ p : Path, p.Among ps ↔ p.Among ps₁ ∨ p.Among ps₂) ∧
      found false args = .ok qs ∧ found false args.reverse = .ok qs' ∧
        List.Forall₂ (fun p q => p.same q = true) qs' qs := by
  intro host found ps ps₁ ps₂ qs qs' args
  obtain ⟨hpaths, -, hglobs, hunion, -⟩ := discover_canonical host ⟨"/w".toList⟩
  have h₁ : found true ["./*.md", "docs/*"] = .ok ps₁ := by decide
  have h₂ : found true ["*.txt", "**/c.md"] = .ok ps₂ := by decide
  have h : found true ["./*.md", "docs/*", "*.txt", "**/c.md"] = .ok ps := by decide
  have hq : found false args = .ok qs := by decide
  have hq' : found false args.reverse = .ok qs' := by decide
  refine ⟨⟨h₁, h₂, h, (hglobs _ _ h).2, hunion _ _ _ _ _ h₁ h₂ h⟩, hq, hq', ?_⟩
  obtain ⟨_, hargs, -, -, hsame⟩ := hpaths (args.map String.toList)
  obtain ⟨_, hargs', hspelling⟩ := hsame (args.reverse.map String.toList) fun _ => by simp
  cases hq.symm.trans hargs
  cases hq'.symm.trans hargs'
  exact hspelling

end FenceSync
