import FenceSync.Discovery
import FenceSync.Proofs.FileLookup
import Mathlib.Algebra.GroupWithZero.Nat

namespace FenceSync

/-!
# Dropping ignored sources

Ignore files drop sources one file after the other, and each file only sees what the ones before it
have left over.

* `sieve_cons` is the spec of one step; `sieve_fst_eq_filter`, `sieve_snd_eq_countFirst` and
  `length_sieve` say what all steps together leave over and count.
* `ignores` is what an ignore file drops, whatever it says of paths, and `ignoreTests` are the tests
  of the files that are not skipped; `run_filterIgnored` says that sources go through these.
* `filterIgnored_accounts` is the full statement.
-/

/-! ### One test after the other -/

/-- How many sources each name is the first one to exclude, in the order of the names; a name that is
    the first one for no source is left out. -/
def countFirst (excludes : Text → Path → Bool) (names : List Text) (sources : List Path) :
    List (Text × Nat) :=
  (names.zipIdx.map fun n =>
    (n.1, sources.countP fun p => names.findIdx? (excludes · p) == some n.2)).filter fun c =>
      0 < c.2

theorem length_filter_not (test : Path → Bool) (sources : List Path) :
    sources.countP test + (sources.filter (!test ·)).length = sources.length := by
  rw [List.countP_eq_length_filter, ← List.length_eq_length_filter_add]

theorem sieve_cons (name : Text) (test : Path → Bool) (tests : List (Text × (Path → Bool)))
    (sources : List Path) :
    sieve ((name, test) :: tests) sources =
      let (remaining, counts) := sieve tests (sources.filter (!test ·))
      (remaining,
        if sources.countP test = 0 then counts else (name, sources.countP test) :: counts) := by
  have hdropped : sources.length - (sources.filter (!test ·)).length = sources.countP test := by
    rw [← length_filter_not test sources, Nat.add_sub_cancel]
  simp only [sieve, hdropped]

/-- A test that excludes nothing makes no difference. -/
theorem sieve_cons_of_never {test : Path → Bool} (h : ∀ p, test p = false) (name : Text)
    (tests : List (Text × (Path → Bool))) (sources : List Path) :
    sieve ((name, test) :: tests) sources = sieve tests sources := by
  have hcount : sources.countP test = 0 := List.countP_eq_zero.mpr fun p _ => by simp [h p]
  have hkept : sources.filter (!test ·) = sources := List.filter_eq_self.mpr fun p _ => by simp [h p]
  simp only [sieve_cons, hcount, hkept, if_true]

/-- **Nothing is lost**: every source remains or is counted once. -/
theorem length_sieve (tests : List (Text × (Path → Bool))) (sources : List Path) :
    ((sieve tests sources).2.map Prod.snd).sum + (sieve tests sources).1.length =
      sources.length := by
  induction tests generalizing sources with
  | nil => simp [sieve]
  | cons t tests ih =>
    obtain ⟨name, test⟩ := t
    have hkept := ih (sources.filter (!test ·))
    have hlen := length_filter_not test sources
    simp only [sieve_cons]
    split
    · omega
    · rw [List.map_cons, List.sum_cons]
      omega

section
variable (excludes : Text → Path → Bool) (names : List Text) (sources : List Path)

/-- The first name takes all that it excludes, and the others share the rest. -/
theorem countFirst_cons (name : Text) :
    countFirst excludes (name :: names) sources =
      let counts := countFirst excludes names (sources.filter (!excludes name ·))
      if sources.countP (excludes name) = 0 then counts
      else (name, sources.countP (excludes name)) :: counts := by
  have hfirst : ∀ p, (name :: names).findIdx? (excludes · p) =
      if excludes name p then some 0 else (names.findIdx? (excludes · p)).map (· + 1) :=
    fun p => List.findIdx?_cons
  have hhead : (sources.countP fun p =>
      (name :: names).findIdx? (excludes · p) == some 0) = sources.countP (excludes name) := by
    refine List.countP_congr fun p _ => ?_
    rw [hfirst]
    cases excludes name p <;> simp
  have htail : ∀ i, (sources.countP fun p =>
      (name :: names).findIdx? (excludes · p) == some (i + 1)) =
        (sources.filter (!excludes name ·)).countP fun p =>
          names.findIdx? (excludes · p) == some i := by
    intro i
    rw [List.countP_filter]
    refine List.countP_congr fun p _ => ?_
    rw [hfirst]
    cases excludes name p <;> simp
  have hrest : (names.zipIdx 1).map (fun n => (n.1, sources.countP fun p =>
      (name :: names).findIdx? (excludes · p) == some n.2)) =
        names.zipIdx.map fun n => (n.1, (sources.filter (!excludes name ·)).countP fun p =>
          names.findIdx? (excludes · p) == some n.2) := by
    rw [List.zipIdx_succ, List.map_map]
    exact List.map_congr_left fun n _ => Prod.ext rfl (htail n.2)
  rw [countFirst, List.zipIdx_cons, Nat.zero_add, List.map_cons, hhead, hrest, List.filter_cons]
  by_cases hcount : sources.countP (excludes name) = 0
  · simp [hcount, countFirst]
  · simp [hcount, Nat.pos_of_ne_zero hcount, countFirst]

/-- **What remains** is what no test excludes. -/
theorem sieve_fst_eq_filter :
    (sieve (names.map fun name => (name, excludes name)) sources).1 =
      sources.filter fun p => names.all fun name => !excludes name p := by
  induction names generalizing sources with
  | nil => simp [sieve]
  | cons name names ih =>
    simp only [List.map_cons, sieve_cons, ih, List.filter_filter, List.all_cons, Bool.and_comm]

/-- **Every other source is counted** for the first test that excludes it. -/
theorem sieve_snd_eq_countFirst :
    (sieve (names.map fun name => (name, excludes name)) sources).2 =
      countFirst excludes names sources := by
  induction names generalizing sources with
  | nil => rfl
  | cons name names ih => simp only [List.map_cons, sieve_cons, ih, countFirst_cons]

theorem pos_of_mem_countFirst {count : Text × Nat}
    (h : count ∈ countFirst excludes names sources) : 0 < count.2 :=
  of_decide_eq_true (List.mem_filter.mp h).2

theorem map_fst_countFirst_sublist :
    ((countFirst excludes names sources).map Prod.fst).Sublist names := by
  have hnames : (names.zipIdx.map fun n => (n.1, sources.countP fun p =>
      names.findIdx? (excludes · p) == some n.2)).map Prod.fst = names := by
    rw [List.map_map]
    exact List.zipIdx_map_fst 0 names
  conv_rhs => rw [← hnames]
  exact List.filter_sublist.map Prod.fst

end

/-! ### Ignore files -/

/-- What an ignore file drops: of the paths below the directory those that it excludes, and nothing
    if it is skipped. -/
def ignores (dir : Path) (rules? : Text → Option (Path → Bool)) (name : Text) (p : Path) : Bool :=
  p.isUnder dir && (rules? name).any (· p)

/-- The tests of the ignore files that are not skipped. -/
def ignoreTests (dir : Path) (rules? : Text → Option (Path → Bool)) (names : List Text) :
    List (Text × (Path → Bool)) :=
  names.filterMap fun name => (rules? name).map fun rules => (name, fun p => p.isUnder dir && rules p)

/-- What the ignore files of a directory exclude. -/
def Surroundings.ignoreRules? (env : Surroundings Id) (dir : Path) (name : Text) :
    Option (Path → Bool) :=
  (readIgnoreFile env dir name).run.map fun rules => IgnoreRules.excludes rules dir

theorem IgnoreRules.isUnder_and_excludes (rules : List IgnoreRule) (dir p : Path) :
    (p.isUnder dir && excludes rules dir p) = excludes rules dir p := by
  simp only [excludes, ← Bool.and_assoc, Bool.and_self]

section
variable (dir : Path) (rules? : Text → Option (Path → Bool)) (names : List Text)
  (sources : List Path)

/-- A file that is skipped drops nothing. -/
theorem sieve_ignoreTests :
    sieve (ignoreTests dir rules? names) sources =
      sieve (names.map fun name => (name, ignores dir rules? name)) sources := by
  induction names generalizing sources with
  | nil => rfl
  | cons name names ih =>
    rw [ignoreTests, List.filterMap_cons, ← ignoreTests, List.map_cons]
    cases h : rules? name with
    | none =>
      have hnever : ∀ p, ignores dir rules? name p = false := fun p => by simp [ignores, h]
      rw [sieve_cons_of_never hnever]
      exact ih sources
    | some rules =>
      have htest : (fun p : Path => p.isUnder dir && rules p) = ignores dir rules? name := by
        funext p
        simp [ignores, h]
      simp only [Option.map_some, htest, sieve_cons, ih]

theorem run_readIgnoreFiles (env : Surroundings Id) :
    (readIgnoreFiles env dir names).run = ignoreTests dir (env.ignoreRules? dir) names := by
  induction names with
  | nil => rfl
  | cons name names ih =>
    obtain ⟨found, hfound⟩ : ∃ found, readIgnoreFile env dir name = pure found := ⟨_, rfl⟩
    rw [ignoreTests, List.filterMap_cons, ← ignoreTests, ← ih, Surroundings.ignoreRules?,
      readIgnoreFiles, hfound, pure_bind, Id.run_pure]
    cases found with
    | none => rfl
    | some rules =>
      simp only [Option.map_some, IgnoreRules.isUnder_and_excludes]
      rfl

theorem run_filterIgnored (env : Surroundings Id) :
    (filterIgnored env dir names sources).run =
      sieve (ignoreTests dir (env.ignoreRules? dir) names) sources := by
  rw [← run_readIgnoreFiles]
  rfl

theorem sieve_ignoreTests_fst :
    (sieve (ignoreTests dir rules? names) sources).1 =
      sources.filter fun p => !p.isUnder dir || names.all fun name => (rules? name).all (!· p) := by
  rw [sieve_ignoreTests, sieve_fst_eq_filter]
  refine List.filter_congr fun p _ => ?_
  have hname : ∀ name, (!ignores dir rules? name p) =
      (!p.isUnder dir || (rules? name).all (!· p)) := by
    intro name
    cases h : rules? name <;> simp [ignores, h]
  simp only [hname]
  cases p.isUnder dir <;> simp

theorem sieve_ignoreTests_snd :
    (sieve (ignoreTests dir rules? names) sources).2 =
      countFirst (ignores dir rules?) names sources := by
  rw [sieve_ignoreTests, sieve_snd_eq_countFirst]

/-- What remains goes through the same ignore files unharmed. -/
theorem sieve_ignoreTests_again :
    let remaining := (sieve (ignoreTests dir rules? names) sources).1
    sieve (ignoreTests dir rules? names) remaining = (remaining, []) := by
  intro remaining
  have hremaining : remaining = _ := sieve_ignoreTests_fst dir rules? names sources
  have hfst : (sieve (ignoreTests dir rules? names) remaining).1 = remaining := by
    rw [sieve_ignoreTests_fst, List.filter_eq_self]
    intro p hp
    rw [hremaining] at hp
    exact (List.mem_filter.mp hp).2
  -- Nothing is left to be counted.
  have hsum : ((sieve (ignoreTests dir rules? names) remaining).2.map Prod.snd).sum = 0 := by
    have hlen := length_sieve (ignoreTests dir rules? names) remaining
    rw [hfst] at hlen
    omega
  rw [List.sum_eq_zero_iff_forall_eq_nat] at hsum
  refine Prod.ext hfst (List.eq_nil_iff_forall_not_mem.mpr fun c hc => ?_)
  have hzero := hsum _ (List.mem_map_of_mem hc)
  rw [sieve_ignoreTests_snd] at hc
  exact Nat.ne_of_gt (pos_of_mem_countFirst _ _ _ hc) hzero

end

/-- **Ignore files account for every source.**  Whatever each ignore file says of the paths below the
    working directory, unless it is skipped:

    * What remains are the sources, in order, that lie outside the directory or are excluded by no
      ignore file.
    * Every other source is counted once, for the first ignore file that excludes it.  The counts are
      positive, come in the order of the ignore files, and add up with what remains to the number of
      sources.
    * Neither the order nor the repetition of the ignore files makes a difference to what remains, and
      nothing of it is dropped by the same ignore files.

    This is what `filterIgnored` does with the rules that it reads from the files around it. -/
theorem filterIgnored_accounts (dir : Path) (rules? : Text → Option (Path → Bool))
    (names : List Text) (sources : List Path) :
    let sift := fun names => sieve (ignoreTests dir rules? names)
    let remaining := (sift names sources).1
    let counts := (sift names sources).2
    remaining = (sources.filter fun p =>
      !p.isUnder dir || names.all fun name => (rules? name).all (!· p)) ∧
    counts = countFirst (ignores dir rules?) names sources ∧
    (∀ c ∈ counts, 0 < c.2) ∧ (counts.map Prod.fst).Sublist names ∧
    (counts.map Prod.snd).sum + remaining.length = sources.length ∧
    (∀ names', (∀ name, name ∈ names' ↔ name ∈ names) → (sift names' sources).1 = remaining) ∧
    sift names remaining = (remaining, []) ∧
    ∀ env : Surroundings Id, env.ignoreRules? dir = rules? →
      ∀ names sources, (filterIgnored env dir names sources).run = sift names sources := by
  intro sift remaining counts
  have hfst : ∀ names, (sift names sources).1 = _ :=
    fun names => sieve_ignoreTests_fst dir rules? names sources
  have hsnd : counts = _ := sieve_ignoreTests_snd dir rules? names sources
  refine ⟨hfst names, hsnd, ?_, ?_, length_sieve _ sources, ?_,
    sieve_ignoreTests_again dir rules? names sources, ?_⟩
  · rw [hsnd]
    exact fun c => pos_of_mem_countFirst _ _ _
  · rw [hsnd]
    exact map_fst_countFirst_sublist _ _ _
  · intro names' hmem
    have hremaining : remaining = _ := hfst names
    rw [hfst, hremaining]
    refine List.filter_congr fun p _ => congrArg _ ?_
    rw [Bool.eq_iff_iff, List.all_eq_true, List.all_eq_true]
    simp only [hmem]
  · rintro env rfl names sources
    exact run_filterIgnored dir names sources env

/-- A file that excludes a source twice and keeps another one, one that is missing, and one that would
    exclude a source again; sources outside and in a directory that is excluded. -/
theorem filterIgnored_accounts_overlapping :
    let docs : Path := ⟨"/w/.embedmeignore".toList⟩
    let git : Path := ⟨"/w/.gitignore".toList⟩
    let env := Surroundings.ofFiles [(docs, .ok (Text.utf8 "docs/*.md\n!docs/c.md\n".toList)),
      (git, .ok (Text.utf8 "build/\nb.md\n".toList))]
    let names := [".embedmeignore".toList, "none".toList, ".gitignore".toList]
    let sources := ["/w/a.md", "/w/docs/b.md", "/v/docs/b.md", "/w/docs/c.md", "/w/build/c.md",
      "/w/docs/b.md"].map Path.ofString
    let kept := ["/w/a.md", "/v/docs/b.md", "/w/docs/c.md"].map Path.ofString
    let filtered := fun names sources => (filterIgnored env ⟨"/w".toList⟩ names sources).run
    filtered names sources = (kept, [(".embedmeignore".toList, 2), (".gitignore".toList, 1)]) ∧
      filtered (names.reverse ++ names) sources =
        (kept, [(".gitignore".toList, 3)]) ∧
      filtered names kept = (kept, []) := by
  intro docs git env names sources kept filtered
  have hfiltered : filtered names sources =
      (kept, [(".embedmeignore".toList, 2), (".gitignore".toList, 1)]) := by decide
  obtain ⟨-, -, -, -, -, horder, hagain, hrun⟩ :=
    filterIgnored_accounts ⟨"/w".toList⟩ (env.ignoreRules? ⟨"/w".toList⟩) names sources
  have hkept := congrArg Prod.fst ((hrun env rfl names sources).symm.trans hfiltered)
  have hreversed : (filtered (names.reverse ++ names) sources).1 = kept := by
    rw [show filtered _ _ = _ from hrun env rfl _ sources]
    exact (horder _ fun name => by simp).trans hkept
  refine ⟨hfiltered, Prod.ext hreversed (by decide), ?_⟩
  rw [hkept] at hagain
  exact (hrun env rfl names kept).trans hagain

end FenceSync
