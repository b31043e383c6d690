import FenceSync.Proofs.Keeping

namespace FenceSync

/-!
# Carrying out what is asked for

A run from the command line does nothing to the files until its documents are found.

* `CommandLine.Console.HoldsFiles` is a console whose files are a map that only writing touches.
* The phases in front of the documents keep the files: `Settings.load_keeps`, `openDir_keeps`,
  `discover_keeps`, `filterIgnored_keeps`.
* `CommandLine.carryOut_atMostDelivers` puts them together, and `CommandLine.run_files` is the full
  statement: a run keeps the files, or it leaves them as a run over some documents does, in the mode
  that is asked for.
-/

variable {σ κ : Type} [DecidableEq κ] {files : σ → κ → Option Bytes} {name : Path → κ}

/-! ### The phases -/

section
variable {host : Host (StateM σ)} (h : host.HoldsFiles files name)
include h

theorem Settings.locateAmong_keeps (ps : List Path) :
    Keeps files (Settings.locateAmong host.toSurroundings ps) := by
  induction ps with
  | nil => exact .pure none
  | cons p ps ih =>
    refine .bind (h.isFile p) fun found => ?_
    cases found with
    | true => exact .bind (h.log _) fun _ => .pure _
    | false => exact .bind (h.log _) fun _ => ih

theorem Settings.load_keeps (dir : Path) (named : Option Path) :
    KeepsE files (Settings.load host.toSurroundings dir named) := by
  have hlocate : Keeps files (Settings.locate host.toSurroundings dir named) := by
    cases named with
    | some p => exact .pure _
    | none => exact Settings.locateAmong_keeps h _
  refine (KeepsE.lift hlocate).bind fun found => ?_
  cases found with
  | none => exact .pure _
  | some p =>
    refine (KeepsE.lift (readText_coupled h.envs p)).bind fun content => ?_
    cases content with
    | error e => exact .throw _
    | ok t =>
      simp only
      cases Settings.ofText? t with
      | error e => exact .throw _
      | ok s => exact .bind (.lift (h.log _)) fun _ => .pure _

theorem logGlobs_keeps (globs : List WrittenGlob) :
    Keeps files (logGlobs host.toSurroundings globs) := by
  unfold logGlobs
  split
  · exact .pure _
  · induction WrittenGlob.census globs with
    | nil => exact .pure _
    | cons text texts ih =>
      exact .bind (h.log _) fun _ => ih

theorem discover_keeps (dir : Path) (globbing : Bool) (args : List Text) :
    KeepsE files (discover host dir globbing args) := by
  unfold discover
  split
  · exact .bind (.lift (h.log _)) fun _ => .pure _
  · split
    · exact .pure _
    · cases readGlobs args with
      | error e => exact .throw _
      | ok globs =>
        refine .bind (.lift (logGlobs_keeps h globs)) fun _ => ?_
        refine .bind (.lift (h.walk dir)) fun found => ?_
        cases found with
        | error e => exact .throw _
        | ok fs => exact .bind (.lift (h.log _)) fun _ => .pure _

theorem readIgnoreFile_keeps (dir : Path) (file : Text) :
    Keeps files (readIgnoreFile host.toSurroundings dir file) := by
  refine .bind (h.isFile _) fun found => ?_
  cases found with
  | false => exact .pure _
  | true =>
    refine .bind (h.read _) fun content => ?_
    cases content with
    | error e => exact .bind (h.log _) fun _ => .pure _
    | ok bytes =>
      refine .bind (h.log _) fun _ => ?_
      cases IgnoreRules.ofBytes? bytes with
      | error faults =>
        exact .bind (h.log _) fun _ => .pure _
      | ok rules =>
        exact .bind (logGlobs_keeps h _) fun _ => .pure _

theorem filterIgnored_keeps (dir : Path) (ignoreFiles : List Text) (sources : List Path) :
    Keeps files (filterIgnored host.toSurroundings dir ignoreFiles sources) := by
  have hread : Keeps files (readIgnoreFiles host.toSurroundings dir ignoreFiles) := by
    induction ignoreFiles with
    | nil => exact .pure _
    | cons file ignoreFiles ih =>
      refine .bind (readIgnoreFile_keeps h dir file) fun rules => ?_
      refine .bind ih fun rest => ?_
      cases rules with
      | none => exact .pure _
      | some rules => exact .pure _
  exact .bind hread fun _ => .pure _

end

namespace CommandLine

/-! ### Consoles -/

/-- The files of the console are a map that only writing touches. -/
structure Console.HoldsFiles (c : Console (StateM σ)) (files : σ → κ → Option Bytes)
    (name : Path → κ) : Prop where
  host : ∀ l, (c.host l).HoldsFiles files name
  complain : ∀ text, Keeps files (c.complain text)
  currentDir : Keeps files c.currentDir
  elapsed : Keeps files c.elapsed

/-- The directory in which a run works, if it is called from another one. -/
def Given.dirFrom (g : Given) (here : Path) : Path :=
  match g.value? .directory with
  | some d => Path.absoluteFrom ⟨d⟩ here
  | none => here

variable {c : Console (StateM σ)} (hc : c.HoldsFiles files name)

section
variable {host : Host (StateM σ)} (h : host.HoldsFiles files name)
include hc h

theorem openDir_keeps (g : Given) : KeepsE files (openDir c host g) := by
  refine (KeepsE.lift hc.currentDir).bind fun here => ?_
  cases here with
  | error e => exact .throw _
  | ok here =>
    refine (KeepsE.lift (h.isDir _)).bind fun found => ?_
    cases found with
    | true => exact .pure _
    | false => exact .throw _

omit hc h [DecidableEq κ] in
/-- A run works in the directory that is asked for, as it is seen from the current one. -/
theorem exists_of_openDir {g : Given} {dir : Path} {s s' : σ}
    (hrun : runFrom (openDir c host g) s = (.ok dir, s')) :
    ∃ here s₁, c.currentDir.run s = (.ok here, s₁) ∧ dir = g.dirFrom here := by
  obtain ⟨here, s₁, hhere, hrun⟩ := runFrom_bind_eq_ok hrun
  have hhere' := run_of_runFrom_lift hhere
  cases here with
  | error e => cases hrun
  | ok here =>
    obtain ⟨found, s₂, -, hrun⟩ := runFrom_bind_eq_ok hrun
    cases found with
    | false => cases hrun
    | true =>
      refine ⟨here, s₁, hhere', ?_⟩
      cases hrun
      rfl

end

/-! ### From the documents on -/

/-- The run works in this directory, wherever it is called from. -/
def Given.WorksIn (c : Console (StateM σ)) (g : Given) (dir : Path) : Prop :=
  ∃ here s s', c.currentDir.run s = (.ok here, s') ∧ dir = g.dirFrom here

/-- The files are as a run over some documents in mode `mode` leaves them, in a directory with the
    property `dirs`; whether that run succeeds is `done`. -/
def LeftByDelivery (files : σ → κ → Option Bytes) (name : Path → κ) (mode : OutputMode)
    (dirs : Path → Prop) (s s' : σ) (done : Bool) : Prop :=
  ∃ (host : Host (StateM σ)) (o : FenceSync.Options) (sources : List Path) (s₁ : σ),
    host.HoldsFiles files name ∧ o.mode = mode ∧ dirs o.workingDir ∧ files s₁ = files s ∧
      files s' = files (runFrom (deliverAll host o sources) s₁).2 ∧
      done = (runFrom (deliverAll host o sources) s₁).1.isOk

/-- What is done in front does not matter if it keeps the files. -/
theorem LeftByDelivery.front {mode : OutputMode} {dirs : Path → Prop}
    {s s₁ s' : σ} {done : Bool} (hs : files s₁ = files s)
    (h : files s' = files s₁ ∨ LeftByDelivery files name mode dirs s₁ s' done) :
    files s' = files s ∨ LeftByDelivery files name mode dirs s s' done := by
  rcases h with hkept | ⟨host, o, sources, s₂, hhost, hmode, hdir, hs₂, hdone⟩
  · exact .inl (hkept.trans hs)
  · exact .inr ⟨host, o, sources, s₂, hhost, hmode, hdir, hs₂.trans hs, hdone⟩

/-- The computation keeps the files, or it leaves them as a run over some documents does. -/
def AtMostDelivers (files : σ → κ → Option Bytes) (name : Path → κ) (mode : OutputMode)
    (dirs : Path → Prop) (x : ExceptT RunError (StateM σ) Bool) : Prop :=
  ∀ s, files (runFrom x s).2 = files s ∨
    LeftByDelivery files name mode dirs s (runFrom x s).2 (runFrom x s).1.isOk

namespace AtMostDelivers

variable {mode : OutputMode} {dirs : Path → Prop}

theorem of_keeps {x : ExceptT RunError (StateM σ) Bool} (h : KeepsE files x) :
    AtMostDelivers files name mode dirs x := fun s => .inl (h.files_eq s)

theorem bind_of_result {α : Type} {x : ExceptT RunError (StateM σ) α}
    {f : α → ExceptT RunError (StateM σ) Bool} (h : KeepsE files x)
    (hf : ∀ a s s', runFrom x s = (.ok a, s') → AtMostDelivers files name mode dirs (f a)) :
    AtMostDelivers files name mode dirs (x >>= f) := by
  intro s
  rcases h.bind_cases f s with ⟨e, s', hrun, hs'⟩ | ⟨a, s', hx, hs', hrun⟩ <;> rw [hrun]
  · exact .inl hs'
  · exact LeftByDelivery.front hs' (hf a s s' hx s')

theorem bind {α : Type} {x : ExceptT RunError (StateM σ) α}
    {f : α → ExceptT RunError (StateM σ) Bool} (h : KeepsE files x)
    (hf : ∀ a, AtMostDelivers files name mode dirs (f a)) :
    AtMostDelivers files name mode dirs (x >>= f) := bind_of_result h fun a _ _ _ => hf a

end AtMostDelivers

section
variable {host : Host (StateM σ)} (h : host.HoldsFiles files name)
  (say : LogLevel → String → StateM σ Unit) (hsay : ∀ level text, Keeps files (say level text))
  (o : FenceSync.Options) (dirs : Path → Prop) (hdir : dirs o.workingDir)
include h hsay hdir

/-- A run over some documents, with a message behind it. -/
theorem delivery_atMostDelivers (sources : List Path) (text : Totals → String) :
    AtMostDelivers files name o.mode dirs (do
      let total ← (deliverAll host o sources).adapt .delivery
      say .debug (text total)
      return true) := by
  intro s
  refine .inr ⟨host, o, sources, s, h, rfl, hdir, rfl, ?_⟩
  have hadapt : runFrom ((deliverAll host o sources).adapt RunError.delivery) s =
      ((runFrom (deliverAll host o sources) s).1.mapError RunError.delivery,
        (runFrom (deliverAll host o sources) s).2) := rfl
  rw [runFrom_bind, hadapt]
  rcases runFrom (deliverAll host o sources) s with ⟨e | total, s'⟩
  · exact ⟨rfl, rfl⟩
  · exact ⟨hsay _ _ s', rfl⟩

/-- Processing documents is a run over those that are not ignored. -/
theorem process_atMostDelivers (ignoreFiles : List Text) (found : List Path) :
    AtMostDelivers files name o.mode dirs (process host say o ignoreFiles found) := by
  have hsay' : ∀ level text, KeepsE files
      (liftM (say level text) : ExceptT RunError (StateM σ) Unit) := fun _ _ => .lift (hsay _ _)
  unfold process
  extract_lets rest
  -- The same is done behind the warning and without it.
  have hrest : ∀ u, AtMostDelivers files name o.mode dirs (rest u) := by
    intro u
    refine .bind (hsay' _ _) fun _ => ?_
    refine .bind (.lift (filterIgnored_keeps h _ _ _)) fun (sources, skipped) => ?_
    refine .bind (.forIn fun _ _ => .bind (hsay' _ _) fun _ => .pure _) fun _ => ?_
    split
    · exact .of_keeps (.bind (hsay' _ _) fun _ => .pure _)
    · exact delivery_atMostDelivers h say hsay o dirs hdir sources _
  split
  · exact .bind (hsay' _ _) hrest
  · exact hrest ()

/-- So is finding documents and processing them. -/
theorem discover_atMostDelivers (globbing : Bool) (args ignoreFiles : List Text) :
    AtMostDelivers files name o.mode dirs (do
      let found ← (discover host o.workingDir globbing args).adapt .discovery
      if found.isEmpty then
        say .warn "no files matched your input"
        return false
      else process host say o ignoreFiles found) := by
  refine .bind ((discover_keeps h _ _ _).adapt _) fun found => ?_
  split
  · exact .of_keeps (.bind (.lift (hsay _ _)) fun _ => .pure _)
  · exact process_atMostDelivers h say hsay o dirs hdir ignoreFiles found

end

/-- Options are looked at before anything is done. -/
theorem validate_atMostDelivers (o : FenceSync.Options) {mode : OutputMode} {dirs : Path → Prop}
    {x : ExceptT RunError (StateM σ) Bool} (hx : AtMostDelivers files name mode dirs x) :
    AtMostDelivers files name mode dirs (do
      if let .error e := o.validate then throw (.options e)
      x) := by
  split
  · exact .bind (.throw _) fun _ => hx
  · exact hx

/-- **What is asked for is at most a run over documents**, in the mode and in the directory that are
    asked for. -/
theorem carryOut_atMostDelivers (hc : c.HoldsFiles files name) {log : LogEntry → StateM σ Unit}
    (hlog : ∀ entry, Keeps files (log entry)) (g : Given) :
    AtMostDelivers files name g.mode (g.WorksIn c) (carryOut c log g) := by
  have hhost := fun l => (hc.host l).withLog hlog
  unfold carryOut
  refine .bind_of_result (openDir_keeps hc (hhost _) g) fun dir s s' hrun => ?_
  refine .bind ((Settings.load_keeps (hhost _) _ _).adapt _) fun (own, path) => ?_
  obtain ⟨here, s₁, hhere, rfl⟩ := exists_of_openDir hrun
  -- The settings decide which host the documents are processed with; all of them hold the files.
  have hdocuments := fun settings : Settings =>
    discover_atMostDelivers (hhost (.of (settings.shell.getD []) (settings.timeout.getD 0)))
      (fun level text => log ⟨level, .commandLine, text⟩) (fun _ _ => hlog _)
      (optionsFor g (g.dirFrom here) settings) (g.WorksIn c) ⟨here, s, s₁, hhere, rfl⟩
      (settings.glob.getD false) g.sources settings.effectiveIgnoreFiles
  cases path with
  | none => exact validate_atMostDelivers _ (hdocuments _)
  | some p => exact .bind (.lift (hlog _)) fun _ => validate_atMostDelivers _ (hdocuments _)

/-! ### The whole program -/

/-- The program keeps the files, or it leaves them as a run over some documents does; its exit code
    says whether that run succeeds. -/
def ExitsByDelivery (files : σ → κ → Option Bytes) (name : Path → κ) (mode : OutputMode)
    (dirs : Path → Prop) (x : StateM σ Nat) : Prop :=
  ∀ s, files (x.run s).2 = files s ∨
    LeftByDelivery files name mode dirs s (x.run s).2 (decide ((x.run s).1 = 0))

namespace ExitsByDelivery

variable {mode : OutputMode} {dirs : Path → Prop}

theorem bind {α : Type} {x : StateM σ α} {f : α → StateM σ Nat} (h : Keeps files x)
    (hf : ∀ a, ExitsByDelivery files name mode dirs (f a)) :
    ExitsByDelivery files name mode dirs (x >>= f) :=
  fun s => LeftByDelivery.front (h s) (hf _ _)

/-- The exit code is made of the result. -/
theorem conclude {x : ExceptT RunError (StateM σ) Bool} {f : Except RunError Bool → StateM σ Nat}
    (h : AtMostDelivers files name mode dirs x) (hf : ∀ r, Keeps files (f r))
    (hcode : ∀ r s, decide (((f r).run s).1 = 0) = r.isOk) :
    ExitsByDelivery files name mode dirs (x.run >>= f) := by
  intro s
  show files ((f (runFrom x s).1).run (runFrom x s).2).2 = files s ∨
    LeftByDelivery files name mode dirs s ((f (runFrom x s).1).run (runFrom x s).2).2
      (decide (((f (runFrom x s).1).run (runFrom x s).2).1 = 0))
  rw [hcode]
  have hkept := hf (runFrom x s).1 (runFrom x s).2
  rcases h s with hs | ⟨host, o, sources, s₁, hhost, hmode, hdir, hs₁, hs₂, hdone⟩
  · exact .inl (hkept.trans hs)
  · exact .inr ⟨host, o, sources, s₁, hhost, hmode, hdir, hs₁, hkept.trans hs₂, hdone⟩

end ExitsByDelivery

theorem runGiven_exitsByDelivery (hc : c.HoldsFiles files name) (g : Given) :
    ExitsByDelivery files name g.mode (g.WorksIn c) (runGiven c g) := by
  unfold runGiven
  rcases logFilter c.env g with ⟨filter, faults⟩
  have hlog : ∀ entry : LogEntry, Keeps files
      (if filter.shows entry then c.complain ((logStyle c.env g).line entry) else pure ()) := by
    intro entry
    split
    · exact hc.complain _
    · exact .pure _
  refine .bind (.forIn fun _ _ => .bind (hc.complain _) fun _ => .pure _) fun _ => ?_
  refine .bind (hlog _) fun _ => ?_
  refine .conclude (carryOut_atMostDelivers hc hlog g) (fun r => ?_) fun r s => ?_
  · cases r with
    | error e => exact .bind (hlog _) fun _ => .pure _
    | ok done =>
      cases done with
      | false => exact .pure _
      | true => exact .bind hc.elapsed fun _ => .bind (hlog _) fun _ => .pure _
  · cases r with
    | error e => rfl
    | ok done => cases done <;> rfl

/-- **What a run from the command line does to the files**: nothing, or what a run over some
    documents does to them, in the mode and in the directory that are asked for.  In that case the
    exit code says whether the run over the documents succeeds. -/
theorem run_files (hc : c.HoldsFiles files name) (args : List Text) (s : σ) :
    files ((run c args).run s).2 = files s ∨
      ∃ g, request c.env args = .ok (.run g) ∧
        LeftByDelivery files name g.mode (g.WorksIn c) s ((run c args).run s).2
          (decide (((run c args).run s).1 = 0)) := by
  have hprint : ∀ text, Keeps files (run.print c text) := by
    intro text
    refine .bind ((hc.host _).print _) fun printed => ?_
    cases printed with
    | error e => exact .pure _
    | ok _ => exact .pure _
  unfold run
  cases request c.env args with
  | error e => exact .inl (Keeps.bind (hc.complain _) (fun _ => .pure _) s)
  | ok asked =>
    cases asked with
    | version => exact .inl (hprint _ s)
    | help => exact .inl (hprint _ s)
    | run g =>
      rcases runGiven_exitsByDelivery hc g s with hkept | hleft
      · exact .inl hkept
      · exact .inr ⟨g, rfl, hleft⟩

end CommandLine

end FenceSync
