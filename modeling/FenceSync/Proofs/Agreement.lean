import FenceSync.Proofs.Writing

namespace FenceSync

/-!
# Verifying, trying and writing agree

Runs over the same documents in different modes, in a world in which the answers of commands are a
function of the files.  Up to the first document that is not settled the runs do the same; there a
verification fails, and a run that writes does so for the first time.

* `Site.settled` says that a document embeds without a change.
* `deliverFrom_settled` is the run over settled documents, in every mode.
* `deliverFrom_of_embed_error`, `deliverFrom_verify_changed`, `deliverFrom_dryRun_changed` and
  `deliverFrom_write_changed` say what happens at the first document that is not settled.
* `deliverAll_of_settled`, `deliverAll_of_embed_error` and `deliverAll_of_changed` are the three
  cases of a whole run, and `deliverAll_modes_agree` puts them together.
-/

/-! ### Embedding one document -/

/-- **What a document embeds to**, by what is read of it. -/
theorem embedSource_run (env : Surroundings Id) (o : Options) (source : Path) :
    (embedSource env o source).run.run =
      let path := source.shownFrom o.workingDir
      if (env.isFile source).run then
        match (env.readText source).run with
        | .error e => .error (.read path e)
        | .ok markdown =>
          match (embed env o path.spelling markdown).run.run with
          | .error e => .error (.embed path e)
          | .ok r => .ok (r.content, ⟨path, r.content != markdown, r.resolvedCount⟩)
      else .error (.notAFile path) := by
  unfold embedSource
  generalize env.isFile source = found
  generalize env.readText source = content
  cases found with
  | false => rfl
  | true =>
    cases content with
    | error e => rfl
    | ok markdown =>
      simp only
      generalize embed env o (source.shownFrom o.workingDir).spelling markdown = r
      cases r <;> rfl

/-- A report names its document as it is shown. -/
theorem path_of_embedSource {env : Surroundings Id} {o : Options} {source : Path} {content : Text}
    {report : SourceReport} (h : (embedSource env o source).run.run = .ok (content, report)) :
    report.path = source.shownFrom o.workingDir := by
  rw [embedSource_run] at h
  simp only at h
  split at h
  · split at h
    · cases h
    · split at h
      · cases h
      · cases h
        rfl
  · cases h

/-- Embedding does not look for differences. -/
theorem ne_difference_of_embedSource {env : Surroundings Id} {o : Options} {source : Path}
    {e : DeliveryError} (h : (embedSource env o source).run.run = .error e) (shown : Path) :
    e ≠ .difference shown := by
  rw [embedSource_run] at h
  simp only at h
  split at h
  · split at h
    · cases h
      simp
    · split at h
      · cases h
        simp
      · cases h
  · cases h
    simp

variable {κ ω : Type} [DecidableEq κ] {site : Site κ ω}
  {answer : Text → Path → (κ → Option Bytes) → Answer}

/-- What a document embeds to where the files are as given. -/
def Site.embedded (site : Site κ ω) (answer : Text → Path → (κ → Option Bytes) → Answer)
    (o : Options) (files : κ → Option Bytes) (source : Path) :
    Except DeliveryError (Text × SourceReport) :=
  (embedSource (site.frozen answer files) o source).run.run

/-- The document embeds, and does not change. -/
def Site.settled (site : Site κ ω) (answer : Text → Path → (κ → Option Bytes) → Answer)
    (o : Options) (files : κ → Option Bytes) (source : Path) : Bool :=
  match site.embedded answer o files source with
  | .ok (_, report) => !report.changed
  | .error _ => false

/-! ### One document -/

section
variable (hshell : site.AnswersBy answer) (o : Options) (mode : OutputMode) (t : Totals)
  (source : Path) (w : World κ ω)
include hshell

/-- **A step in a world of functions**: the document embeds to what it does where the files are as
    they are, and the result is disposed of as the mode says. -/
theorem deliverOne_eq :
    ∃ w₁, w.Unwritten w₁ ∧
      runFrom (deliverOne site.host { o with mode := mode } t source) w =
        match site.embedded answer o w.files source with
        | .error e => (.error e, w₁)
        | .ok (content, report) =>
          match runFrom (deliver site.host { o with mode := mode } source content report) w₁ with
          | (.error e, w₂) => (.error e, w₂)
          | (.ok wasWritten, w₂) => (.ok (t.add report wasWritten, content), w₂) := by
  have hsep := separated_unwritten site t w
  obtain ⟨w₁, hembed, hw₁⟩ := embedSource_eq hshell o mode source (separated site.host t w)
  refine ⟨w₁, hsep.trans hw₁, ?_⟩
  rw [hsep.files] at hembed
  rw [runFrom_deliverOne, hembed, Site.embedded]
  rcases (embedSource (site.frozen answer w.files) o source).run.run with e | ⟨content, report⟩
  · rfl
  · simp only
    rcases runFrom (deliver site.host { o with mode := mode } source content report) w₁ with
      ⟨e | wasWritten, w₂⟩ <;> rfl

/-- A document that does not embed fails in the same way in every mode. -/
theorem deliverOne_of_embed_error {e : DeliveryError}
    (h : site.embedded answer o w.files source = .error e) :
    ∃ w₁, w.Unwritten w₁ ∧
      runFrom (deliverOne site.host { o with mode := mode } t source) w = (.error e, w₁) := by
  obtain ⟨w₁, hw₁, hrun⟩ := deliverOne_eq hshell o mode t source w
  rw [h] at hrun
  exact ⟨w₁, hw₁, hrun⟩

/-- A settled document is left alone in every mode but when results are printed. -/
theorem deliverOne_of_settled (hmode : mode ≠ .stdout)
    (h : site.settled answer o w.files source = true) :
    ∃ w₁ t' content, w.Unwritten w₁ ∧ t'.changed = t.changed ∧ t'.written = t.written ∧
      runFrom (deliverOne site.host { o with mode := mode } t source) w =
        (.ok (t', content), w₁) := by
  obtain ⟨w₁, hw₁, hrun⟩ := deliverOne_eq hshell o mode t source w
  unfold Site.settled at h
  cases hembed : site.embedded answer o w.files source with
  | error e =>
    rw [hembed] at h
    cases h
  | ok result =>
    obtain ⟨content, report⟩ := result
    have hsame : report.changed = false := by
      rw [hembed] at h
      simpa using h
    obtain ⟨w₂, hw₂, hdeliver⟩ := deliver_of_unchanged site (o := { o with mode := mode }) hmode
      source content hsame w₁
    rw [hembed] at hrun
    simp only [hdeliver] at hrun
    refine ⟨w₂, _, content, hw₁.trans hw₂, ?_, ?_, hrun⟩
    · simp [Totals.add, hsame]
    · simp [Totals.add]

/-- **A run over settled documents** succeeds, and changes nothing but the number of documents. -/
theorem deliverFrom_settled (hmode : mode ≠ .stdout) {sources : List Path} (t : Totals)
    (w : World κ ω) (h : ∀ source ∈ sources, site.settled answer o w.files source = true) :
    ∃ w₁ t' results, w.Unwritten w₁ ∧ t'.changed = t.changed ∧ t'.written = t.written ∧
      runFrom (deliverFrom site.host { o with mode := mode } t sources) w =
        (.ok (t', results), w₁) := by
  induction sources generalizing t w with
  | nil => exact ⟨w, t, [], .refl w, rfl, rfl, rfl⟩
  | cons source sources ih =>
    obtain ⟨w₁, t₁, content, hw₁, hchanged, hwritten, hone⟩ :=
      deliverOne_of_settled hshell o mode t source w hmode (h source (by simp))
    have hothers : ∀ p ∈ sources, site.settled answer o w₁.files p = true := by
      intro p hp
      rw [hw₁.files]
      exact h p (List.mem_cons_of_mem _ hp)
    obtain ⟨w₂, t₂, results, hw₂, hchanged', hwritten', hrest⟩ := ih t₁ w₁ hothers
    refine ⟨w₂, t₂, content ++ results, hw₁.trans hw₂, hchanged'.trans hchanged,
      hwritten'.trans hwritten, ?_⟩
    rw [runFrom_deliverFrom_cons, hone]
    simp only
    rw [hrest, behind_ok]

/-! ### The first document that is not settled -/

variable {pre : List Path} (post : List Path)

/-- A run gets to the first document that is not settled without having done anything. -/
theorem deliverFrom_first (hmode : mode ≠ .stdout)
    (hpre : ∀ p ∈ pre, site.settled answer o w.files p = true) :
    ∃ w₁ t₁ results, w.Unwritten w₁ ∧ t₁.changed = 0 ∧ t₁.written = 0 ∧
      runFrom (deliverFrom site.host { o with mode := mode } .zero (pre ++ source :: post)) w =
        behind results (runFrom (deliverFrom site.host { o with mode := mode } t₁
          (source :: post)) w₁) := by
  obtain ⟨w₁, t₁, results, hw₁, hchanged, hwritten, hrun⟩ :=
    deliverFrom_settled hshell o mode hmode .zero w hpre
  refine ⟨w₁, t₁, results, hw₁, hchanged, hwritten, ?_⟩
  rw [runFrom_deliverFrom_append, hrun]

/-- If it does not embed, the run ends with its error. -/
theorem deliverFrom_of_embed_error (hmode : mode ≠ .stdout)
    (hpre : ∀ p ∈ pre, site.settled answer o w.files p = true) {e : DeliveryError}
    (h : site.embedded answer o w.files source = .error e) :
    ∃ w₁, w.Unwritten w₁ ∧
      runFrom (deliverFrom site.host { o with mode := mode } .zero (pre ++ source :: post)) w =
        (.error e, w₁) := by
  obtain ⟨w₁, t₁, results, hw₁, -, -, hrun⟩ :=
    deliverFrom_first hshell o mode source w post hmode hpre
  obtain ⟨w₂, hw₂, hone⟩ := deliverOne_of_embed_error hshell o mode t₁ source w₁ (hw₁.files ▸ h)
  refine ⟨w₂, hw₁.trans hw₂, ?_⟩
  rw [hrun, runFrom_deliverFrom_cons, hone]
  rfl

variable {content : Text} {report : SourceReport}
  (h : site.embedded answer o w.files source = .ok (content, report))
  (hreport : report.changed = true)
  (hpre : ∀ p ∈ pre, site.settled answer o w.files p = true)
include h hreport hpre

/-- If it changes, a verification ends there. -/
theorem deliverFrom_verify_changed :
    ∃ w₁, w.Unwritten w₁ ∧
      runFrom (deliverFrom site.host { o with mode := .verify } .zero (pre ++ source :: post)) w =
        (.error (.difference report.path), w₁) := by
  obtain ⟨w₁, t₁, results, hw₁, -, -, hrun⟩ :=
    deliverFrom_first hshell o .verify source w post (by simp) hpre
  obtain ⟨w₂, hw₂, hone⟩ := deliverOne_eq hshell o .verify t₁ source w₁
  have hdeliver : runFrom (deliver site.host { o with mode := .verify } source content report) w₂ =
      (.error (.difference report.path), w₂) := by
    unfold deliver
    rw [hreport]
    rfl
  rw [hw₁.files, h] at hone
  simp only [hdeliver] at hone
  refine ⟨w₂, hw₁.trans hw₂, ?_⟩
  rw [hrun, runFrom_deliverFrom_cons, hone]
  rfl

/-- If it changes, a run without effects counts that. -/
theorem deliverFrom_dryRun_changed {t' : Totals} {results : Text} {w' : World κ ω}
    (hok : runFrom (deliverFrom site.host { o with mode := .dryRun } .zero
      (pre ++ source :: post)) w = (.ok (t', results), w')) : t'.changed ≠ 0 := by
  obtain ⟨w₁, t₁, first, hw₁, -, -, hrun⟩ :=
    deliverFrom_first hshell o .dryRun source w post (by simp) hpre
  obtain ⟨w₂, -, hone⟩ := deliverOne_eq hshell o .dryRun t₁ source w₁
  obtain ⟨w₃, hdeliver⟩ : ∃ w₃, runFrom (deliver site.host { o with mode := .dryRun } source
      content report) w₂ = (.ok false, w₃) := by
    unfold deliver
    rw [hreport]
    exact ⟨_, rfl⟩
  rw [hw₁.files, h] at hone
  simp only [hdeliver] at hone
  rw [hrun] at hok
  have hle := (deliverFrom_cons_totals hone hok).2.1
  simp only [Totals.add, hreport, Bool.toNat_true] at hle
  omega

/-- If it changes, a run that writes attempts that first, and counts it. -/
theorem deliverFrom_write_changed :
    (∃ more, (runFrom (deliverFrom site.host { o with mode := .write } .zero
        (pre ++ source :: post)) w).2.attempts =
      w.attempts ++ (source, Text.utf8 content) :: more) ∧
    ∀ t' results w', runFrom (deliverFrom site.host { o with mode := .write } .zero
      (pre ++ source :: post)) w = (.ok (t', results), w') → t'.written ≠ 0 := by
  obtain ⟨w₁, t₁, first, hw₁, -, -, hrun⟩ :=
    deliverFrom_first hshell o .write source w post (by simp) hpre
  obtain ⟨w₂, hw₂, hone⟩ := deliverOne_eq hshell o .write t₁ source w₁
  have hdeliver := deliver_write site (o := { o with mode := .write }) rfl source content hreport w₂
  generalize hw₃ : site.announced report.path w₂ = w₃ at hdeliver
  have hattempts : w₃.attempts = w.attempts := by
    rw [← hw₃, Site.announced_attempts, (hw₁.trans hw₂).attempts]
  rw [hw₁.files, h] at hone
  simp only [hdeliver] at hone
  rw [hrun]
  -- The write fails and ends the run, or it is counted and the run goes on.
  rcases site.writeAt_cases source (Text.utf8 content) w₃ with ⟨e, hwrite⟩ | hwrite
  · rw [hwrite] at hone
    refine ⟨⟨[], ?_⟩, ?_⟩
    · rw [runFrom_deliverFrom_cons, hone, ← hattempts]
      rfl
    · intro t' results w' hok
      rw [runFrom_deliverFrom_cons, hone] at hok
      cases hok
  · rw [hwrite] at hone
    refine ⟨?_, ?_⟩
    · have hkept := deliverFrom_attempts site (o := { o with mode := .write })
        (t₁.add report true) post { w₃ with
          attempts := w₃.attempts ++ [(source, Text.utf8 content)]
          files := Function.update w₃.files (site.name source) (some (Text.utf8 content)) }
      obtain ⟨more, hmore⟩ := hkept
      refine ⟨more, ?_⟩
      rw [runFrom_deliverFrom_cons, hone]
      simp only [behind_snd]
      rw [← hmore, ← hattempts]
      simp
    · intro t' results w' hok
      have hle := (deliverFrom_cons_totals hone hok).2.2
      simp only [Totals.add, Bool.toNat_true] at hle
      omega

end

/-! ### Whole runs -/

omit [DecidableEq κ] in
/-- Documents are all settled, or there is a first one that is not. -/
theorem settled_or_exists_first (site : Site κ ω)
    (answer : Text → Path → (κ → Option Bytes) → Answer) (o : Options)
    (files : κ → Option Bytes) (sources : List Path) :
    (∀ p ∈ sources, site.settled answer o files p = true) ∨
      ∃ pre source post, sources = pre ++ source :: post ∧
        (∀ p ∈ pre, site.settled answer o files p = true) ∧
        site.settled answer o files source = false := by
  cases hfind : sources.find? fun p => !site.settled answer o files p with
  | none =>
    left
    intro p hp
    simpa using List.find?_eq_none.mp hfind p hp
  | some source =>
    right
    obtain ⟨hsource, pre, post, hsources, hpre⟩ := List.find?_eq_some_iff_append.mp hfind
    exact ⟨pre, source, post, hsources, fun p hp => by simpa using hpre p hp, by simpa using hsource⟩

/-- **If all documents are settled**, a run succeeds, and finds and does nothing. -/
theorem deliverAll_of_settled (hshell : site.AnswersBy answer) (o : Options) (mode : OutputMode)
    (hmode : mode ≠ .stdout) (hfile : ∀ target, mode ≠ .file target) {sources : List Path}
    {w : World κ ω} (h : ∀ p ∈ sources, site.settled answer o w.files p = true) :
    ∃ t w₁, runFrom (deliverAll site.host { o with mode := mode } sources) w = (.ok t, w₁) ∧
      t.changed = 0 ∧ t.written = 0 ∧ w.Unwritten w₁ := by
  obtain ⟨w₁, t, results, hw₁, hchanged, hwritten, hrun⟩ :=
    deliverFrom_settled hshell o mode hmode .zero w h
  refine ⟨t, w₁, ?_, hchanged, hwritten, hw₁⟩
  rw [runFrom_deliverAll (o := { o with mode := mode }) hfile, hrun]
  rfl

section
variable (hshell : site.AnswersBy answer) (o : Options) {pre : List Path} {source : Path}
  {w : World κ ω} (hpre : ∀ p ∈ pre, site.settled answer o w.files p = true)
include hshell hpre

/-- **If the first document that is not settled does not embed**, a run ends with its error, and
    has done nothing. -/
theorem deliverAll_of_embed_error (mode : OutputMode) (hmode : mode ≠ .stdout)
    (hfile : ∀ target, mode ≠ .file target) (post : List Path) {e : DeliveryError}
    (h : site.embedded answer o w.files source = .error e) :
    ∃ w₁, runFrom (deliverAll site.host { o with mode := mode } (pre ++ source :: post)) w =
      (.error e, w₁) ∧ w.Unwritten w₁ := by
  obtain ⟨w₁, hw₁, hrun⟩ := deliverFrom_of_embed_error hshell o mode source w post hmode hpre h
  refine ⟨w₁, ?_, hw₁⟩
  rw [runFrom_deliverAll (o := { o with mode := mode }) hfile, hrun]
  rfl

/-- **If the first document that is not settled changes**, a verification ends there, a run without
    effects counts the change, and a run that writes attempts to write this document first, and
    counts that. -/
theorem deliverAll_of_changed (post : List Path) {content : Text} {report : SourceReport}
    (h : site.embedded answer o w.files source = .ok (content, report))
    (hreport : report.changed = true) :
    let run := fun mode =>
      runFrom (deliverAll site.host { o with mode := mode } (pre ++ source :: post)) w
    (run .verify).1 = .error (.difference report.path) ∧
      (∀ t, (run .dryRun).1 = .ok t → t.changed ≠ 0) ∧
      (∀ t, (run .write).1 = .ok t → t.written ≠ 0) ∧
      ∃ more, (run .write).2.attempts = w.attempts ++ (source, Text.utf8 content) :: more := by
  intro run
  have hrun : ∀ mode, (∀ target, mode ≠ .file target) → run mode = _ := fun mode hmode =>
    runFrom_deliverAll (o := { o with mode := mode }) hmode (pre ++ source :: post) w
  obtain ⟨w₁, -, hverify⟩ := deliverFrom_verify_changed hshell o source w post h hreport hpre
  obtain ⟨⟨more, hmore⟩, hwritten⟩ :=
    deliverFrom_write_changed hshell o source w post h hreport hpre
  refine ⟨?_, ?_, ?_, more, ?_⟩
  · rw [hrun .verify (by simp), hverify]
    rfl
  · intro t ht
    rw [hrun .dryRun (by simp)] at ht
    obtain ⟨⟨t', results⟩, hok, rfl⟩ := map_eq_ok_iff.mp ht
    exact deliverFrom_dryRun_changed hshell o source w post h hreport hpre (Prod.ext hok rfl)
  · intro t ht
    rw [hrun .write (by simp)] at ht
    obtain ⟨⟨t', results⟩, hok, rfl⟩ := map_eq_ok_iff.mp ht
    exact hwritten t' results _ (Prod.ext hok rfl)
  · rw [hrun .write (by simp)]
    exact hmore

end

/-- **Verifying, trying and writing agree** where the answers of commands are a function of the
    command, the directory and the files.

    * A verification succeeds exactly if a run that writes succeeds without writing, and exactly if
      a run without effects succeeds without a change.
    * If a verification ends with a difference in a document, then the run that writes gets to this
      document without an attempt to write, and its first attempt is to write this document.
    * If a verification ends with any other error, then the run that writes ends with the same one,
      and has not attempted to write anything. -/
theorem deliverAll_modes_agree (hshell : site.AnswersBy answer) (o : Options)
    (sources : List Path) (w : World κ ω) :
    let run := fun mode sources =>
      runFrom (deliverAll site.host { o with mode := mode } sources) w
    ((∃ t, (run .verify sources).1 = .ok t) ↔
        ∃ t, (run .write sources).1 = .ok t ∧ t.written = 0) ∧
      ((∃ t, (run .verify sources).1 = .ok t) ↔
        ∃ t, (run .dryRun sources).1 = .ok t ∧ t.changed = 0) ∧
      (∀ shown, (run .verify sources).1 = .error (.difference shown) →
        ∃ pre source post, sources = pre ++ source :: post ∧
          shown = source.shownFrom o.workingDir ∧
          (∃ t, (run .verify pre).1 = .ok t) ∧
          (run .verify (pre ++ [source])).1 = .error (.difference shown) ∧
          (run .write pre).2.attempts = w.attempts ∧
          ∃ bytes more, (run .write sources).2.attempts = w.attempts ++ (source, bytes) :: more) ∧
      ∀ e, (run .verify sources).1 = .error e → (∀ shown, e ≠ .difference shown) →
        (run .write sources).1 = .error e ∧ (run .write sources).2.attempts = w.attempts ∧
          (run .write sources).2.files = w.files := by
  intro run
  rcases settled_or_exists_first site answer o w.files sources with
    hset | ⟨pre, source, post, rfl, hpre, hsource⟩
  · -- All documents are settled, and all runs succeed.
    have hall := fun mode hmode hfile =>
      deliverAll_of_settled hshell o mode hmode hfile hset
    obtain ⟨t, wv, hv, -⟩ := hall .verify (by simp) (by simp)
    obtain ⟨tw, ww, hw, -, hwritten, -⟩ := hall .write (by simp) (by simp)
    obtain ⟨td, wd, hd, hchanged, -⟩ := hall .dryRun (by simp) (by simp)
    have hok : (run .verify sources).1 = .ok t := congrArg Prod.fst hv
    refine ⟨iff_of_true ⟨t, hok⟩ ⟨tw, congrArg Prod.fst hw, hwritten⟩,
      iff_of_true ⟨t, hok⟩ ⟨td, congrArg Prod.fst hd, hchanged⟩, ?_, ?_⟩ <;>
      intro _ h <;> rw [hok] at h <;> cases h
  · cases hembed : site.embedded answer o w.files source with
    | error e =>
      -- The first document that is not settled does not embed, and all runs end with its error.
      have hall := fun mode hmode hfile =>
        deliverAll_of_embed_error hshell o hpre mode hmode hfile post hembed
      obtain ⟨wv, hv, -⟩ := hall .verify (by simp) (by simp)
      obtain ⟨ww, hw, hkept⟩ := hall .write (by simp) (by simp)
      obtain ⟨wd, hd, -⟩ := hall .dryRun (by simp) (by simp)
      simp only [run, hv, hw, hd]
      refine ⟨by simp, by simp, ?_, ?_⟩
      · intro shown h
        exact absurd (Except.error.inj h) (ne_difference_of_embedSource hembed shown)
      · intro e' h _
        exact ⟨h, hkept.attempts, hkept.files⟩
    | ok result =>
      -- It changes: a verification ends there, and the other runs count it.
      obtain ⟨content, report⟩ := result
      have hreport : report.changed = true := by
        rw [Site.settled, hembed] at hsource
        simpa using hsource
      have hchange := fun ps => deliverAll_of_changed hshell o hpre ps hembed hreport
      obtain ⟨hv, hd, hw, more, hmore⟩ := hchange post
      have hv' : (run .verify (pre ++ source :: post)).1 = .error (.difference report.path) := hv
      have hnone : ¬ ∃ t, (run .verify (pre ++ source :: post)).1 = .ok t := by
        rw [hv']
        simp
      refine ⟨iff_of_false hnone fun ⟨t, h, hzero⟩ => hw t h hzero,
        iff_of_false hnone fun ⟨t, h, hzero⟩ => hd t h hzero, ?_, ?_⟩
      · intro shown h
        obtain rfl : shown = report.path := by
          rw [hv'] at h
          cases h
          rfl
        obtain ⟨tp, wp, hp, -⟩ := deliverAll_of_settled hshell o .verify (by simp) (by simp) hpre
        obtain ⟨tw, ww, hpw, -, -, hkept⟩ := deliverAll_of_settled hshell o .write (by simp)
          (by simp) hpre
        refine ⟨pre, source, post, rfl, path_of_embedSource hembed, ⟨tp, congrArg Prod.fst hp⟩,
          (hchange []).1, ?_, Text.utf8 content, more, hmore⟩
        rw [← hkept.attempts]
        exact congrArg (fun r => r.2.attempts) hpw
      · intro e h hother
        rw [hv'] at h
        cases h
        exact absurd rfl (hother report.path)

/-- A world in which every command prints the same text, and every write succeeds. -/
def Site.echoing (t : Text) : Site Path Unit where
  name := id
  unreadable _ := none
  shell _ _ _ _ := (.ok ⟨Text.utf8 t, 0, true⟩, ())
  note _ _ := ()
  print _ _ := (.ok (), ())
  refusal _ _ _ _ := none

/-- Two documents, of which the first one holds what the command prints. -/
def twoDocuments : World Path Unit where
  files p :=
    if p = ⟨"/d/a.md".toList⟩ then some (Text.utf8 "```sh\n# $ w\n\nx\n```\n".toList)
    else if p = ⟨"/d/b.md".toList⟩ then some (Text.utf8 "```sh\n# $ w\n```\n".toList)
    else none
  attempts := []
  rest := ()

/-- A verification finds the second document, and a run that writes goes there first. -/
theorem deliverAll_modes_agree_two :
    let site := Site.echoing "x\n".toList
    let o := Options.inDir ⟨"/d".toList⟩
    let sources : List Path := [⟨"/d/a.md".toList⟩, ⟨"/d/b.md".toList⟩]
    (runFrom (deliverAll site.host { o with mode := .verify } sources) twoDocuments).1 =
        .error (.difference ⟨"b.md".toList⟩) ∧
      ∃ bytes more, (runFrom (deliverAll site.host { o with mode := .write } sources)
        twoDocuments).2.attempts = (⟨"/d/b.md".toList⟩, bytes) :: more := by
  intro site o sources
  have hshell : site.AnswersBy fun _ _ _ => .ok ⟨Text.utf8 "x\n".toList, 0, true⟩ :=
    fun _ _ _ _ => rfl
  have hverify : (runFrom (deliverAll site.host { o with mode := .verify } sources) twoDocuments).1 =
      .error (.difference ⟨"b.md".toList⟩) := by
    decide +kernel
  obtain ⟨-, -, hdifference, -⟩ := deliverAll_modes_agree hshell o sources twoDocuments
  obtain ⟨pre, source, post, hsources, hshown, -, -, -, bytes, more, hmore⟩ :=
    hdifference _ hverify
  have hsource : source = ⟨"/d/b.md".toList⟩ := by
    have hmem : source ∈ sources := by
      rw [hsources]
      simp
    rcases List.mem_cons.mp hmem with rfl | hmem
    · exact absurd hshown (by decide)
    · exact List.mem_singleton.mp hmem
  have hnone : twoDocuments.attempts = [] := rfl
  rw [hsource, hnone, List.nil_append] at hmore
  dsimp only at hmore
  exact ⟨hverify, bytes, more, hmore⟩

end FenceSync
