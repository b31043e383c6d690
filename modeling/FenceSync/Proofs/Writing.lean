import FenceSync.Proofs.FileMap
import FenceSync.Proofs.Runs

namespace FenceSync

/-!
# What a run writes

Which files a run can change, in a world in which files are a map and commands do not touch them.

* `Site.Step` is what one document does to the files in a run that writes, and `deliverOne_step`
  that it does; `deliverOne_unwritten` is the same for the other modes.
* `embedEach` embeds documents one after the other, which is what a run with a target file collects.
* `deliverAll_files` is the full statement for every mode, be the run successful or not.
-/

variable {κ ω : Type} [DecidableEq κ] (site : Site κ ω) {o : Options}

/-! ### One write -/

/-- A write either fails and changes no file, or replaces the content of one. -/
theorem Site.writeAt_cases (p : Path) (bytes : Bytes) (w : World κ ω) :
    (∃ e, site.writeAt p bytes w = (.error e, { w with attempts := w.attempts ++ [(p, bytes)] })) ∨
      site.writeAt p bytes w =
        (.ok (), { w with
          attempts := w.attempts ++ [(p, bytes)]
          files := Function.update w.files (site.name p) (some bytes) }) := by
  unfold Site.writeAt
  cases site.refusal p bytes w.files w.rest with
  | some e => exact .inl ⟨e, rfl⟩
  | none => exact .inr rfl

/-- A write that is not refused replaces the content of the file. -/
theorem Site.writeAt_of_refusal {p : Path} {bytes : Bytes} {w : World κ ω}
    (h : site.refusal p bytes w.files w.rest = none) :
    site.writeAt p bytes w =
      (.ok (), { w with
        attempts := w.attempts ++ [(p, bytes)]
        files := Function.update w.files (site.name p) (some bytes) }) := by
  unfold Site.writeAt
  rw [h]

/-- The state behind the message that a result is about to be written. -/
def Site.announced (shown : Path) (w : World κ ω) : World κ ω :=
  { w with
    rest := site.note
      ⟨.info, .processing, s!"Writing {shown.toString} with embedded changes."⟩ w.rest }

omit [DecidableEq κ] in
@[simp] theorem Site.announced_files (shown : Path) (w : World κ ω) :
    (site.announced shown w).files = w.files := rfl

omit [DecidableEq κ] in
@[simp] theorem Site.announced_attempts (shown : Path) (w : World κ ω) :
    (site.announced shown w).attempts = w.attempts := rfl

/-- A result is written behind a message. -/
theorem runFrom_writeResult (p shown : Path) (content : Text) (w : World κ ω) :
    runFrom (writeResult site.host p shown content) w =
      match site.writeAt p (Text.utf8 content) (site.announced shown w) with
      | (.error e, w₁) => (.error (.write shown e), w₁)
      | (.ok _, w₁) => (.ok (), w₁) := by
  rw [writeResult, runFrom_bind, runFrom_lift]
  simp only
  rw [runFrom_bind, runFrom_lift]
  simp only
  have hwrite : StateT.run (site.host.write p (Text.utf8 content))
      ((logProgress site.host.toSurroundings
        s!"Writing {shown.toString} with embedded changes.").run w).2 =
      site.writeAt p (Text.utf8 content) (site.announced shown w) := rfl
  rw [hwrite]
  rcases site.writeAt p (Text.utf8 content) (site.announced shown w) with ⟨e | u, w₁⟩ <;> rfl

/-- A result is written to its file, unless the write is refused, and then nothing happens. -/
theorem runFrom_writeResult_files (p shown : Path) (content : Text) (w : World κ ω) :
    ∃ w₁, match site.refusal p (Text.utf8 content) w.files (site.announced shown w).rest with
      | some cause =>
        runFrom (writeResult site.host p shown content) w = (.error (.write shown cause), w₁) ∧
          w₁.files = w.files
      | none =>
        runFrom (writeResult site.host p shown content) w = (.ok (), w₁) ∧
          w₁.files = Function.update w.files (site.name p) (some (Text.utf8 content)) := by
  rw [runFrom_writeResult]
  unfold Site.writeAt
  rw [Site.announced_files]
  cases site.refusal p (Text.utf8 content) w.files (site.announced shown w).rest with
  | some cause => exact ⟨_, rfl, rfl⟩
  | none => exact ⟨_, rfl, rfl⟩

/-! ### One document -/

theorem separated_unwritten (t : Totals) (w : World κ ω) :
    w.Unwritten (separated site.host t w) := by
  unfold separated
  split
  · exact ⟨rfl, rfl⟩
  · exact .refl w

/-- Only in write mode a result is written to its source. -/
theorem deliver_unwritten (hmode : o.mode ≠ .write) (source : Path) (content : Text)
    (r : SourceReport) (w : World κ ω) :
    w.Unwritten (runFrom (deliver site.host o source content r) w).2 := by
  unfold deliver
  cases hm : o.mode with
  | write => exact absurd hm hmode
  | verify => cases r.changed <;> exact ⟨rfl, rfl⟩
  | dryRun => cases r.changed <;> exact ⟨rfl, rfl⟩
  | file target => exact ⟨rfl, rfl⟩
  | stdout =>
    simp only
    rw [runFrom_bind, runFrom_lift]
    simp only
    cases (StateT.run (site.host.print (Text.utf8 content)) w).1 <;> exact ⟨rfl, rfl⟩

/-- In write mode a changed result is written to its source. -/
theorem deliver_write (hmode : o.mode = .write) (source : Path) (content : Text)
    {r : SourceReport} (hr : r.changed = true) (w : World κ ω) :
    runFrom (deliver site.host o source content r) w =
      match site.writeAt source (Text.utf8 content) (site.announced r.path w) with
      | (.error e, w₁) => (.error (.write r.path e), w₁)
      | (.ok _, w₁) => (.ok true, w₁) := by
  unfold deliver
  simp only [hmode]
  rw [if_pos hr, runFrom_bind, runFrom_writeResult]
  rcases site.writeAt source (Text.utf8 content) (site.announced r.path w) with ⟨e | u, w₁⟩ <;> rfl

/-- A result that is no change is disposed of with a message, unless results are printed. -/
theorem deliver_of_unchanged (hmode : o.mode ≠ .stdout) (source : Path) (content : Text)
    {r : SourceReport} (hr : r.changed = false) (w : World κ ω) :
    ∃ w₁, w.Unwritten w₁ ∧
      runFrom (deliver site.host o source content r) w = (.ok false, w₁) := by
  unfold deliver
  rw [hr]
  cases hm : o.mode with
  | stdout => exact absurd hm hmode
  | _ =>
    refine ⟨_, ?_, rfl⟩
    exact ⟨rfl, rfl⟩

/-- **Without write mode a document changes no file**, whether it fails or not. -/
theorem deliverOne_unwritten (hmode : o.mode ≠ .write) (t : Totals) (source : Path)
    (w : World κ ω) : w.Unwritten (runFrom (deliverOne site.host o t source) w).2 := by
  have hembed := embedSource_unwritten site o source (separated site.host t w)
  have hfirst := (separated_unwritten site t w).trans hembed
  rw [runFrom_deliverOne]
  rcases hsource : runFrom (embedSource site.host.toSurroundings o source)
    (separated site.host t w) with ⟨e | ⟨content, report⟩, w₁⟩ <;> rw [hsource] at hfirst
  · exact hfirst
  · have hdeliver := hfirst.trans (deliver_unwritten site hmode source content report w₁)
    simp only
    rcases hrun : runFrom (deliver site.host o source content report) w₁ with ⟨e | b, w₂⟩ <;>
      rw [hrun] at hdeliver <;> exact hdeliver

/-- What the next document of a run that writes does, if those before it have the totals `t` and
    the state behind them is `w`.

    * If it does not embed, then the run ends with its error.
    * If it does not change, then nothing is written.
    * Otherwise its file holds the result then; or the write is refused, and the run ends with the
      reason for that. -/
def Site.Step (o : Options) (source : Path) (t : Totals) (w : World κ ω)
    (result : Except DeliveryError Totals) (files : κ → Option Bytes) : Prop :=
  match runFrom (embedSource site.host.toSurroundings o source) (separated site.host t w) with
  | (.error e, _) => result = .error e ∧ files = w.files
  | (.ok (content, report), w₁) =>
    if report.changed then
      match site.refusal source (Text.utf8 content) w.files
        (site.announced report.path w₁).rest with
      | some cause => result = .error (.write report.path cause) ∧ files = w.files
      | none =>
        result = .ok (t.add report true) ∧
          files = Function.update w.files (site.name source) (some (Text.utf8 content))
    else result = .ok (t.add report false) ∧ files = w.files

/-- **What a document does in write mode** to the files. -/
theorem deliverOne_step (hmode : o.mode = .write) (t : Totals) (source : Path) (w : World κ ω) :
    site.Step o source t w ((runFrom (deliverOne site.host o t source) w).1.map Prod.fst)
      (runFrom (deliverOne site.host o t source) w).2.files := by
  have hkept := (separated_unwritten site t w).trans
    (embedSource_unwritten site o source (separated site.host t w))
  rw [runFrom_deliverOne]
  unfold Site.Step
  rcases hsource : runFrom (embedSource site.host.toSurroundings o source)
    (separated site.host t w) with ⟨e | ⟨content, report⟩, w₁⟩ <;> rw [hsource] at hkept
  · exact ⟨rfl, hkept.files⟩
  · have hfiles : w₁.files = w.files := hkept.files
    simp only
    cases hr : report.changed with
    | false =>
      obtain ⟨w₂, hw₂, hdeliver⟩ := deliver_of_unchanged site (o := o) (by simp [hmode]) source content
        hr w₁
      rw [hdeliver, if_neg Bool.false_ne_true]
      exact ⟨rfl, hw₂.files.trans hfiles⟩
    | true =>
      rw [deliver_write site hmode source content hr, if_pos rfl, ← hfiles]
      unfold Site.writeAt
      rw [Site.announced_files]
      cases site.refusal source (Text.utf8 content) w₁.files
        (site.announced report.path w₁).rest with
      | some cause => exact ⟨rfl, rfl⟩
      | none => exact ⟨rfl, rfl⟩

/-- A step that fails changes no file. -/
theorem Site.Step.files_of_error {source : Path} {t : Totals} {w : World κ ω} {e : DeliveryError}
    {files : κ → Option Bytes} (h : site.Step o source t w (.error e) files) : files = w.files := by
  unfold Site.Step at h
  split at h
  · exact h.2
  · split_ifs at h
    · split at h
      · exact h.2
      · cases h.1
    · exact h.2

/-- A step changes no file but that of its document. -/
theorem Site.Step.files_of_ne {source : Path} {t : Totals} {w : World κ ω}
    {result : Except DeliveryError Totals} {files : κ → Option Bytes}
    (h : site.Step o source t w result files) {k : κ} (hk : k ≠ site.name source) :
    files k = w.files k := by
  unfold Site.Step at h
  split at h
  · rw [h.2]
  · split_ifs at h
    · split at h
      · rw [h.2]
      · rw [h.2]
        exact Function.update_of_ne hk _ _
    · rw [h.2]

/-- A document that fails changes no file, in whatever mode. -/
theorem deliverOne_files_of_error {t : Totals} {source : Path} {w w' : World κ ω}
    {e : DeliveryError} (h : runFrom (deliverOne site.host o t source) w = (.error e, w')) :
    w'.files = w.files := by
  by_cases hmode : o.mode = .write
  · have hstep := deliverOne_step site hmode t source w
    rw [h] at hstep
    exact hstep.files_of_error
  · have hkept := deliverOne_unwritten site hmode t source w
    rw [h] at hkept
    exact hkept.files

/-- A document changes no file but its own, in whatever mode. -/
theorem deliverOne_files_of_ne (t : Totals) (source : Path) (w : World κ ω) {k : κ}
    (hk : k ≠ site.name source) :
    (runFrom (deliverOne site.host o t source) w).2.files k = w.files k := by
  by_cases hmode : o.mode = .write
  · exact (deliverOne_step site hmode t source w).files_of_ne site hk
  · rw [(deliverOne_unwritten site hmode t source w).files]

/-- An attempt to write is on record. -/
theorem Site.prefix_attempts_writeAt (p : Path) (bytes : Bytes) (w : World κ ω) :
    w.attempts <+: (site.writeAt p bytes w).2.attempts := by
  rcases site.writeAt_cases p bytes w with ⟨e, hwrite⟩ | hwrite <;> rw [hwrite] <;>
    exact List.prefix_append _ _

theorem deliver_attempts (source : Path) (content : Text) (r : SourceReport) (w : World κ ω) :
    w.attempts <+: (runFrom (deliver site.host o source content r) w).2.attempts := by
  by_cases hmode : o.mode = .write
  · cases hr : r.changed with
    | false =>
      obtain ⟨w₁, hw₁, hdeliver⟩ := deliver_of_unchanged site (o := o) (by simp [hmode]) source content
        hr w
      rw [hdeliver]
      exact hw₁.prefix_attempts
    | true =>
      have hkept := site.prefix_attempts_writeAt source (Text.utf8 content)
        (site.announced r.path w)
      rw [deliver_write site hmode source content hr]
      rcases hwrite : site.writeAt source (Text.utf8 content) (site.announced r.path w) with
        ⟨e | u, w₁⟩ <;> rw [hwrite] at hkept <;> exact hkept
  · exact (deliver_unwritten site hmode source content r w).prefix_attempts

/-- Attempts to write are never forgotten. -/
theorem deliverOne_attempts (t : Totals) (source : Path) (w : World κ ω) :
    w.attempts <+: (runFrom (deliverOne site.host o t source) w).2.attempts := by
  have hkept := ((separated_unwritten site t w).trans
    (embedSource_unwritten site o source (separated site.host t w))).prefix_attempts
  rw [runFrom_deliverOne]
  rcases hsource : runFrom (embedSource site.host.toSurroundings o source)
    (separated site.host t w) with ⟨e | ⟨content, report⟩, w₁⟩ <;> rw [hsource] at hkept
  · exact hkept
  · have hall := hkept.trans (deliver_attempts site (o := o) source content report w₁)
    simp only
    rcases hrun : runFrom (deliver site.host o source content report) w₁ with ⟨e | b, w₂⟩ <;>
      rw [hrun] at hall <;> exact hall

/-! ### All documents -/

/-- Without write mode no document is written. -/
theorem deliverFrom_unwritten (hmode : o.mode ≠ .write) (t : Totals) (sources : List Path)
    (w : World κ ω) : w.Unwritten (runFrom (deliverFrom site.host o t sources) w).2 :=
  deliverFrom_rel World.Unwritten.refl (fun _ _ _ h h' => h.trans h')
    (fun source _ t w => deliverOne_unwritten site hmode t source w) t w

/-- No file is written but the documents. -/
theorem deliverFrom_files_of_notMem (t : Totals) {sources : List Path} (w : World κ ω) {k : κ}
    (hk : k ∉ sources.map site.name) :
    (runFrom (deliverFrom site.host o t sources) w).2.files k = w.files k := by
  refine deliverFrom_rel (R := fun w w' => w'.files k = w.files k) (fun _ => rfl) ?_ ?_ t w
  · intro w₁ w₂ w₃ h h'
    exact h'.trans h
  · intro source hsource t w
    refine deliverOne_files_of_ne site t source w ?_
    rintro rfl
    exact hk (List.mem_map_of_mem hsource)

theorem deliverFrom_attempts (t : Totals) (sources : List Path) (w : World κ ω) :
    w.attempts <+: (runFrom (deliverFrom site.host o t sources) w).2.attempts := by
  refine deliverFrom_rel (R := fun w w' => w.attempts <+: w'.attempts)
    (fun w => List.prefix_refl _) ?_ (fun source _ t w => deliverOne_attempts site t source w) t w
  intro w₁ w₂ w₃ h h'
  exact h.trans h'

/-- Embed documents one after the other, as a run does, and collect the results; `others` says
    whether there were documents before. -/
def embedEach {m : Type → Type} [Monad m] (env : Surroundings m) (o : Options) :
    Bool → List Path → ExceptT DeliveryError m (List Text)
  | _, [] => pure []
  | others, source :: sources => do
    if others then logProgress (m := m) env "---"
    let (content, _) ← embedSource env o source
    let contents ← embedEach env o true sources
    return content :: contents

theorem runFrom_embedEach_cons {σ : Type} (host : Host (StateM σ)) (t : Totals) (source : Path)
    (sources : List Path) (s : σ) :
    runFrom (embedEach host.toSurroundings o (decide (t.documents ≠ 0)) (source :: sources)) s =
      match runFrom (embedSource host.toSurroundings o source) (separated host t s) with
      | (.error e, s₁) => (.error e, s₁)
      | (.ok (content, _), s₁) =>
        match runFrom (embedEach host.toSurroundings o true sources) s₁ with
        | (.error e, s₂) => (.error e, s₂)
        | (.ok contents, s₂) => (.ok (content :: contents), s₂) := by
  have hrest : ∀ s₀, runFrom (do
      let (content, _) ← embedSource host.toSurroundings o source
      let contents ← embedEach host.toSurroundings o true sources
      return content :: contents) s₀ =
        match runFrom (embedSource host.toSurroundings o source) s₀ with
        | (.error e, s₁) => (.error e, s₁)
        | (.ok (content, _), s₁) =>
          match runFrom (embedEach host.toSurroundings o true sources) s₁ with
          | (.error e, s₂) => (.error e, s₂)
          | (.ok contents, s₂) => (.ok (content :: contents), s₂) := by
    intro s₀
    rw [runFrom_bind]
    rcases runFrom (embedSource host.toSurroundings o source) s₀ with ⟨e | ⟨content, report⟩, s₁⟩
    · rfl
    · simp only
      rw [runFrom_bind]
      rcases runFrom (embedEach host.toSurroundings o true sources) s₁ with ⟨e | contents, s₂⟩ <;>
        rfl
  rw [embedEach, separated]
  by_cases hothers : t.documents ≠ 0
  · rw [if_pos hothers, if_pos (decide_eq_true hothers), runFrom_bind, runFrom_lift]
    exact hrest _
  · rw [if_neg hothers, if_neg (by simpa using hothers)]
    exact hrest s

/-- With a target file a run embeds its documents and does nothing else. -/
theorem runFrom_deliverFrom_file {target : Path} (hmode : o.mode = .file target)
    {σ : Type} (host : Host (StateM σ)) (t : Totals) (sources : List Path) (s : σ) :
    ∃ t', runFrom (deliverFrom host o t sources) s =
      match runFrom (embedEach host.toSurroundings o (decide (t.documents ≠ 0)) sources) s with
      | (.error e, s') => (.error e, s')
      | (.ok contents, s') => (.ok (t', contents.flatten), s') := by
  have hdeliver : ∀ source content report s₁,
      runFrom (deliver host o source content report) s₁ = (.ok false, s₁) := by
    intro source content report s₁
    unfold deliver
    simp only [hmode]
    rfl
  induction sources generalizing t s with
  | nil => exact ⟨t, rfl⟩
  | cons source sources ih =>
    rw [runFrom_deliverFrom_cons, runFrom_deliverOne, runFrom_embedEach_cons]
    rcases runFrom (embedSource host.toSurroundings o source) (separated host t s) with
      ⟨e | ⟨content, report⟩, s₁⟩
    · exact ⟨t, rfl⟩
    · simp only
      rw [hdeliver]
      simp only
      obtain ⟨t', hrest⟩ := ih (t.add report false) s₁
      have hothers : decide ((t.add report false).documents ≠ 0) = true :=
        decide_eq_true (Nat.succ_ne_zero _)
      rw [hothers] at hrest
      refine ⟨t', ?_⟩
      rw [hrest]
      rcases runFrom (embedEach host.toSurroundings o true sources) s₁ with ⟨e | contents, s₂⟩
      · rfl
      · simp only [behind_ok, List.flatten_cons]

/-! ### What a run writes -/

/-- Without write mode and without a target file no file is touched. -/
theorem deliverAll_files_kept (hwrite : o.mode ≠ .write) (hfile : ∀ target, o.mode ≠ .file target)
    (sources : List Path) (w : World κ ω) :
    (runFrom (deliverAll site.host o sources) w).2.files = w.files := by
  rw [runFrom_deliverAll hfile]
  exact (deliverFrom_unwritten site hwrite .zero sources w).files

/-- With a target file all documents are embedded first, and then there is one write. -/
theorem deliverAll_files_file {target : Path} (hmode : o.mode = .file target)
    (sources : List Path) (w : World κ ω) :
    let run := runFrom (deliverAll site.host o sources) w
    match runFrom (embedEach site.host.toSurroundings o false sources) w with
    | (.error e, _) => run.1 = .error e ∧ run.2.files = w.files
    | (.ok contents, w₁) =>
      let shown := (o.workingDir.join target).shownFrom o.workingDir
      let bytes := Text.utf8 contents.flatten
      match site.refusal (o.workingDir.join target) bytes w.files
        (site.announced shown w₁).rest with
      | some cause => run.1 = .error (.write shown cause) ∧ run.2.files = w.files
      | none =>
        (∃ t, run.1 = .ok t) ∧
          run.2.files =
            Function.update w.files (site.name (o.workingDir.join target)) (some bytes) := by
  intro run
  have hkept := (deliverFrom_unwritten site (o := o) (by simp [hmode]) .zero sources w).files
  obtain ⟨t', hfrom⟩ := runFrom_deliverFrom_file hmode site.host .zero sources w
  have hnone : decide (Totals.zero.documents ≠ 0) = false := rfl
  have hrun : run = _ := runFrom_deliverAll_file hmode sources w
  rw [hnone] at hfrom
  rw [hrun]
  rcases heach : runFrom (embedEach site.host.toSurroundings o false sources) w with
    ⟨e | contents, w₁⟩ <;> rw [heach] at hfrom <;> rw [hfrom] at hkept ⊢
  · exact ⟨rfl, hkept⟩
  · have hfiles : w₁.files = w.files := hkept
    obtain ⟨w₂, hresult⟩ := runFrom_writeResult_files site (o.workingDir.join target)
      ((o.workingDir.join target).shownFrom o.workingDir) contents.flatten w₁
    rw [hfiles] at hresult
    simp only
    -- The write is refused and nothing has happened, or the target is written.
    cases hrefusal : site.refusal (o.workingDir.join target) (Text.utf8 contents.flatten) w.files
      (site.announced ((o.workingDir.join target).shownFrom o.workingDir) w₁).rest with
    | some cause =>
      rw [hrefusal] at hresult
      rw [hresult.1]
      exact ⟨rfl, hresult.2⟩
    | none =>
      rw [hrefusal] at hresult
      rw [hresult.1]
      exact ⟨⟨_, rfl⟩, hresult.2⟩

/-- In write mode a run goes on with its next document from the files that it has left. -/
theorem deliverAll_step (hmode : o.mode = .write) {pre : List Path} {t : Totals}
    {w w₁ : World κ ω} (h : runFrom (deliverAll site.host o pre) w = (.ok t, w₁)) (source : Path) :
    site.Step o source t w₁ (runFrom (deliverAll site.host o (pre ++ [source])) w).1
      (runFrom (deliverAll site.host o (pre ++ [source])) w).2.files := by
  have hfile : ∀ target, o.mode ≠ .file target := by simp [hmode]
  have hstep := deliverOne_step site hmode t source w₁
  rw [runFrom_deliverAll hfile] at h ⊢
  rw [runFrom_deliverFrom_append]
  rcases hpre : runFrom (deliverFrom site.host o .zero pre) w with ⟨e | ⟨t', results⟩, w'⟩ <;>
    rw [hpre] at h <;> cases h
  simp only
  rw [runFrom_deliverFrom_cons]
  rcases hone : runFrom (deliverOne site.host o t' source) w' with ⟨e | ⟨t'', content⟩, w₂⟩ <;>
    rw [hone] at hstep <;> exact hstep

/-- A run that fails without a target file leaves the files as a successful run over the documents
    before the failing one does. -/
theorem deliverAll_files_of_error (hmode : ∀ target, o.mode ≠ .file target)
    {sources : List Path} {w w' : World κ ω} {e : DeliveryError}
    (h : runFrom (deliverAll site.host o sources) w = (.error e, w')) :
    ∃ pre source post t w₁, sources = pre ++ source :: post ∧
      runFrom (deliverAll site.host o pre) w = (.ok t, w₁) ∧
      (runFrom (deliverAll site.host o (pre ++ [source])) w).1 = .error e ∧
      w'.files = w₁.files := by
  rw [runFrom_deliverAll hmode] at h
  have hfrom : runFrom (deliverFrom site.host o .zero sources) w = (.error e, w') := by
    rcases hrun : runFrom (deliverFrom site.host o .zero sources) w with ⟨e' | ⟨t, results⟩, w₁⟩ <;>
      rw [hrun] at h <;> cases h
    rfl
  obtain ⟨pre, source, post, t, content, w₁, hsources, hpre, hfail⟩ := exists_failing_source hfrom
  refine ⟨pre, source, post, t, w₁, hsources, ?_, ?_, deliverOne_files_of_error site hfail⟩
  · rw [runFrom_deliverAll hmode, hpre]
    rfl
  · rw [runFrom_deliverAll hmode, runFrom_deliverFrom_append, hpre]
    simp only
    rw [runFrom_deliverFrom_cons, hfail]
    rfl

/-- **What a run may write**, be it successful or not.

    * To verify, to try, or to print the documents, no file is touched.
    * With a target file, no file is touched if a document does not embed, or if the write of the
      target is refused; otherwise the target holds the embedded documents, one behind the other,
      and no other file has changed.
    * In write mode no file has changed but documents.  Behind those that were successful, the next
      one is a step: its file holds the result then, and no other file has changed; or nothing has
      changed, because the result is what the document was, or because it does not embed or its
      write is refused, with which the run fails.  If a run fails, then so at one of its documents,
      and the files are as the successful run over those before it left them. -/
theorem deliverAll_files (o : Options) (sources : List Path) (w : World κ ω) :
    let run := runFrom (deliverAll site.host o sources) w
    match o.mode with
    | .verify | .dryRun | .stdout => run.2.files = w.files
    | .file target =>
      let p := o.workingDir.join target
      match runFrom (embedEach site.host.toSurroundings o false sources) w with
      | (.error e, _) => run.1 = .error e ∧ run.2.files = w.files
      | (.ok contents, w₁) =>
        let shown := p.shownFrom o.workingDir
        let bytes := Text.utf8 contents.flatten
        match site.refusal p bytes w.files (site.announced shown w₁).rest with
        | some cause => run.1 = .error (.write shown cause) ∧ run.2.files = w.files
        | none =>
          (∃ t, run.1 = .ok t) ∧
            run.2.files = Function.update w.files (site.name p) (some bytes)
    | .write =>
      (∀ k, k ∉ sources.map site.name → run.2.files k = w.files k) ∧
        (∀ pre source post t w₁, sources = pre ++ source :: post →
          runFrom (deliverAll site.host o pre) w = (.ok t, w₁) →
            let next := runFrom (deliverAll site.host o (pre ++ [source])) w
            site.Step o source t w₁ next.1 next.2.files) ∧
        ∀ e, run.1 = .error e →
          ∃ pre source post t w₁, sources = pre ++ source :: post ∧
            runFrom (deliverAll site.host o pre) w = (.ok t, w₁) ∧
            (runFrom (deliverAll site.host o (pre ++ [source])) w).1 = .error e ∧
            run.2.files = w₁.files := by
  intro run
  cases hmode : o.mode with
  | verify => exact deliverAll_files_kept site (by simp [hmode]) (by simp [hmode]) sources w
  | dryRun => exact deliverAll_files_kept site (by simp [hmode]) (by simp [hmode]) sources w
  | stdout => exact deliverAll_files_kept site (by simp [hmode]) (by simp [hmode]) sources w
  | file target => exact deliverAll_files_file site hmode sources w
  | write =>
    have hfile : ∀ target, o.mode ≠ .file target := by simp [hmode]
    refine ⟨?_, ?_, ?_⟩
    · intro k hk
      show (runFrom (deliverAll site.host o sources) w).2.files k = w.files k
      rw [runFrom_deliverAll hfile]
      exact deliverFrom_files_of_notMem site .zero w hk
    · intro pre source post t w₁ _ hpre
      exact deliverAll_step site hmode hpre source
    · intro e he
      exact deliverAll_files_of_error site hfile (Prod.ext he rfl)

end FenceSync
