import FenceSync.Proofs.Agreement
import FenceSync.Proofs.CarriageReturns
import FenceSync.Proofs.Reembedding

namespace FenceSync

/-!
# What a successful run rewrites

A successful run in write mode replaces the text of one document after the other by what it embeds to
where the files are as the documents before it left them.

* `Site.embedded_eq_ok_iff` says when a document embeds.
* `Site.Rewrites` says that one document was rewritten, and `rewrites_of_deliverOne` that a
  successful step does this.
* `Site.Tidy` are the file maps without a CR in which no document has a line that looks like a fence
  outside its blocks; `Site.Rewrites.tidy` and `deliverAll_tidy` say that they stay so.
* `exists_rewrites` finds the step of a successful run at which a document was rewritten.
-/

variable {κ ω : Type} [DecidableEq κ] (site : Site κ ω)

/-! ### Documents and files -/

/-- **What is read of a file that has to be a text.** -/
theorem Surroundings.readText_run (env : Surroundings Id) (p : Path) :
    (env.readText p).run =
      match (env.read p).run with
      | .error e => .error e
      | .ok bytes =>
        match Bytes.text? bytes with
        | none => .error .notUtf8
        | some t => .ok t := by
  unfold Surroundings.readText
  generalize env.read p = content
  cases content with
  | error e => rfl
  | ok bytes =>
    have hdecode : ∀ x : Option Text,
        (match x with
          | none => pure (.error .notUtf8)
          | some t => pure (.ok t) : Id (Except FileError Text)).run =
        match x with
        | none => .error .notUtf8
        | some t => .ok t := by
      intro x
      cases x <;> rfl
    exact hdecode (Bytes.text? bytes)

/-- The text that stands in the place of a document. -/
def Site.text? {κ ω : Type} (site : Site κ ω) (files : κ → Option Bytes) (source : Path) :
    Option Text :=
  (files (site.name source)).bind Bytes.text?

section
variable {κ ω : Type} {site : Site κ ω} {answer : Text → Path → (κ → Option Bytes) → Answer}
  {o : Options} {files files' : κ → Option Bytes} {source : Path}

/-- A text can be read if nothing stands in the way. -/
theorem Site.readText_eq_ok_iff {t : Text} :
    ((site.frozen answer files).readText source).run = .ok t ↔
      site.unreadable source = none ∧ site.text? files source = some t := by
  rw [Surroundings.readText_run,
    show ((site.frozen answer files).read source).run = site.readAt files source from rfl]
  unfold Site.readAt Site.text?
  cases files (site.name source) with
  | none => simp
  | some bytes =>
    cases site.unreadable source with
    | some e => simp
    | none => cases hread : Bytes.text? bytes <;> simp [hread]

/-- **When a document embeds**: it can be read, and its text embeds. -/
theorem Site.embedded_eq_ok_iff {content : Text} {report : SourceReport} :
    site.embedded answer o files source = .ok (content, report) ↔
      site.unreadable source = none ∧ ∃ markdown r, site.text? files source = some markdown ∧
        (embed (site.frozen answer files) o (source.shownFrom o.workingDir).spelling
          markdown).run.run = .ok r ∧
        (content, report) =
          (r.content, ⟨source.shownFrom o.workingDir, r.content != markdown, r.resolvedCount⟩) := by
  have hfile : ∀ t, site.text? files source = some t →
      ((site.frozen answer files).isFile source).run = true := by
    intro t ht
    show (files (site.name source)).isSome = true
    obtain ⟨bytes, hbytes, -⟩ := Option.bind_eq_some_iff.mp ht
    rw [hbytes]
    rfl
  rw [Site.embedded, embedSource_run]
  simp only
  constructor
  · intro h
    split at h
    · split at h
      · cases h
      · next markdown hread =>
        obtain ⟨hreadable, htext⟩ := Site.readText_eq_ok_iff.mp hread
        split at h
        · cases h
        · next r hr => exact ⟨hreadable, markdown, r, htext, hr, (Except.ok.inj h).symm⟩
    · cases h
  · rintro ⟨hreadable, markdown, r, htext, hr, hreport⟩
    rw [if_pos (hfile markdown htext), Site.readText_eq_ok_iff.mpr ⟨hreadable, htext⟩]
    simp only
    rw [hr, hreport]

/-- The name of a document does not matter for its content. -/
theorem embed_path {env : Surroundings Id} {path markdown : Text} {r : EmbedResult}
    (h : (embed env o path markdown).run.run = .ok r) (path' : Text) :
    (embed env o path' markdown).run.run = .ok r :=
  (embed_eq_ok_iff env o path').mpr ((embed_eq_ok_iff env o path).mp h)

end

/-! ### One document -/

/-- A document was rewritten: it can be read, it embeds where the files are as in `files`, and
    afterwards they hold the result in its place. -/
structure Site.Rewrites {κ ω : Type} [DecidableEq κ] (site : Site κ ω)
    (answer : Text → Path → (κ → Option Bytes) → Answer) (o : Options) (source : Path)
    (files files' : κ → Option Bytes) (markdown : Text) (r : EmbedResult) : Prop where
  readable : site.unreadable source = none
  text : site.text? files source = some markdown
  embeds : (embed (site.frozen answer files) o [] markdown).run.run = .ok r
  /-- It is not written if it does not change. -/
  written : files' = files ∧ r.content = markdown ∨
    files' = Function.update files (site.name source) (some (Text.utf8 r.content))

section
variable {κ ω : Type} [DecidableEq κ] {site : Site κ ω}
  {answer : Text → Path → (κ → Option Bytes) → Answer} {o : Options} {source : Path}
  {files files' : κ → Option Bytes} {markdown : Text} {r : EmbedResult}

/-- **A successful step rewrites its document.** -/
theorem rewrites_of_deliverOne (hshell : site.AnswersBy answer) {t t' : Totals} {content : Text}
    {w w' : World κ ω}
    (h : runFrom (deliverOne site.host { o with mode := .write } t source) w =
      (.ok (t', content), w')) :
    ∃ markdown r, site.Rewrites answer o source w.files w'.files markdown r := by
  obtain ⟨w₁, hw₁, hrun⟩ := deliverOne_eq hshell o .write t source w
  rw [h] at hrun
  cases hembed : site.embedded answer o w.files source with
  | error e =>
    rw [hembed] at hrun
    cases hrun
  | ok result =>
    obtain ⟨content', report⟩ := result
    obtain ⟨hreadable, markdown, r, htext, hr, hreport⟩ := Site.embedded_eq_ok_iff.mp hembed
    cases hreport
    rw [hembed] at hrun
    simp only at hrun
    refine ⟨markdown, r, hreadable, htext, embed_path hr [], ?_⟩
    generalize hreport : (⟨source.shownFrom o.workingDir, r.content != markdown,
      r.resolvedCount⟩ : SourceReport) = report at hrun
    have hchanged : report.changed = (r.content != markdown) := by rw [← hreport]
    cases hsame : r.content != markdown with
    | false =>
      obtain ⟨w₂, hw₂, hdeliver⟩ := deliver_of_unchanged site (o := { o with mode := .write })
        (by simp) source r.content (hchanged.trans hsame) w₁
      rw [hdeliver] at hrun
      cases hrun
      exact .inl ⟨hw₂.files.trans hw₁.files, by simpa using hsame⟩
    | true =>
      rw [deliver_write site (o := { o with mode := .write }) rfl source r.content
        (hchanged.trans hsame)] at hrun
      rcases site.writeAt_cases source (Text.utf8 r.content)
        (site.announced report.path w₁) with ⟨e, hwrite⟩ | hwrite
      · rw [hwrite] at hrun
        cases hrun
      · rw [hwrite] at hrun
        cases hrun
        refine .inr ?_
        show Function.update w₁.files _ _ = _
        rw [hw₁.files]

/-- The result stands in the place of the document. -/
theorem Site.Rewrites.text_after (h : site.Rewrites answer o source files files' markdown r) :
    site.text? files' source = some r.content := by
  rcases h.written with ⟨rfl, hsame⟩ | rfl
  · rw [h.text, hsame]
  · rw [Site.text?, Function.update_self]
    exact Bytes.text?_utf8 r.content

theorem Site.Rewrites.of_ne (h : site.Rewrites answer o source files files' markdown r) {k : κ}
    (hk : k ≠ site.name source) : files' k = files k := by
  rcases h.written with ⟨rfl, -⟩ | rfl
  · rfl
  · exact Function.update_of_ne hk _ _

/-- No file comes or goes. -/
theorem Site.Rewrites.isSome (h : site.Rewrites answer o source files files' markdown r) (k : κ) :
    (files' k).isSome = (files k).isSome := by
  by_cases hk : k = site.name source
  · have hbefore := Option.isSome_of_isSome_bind (Option.isSome_of_eq_some h.text)
    have hafter := Option.isSome_of_isSome_bind (Option.isSome_of_eq_some h.text_after)
    rw [hk, hbefore, hafter]
  · rw [h.of_ne hk]

end

/-! ### Tidy files -/

/-- No file holds a CR, and in no document anything but the fences of its blocks looks like a
    fence. -/
structure Site.Tidy {κ ω : Type} (site : Site κ ω) (sources : List Path)
    (files : κ → Option Bytes) : Prop where
  crFree : ∀ k bytes, files k = some bytes → 0x0D ∉ bytes
  plain : ∀ source ∈ sources, ∀ markdown, site.text? files source = some markdown →
    ∀ line ∈ (Document.ofText markdown).prose, ¬ BeginsFence line

section
variable {κ ω : Type} {site : Site κ ω} {answer : Text → Path → (κ → Option Bytes) → Answer}
  {o : Options} {source : Path} {files files' : κ → Option Bytes} {markdown : Text}
  {r : EmbedResult} {sources : List Path}

theorem Site.Tidy.cr_notMem (h : site.Tidy sources files)
    (htext : site.text? files source = some markdown) : '\r' ∉ markdown := by
  obtain ⟨bytes, hbytes, hread⟩ := Option.bind_eq_some_iff.mp htext
  rw [← Bytes.lossyText_of_text? hread]
  exact Bytes.cr_notMem_lossyText (h.crFree _ bytes hbytes)

/-- Tidy files are surroundings without a CR, if the outputs of commands have none. -/
theorem Site.Tidy.frozen_crFree (h : site.Tidy sources files)
    (hout : ∀ line dir files result, answer line dir files = .ok result → 0x0D ∉ result.output) :
    (site.frozen answer files).CrFree where
  read p bytes hread := by
    have hread' : site.readAt files p = .ok bytes := hread
    unfold Site.readAt at hread'
    split at hread'
    · cases hread'
    · cases hread'
    · next hbytes _ =>
      cases hread'
      exact h.crFree _ _ hbytes
  run line dir result hrun := hout line dir files result hrun

variable [DecidableEq κ]

/-- **Rewriting a document leaves files tidy.** -/
theorem Site.Rewrites.tidy (h : site.Rewrites answer o source files files' markdown r)
    (hout : ∀ line dir files result, answer line dir files = .ok result → 0x0D ∉ result.output)
    (hsource : source ∈ sources) (htidy : site.Tidy sources files) :
    site.Tidy sources files' := by
  have hcr := htidy.cr_notMem h.text
  have hcr' := cr_notMem_embed (htidy.frozen_crFree hout) hcr h.embeds
  refine ⟨fun k bytes hbytes => ?_, fun source' hsource' markdown' hmarkdown' => ?_⟩
  · rcases h.written with ⟨rfl, -⟩ | rfl
    · exact htidy.crFree k bytes hbytes
    · by_cases hk : k = site.name source
      · rw [hk, Function.update_self] at hbytes
        cases hbytes
        exact Text.cr_notMem_utf8 hcr'
      · rw [Function.update_of_ne hk] at hbytes
        exact htidy.crFree k bytes hbytes
  · by_cases hk : site.name source' = site.name source
    · -- The same file under another name.
      have hafter := h.text_after
      rw [Site.text?, ← hk] at hafter
      rw [Site.text?, hafter] at hmarkdown'
      cases hmarkdown'
      rw [prose_embed h.embeds (htidy.plain source hsource markdown h.text) (Text.newline_eq_lf hcr)]
      exact htidy.plain source hsource markdown h.text
    · rw [Site.text?, h.of_ne hk] at hmarkdown'
      exact htidy.plain source' hsource' markdown' hmarkdown'

end

/-! ### A run -/

section
variable {κ ω : Type} [DecidableEq κ] {site : Site κ ω}
  {answer : Text → Path → (κ → Option Bytes) → Answer} {o : Options}
  (hshell : site.AnswersBy answer)
include hshell

/-- A step that fails leaves the files as they are, and a step that succeeds rewrites a document. -/
theorem deliverOne_files (t : Totals) (source : Path) (w : World κ ω) :
    let w' := (runFrom (deliverOne site.host { o with mode := .write } t source) w).2
    w'.files = w.files ∨
      ∃ markdown r, site.Rewrites answer o source w.files w'.files markdown r := by
  intro w'
  rcases hrun : runFrom (deliverOne site.host { o with mode := .write } t source) w with
    ⟨e | ⟨t', content⟩, w₁⟩
  · left
    rw [show w' = w₁ from congrArg Prod.snd hrun]
    exact deliverOne_files_of_error site hrun
  · right
    rw [show w' = w₁ from congrArg Prod.snd hrun]
    exact rewrites_of_deliverOne hshell hrun

/-- **A run leaves files tidy.** -/
theorem deliverAll_tidy
    (hout : ∀ line dir files result, answer line dir files = .ok result → 0x0D ∉ result.output)
    {sources documents : List Path} (hsub : ∀ p ∈ sources, p ∈ documents) {w : World κ ω}
    (htidy : site.Tidy documents w.files) :
    site.Tidy documents
      (runFrom (deliverAll site.host { o with mode := .write } sources) w).2.files := by
  rw [runFrom_deliverAll (o := { o with mode := .write }) (by simp)]
  refine deliverFrom_rel (R := fun w w' => site.Tidy documents w.files →
    site.Tidy documents w'.files) (fun _ h => h) ?_ ?_ .zero w htidy
  · intro w₁ w₂ w₃ h h' hw
    exact h' (h hw)
  · intro source hsource t w hw
    rcases deliverOne_files hshell t source w with hkept | ⟨markdown, r, hrewrites⟩
    · rwa [hkept]
    · exact hrewrites.tidy hout (hsub source hsource) hw

/-- A run neither creates files nor removes them. -/
theorem deliverAll_isSome (sources : List Path) (w : World κ ω) (k : κ) :
    ((runFrom (deliverAll site.host { o with mode := .write } sources) w).2.files k).isSome =
      (w.files k).isSome := by
  rw [runFrom_deliverAll (o := { o with mode := .write }) (by simp)]
  refine deliverFrom_rel (R := fun w w' => (w'.files k).isSome = (w.files k).isSome)
    (fun _ => rfl) ?_ ?_ .zero w
  · intro w₁ w₂ w₃ h h'
    exact h'.trans h
  · intro source _ t w
    rcases deliverOne_files hshell t source w with hkept | ⟨markdown, r, hrewrites⟩
    · rw [hkept]
    · exact hrewrites.isSome k

/-- **A successful run rewrites every document in its place**, where the documents in front of it
    have been processed; then only files of documents behind it change. -/
theorem exists_rewrites {t : Totals} {pre post : List Path} {source : Path} {w w' : World κ ω}
    (h : runFrom (deliverAll site.host { o with mode := .write } (pre ++ source :: post)) w =
      (.ok t, w')) :
    ∃ files markdown r,
      site.Rewrites answer o source
        (runFrom (deliverAll site.host { o with mode := .write } pre) w).2.files files markdown r ∧
      ∀ k, k ∉ post.map site.name → w'.files k = files k := by
  rw [runFrom_deliverAll (o := { o with mode := .write }) (by simp)] at h ⊢
  rcases hfrom : runFrom (deliverFrom site.host { o with mode := .write } .zero
    (pre ++ source :: post)) w with ⟨e | ⟨t', results⟩, w₀⟩ <;> rw [hfrom] at h <;> cases h
  obtain ⟨t₁, first, w₁, rest, hpre, hrest⟩ := deliverFrom_append_eq_ok hfrom
  rw [← List.singleton_append] at hrest
  obtain ⟨t₂, content, w₂, rest', hone, hpost⟩ := deliverFrom_append_eq_ok hrest
  obtain ⟨content', hone'⟩ := deliverFrom_singleton_eq_ok hone
  obtain ⟨markdown, r, hrewrites⟩ := rewrites_of_deliverOne hshell hone'
  refine ⟨w₂.files, markdown, r, ?_, fun k hk => ?_⟩
  · rw [hpre]
    exact hrewrites
  · have hkept := deliverFrom_files_of_notMem site (o := { o with mode := .write }) t₂ w₂ hk
    rwa [hpost] at hkept

end

end FenceSync
