import FenceSync.Proofs.Rewriting

namespace FenceSync

/-!
# Running twice

What is left to do after a successful run in write mode.  Documents are processed once, in the given
order, so that a document can embed what is rewritten behind it.

* `Site.settled_iff` and `deliverAll_verify_iff` say when a verification finds nothing.
* `Site.Stands` says that a document still embeds what it embedded when it was processed, and
  `Site.Rewrites.settled_iff_stands` that this is what matters.
* `Site.reads` are the files that a document embeds from, and `Snippet.embeds_of_source?` says that
  no other files matter for the texts that its blocks embed.
* `deliverAll_write_verify` is the full statement, and `deliverAll_write_verify_behind` shows that a
  second run can have something to do.
-/

/-! ### Verifications -/

section
variable {κ ω : Type} [DecidableEq κ] {site : Site κ ω}
  {answer : Text → Path → (κ → Option Bytes) → Answer} {o : Options}

omit [DecidableEq κ] in
/-- **When a document is settled**: it can be read, and it embeds to itself. -/
theorem Site.settled_iff {files : κ → Option Bytes} {source : Path} (path : Text) :
    site.settled answer o files source = true ↔
      site.unreadable source = none ∧ ∃ markdown again, site.text? files source = some markdown ∧
        (embed (site.frozen answer files) o path markdown).run.run = .ok again ∧
        again.content = markdown := by
  rw [Site.settled]
  constructor
  · intro h
    split at h
    · next content report hembed =>
      obtain ⟨hreadable, markdown, r, htext, hr, hreport⟩ := Site.embedded_eq_ok_iff.mp hembed
      cases hreport
      exact ⟨hreadable, markdown, r, htext, embed_path hr path, by simpa using h⟩
    · cases h
  · rintro ⟨hreadable, markdown, again, htext, hagain, hsame⟩
    rw [Site.embedded_eq_ok_iff.mpr ⟨hreadable, markdown, again, htext, embed_path hagain _, rfl⟩]
    simp [hsame]

/-- **A verification succeeds** exactly if all documents are settled. -/
theorem deliverAll_verify_iff (hshell : site.AnswersBy answer) (sources : List Path)
    (w : World κ ω) :
    (∃ t, (runFrom (deliverAll site.host { o with mode := .verify } sources) w).1 = .ok t) ↔
      ∀ p ∈ sources, site.settled answer o w.files p = true := by
  rw [runFrom_deliverAll (o := { o with mode := .verify }) (by simp)]
  rcases settled_or_exists_first site answer o w.files sources with
    hset | ⟨pre, source, post, rfl, hpre, hsource⟩
  · obtain ⟨w₁, t, results, -, -, -, hrun⟩ :=
      deliverFrom_settled hshell o .verify (by simp) .zero w hset
    exact iff_of_true ⟨t, by rw [hrun]; rfl⟩ hset
  · refine iff_of_false ?_ fun hall => ?_
    · rintro ⟨t, ht⟩
      cases hembed : site.embedded answer o w.files source with
      | error e =>
        obtain ⟨w₁, -, hrun⟩ :=
          deliverFrom_of_embed_error hshell o .verify source w post (by simp) hpre hembed
        rw [hrun] at ht
        cases ht
      | ok result =>
        have hchanged : result.2.changed = true := by
          rw [Site.settled, hembed] at hsource
          simpa using hsource
        obtain ⟨w₁, -, hrun⟩ := deliverFrom_verify_changed hshell o source w post hembed hchanged hpre
        rw [hrun] at ht
        cases ht
    · rw [hall source (by simp)] at hsource
      cases hsource

end

/-! ### Documents that still embed the same -/

/-- A document that was processed where the files were as in `files` still stands where they are as
    in `files'`: its scan ends, and its blocks embed the same text. -/
structure Site.Stands {κ ω : Type} (site : Site κ ω)
    (answer : Text → Path → (κ → Option Bytes) → Answer) (o : Options) (source : Path)
    (files files' : κ → Option Bytes) : Prop where
  scan : ∀ markdown ∈ site.text? files' source, Search.givesUp markdown = false
  embeds : ∀ markdown ∈ site.text? files source, ∀ s ∈ (Document.ofText markdown).sections, ∀ t,
    s.Embeds (site.frozen answer files) o .lf t → s.Embeds (site.frozen answer files') o .lf t

section
variable {κ ω : Type} {site : Site κ ω} {answer : Text → Path → (κ → Option Bytes) → Answer}
  {o : Options} {files files' : κ → Option Bytes}

/-- Whether a document is settled depends on its file only. -/
theorem Site.settled_congr {p q : Path} (hname : site.name p = site.name q)
    (hreadable : site.unreadable p = none) (h : site.settled answer o files q = true) :
    site.settled answer o files p = true := by
  obtain ⟨-, markdown, again, htext, hagain⟩ := (Site.settled_iff []).mp h
  rw [Site.text?, ← hname] at htext
  exact (Site.settled_iff []).mpr ⟨hreadable, markdown, again, htext, hagain⟩

/-- **A rewritten document is settled exactly if it still stands**, provided that its file was not
    touched since. -/
theorem Site.Rewrites.settled_iff_stands [DecidableEq κ] {source : Path}
    {files₁ : κ → Option Bytes} {markdown : Text} {r : EmbedResult} {sources : List Path}
    (h : site.Rewrites answer o source files files₁ markdown r) (hkeep : o.stripComment = false)
    (hout : ∀ line dir files result, answer line dir files = .ok result → 0x0D ∉ result.output)
    (htidy : site.Tidy sources files) (hsource : source ∈ sources)
    (hsame : files' (site.name source) = files₁ (site.name source)) :
    site.settled answer o files' source = true ↔ site.Stands answer o source files files' := by
  have hafter : site.text? files' source = some r.content := by
    rw [Site.text?, hsame, ← Site.text?, h.text_after]
  have hcr := htidy.cr_notMem h.text
  have hcr' := cr_notMem_embed (htidy.frozen_crFree hout) hcr h.embeds
  have hagain := embed_again_iff (site.frozen answer files') h.embeds hkeep
    (htidy.plain source hsource markdown h.text) (Text.newline_eq_lf hcr)
    (Text.newline_eq_lf hcr') []
  rw [Site.settled_iff []]
  constructor
  · rintro ⟨-, markdown', again, htext, hembed, hcontent⟩
    rw [hafter] at htext
    cases htext
    obtain ⟨hscan, hembeds⟩ := hagain.mp ⟨again, hembed, hcontent⟩
    refine ⟨fun markdown' htext => ?_, fun markdown' htext => ?_⟩
    · rw [Option.mem_def, hafter] at htext
      cases htext
      exact hscan
    · rw [Option.mem_def, h.text] at htext
      cases htext
      exact hembeds
  · intro hstands
    obtain ⟨again, hembed, hcontent⟩ :=
      hagain.mpr ⟨hstands.scan _ hafter, hstands.embeds _ h.text⟩
    exact ⟨h.readable, r.content, again, hafter, hembed, hcontent⟩

/-! ### Where a block embeds from -/

/-- The file that a block embeds from. -/
def Snippet.source? (env : Surroundings Id) (o : Options) (s : Snippet) : Option Path :=
  match s.demand with
  | .wanted _ _ (.file path _) => (firstFile? env (o.baseDirs.map fun dir => dir.join ⟨path⟩)).run
  | _ => none

/-- The files that a document embeds from. -/
def Site.reads (site : Site κ ω) (answer : Text → Path → (κ → Option Bytes) → Answer)
    (o : Options) (files : κ → Option Bytes) (document : Path) : List Path :=
  (site.text? files document).toList.flatMap fun markdown =>
    (Document.ofText markdown).sections.filterMap fun s => s.source? (site.frozen answer files) o

/-- Looking for a file takes no more than knowing where files are. -/
theorem firstFile?_congr {env env' : Surroundings Id} (h : ∀ p, env'.isFile p = env.isFile p)
    (ps : List Path) : firstFile? env' ps = firstFile? env ps := by
  induction ps with
  | nil => rfl
  | cons p ps ih => rw [firstFile?, firstFile?, h, ih]

theorem Site.mem_reads {document p : Path} {markdown : Text} {s : Section}
    (htext : site.text? files document = some markdown)
    (hs : s ∈ (Document.ofText markdown).sections)
    (hp : s.source? (site.frozen answer files) o = some p) :
    p ∈ site.reads answer o files document := by
  rw [Site.reads, htext]
  simp only [Option.toList_some, List.flatMap_singleton]
  exact List.mem_filterMap.mpr ⟨s, hs, hp⟩

/-- **A block embeds the same text** as long as its file is the same, if no files come or go and
    commands answer the same. -/
theorem Snippet.embeds_of_source? {s : Snippet} {nl : Newline} {t : Text}
    (hanswer : ∀ line dir, answer line dir files' = answer line dir files)
    (hexists : ∀ k, (files' k).isSome = (files k).isSome)
    (hfile : ∀ p ∈ s.source? (site.frozen answer files) o,
      files' (site.name p) = files (site.name p))
    (h : s.Embeds (site.frozen answer files) o nl t) :
    s.Embeds (site.frozen answer files') o nl t := by
  obtain ⟨style, text, d, ls, hd, hl, rfl⟩ := h
  refine ⟨style, text, d, ls, hd, ?_, rfl⟩
  cases d with
  | file path range =>
    have hfirst : ∀ ps, firstFile? (site.frozen answer files') ps =
        firstFile? (site.frozen answer files) ps := firstFile?_congr fun p => hexists (site.name p)
    rw [Directive.lines, fileLines_run] at hl ⊢
    rw [hfirst]
    rw [Snippet.source?, hd] at hfile
    split at hl
    · cases hl
    · next p hp =>
      have hread : (site.frozen answer files').read p = (site.frozen answer files).read p := by
        show site.readAt files' p = site.readAt files p
        rw [Site.readAt, Site.readAt, hfile p hp]
      rw [hread]
      exact hl
  | command line =>
    rw [Directive.lines, commandLines_run] at hl ⊢
    rw [show ((site.frozen answer files').run line o.workingDir).run =
      ((site.frozen answer files).run line o.workingDir).run from hanswer line o.workingDir]
    exact hl

end

/-! ### A run and a verification -/

/-- Every element of a list has a last place in it, under its own or another name. -/
theorem exists_last_place {α κ : Type} {name : α → κ} {xs : List α} {x : α} (h : x ∈ xs) :
    ∃ pre y post, xs = pre ++ y :: post ∧ name x = name y ∧ name y ∉ post.map name := by
  induction xs generalizing x with
  | nil => cases h
  | cons y xs ih =>
    by_cases hlater : name x ∈ xs.map name
    · obtain ⟨x', hx', hname⟩ := List.mem_map.mp hlater
      obtain ⟨pre, z, post, rfl, hz, hlast⟩ := ih hx'
      exact ⟨y :: pre, z, post, rfl, hname.symm.trans hz, hlast⟩
    · rcases List.mem_cons.mp h with rfl | hx
      · exact ⟨[], x, xs, rfl, rfl, hlater⟩
      · exact absurd (List.mem_map_of_mem hx) hlater

section
variable {κ ω : Type} [DecidableEq κ] {site : Site κ ω} {answer : Text → Path → Answer}

/-- **What is left to do after a run in write mode**, if commands neither depend on files nor touch
    them, no file and no output holds a CR, directives stay in the documents, and nothing in the
    documents but their blocks looks like a fence.

    * A verification succeeds exactly if every document still stands: its scan ends, and what its
      blocks embedded when it was processed, in its last place in the list, they embed now.
    * This is so if all scans end and no block embeds from a file that was still to be processed
      when its document was: that of the document itself, or of one behind it. -/
theorem deliverAll_write_verify (hshell : site.AnswersBy fun line dir _ => answer line dir)
    (hout : ∀ line dir result, answer line dir = .ok result → 0x0D ∉ result.output)
    {o : Options} (hkeep : o.stripComment = false) {sources : List Path} {w w' : World κ ω}
    (htidy : site.Tidy sources w.files) {t : Totals}
    (hok : runFrom (deliverAll site.host { o with mode := .write } sources) w = (.ok t, w')) :
    let filesAfter := fun pre =>
      (runFrom (deliverAll site.host { o with mode := .write } pre) w).2.files
    let stands := fun pre source =>
      site.Stands (fun line dir _ => answer line dir) o source (filesAfter pre) w'.files
    let verified := ∃ t', (runFrom (deliverAll site.host { o with mode := .verify } sources) w').1 =
      .ok t'
    (verified ↔ ∀ pre source post, sources = pre ++ source :: post →
        site.name source ∉ post.map site.name → stands pre source) ∧
      ((∀ pre source post, sources = pre ++ source :: post →
          site.name source ∉ post.map site.name →
          (∀ markdown ∈ site.text? w'.files source, Search.givesUp markdown = false) ∧
            ∀ p ∈ site.reads (fun line dir _ => answer line dir) o (filesAfter pre) source,
              site.name p ∉ (source :: post).map site.name) →
        verified) := by
  intro filesAfter stands verified
  have hout' : ∀ line dir (files : κ → Option Bytes) result,
      answer line dir = .ok result → 0x0D ∉ result.output :=
    fun line dir _ result => hout line dir result
  have hexists : ∀ pre k, (w'.files k).isSome = (filesAfter pre k).isSome := by
    intro pre k
    have hall := deliverAll_isSome hshell (o := o) sources w k
    rw [hok] at hall
    exact hall.trans (deliverAll_isSome hshell pre w k).symm
  have hplace : ∀ pre source post, sources = pre ++ source :: post →
      site.name source ∉ post.map site.name →
      (site.settled (fun line dir _ => answer line dir) o w'.files source = true ↔
        stands pre source) := by
    rintro pre source post rfl hlast
    obtain ⟨files, markdown, r, hrewrites, hkept⟩ := exists_rewrites hshell hok
    have hpre : site.Tidy (pre ++ source :: post) (filesAfter pre) :=
      deliverAll_tidy hshell hout' (fun p hp => List.mem_append_left _ hp) htidy
    exact hrewrites.settled_iff_stands hkeep hout' hpre (by simp) (hkept _ hlast)
  have hverified : verified ↔ ∀ pre source post, sources = pre ++ source :: post →
      site.name source ∉ post.map site.name → stands pre source := by
    rw [show verified ↔ _ from deliverAll_verify_iff hshell sources w']
    constructor
    · intro hall pre source post hsources hlast
      exact (hplace pre source post hsources hlast).mp (hall source (by simp [hsources]))
    · intro hall p hp
      -- Every document could be read, so that it is settled if its file is in its last place.
      obtain ⟨pre, post, rfl⟩ := List.append_of_mem hp
      obtain ⟨files, markdown, r, hrewrites, -⟩ := exists_rewrites hshell hok
      obtain ⟨pre', source, post', hsources, hname, hlast⟩ := exists_last_place hp
      exact Site.settled_congr hname hrewrites.readable
        ((hplace pre' source post' hsources hlast).mpr (hall pre' source post' hsources hlast))
  refine ⟨hverified, fun h => hverified.mpr fun pre source post hsources hlast => ?_⟩
  obtain ⟨hscan, hfile⟩ := h pre source post hsources hlast
  subst hsources
  obtain ⟨files, markdown, r, hrewrites, hkept⟩ := exists_rewrites hshell hok
  refine ⟨hscan, fun markdown' htext s hs t ht => ?_⟩
  refine Snippet.embeds_of_source? (fun _ _ => rfl) (hexists pre) (fun p hp => ?_) ht
  have hname := hfile p (Site.mem_reads htext hs hp)
  rw [List.map_cons, List.mem_cons, not_or] at hname
  rw [hkept _ hname.2, hrewrites.of_ne hname.1]

end

/-! ### Documents that embed one another -/

/-- Two documents, of which `a.md` embeds a line of `b.md` that `b.md` is still to embed. -/
def chainedDocuments : World Path Unit where
  files p :=
    if p = ⟨"/d/a.md".toList⟩ then some (Text.utf8 "```txt\n// b.md#L3-L4\n```\n".toList)
    else if p = ⟨"/d/b.md".toList⟩ then some (Text.utf8 "```txt\n// c.txt\n\nold\n```\n".toList)
    else if p = ⟨"/d/c.txt".toList⟩ then some (Text.utf8 "new\n".toList)
    else none
  attempts := []
  rest := ()

theorem tidy_chainedDocuments {sources : List Path}
    (h : ∀ p ∈ sources, p = ⟨"/d/a.md".toList⟩ ∨ p = ⟨"/d/b.md".toList⟩) :
    (Site.echoing []).Tidy sources chainedDocuments.files := by
  refine ⟨fun k bytes hbytes => ?_, fun source hsource markdown hmarkdown => ?_⟩
  · unfold chainedDocuments at hbytes
    simp only at hbytes
    split at hbytes
    · cases hbytes
      decide
    · split at hbytes
      · cases hbytes
        decide
      · split at hbytes
        · cases hbytes
          decide
        · cases hbytes
  · have ha : (Site.echoing []).text? chainedDocuments.files ⟨"/d/a.md".toList⟩ =
        some "```txt\n// b.md#L3-L4\n```\n".toList := by
      decide +kernel
    have hb : (Site.echoing []).text? chainedDocuments.files ⟨"/d/b.md".toList⟩ =
        some "```txt\n// c.txt\n\nold\n```\n".toList := by
      decide +kernel
    rcases h source hsource with rfl | rfl
    · rw [ha] at hmarkdown
      cases hmarkdown
      decide +kernel
    · rw [hb] at hmarkdown
      cases hmarkdown
      decide +kernel

/-- **A second run can have something to do**: the first document embeds from the second one before
    that is rewritten. -/
theorem deliverAll_write_verify_behind :
    let site := Site.echoing []
    let o := Options.inDir ⟨"/d".toList⟩
    let sources : List Path := [⟨"/d/a.md".toList⟩, ⟨"/d/b.md".toList⟩]
    let run := runFrom (deliverAll site.host { o with mode := .write } sources) chainedDocuments
    (∃ answer : Text → Path → Answer, site.AnswersBy (fun line dir _ => answer line dir) ∧
        ∀ line dir result, answer line dir = .ok result → 0x0D ∉ result.output) ∧
      o.stripComment = false ∧ site.Tidy sources chainedDocuments.files ∧
      run.1 = .ok ⟨2, 2, 2⟩ ∧
      (runFrom (deliverAll site.host { o with mode := .verify } sources) run.2).1 =
        .error (.difference ⟨"a.md".toList⟩) := by
  intro site o sources run
  refine ⟨⟨fun _ _ => .ok ⟨[], 0, true⟩, fun _ _ _ _ => rfl, ?_⟩, rfl, ?_, by decide +kernel,
    by decide +kernel⟩
  · rintro line dir result ⟨⟩
    simp
  · exact tidy_chainedDocuments (by simp [sources])

/-- In the other order nothing is left to do. -/
theorem deliverAll_write_verify_in_front :
    let site := Site.echoing []
    let o := Options.inDir ⟨"/d".toList⟩
    let sources : List Path := [⟨"/d/b.md".toList⟩, ⟨"/d/a.md".toList⟩]
    let run := runFrom (deliverAll site.host { o with mode := .write } sources) chainedDocuments
    run.1 = .ok ⟨2, 2, 2⟩ ∧
      ∃ t, (runFrom (deliverAll site.host { o with mode := .verify } sources) run.2).1 = .ok t := by
  intro site o sources run
  let answer : Text → Path → Answer := fun _ _ => .ok ⟨[], 0, true⟩
  let filesAfter := fun pre =>
    (runFrom (deliverAll site.host { o with mode := .write } pre) chainedDocuments).2.files
  have hshell : site.AnswersBy fun line dir _ => answer line dir := fun _ _ _ _ => rfl
  have hout : ∀ line dir result, answer line dir = .ok result → 0x0D ∉ result.output := by
    rintro line dir result ⟨⟩
    simp
  have hkeep : o.stripComment = false := rfl
  have htidy : site.Tidy sources chainedDocuments.files := tidy_chainedDocuments (by simp [sources])
  have hok : run.1 = .ok ⟨2, 2, 2⟩ := by decide +kernel
  -- `b.md` embeds from another file than the two, and `a.md` from the one in front of it.
  have hb : (∀ markdown ∈ site.text? run.2.files ⟨"/d/b.md".toList⟩,
        Search.givesUp markdown = false) ∧
      ∀ p ∈ site.reads (fun line dir _ => answer line dir) o (filesAfter []) ⟨"/d/b.md".toList⟩,
        site.name p ∉ sources.map site.name := by
    decide +kernel
  have ha : (∀ markdown ∈ site.text? run.2.files ⟨"/d/a.md".toList⟩,
        Search.givesUp markdown = false) ∧
      ∀ p ∈ site.reads (fun line dir _ => answer line dir) o (filesAfter [⟨"/d/b.md".toList⟩])
        ⟨"/d/a.md".toList⟩, site.name p ∉ [(⟨"/d/a.md".toList⟩ : Path)].map site.name := by
    decide +kernel
  generalize hrun : run = r at hok ha hb ⊢
  obtain ⟨result, w'⟩ := r
  simp only at hok
  subst hok
  refine ⟨rfl, (deliverAll_write_verify hshell hout hkeep htidy hrun).2 ?_⟩
  rintro (_ | ⟨p, _ | ⟨q, pre⟩⟩) source post hsources -
  · obtain ⟨rfl, rfl⟩ := List.cons.inj hsources
    exact hb
  · obtain ⟨rfl, hrest⟩ := List.cons.inj hsources
    obtain ⟨rfl, rfl⟩ := List.cons.inj hrest
    exact ha
  · have hlen := congrArg List.length hsources
    simp [sources] at hlen

end FenceSync
