import FenceSync.Proofs.Agreement

namespace FenceSync

/-!
# Printing and collecting agree

Results that are printed one by one are the bytes that a target file gets in the end, in a world in
which the answers of commands are a function of the files and the output takes everything.

* `Site.Prints` says what the output has got, and that nothing but results goes there.
* `deliverOne_gathers` is the step for one document, and `deliverFrom_gathers` and
  `deliverFrom_gathers_until` are the run over documents, up to the first one that does not embed.
* `deliverAll_stdout_file` compares the two whole runs.
-/

variable {κ ω : Type} [DecidableEq κ] {site : Site κ ω}
  {answer : Text → Path → (κ → Option Bytes) → Answer} {printed : ω → Bytes}

/-! ### The output -/

/-- The output accepts every write, and `printed` is what it has got; neither commands nor messages
    go there. -/
structure Site.Prints {κ ω : Type} (site : Site κ ω) (printed : ω → Bytes) : Prop where
  accepts : ∀ bytes x, (site.print bytes x).1 = .ok ()
  print : ∀ bytes x, printed (site.print bytes x).2 = printed x ++ bytes
  shell : ∀ line dir files x, printed (site.shell line dir files x).2 = printed x
  note : ∀ entry x, printed (site.note entry x) = printed x

/-- Results go to the output, or to a target file in the end. -/
def OutputMode.Gathers : OutputMode → Prop
  | .stdout | .file _ => True
  | _ => False

/-- What a mode prints of a result. -/
def OutputMode.printedPart : OutputMode → Text → Bytes
  | .stdout, content => Text.utf8 content
  | _, _ => []

theorem OutputMode.printedPart_nil (mode : OutputMode) : mode.printedPart [] = [] := by
  cases mode <;> rfl

theorem OutputMode.printedPart_append (mode : OutputMode) (s t : Text) :
    mode.printedPart (s ++ t) = mode.printedPart s ++ mode.printedPart t := by
  cases mode <;> simp [printedPart, Text.utf8]

/-- Computations that print nothing, each compared with itself. -/
def Site.silent (κ : Type) (printed : ω → Bytes) :
    Coupling (StateM (World κ ω)) (StateM (World κ ω)) where
  Rel x _ := ∀ w : World κ ω, printed (x.run w).2.rest = printed w.rest
  rel_pure _ _ := rfl
  rel_bind h hf w := (hf _ _).trans (h w)

theorem Site.Prints.silent_envs (hprint : site.Prints printed) :
    (Site.silent κ printed).Envs site.host.toSurroundings site.host.toSurroundings where
  isFile _ _ := rfl
  read _ _ := rfl
  run line dir w := hprint.shell line dir w.files w.rest
  log entry _ w := hprint.note entry w.rest

/-- Embedding a document prints nothing. -/
theorem embedSource_printed (hprint : site.Prints printed) (o : Options) (source : Path)
    (w : World κ ω) :
    printed (runFrom (embedSource site.host.toSurroundings o source) w).2.rest =
      printed w.rest :=
  embedSource_coupled hprint.silent_envs o o.mode source w

theorem separated_printed (hprint : site.Prints printed) (t : Totals) (w : World κ ω) :
    printed (separated site.host t w).rest = printed w.rest := by
  unfold separated
  split
  · exact hprint.note _ w.rest
  · rfl

/-! ### One document -/

/-- What is gathered is printed, or nothing is done with it yet. -/
theorem deliver_gathers (hprint : site.Prints printed) {o : Options} (hmode : o.mode.Gathers)
    (source : Path) (content : Text) (report : SourceReport) (w : World κ ω) :
    ∃ w', w.Unwritten w' ∧ printed w'.rest = printed w.rest ++ o.mode.printedPart content ∧
      runFrom (deliver site.host o source content report) w = (.ok false, w') := by
  unfold deliver
  cases hm : o.mode with
  | stdout =>
    refine ⟨{ w with rest := (site.print (Text.utf8 content) w.rest).2 }, ⟨rfl, rfl⟩,
      hprint.print _ w.rest, ?_⟩
    simp only
    rw [runFrom_bind, runFrom_lift]
    simp only
    have haccepts : (StateT.run (site.host.print (Text.utf8 content)) w).1 = .ok () :=
      hprint.accepts (Text.utf8 content) w.rest
    rw [haccepts]
    rfl
  | file target => exact ⟨w, .refl w, (List.append_nil _).symm, rfl⟩
  | _ =>
    rw [hm] at hmode
    exact hmode.elim

section
variable (hshell : site.AnswersBy answer) (hprint : site.Prints printed) (o : Options)
  (mode : OutputMode) (hmode : mode.Gathers)
include hshell hprint hmode

/-- **A step where results are gathered**: the document embeds to what it does where the files are as
    they are, no file is touched, and the result is printed if it is to be printed. -/
theorem deliverOne_gathers (t : Totals) (source : Path) (w : World κ ω) :
    ∃ w', w.Unwritten w' ∧
      match site.embedded answer o w.files source with
      | .error e =>
        runFrom (deliverOne site.host { o with mode := mode } t source) w = (.error e, w') ∧
          printed w'.rest = printed w.rest
      | .ok (content, report) =>
        runFrom (deliverOne site.host { o with mode := mode } t source) w =
            (.ok (t.add report false, content), w') ∧
          printed w'.rest = printed w.rest ++ mode.printedPart content := by
  have hsep := separated_unwritten site t w
  obtain ⟨w₁, hembed, hw₁⟩ := embedSource_eq hshell o mode source (separated site.host t w)
  have hquiet := embedSource_printed hprint { o with mode := mode } source (separated site.host t w)
  rw [hembed, separated_printed hprint] at hquiet
  rw [hsep.files] at hembed
  rw [runFrom_deliverOne, hembed, Site.embedded]
  rcases (embedSource (site.frozen answer w.files) o source).run.run with e | ⟨content, report⟩
  · exact ⟨w₁, hsep.trans hw₁, rfl, hquiet⟩
  · obtain ⟨w₂, hw₂, hgot, hdeliver⟩ :=
      deliver_gathers hprint (o := { o with mode := mode }) hmode source content report w₁
    refine ⟨w₂, (hsep.trans hw₁).trans hw₂, ?_, ?_⟩
    · simp only
      rw [hdeliver]
    · rw [hgot]
      exact congrArg (· ++ mode.printedPart content) hquiet

/-! ### All documents -/

/-- The contents that documents embed to where the files are as given. -/
def Site.EmbedTo (site : Site κ ω) (answer : Text → Path → (κ → Option Bytes) → Answer)
    (o : Options) (files : κ → Option Bytes) : List Path → List Text → Prop :=
  List.Forall₂ fun source content =>
    ∃ report, site.embedded answer o files source = .ok (content, report)

/-- **A run over documents that embed** succeeds with their contents, which are printed if results
    are to be printed. -/
theorem deliverFrom_gathers {sources : List Path} {contents : List Text} (t : Totals)
    (w : World κ ω) (h : site.EmbedTo answer o w.files sources contents) :
    ∃ t' w', w.Unwritten w' ∧
      runFrom (deliverFrom site.host { o with mode := mode } t sources) w =
        (.ok (t', contents.flatten), w') ∧
      printed w'.rest = printed w.rest ++ mode.printedPart contents.flatten := by
  induction sources generalizing contents t w with
  | nil =>
    cases h
    exact ⟨t, w, .refl w, rfl, by rw [List.flatten_nil, mode.printedPart_nil, List.append_nil]⟩
  | cons source sources ih =>
    obtain ⟨content, contents', ⟨report, hsource⟩, hrest, rfl⟩ := List.forall₂_cons_left_iff.mp h
    obtain ⟨w₁, hw₁, hone⟩ := deliverOne_gathers hshell hprint o mode hmode t source w
    rw [hsource] at hone
    obtain ⟨hrun, hprinted⟩ := hone
    rw [← hw₁.files] at hrest
    obtain ⟨t', w₂, hw₂, hrun', hprinted'⟩ := ih (t.add report false) w₁ hrest
    refine ⟨t', w₂, hw₁.trans hw₂, ?_, ?_⟩
    · rw [runFrom_deliverFrom_cons, hrun]
      simp only
      rw [hrun', behind_ok, List.flatten_cons]
    · rw [hprinted', hprinted, List.flatten_cons, mode.printedPart_append, List.append_assoc]

/-- **A run up to a document that does not embed** ends with its error, behind the contents of the
    documents before it. -/
theorem deliverFrom_gathers_until {pre : List Path} {contents : List Text} {source : Path}
    (post : List Path) {e : DeliveryError} (t : Totals) (w : World κ ω)
    (hpre : site.EmbedTo answer o w.files pre contents)
    (h : site.embedded answer o w.files source = .error e) :
    ∃ w', w.Unwritten w' ∧
      runFrom (deliverFrom site.host { o with mode := mode } t (pre ++ source :: post)) w =
        (.error e, w') ∧
      printed w'.rest = printed w.rest ++ mode.printedPart contents.flatten := by
  obtain ⟨t₁, w₁, hw₁, hrun, hprinted⟩ := deliverFrom_gathers hshell hprint o mode hmode t w hpre
  obtain ⟨w₂, hw₂, hone⟩ := deliverOne_gathers hshell hprint o mode hmode t₁ source w₁
  rw [hw₁.files, h] at hone
  obtain ⟨hfail, hquiet⟩ := hone
  refine ⟨w₂, hw₁.trans hw₂, ?_, hquiet.trans hprinted⟩
  rw [runFrom_deliverFrom_append, hrun]
  simp only
  rw [runFrom_deliverFrom_cons, hfail]
  rfl

end

/-! ### Whole runs -/

omit [DecidableEq κ] in
/-- Documents all embed, or there is a first one that does not. -/
theorem Site.embedTo_or_exists_first (site : Site κ ω)
    (answer : Text → Path → (κ → Option Bytes) → Answer) (o : Options)
    (files : κ → Option Bytes) (sources : List Path) :
    (∃ contents, site.EmbedTo answer o files sources contents) ∨
      ∃ pre source post contents e, sources = pre ++ source :: post ∧
        site.EmbedTo answer o files pre contents ∧
        site.embedded answer o files source = .error e := by
  induction sources with
  | nil => exact .inl ⟨[], .nil⟩
  | cons source sources ih =>
    cases hsource : site.embedded answer o files source with
    | error e => exact .inr ⟨[], source, sources, [], e, rfl, .nil, hsource⟩
    | ok result =>
      obtain ⟨content, report⟩ := result
      rcases ih with ⟨contents, hall⟩ | ⟨pre, source', post, contents, e, rfl, hpre, hfail⟩
      · exact .inl ⟨content :: contents, .cons ⟨report, hsource⟩ hall⟩
      · exact .inr ⟨source :: pre, source', post, content :: contents, e, rfl,
          .cons ⟨report, hsource⟩ hpre, hfail⟩

omit [DecidableEq κ] in
theorem Site.EmbedTo.exists_ok {o : Options} {files : κ → Option Bytes} {sources : List Path}
    {contents : List Text} (h : site.EmbedTo answer o files sources contents) :
    ∀ source ∈ sources, ∃ r, site.embedded answer o files source = .ok r := by
  induction h with
  | nil => simp
  | cons hone _ ih =>
    obtain ⟨report, hone⟩ := hone
    intro source hsource
    rcases List.mem_cons.mp hsource with rfl | hsource
    · exact ⟨_, hone⟩
    · exact ih source hsource

/-- **Printing and collecting produce the same bytes**, where the answers of commands are a function
    of the command, the directory and the files, the output takes everything, and the target can be
    written.

    * Both runs succeed exactly if every document embeds where the files are as they are in the
      beginning, even if the target is one of the documents or one of them embeds it.
    * Then the contents of the documents, one behind the other, are what is printed and what the
      target holds in the end.
    * If some document does not embed, then both runs end with the error of the first such one.  The
      contents of those before it have been printed, and no file has been touched. -/
theorem deliverAll_stdout_file (hshell : site.AnswersBy answer) (hprint : site.Prints printed)
    (o : Options) (target : Path)
    (hwritable : ∀ bytes files x,
      site.refusal (o.workingDir.join target) bytes files x = none)
    (sources : List Path) (w : World κ ω) :
    let out := runFrom (deliverAll site.host { o with mode := .stdout } sources) w
    let file := runFrom (deliverAll site.host { o with mode := .file target } sources) w
    let embeds := ∀ source ∈ sources, ∃ r, site.embedded answer o w.files source = .ok r
    ((∃ t, out.1 = .ok t) ↔ embeds) ∧ ((∃ t, file.1 = .ok t) ↔ embeds) ∧
      (embeds → ∃ contents, site.EmbedTo answer o w.files sources contents ∧
        printed out.2.rest = printed w.rest ++ Text.utf8 contents.flatten ∧
        out.2.files = w.files ∧
        file.2.files = Function.update w.files (site.name (o.workingDir.join target))
          (some (Text.utf8 contents.flatten))) ∧
      (¬ embeds → ∃ pre source post contents e, sources = pre ++ source :: post ∧
        site.EmbedTo answer o w.files pre contents ∧
        site.embedded answer o w.files source = .error e ∧
        out.1 = .error e ∧ file.1 = .error e ∧
        printed out.2.rest = printed w.rest ++ Text.utf8 contents.flatten ∧
        out.2.files = w.files ∧ file.2.files = w.files) := by
  intro out file embeds
  have hout := @runFrom_deliverAll _ site.host { o with mode := .stdout } (by simp) sources w
  change out = _ at hout
  have hfile := @runFrom_deliverAll_file _ site.host { o with mode := .file target } target rfl
    sources w
  change file = _ at hfile
  rcases site.embedTo_or_exists_first answer o w.files sources with
    ⟨contents, hall⟩ | ⟨pre, source, post, contents, e, rfl, hpre, hsource⟩
  · -- All documents embed, and the target is written behind them.
    obtain ⟨t₁, w₁, hw₁, hrun₁, hprinted⟩ :=
      deliverFrom_gathers hshell hprint o .stdout trivial .zero w hall
    obtain ⟨t₂, w₂, hw₂, hrun₂, -⟩ :=
      deliverFrom_gathers hshell hprint o (.file target) trivial .zero w hall
    have hwrite := runFrom_writeResult site (o.workingDir.join target)
      ((o.workingDir.join target).shownFrom o.workingDir) contents.flatten w₂
    rw [site.writeAt_of_refusal (hwritable _ _ _)] at hwrite
    rw [hrun₁] at hout
    rw [hrun₂] at hfile
    simp only [hwrite] at hfile
    have hembeds : embeds := hall.exists_ok
    refine ⟨iff_of_true ⟨t₁, by rw [hout]; rfl⟩ hembeds, iff_of_true ⟨_, by rw [hfile]⟩ hembeds,
      fun _ => ⟨contents, hall, ?_, ?_, ?_⟩, fun hnot => absurd hembeds hnot⟩
    · rw [hout]
      exact hprinted
    · rw [hout]
      exact hw₁.files
    · rw [hfile, ← hw₂.files]
      rfl
  · -- Both runs end with the error of the first document that does not embed.
    obtain ⟨w₁, hw₁, hrun₁, hprinted⟩ := deliverFrom_gathers_until hshell hprint o
      .stdout trivial post .zero w hpre hsource
    obtain ⟨w₂, hw₂, hrun₂, -⟩ := deliverFrom_gathers_until hshell hprint o
      (.file target) trivial post .zero w hpre hsource
    rw [hrun₁] at hout
    rw [hrun₂] at hfile
    have hnot : ¬ embeds := by
      intro hembeds
      obtain ⟨r, hr⟩ := hembeds source (by simp)
      rw [hsource] at hr
      cases hr
    refine ⟨iff_of_false ?_ hnot, iff_of_false ?_ hnot, fun hembeds => absurd hembeds hnot,
      fun _ => ⟨pre, source, post, contents, e, rfl, hpre, hsource, ?_⟩⟩
    · rintro ⟨t, ht⟩
      rw [hout] at ht
      cases ht
    · rintro ⟨t, ht⟩
      rw [hfile] at ht
      cases ht
    · rw [hout, hfile]
      exact ⟨rfl, rfl, hprinted, hw₁.files, hw₂.files⟩

/-- A world in which every command prints the same text, and the output is kept. -/
def Site.recording (t : Text) : Site Path Bytes where
  name := id
  unreadable _ := none
  shell _ _ _ x := (.ok ⟨Text.utf8 t, 0, true⟩, x)
  note _ x := x
  print bytes x := (.ok (), x ++ bytes)
  refusal _ _ _ _ := none

/-- Two documents, of which the first one embeds a line of the second. -/
def documentInDocument : World Path Bytes where
  files p :=
    if p = ⟨"/d/a.md".toList⟩ then some (Text.utf8 "```txt\n// b.md#L1-L2\n```\n".toList)
    else if p = ⟨"/d/b.md".toList⟩ then some (Text.utf8 "```sh\n# $ w\n```\n".toList)
    else none
  attempts := []
  rest := []

/-- The target is the second document, which both documents use as it was in the beginning. -/
theorem deliverAll_stdout_file_target :
    let site := Site.recording "x\n".toList
    let o := Options.inDir ⟨"/d".toList⟩
    let sources : List Path := [⟨"/d/a.md".toList⟩, ⟨"/d/b.md".toList⟩]
    let bytes := Text.utf8
      "```txt\n// b.md#L1-L2\n\n# $ w\n```\n```sh\n# $ w\n\nx\n```\n".toList
    (runFrom (deliverAll site.host { o with mode := .stdout } sources) documentInDocument).2.rest =
        bytes ∧
      (runFrom (deliverAll site.host { o with mode := .file ⟨"b.md".toList⟩ } sources)
        documentInDocument).2.files ⟨"/d/b.md".toList⟩ = some bytes := by
  intro site o sources bytes
  have hshell : site.AnswersBy fun _ _ _ => .ok ⟨Text.utf8 "x\n".toList, 0, true⟩ :=
    fun _ _ _ _ => rfl
  have hprint : site.Prints id :=
    ⟨fun _ _ => rfl, fun _ _ => rfl, fun _ _ _ _ => rfl, fun _ _ => rfl⟩
  have hok : (runFrom (deliverAll site.host { o with mode := .stdout } sources)
      documentInDocument).1 = .ok ⟨2, 2, 0⟩ := by
    decide +kernel
  have hbytes : (runFrom (deliverAll site.host { o with mode := .stdout } sources)
      documentInDocument).2.rest = bytes := by
    decide +kernel
  obtain ⟨hout, -, hall, -⟩ := deliverAll_stdout_file hshell hprint o ⟨"b.md".toList⟩
    (fun _ _ _ => rfl) sources documentInDocument
  obtain ⟨contents, -, hprinted, -, hfiles⟩ := hall (hout.mp ⟨_, hok⟩)
  have hsame : Text.utf8 contents.flatten = bytes := hprinted.symm.trans hbytes
  refine ⟨hbytes, ?_⟩
  rw [hfiles, hsame]
  decide +kernel

end FenceSync
