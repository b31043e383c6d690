import FenceSync.Proofs.Agreement
import FenceSync.Proofs.CarryingOut
import FenceSync.Proofs.Switches

namespace FenceSync

/-!
# Dry runs

What a run with `--dry-run` does to the files.

* `CommandLine.Given.mode_of_dryRun` says which modes the option leaves: a target file goes before
  a dry run.
* `CommandLine.run_dryRun` is the full statement, for every command line with the option: no file
  changes but the target that is named by `--output`.
* `CommandLine.run_dryRun_changes_target` is a dry run that writes one.
-/

namespace CommandLine

/-- The option. -/
def dryRunOption : Text := "--dry-run".toList

/-- In a dry run documents are not written; but there may be a target file, unless the documents are
    verified or printed. -/
theorem Given.mode_of_dryRun {g : Given} (h : g.isOn .dryRun = true) :
    g.mode = .verify ∨ g.mode = .stdout ∨ g.mode = .dryRun ∨
      ∃ target, g.mode = .file ⟨target⟩ ∧ g.isOn .verify = false ∧ g.isOn .stdout = false ∧
        g.value? .output = some target := by
  unfold Given.mode
  cases hverify : g.isOn .verify with
  | true => exact .inl rfl
  | false =>
    cases hstdout : g.isOn .stdout with
    | true => exact .inr (.inl rfl)
    | false =>
      cases houtput : g.value? .output with
      | some target => exact .inr (.inr (.inr ⟨target, rfl, rfl, rfl, rfl⟩))
      | none =>
        rw [h]
        exact .inr (.inr (.inl rfl))

variable {σ κ : Type} [DecidableEq κ] {files : σ → κ → Option Bytes} {name : Path → κ}
  {c : Console (StateM σ)}

/-- A run over documents in a mode in which nothing is written keeps the files. -/
theorem LeftByDelivery.keeps {mode : OutputMode} {dirs : Path → Prop} {s s' : σ} {done : Bool}
    (h : LeftByDelivery files name mode dirs s s' done) (hwrite : mode ≠ .write)
    (hfile : ∀ target, mode ≠ .file target) : files s' = files s := by
  obtain ⟨host, o, sources, s₁, hhost, rfl, -, hs₁, hs', -⟩ := h
  rw [hs', (deliverAll_keeps hhost hwrite hfile sources).files_eq, hs₁]

/-- With a target file it keeps them too, or it succeeds and changes that file only. -/
theorem LeftByDelivery.target {target : Path} {dirs : Path → Prop} {s s' : σ} {done : Bool}
    (h : LeftByDelivery files name (.file target) dirs s s' done) :
    files s' = files s ∨
      done = true ∧ ∃ dir content, dirs dir ∧
        files s' = Function.update (files s) (name (dir.join target)) (some content) := by
  obtain ⟨host, o, sources, s₁, hhost, hmode, hdir, hs₁, hs', hdone⟩ := h
  rcases deliverAll_target hhost hmode sources s₁ with
    ⟨e, s₂, hrun, hs₂⟩ | ⟨t, s₂, content, hrun, hs₂⟩ <;> rw [hrun] at hs' hdone
  · exact .inl (hs'.trans (hs₂.trans hs₁))
  · refine .inr ⟨hdone, o.workingDir, content, hdir, ?_⟩
    rw [hs', hs₂, hs₁]

/-- **What a dry run may change.**  Whatever else is on the command line, in the environment and in
    the settings, a run with `--dry-run` among its options leaves every file as it was; or there is
    a target file, the documents are neither verified nor printed, the run succeeds, and the target
    is the only file that has changed. -/
theorem run_dryRun (hc : c.HoldsFiles files name) {args : List Text}
    (hdry : AmongOptions dryRunOption args) (s : σ) :
    files ((run c args).run s).2 = files s ∨
      ∃ g target dir content, request c.env args = .ok (.run g) ∧ g.value? .output = some target ∧
        g.isOn .verify = false ∧ g.isOn .stdout = false ∧ g.WorksIn c dir ∧
        ((run c args).run s).1 = 0 ∧
        files ((run c args).run s).2 =
          Function.update (files s) (name (dir.join ⟨target⟩)) (some content) := by
  rcases run_files hc args s with hkept | ⟨g, hg, hleft⟩
  · exact .inl hkept
  · have hspelled : AmongOptions ('-' :: '-' :: "dry-run".toList) args := hdry
    have hon : g.isOn .dryRun = true := isOn_of_request (by decide) (by decide) hspelled hg
    rcases g.mode_of_dryRun hon with hm | hm | hm | ⟨target, hm, hverify, hstdout, houtput⟩
    · exact .inl (hleft.keeps (by simp [hm]) (by simp [hm]))
    · exact .inl (hleft.keeps (by simp [hm]) (by simp [hm]))
    · exact .inl (hleft.keeps (by simp [hm]) (by simp [hm]))
    · rw [hm] at hleft
      rcases hleft.target with hkept | ⟨hdone, dir, content, hdir, hs⟩
      · exact .inl hkept
      · exact .inr ⟨g, target, dir, content, hg, houtput, hverify, hstdout, hdir,
          of_decide_eq_true hdone, hs⟩

end CommandLine

/-! ### Runs in a world of files -/

/-- A console in a directory of a site, without anything in the environment. -/
def Site.console {κ ω : Type} [DecidableEq κ] (site : Site κ ω) (dir : Path) :
    CommandLine.Console (StateM (World κ ω)) where
  host _ := { site.host with isDir := fun _ => pure true }
  complain _ := pure ()
  currentDir := pure (.ok dir)
  elapsed := pure 0
  env _ := none

theorem Site.console_holdsFiles {κ ω : Type} [DecidableEq κ] (site : Site κ ω) (dir : Path) :
    (site.console dir).HoldsFiles World.files site.name where
  host _ := {
    isFile := fun _ _ => rfl
    read := fun _ _ => rfl
    run := fun _ _ _ => rfl
    log := fun _ _ => rfl
    print := fun _ _ => rfl
    isDir := fun _ _ => rfl
    walk := fun _ _ => rfl
    write := by
      intro p bytes w
      show (∃ e, (site.writeAt p bytes w).1 = .error e ∧ (site.writeAt p bytes w).2.files =
        w.files) ∨ (site.writeAt p bytes w).1 = .ok () ∧ (site.writeAt p bytes w).2.files =
          Function.update w.files (site.name p) (some bytes)
      rcases site.writeAt_cases p bytes w with ⟨e, hwrite⟩ | hwrite <;> rw [hwrite]
      · exact .inl ⟨e, rfl, rfl⟩
      · exact .inr ⟨rfl, rfl⟩ }
  complain _ _ := rfl
  currentDir _ := rfl
  elapsed _ := rfl

namespace CommandLine

/-- A dry run over a document that would change. -/
theorem run_dryRun_one_document :
    let c := (Site.echoing "x\n".toList).console ⟨"/d".toList⟩
    let args := [dryRunOption, "b.md".toList]
    AmongOptions dryRunOption args ∧ ((run c args).run twoDocuments).1 = 0 ∧
      ((run c args).run twoDocuments).2.files = twoDocuments.files := by
  intro c args
  have hdry : AmongOptions dryRunOption args := by decide
  refine ⟨hdry, by decide +kernel, ?_⟩
  rcases run_dryRun (Site.console_holdsFiles _ _) hdry twoDocuments with
    hkept | ⟨g, target, dir, content, hg, houtput, -⟩
  · exact hkept
  · -- There is no target on this command line.
    have hnone : request c.env args =
        .ok (.run ⟨[(.dryRun, true)], [], [], ["b.md".toList]⟩) := by rfl
    rw [hnone] at hg
    cases hg
    cases houtput

/-- The option, a target, and a document. -/
def targetArguments : List Text :=
  [dryRunOption, "-o".toList, "out.md".toList, "b.md".toList]

/-- A dry run with a target succeeds, and the target is there then. -/
theorem run_dryRun_changes_target :
    let c := (Site.echoing "x\n".toList).console ⟨"/d".toList⟩
    AmongOptions dryRunOption targetArguments ∧
      ((run c targetArguments).run twoDocuments).1 = 0 ∧
      twoDocuments.files ⟨"/d/out.md".toList⟩ = none ∧
      ((run c targetArguments).run twoDocuments).2.files ⟨"/d/out.md".toList⟩ =
        some (Text.utf8 "```sh\n# $ w\n\nx\n```\n".toList) := by
  decide +kernel

end CommandLine

end FenceSync
