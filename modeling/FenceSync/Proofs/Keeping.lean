import FenceSync.CommandLine.Run
import FenceSync.Proofs.Coupling
import FenceSync.Proofs.Runs
import Mathlib.Logic.Function.Basic

namespace FenceSync

/-!
# Runs that keep the files

What a run does to the files, wherever files are a map and only writing touches it.  The rest of the
state and all answers are left open.

* `Keeps` says that a computation leaves the files as they are, and `keeping` that sequences of such
  computations do.
* `Host.HoldsFiles` is such a place.  There a run over documents keeps the files unless it writes
  documents back, or another file: `deliverAll_keeps`, `deliverAll_target`.
-/

variable {σ κ : Type} {files : σ → κ → Option Bytes}

/-! ### Keeping files -/

/-- The computation leaves the files as they are. -/
def Keeps {α : Type} (files : σ → κ → Option Bytes) (x : StateM σ α) : Prop :=
  ∀ s, files (x.run s).2 = files s

namespace Keeps

variable {α β : Type}

theorem pure (a : α) : Keeps files (Pure.pure a : StateM σ α) := fun _ => rfl

theorem bind {x : StateM σ α} {f : α → StateM σ β} (h : Keeps files x)
    (hf : ∀ a, Keeps files (f a)) : Keeps files (x >>= f) :=
  fun s => (hf _ _).trans (h s)

/-- A loop keeps the files if its steps do. -/
theorem forIn {l : List α} {b : β} {step : α → β → StateM σ (ForInStep β)}
    (h : ∀ a b, Keeps files (step a b)) : Keeps files (ForIn.forIn l b step) := by
  induction l generalizing b with
  | nil => exact .pure b
  | cons a l ih =>
    rw [List.forIn_cons]
    refine (h a b).bind fun r => ?_
    cases r with
    | done b => exact .pure b
    | yield b => exact ih

end Keeps

/-- Computations that keep the files, each compared with itself. -/
def keeping (files : σ → κ → Option Bytes) : Coupling (StateM σ) (StateM σ) where
  Rel x _ := Keeps files x
  rel_pure := Keeps.pure
  rel_bind := Keeps.bind

/-- The same of a computation that may fail. -/
def KeepsE {ε α : Type} (files : σ → κ → Option Bytes) (x : ExceptT ε (StateM σ) α) : Prop :=
  (keeping files).RelE x x

namespace KeepsE

variable {ε ε' α β : Type} {x : ExceptT ε (StateM σ) α} {f : α → ExceptT ε (StateM σ) β}

theorem pure (a : α) : KeepsE files (Pure.pure a : ExceptT ε (StateM σ) α) :=
  (keeping files).relE_pure a

theorem throw (e : ε) : KeepsE files (MonadExcept.throw e : ExceptT ε (StateM σ) α) :=
  (keeping files).relE_throw e

theorem bind (h : KeepsE files x) (hf : ∀ a, KeepsE files (f a)) : KeepsE files (x >>= f) :=
  (keeping files).relE_bind h hf

theorem lift {x : StateM σ α} (h : Keeps files x) :
    KeepsE files (liftM x : ExceptT ε (StateM σ) α) :=
  (keeping files).relE_lift (y := x) h

theorem adapt (h : KeepsE files x) (g : ε → ε') : KeepsE files (x.adapt g) := by
  intro s
  exact h s

/-- A loop keeps the files if its steps do. -/
theorem forIn {l : List α} {b : β} {step : α → β → ExceptT ε (StateM σ) (ForInStep β)}
    (h : ∀ a b, KeepsE files (step a b)) : KeepsE files (ForIn.forIn l b step) := by
  induction l generalizing b with
  | nil => exact .pure b
  | cons a l ih =>
    rw [List.forIn_cons]
    refine (h a b).bind fun r => ?_
    cases r with
    | done b => exact .pure b
    | yield b => exact ih

theorem files_eq (h : KeepsE files x) (s : σ) : files (runFrom x s).2 = files s := h s

/-- A computation that keeps the files either ends a sequence with an error, or the sequence goes on
    behind it; the files are as they were. -/
theorem bind_cases (h : KeepsE files x) (f : α → ExceptT ε (StateM σ) β) (s : σ) :
    (∃ e s', runFrom (x >>= f) s = (.error e, s') ∧ files s' = files s) ∨
      ∃ a s', runFrom x s = (.ok a, s') ∧ files s' = files s ∧
        runFrom (x >>= f) s = runFrom (f a) s' := by
  have hkept := h.files_eq s
  rw [runFrom_bind]
  rcases hx : runFrom x s with ⟨e | a, s'⟩ <;> rw [hx] at hkept
  · exact .inl ⟨e, s', rfl, hkept⟩
  · exact .inr ⟨a, s', rfl, hkept, rfl⟩

end KeepsE

/-! ### Hosts with files -/

/-- The files of the host are a map: writing replaces the content of one of them or fails, and
    nothing else touches any. -/
structure Host.HoldsFiles (host : Host (StateM σ)) (files : σ → κ → Option Bytes)
    (name : Path → κ) [DecidableEq κ] : Prop where
  isFile : ∀ p, Keeps files (host.isFile p)
  read : ∀ p, Keeps files (host.read p)
  run : ∀ line dir, Keeps files (host.run line dir)
  log : ∀ entry, Keeps files (host.log entry)
  print : ∀ bytes, Keeps files (host.print bytes)
  isDir : ∀ p, Keeps files (host.isDir p)
  walk : ∀ p, Keeps files (host.walk p)
  write : ∀ p bytes s,
    (∃ e, ((host.write p bytes).run s).1 = .error e ∧
        files ((host.write p bytes).run s).2 = files s) ∨
      ((host.write p bytes).run s).1 = .ok () ∧
        files ((host.write p bytes).run s).2 = Function.update (files s) (name p) (some bytes)

variable [DecidableEq κ] {name : Path → κ} {host : Host (StateM σ)} {o : Options}
  (h : host.HoldsFiles files name)
include h

theorem Host.HoldsFiles.envs : (keeping files).Envs host.toSurroundings host.toSurroundings where
  isFile := h.isFile
  read := h.read
  run := h.run
  log entry _ := h.log entry

/-- The log may go elsewhere. -/
theorem Host.HoldsFiles.withLog {log : LogEntry → StateM σ Unit}
    (hlog : ∀ entry, Keeps files (log entry)) :
    Host.HoldsFiles { host with log := log } files name :=
  { h with log := hlog }

/-! ### Runs over documents -/

/-- Only in write mode a result is written to its source. -/
theorem deliver_keeps (hmode : o.mode ≠ .write) (source : Path) (content : Text)
    (r : SourceReport) : KeepsE files (deliver host o source content r) := by
  have hsay : ∀ text, KeepsE files
      (liftM (logProgress host.toSurroundings text) : ExceptT DeliveryError (StateM σ) Unit) :=
    fun text => .lift (h.log _)
  unfold deliver
  cases hm : o.mode with
  | write => exact absurd hm hmode
  | file target => exact .pure false
  | stdout =>
    refine (KeepsE.lift (h.print _)).bind fun printed => ?_
    cases printed with
    | error e => exact .throw _
    | ok _ => exact .pure false
  | verify =>
    cases r.changed with
    | true => exact .bind (.throw _) fun _ => .bind (hsay _) fun _ => .pure false
    | false => exact .bind (hsay _) fun _ => .pure false
  | dryRun =>
    cases r.changed with
    | true => exact .bind (hsay _) fun _ => .pure false
    | false => exact .bind (hsay _) fun _ => .pure false

/-- Without write mode a document keeps the files, whether it fails or not. -/
theorem deliverOne_keeps (hmode : o.mode ≠ .write) (t : Totals) (source : Path) :
    KeepsE files (deliverOne host o t source) := by
  intro s
  show files (runFrom (deliverOne host o t source) s).2 = files s
  have hseparated : files (separated host t s) = files s := by
    unfold separated
    split
    · exact h.log _ s
    · rfl
  have hembed : KeepsE files (embedSource host.toSurroundings o source) :=
    embedSource_coupled h.envs o o.mode source
  have hfirst := (hembed.files_eq (separated host t s)).trans hseparated
  rw [runFrom_deliverOne]
  rcases hrun : runFrom (embedSource host.toSurroundings o source) (separated host t s) with
    ⟨e | ⟨content, report⟩, s₁⟩ <;> rw [hrun] at hfirst
  · exact hfirst
  · have hdeliver := (deliver_keeps h hmode source content report).files_eq s₁
    simp only
    rcases hrun' : runFrom (deliver host o source content report) s₁ with ⟨e | wasWritten, s₂⟩ <;>
      rw [hrun'] at hdeliver <;> exact hdeliver.trans hfirst

/-- Without write mode no document is written. -/
theorem deliverFrom_keeps (hmode : o.mode ≠ .write) (t : Totals) (sources : List Path) :
    KeepsE files (deliverFrom host o t sources) := by
  intro s
  refine deliverFrom_rel (R := fun s s' => files s' = files s) (fun _ => rfl) ?_ ?_ t s
  · intro s₁ s₂ s₃ h₁ h₂
    exact h₂.trans h₁
  · intro source _ t s
    exact (deliverOne_keeps h hmode t source).files_eq s

/-- **Without write mode and without a target file a run keeps the files.** -/
theorem deliverAll_keeps (hwrite : o.mode ≠ .write) (hfile : ∀ target, o.mode ≠ .file target)
    (sources : List Path) : KeepsE files (deliverAll host o sources) := by
  refine .bind (deliverFrom_keeps h hwrite .zero sources) fun (total, results) => ?_
  cases hm : o.mode with
  | file target => exact absurd hm (hfile target)
  | _ => exact .pure _

/-- A result is written behind a message, or the write fails and nothing has happened. -/
theorem writeResult_cases (p shown : Path) (content : Text) (s : σ) :
    (∃ e s', runFrom (writeResult host p shown content) s = (.error e, s') ∧
        files s' = files s) ∨
      ∃ s', runFrom (writeResult host p shown content) s = (.ok (), s') ∧
        files s' = Function.update (files s) (name p) (some (Text.utf8 content)) := by
  have hsay : KeepsE files (liftM (logProgress host.toSurroundings
      s!"Writing {shown.toString} with embedded changes.") :
        ExceptT DeliveryError (StateM σ) Unit) := .lift (h.log _)
  rw [writeResult]
  rcases hsay.bind_cases _ s with ⟨e, s₁, hrun, hs₁⟩ | ⟨_, s₁, -, hs₁, hrun⟩ <;> rw [hrun]
  · exact .inl ⟨e, s₁, rfl, hs₁⟩
  · have hwrite := h.write p (Text.utf8 content) s₁
    rw [runFrom_bind, runFrom_lift, ← hs₁]
    simp only
    rcases hr : (host.write p (Text.utf8 content)).run s₁ with ⟨e | u, s₂⟩ <;> rw [hr] at hwrite
    · rcases hwrite with ⟨_, -, hs₂⟩ | ⟨herror, -⟩
      · exact .inl ⟨_, s₂, rfl, hs₂⟩
      · cases herror
    · rcases hwrite with ⟨_, hok, -⟩ | ⟨-, hs₂⟩
      · cases hok
      · exact .inr ⟨s₂, rfl, hs₂⟩

/-- **With a target file a run keeps the files if it fails**, and changes no file but that one. -/
theorem deliverAll_target {target : Path} (hmode : o.mode = .file target) (sources : List Path)
    (s : σ) :
    (∃ e s', runFrom (deliverAll host o sources) s = (.error e, s') ∧ files s' = files s) ∨
      ∃ t s' content, runFrom (deliverAll host o sources) s = (.ok t, s') ∧
        files s' = Function.update (files s) (name (o.workingDir.join target)) (some content) := by
  have hwrite : o.mode ≠ .write := by
    rw [hmode]
    simp
  have hfrom := (deliverFrom_keeps h hwrite .zero sources).files_eq s
  rw [runFrom_deliverAll_file hmode]
  rcases hrun : runFrom (deliverFrom host o .zero sources) s with ⟨e | ⟨t, results⟩, s₁⟩ <;>
    rw [hrun] at hfrom
  · exact .inl ⟨e, s₁, rfl, hfrom⟩
  · simp only
    rcases writeResult_cases h (o.workingDir.join target)
      ((o.workingDir.join target).shownFrom o.workingDir) results s₁ with
      ⟨e, s₂, hresult, hs₂⟩ | ⟨s₂, hresult, hs₂⟩ <;> rw [hresult]
    · exact .inl ⟨e, s₂, rfl, hs₂.trans hfrom⟩
    · exact .inr ⟨_, s₂, _, rfl, hs₂.trans (by rw [hfrom])⟩

end FenceSync
