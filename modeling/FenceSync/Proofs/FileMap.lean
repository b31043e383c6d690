import FenceSync.Memory
import FenceSync.Proofs.Coupling
import FenceSync.Proofs.Running
import Mathlib.Logic.Function.Basic

namespace FenceSync

/-!
# Files as a map

Runs over documents in a world in which files are a map from names to bytes, writing replaces the
whole content of a file or fails, and commands have no effect on files.

* `Site` is what such a world leaves open: which path leads to which file, what commands answer,
  and which writes fail.  `World` is its state, with a record of all attempts to write.
* `Site.host` is the host that a run works with.
* `embedSource_unwritten` says that embedding a document writes nothing, whatever commands answer.
* `embedSource_eq` says that it is a function of the files if the answers of commands are.
-/

/-! ### Worlds -/

/-- The state of a world; `rest` is all of it that is neither a file nor an attempt to write. -/
structure World (κ ω : Type) where
  files : κ → Option Bytes
  /-- Every attempt to write, successful or not. -/
  attempts : List (Path × Bytes)
  rest : ω

/-- What is known of a world apart from its state. -/
structure Site (κ ω : Type) where
  /-- The file that a path leads to; several paths may lead to the same one. -/
  name : Path → κ
  /-- Why a file that is there cannot be read. -/
  unreadable : Path → Option FileError
  /-- The answer to a command in a directory. -/
  shell : Text → Path → (κ → Option Bytes) → ω → Answer × ω
  /-- Take note of a message. -/
  note : LogEntry → ω → ω
  print : Bytes → ω → Except FileError Unit × ω
  /-- Why a write fails. -/
  refusal : Path → Bytes → (κ → Option Bytes) → ω → Option FileError

namespace Site

variable {κ ω : Type} (site : Site κ ω)

/-- What is read at a path. -/
def readAt (files : κ → Option Bytes) (p : Path) : Except FileError Bytes :=
  match files (site.name p), site.unreadable p with
  | none, _ => .error .notFound
  | some _, some e => .error e
  | some bytes, none => .ok bytes

/-- Attempt to write a file: its content is replaced, or nothing happens to it. -/
def writeAt [DecidableEq κ] (p : Path) (bytes : Bytes) (w : World κ ω) :
    Except FileError Unit × World κ ω :=
  let attempted := { w with attempts := w.attempts ++ [(p, bytes)] }
  match site.refusal p bytes w.files w.rest with
  | some e => (.error e, attempted)
  | none =>
    (.ok (), { attempted with files := Function.update w.files (site.name p) (some bytes) })

/-- The host of a run.  There are no directories to look through. -/
def host [DecidableEq κ] : Host (StateM (World κ ω)) where
  isFile p := fun w => ((w.files (site.name p)).isSome, w)
  read p := fun w => (site.readAt w.files p, w)
  run line dir := fun w =>
    let r := site.shell line dir w.files w.rest
    (r.1, { w with rest := r.2 })
  log entry := fun w => ((), { w with rest := site.note entry w.rest })
  write p bytes := fun w => site.writeAt p bytes w
  print bytes := fun w =>
    let r := site.print bytes w.rest
    (r.1, { w with rest := r.2 })
  isDir _ := pure false
  walk _ := pure (.ok [])

end Site

/-! ### Nothing written -/

/-- Nothing was written on the way from `w` to `w'`. -/
structure World.Unwritten {κ ω : Type} (w w' : World κ ω) : Prop where
  files : w'.files = w.files
  attempts : w'.attempts = w.attempts

namespace World.Unwritten

variable {κ ω : Type} {w w' w'' : World κ ω}

theorem refl (w : World κ ω) : w.Unwritten w := ⟨rfl, rfl⟩

theorem trans (h : w.Unwritten w') (h' : w'.Unwritten w'') : w.Unwritten w'' :=
  ⟨h'.files.trans h.files, h'.attempts.trans h.attempts⟩

theorem prefix_attempts (h : w.Unwritten w') : w.attempts <+: w'.attempts :=
  ⟨[], by rw [List.append_nil, h.attempts]⟩

end World.Unwritten

section
variable {κ ω : Type} [DecidableEq κ] (site : Site κ ω)

/-- Computations that write nothing, each compared with itself. -/
def Site.unwriting (κ ω : Type) : Coupling (StateM (World κ ω)) (StateM (World κ ω)) where
  Rel x _ := ∀ w : World κ ω, w.Unwritten (x.run w).2
  rel_pure _ w := .refl w
  rel_bind h hf w := (h w).trans (hf _ _)

theorem Site.unwriting_envs :
    (Site.unwriting κ ω).Envs site.host.toSurroundings site.host.toSurroundings where
  isFile _ w := .refl w
  read _ w := .refl w
  run _ _ _ := ⟨rfl, rfl⟩
  log _ _ _ := ⟨rfl, rfl⟩

/-- **Embedding a document writes nothing**, whatever the commands answer. -/
theorem embedSource_unwritten (o : Options) (source : Path) (w : World κ ω) :
    w.Unwritten (runFrom (embedSource site.host.toSurroundings o source) w).2 :=
  embedSource_coupled site.unwriting_envs o o.mode source w

/-! ### Commands that are functions -/

/-- The answers of commands are a function of the command, the directory and the files. -/
def Site.AnswersBy (answer : Text → Path → (κ → Option Bytes) → Answer) : Prop :=
  ∀ line dir files x, (site.shell line dir files x).1 = answer line dir files

variable {site}

/-- Surroundings in which the files stay as they are. -/
def Site.frozen (site : Site κ ω) (answer : Text → Path → (κ → Option Bytes) → Answer)
    (files : κ → Option Bytes) : Surroundings Id where
  isFile p := (files (site.name p)).isSome
  read p := site.readAt files p
  run line dir := answer line dir files
  log _ := ()

/-- Computations that have a given result and write nothing where the files are as given. -/
def Site.computing (ω : Type) (files : κ → Option Bytes) : Coupling (StateM (World κ ω)) Id where
  Rel x y := ∀ w : World κ ω, w.files = files → (x.run w).1 = y.run ∧ w.Unwritten (x.run w).2
  rel_pure _ w _ := ⟨rfl, .refl w⟩
  rel_bind := by
    intro α β x y f g h hf w hw
    obtain ⟨hresult, hkept⟩ := h w hw
    obtain ⟨hresult', hkept'⟩ := hf (x.run w).1 (x.run w).2 (hkept.files.trans hw)
    refine ⟨?_, hkept.trans hkept'⟩
    show ((f (x.run w).1).run (x.run w).2).1 = (g y.run).run
    rw [← hresult]
    exact hresult'

theorem Site.computing_envs {answer : Text → Path → (κ → Option Bytes) → Answer}
    (hshell : site.AnswersBy answer) (files : κ → Option Bytes) :
    (Site.computing ω files).Envs site.host.toSurroundings (site.frozen answer files) where
  isFile _ w hw := ⟨by rw [← hw]; rfl, .refl w⟩
  read _ w hw := ⟨by rw [← hw]; rfl, .refl w⟩
  run line dir w hw := by
    refine ⟨?_, rfl, rfl⟩
    show (site.shell line dir w.files w.rest).1 = answer line dir files
    rw [← hw]
    exact hshell line dir w.files w.rest
  log _ _ w _ := ⟨rfl, rfl, rfl⟩

/-- **Embedding a document is a function of the files**, if the answers of commands are, and the
    output mode does not matter. -/
theorem embedSource_eq {answer : Text → Path → (κ → Option Bytes) → Answer}
    (hshell : site.AnswersBy answer) (o : Options) (mode : OutputMode) (source : Path)
    (w : World κ ω) :
    ∃ w', runFrom (embedSource site.host.toSurroundings { o with mode := mode } source) w =
        ((embedSource (site.frozen answer w.files) o source).run.run, w') ∧ w.Unwritten w' := by
  have h := embedSource_coupled (site.computing_envs hshell w.files) { o with mode := mode } o.mode
    source w rfl
  exact ⟨_, Prod.ext h.1 rfl, h.2⟩

end

end FenceSync
